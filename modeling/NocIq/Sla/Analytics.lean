import NocIq.Lib.Rounding
import NocIq.Lib.Window
import NocIq.Sla.Repository

/-!
# NocIq — the SLA aggregations

`aggregate_performance` and `aggregate_dashboard_kpis` of `app/repositories/sla_repository.py`.
Database averages and sums are exact rationals; the rounding of the source is decimal, ties to
even.

* **`performanceRows_eq`** — on a well-formed database, without filters, the window query counts
  of each outage the row with the latest `created_at`, and among those the largest `id`.
* **`aggregatePerformance_eq_ok` / `aggregateDashboardKpis_eq_ok`** — when an aggregation returns,
  and what.
-/

namespace NocIq

open Relational Rounding

/-! ## The aggregated models -/

structure SLAPerformanceAggregation where
  totalOutages : Nat
  violationRate : ℚ
  avgMttr : ℚ
  payoutSum : ℚ
  deriving DecidableEq, Repr

structure SLADashboardKPI where
  totalOutages : Nat
  totalViolations : Nat
  totalRewards : ℚ
  totalPenalties : ℚ
  netPayout : ℚ
  deriving DecidableEq, Repr

/-- The fields of a model that miss their declared bound make its construction raise. -/
def validated {α : Type} (value : α) (failed : List (String × Bool)) : Except Exc α :=
  match failed.filter (·.2) with
  | [] => .ok value
  | fields => .error (.validationError (fields.map (·.1)))

def SLAPerformanceAggregation.validate (a : SLAPerformanceAggregation) :
    Except Exc SLAPerformanceAggregation :=
  validated a [("violation_rate", decide (¬ (0 ≤ a.violationRate ∧ a.violationRate ≤ 1))),
    ("avg_mttr", decide (¬ 0 ≤ a.avgMttr))]

def SLADashboardKPI.validate (k : SLADashboardKPI) : Except Exc SLADashboardKPI :=
  validated k [("total_rewards", decide (¬ 0 ≤ k.totalRewards)),
    ("total_penalties", decide (¬ 0 ≤ k.totalPenalties))]

/-! ## Filters -/

/-- The optional filters of `aggregate_performance`. -/
structure Filters where
  startDate : Option Time := none
  endDate : Option Time := none
  severity : Option String := none
  siteId : Option String := none

/-- `if severity: … where(severity == …)`: a missing and an empty filter let everything pass. -/
def passesText (filter : Option String) (value : Option String) : Bool :=
  match filter with
  | none => true
  | some text => decide (text = "") || decide (value = some text)

def passesStart (startDate : Option Time) (r : SLAResultORM) : Bool :=
  startDate.all fun t => decide (t ≤ r.createdAt)

def passesEnd (endDate : Option Time) (r : SLAResultORM) : Bool :=
  endDate.all fun t => decide (r.createdAt ≤ t)

/-- `sla_results JOIN outages ON outages.id = sla_results.outage_id`. -/
def joinOutage (db : Db) : List (SLAResultORM × OutageRow) :=
  db.slaResults.flatMap fun r =>
    (db.outages.filter fun o => decide (o.id = r.outageId)).map fun o => (r, o)

def passesOutage (severity siteId : Option String) (o : OutageRow) : Bool :=
  passesText severity (some o.severity) && passesText siteId o.siteId

/-! ## `aggregate_performance` -/

/-- `order_by(created_at.desc(), id.desc())`. -/
def before (a b : SLAResultORM) : Bool :=
  decide (b.createdAt < a.createdAt ∨ (b.createdAt = a.createdAt ∧ b.id < a.id))

def candidateRows (filters : Filters) (db : Db) : List SLAResultORM :=
  ((joinOutage db).filter fun ro =>
    passesStart filters.startDate ro.1 && passesEnd filters.endDate ro.1 &&
      passesOutage filters.severity filters.siteId ro.2).map (·.1)

/-- The rows with `rn == 1`. -/
def performanceRows (filters : Filters) (db : Db) : List SLAResultORM :=
  Window.firsts (·.outageId) before (candidateRows filters db)

def countViolations (rows : List SLAResultORM) : Nat :=
  (rows.filter fun r => decide (r.status = .violated)).length

def avgMttr (rows : List SLAResultORM) : ℚ :=
  if rows.length = 0 then 0 else ((rows.map (·.mttrMinutes)).sum : ℤ) / rows.length

def performanceOf (rows : List SLAResultORM) : SLAPerformanceAggregation :=
  let totalOutages := rows.length
  let totalViolations := countViolations rows
  let violationRate : ℚ := if totalOutages = 0 then 0 else (totalViolations : ℚ) / totalOutages
  { totalOutages
    violationRate := roundTo 4 violationRate
    avgMttr := roundTo 2 (avgMttr rows)
    payoutSum := roundTo 2 ((rows.map (·.amount)).sum : ℤ) }

def aggregatePerformance (filters : Filters) (db : Db) : Except Exc SLAPerformanceAggregation :=
  (performanceOf (performanceRows filters db)).validate

/-! ## `aggregate_dashboard_kpis` -/

/-- Without a filter the outages are not joined at all. -/
def kpiRows (severity siteId : Option String) (db : Db) : List SLAResultORM :=
  let given (filter : Option String) : Bool := filter.any fun text => decide (text ≠ "")
  if given severity || given siteId then
    ((joinOutage db).filter fun ro => passesOutage severity siteId ro.2).map (·.1)
  else db.slaResults

def sumRewards (rows : List SLAResultORM) : ℤ :=
  (rows.map fun r => if r.paymentType = .reward then r.amount else 0).sum

def sumPenalties (rows : List SLAResultORM) : ℤ :=
  (rows.map fun r => if r.paymentType = .penalty then |r.amount| else 0).sum

def dashboardOf (rows : List SLAResultORM) : SLADashboardKPI :=
  let totalRewards := roundTo 2 (sumRewards rows)
  let totalPenalties := roundTo 2 (sumPenalties rows)
  { totalOutages := rows.length
    totalViolations := countViolations rows
    totalRewards
    totalPenalties
    netPayout := roundTo 2 (totalRewards - totalPenalties) }

def aggregateDashboardKpis (severity siteId : Option String) (db : Db) :
    Except Exc SLADashboardKPI :=
  (dashboardOf (kpiRows severity siteId db)).validate

/-! ## The rows that are counted -/

variable {db : Db}

theorem joinOutage_rows (h : db.WellFormed) : (joinOutage db).map (·.1) = db.slaResults := by
  unfold joinOutage
  rw [List.map_flatMap]
  conv_rhs => rw [← List.flatMap_singleton' db.slaResults]
  apply List.flatMap_congr
  intro r hr
  rw [List.map_map, show ((fun ro : SLAResultORM × OutageRow => ro.1) ∘ fun o => (r, o))
    = Function.const _ r from rfl, List.map_const]
  have hle : (db.outages.filter fun o => decide (o.id = r.outageId)).length ≤ 1 := by
    have := filter_key_length_le_one h.sla.outagesPkey r.outageId
    simpa using this
  have hpos : 0 < (db.outages.filter fun o => decide (o.id = r.outageId)).length := by
    obtain ⟨o, ho, hid⟩ := List.mem_map.mp (h.sla.outageFkey r hr)
    exact List.length_pos_of_mem (List.mem_filter.mpr ⟨ho, by simpa using hid⟩)
  rw [Nat.le_antisymm hle hpos]
  rfl

theorem candidateRows_eq (h : db.WellFormed) : candidateRows {} db = db.slaResults := by
  have hall : (joinOutage db).filter (fun ro => passesStart none ro.1 && passesEnd none ro.1 &&
      passesOutage none none ro.2) = joinOutage db := by
    apply List.filter_eq_self.mpr
    intro ro _
    rfl
  unfold candidateRows
  rw [hall, joinOutage_rows h]

theorem performanceRows_eq (h : db.WellFormed) :
    performanceRows {} db = Window.firsts (·.outageId) before db.slaResults := by
  unfold performanceRows
  rw [candidateRows_eq h]

theorem before_eq_false_iff {a b : SLAResultORM} :
    before a b = false ↔
      a.createdAt < b.createdAt ∨ (a.createdAt = b.createdAt ∧ a.id ≤ b.id) := by
  unfold before
  rw [decide_eq_false_iff_not, not_or, not_and, not_lt, not_lt, le_iff_lt_or_eq]
  constructor
  · intro h
    obtain ⟨hlt | heq, hid⟩ := h
    · exact .inl hlt
    · exact .inr ⟨heq, hid heq.symm⟩
  · intro h
    rcases h with hlt | ⟨heq, hid⟩
    · exact ⟨.inl hlt, fun heq => absurd heq (ne_of_gt hlt)⟩
    · exact ⟨.inr heq, fun _ => hid⟩

theorem before_total {a b : SLAResultORM} (hid : a.id ≠ b.id) :
    before a b = true ∨ before b a = true := by
  rw [← Bool.not_eq_false, ← Bool.not_eq_false, before_eq_false_iff, before_eq_false_iff]
  by_contra h
  push Not at h
  obtain ⟨hab | ⟨hab, hidab⟩, hba | ⟨hba, hidba⟩⟩ := h
  · exact absurd (hab.trans hba) (lt_irrefl _)
  · exact absurd hab (by rw [hba]; exact lt_irrefl _)
  · exact absurd hba (by rw [hab]; exact lt_irrefl _)
  · exact hid (Nat.le_antisymm hidab hidba)

theorem before_comparable (h : db.WellFormed) :
    Window.Comparable before db.slaResults where
  pair := by
    refine (nodup_keys_iff_pairwise.mp h.sla.pkey).imp ?_
    intro a b hne
    exact before_total fun hid => hne a.id rfl (congrArg some hid.symm)
  irrefl r _ := before_eq_false_iff.mpr (.inr ⟨rfl, le_rfl⟩)

/-! ## When the aggregations return -/

theorem validated_eq_ok {α : Type} {value result : α} {failed : List (String × Bool)} :
    validated value failed = .ok result ↔ (∀ f ∈ failed, f.2 = false) ∧ result = value := by
  unfold validated
  split
  · rename_i hnone
    rw [List.filter_eq_nil_iff] at hnone
    constructor
    · intro heq
      exact ⟨fun f hf => by simpa using hnone f hf, (Except.ok.inj heq).symm⟩
    · rintro ⟨-, rfl⟩
      rfl
  · rename_i hsome
    constructor
    · intro heq
      cases heq
    · rintro ⟨hall, -⟩
      refine absurd (List.filter_eq_nil_iff.mpr ?_) hsome
      intro f hf
      simp [hall f hf]

theorem violationRate_mem (rows : List SLAResultORM) :
    0 ≤ (performanceOf rows).violationRate ∧ (performanceOf rows).violationRate ≤ 1 := by
  have hcount : countViolations rows ≤ rows.length := List.length_filter_le _ _
  have hrate : (0 : ℚ) ≤ (if rows.length = 0 then 0 else (countViolations rows : ℚ) / rows.length) ∧
      (if rows.length = 0 then 0 else (countViolations rows : ℚ) / rows.length) ≤ 1 := by
    split
    · norm_num
    · rename_i hlen
      have hpos : (0 : ℚ) < rows.length := by
        have : 0 < rows.length := Nat.pos_of_ne_zero hlen
        exact_mod_cast this
      refine ⟨by positivity, ?_⟩
      rw [div_le_one hpos]
      exact_mod_cast hcount
  have hround := roundTo_mem_Icc (d := 4) (a := 0) (b := 1)
    (by exact_mod_cast hrate.1) (by exact_mod_cast hrate.2)
  exact ⟨by exact_mod_cast hround.1, by exact_mod_cast hround.2⟩

theorem avgMttr_nonneg_iff (rows : List SLAResultORM) :
    0 ≤ roundTo 2 (avgMttr rows) ↔ 0 ≤ 200 * (rows.map (·.mttrMinutes)).sum + rows.length := by
  rw [roundTo_nonneg_iff]
  unfold avgMttr
  by_cases hlen : rows.length = 0
  · rw [if_pos hlen, List.length_eq_zero_iff.mp hlen]
    norm_num
  · have hpos : (0 : ℚ) < rows.length := by
      have : 0 < rows.length := Nat.pos_of_ne_zero hlen
      exact_mod_cast this
    rw [if_neg hlen, div_mul_eq_mul_div, div_le_div_iff₀ (by norm_num) hpos]
    constructor
    · intro h
      have hq : (0 : ℚ) ≤ 200 * ((rows.map (·.mttrMinutes)).sum : ℤ) + rows.length := by linarith
      exact_mod_cast hq
    · intro h
      have hq : (0 : ℚ) ≤ 200 * ((rows.map (·.mttrMinutes)).sum : ℤ) + rows.length := by
        exact_mod_cast h
      linarith

/-- **`aggregate_performance` returns** unless the average resolution time comes out negative. -/
theorem aggregatePerformance_eq_ok {filters : Filters} {result : SLAPerformanceAggregation} :
    aggregatePerformance filters db = .ok result ↔
      0 ≤ 200 * ((performanceRows filters db).map (·.mttrMinutes)).sum
          + (performanceRows filters db).length ∧
        result = performanceOf (performanceRows filters db) := by
  unfold aggregatePerformance SLAPerformanceAggregation.validate
  rw [validated_eq_ok, ← avgMttr_nonneg_iff]
  have hrate := violationRate_mem (performanceRows filters db)
  simp only [List.forall_mem_cons, decide_eq_false_iff_not, not_not]
  constructor
  · rintro ⟨⟨-, hmttr, -⟩, rfl⟩
    exact ⟨hmttr, rfl⟩
  · rintro ⟨hmttr, rfl⟩
    exact ⟨⟨hrate, hmttr, by simp⟩, rfl⟩

theorem sumPenalties_nonneg (rows : List SLAResultORM) : 0 ≤ sumPenalties rows := by
  unfold sumPenalties
  apply List.sum_nonneg
  intro x hx
  obtain ⟨r, -, rfl⟩ := List.mem_map.mp hx
  split
  · exact abs_nonneg _
  · exact le_rfl

/-- **`aggregate_dashboard_kpis` returns** unless the rewards sum up to less than nothing. -/
theorem aggregateDashboardKpis_eq_ok {severity siteId : Option String} {result : SLADashboardKPI} :
    aggregateDashboardKpis severity siteId db = .ok result ↔
      0 ≤ sumRewards (kpiRows severity siteId db) ∧
        result = dashboardOf (kpiRows severity siteId db) := by
  unfold aggregateDashboardKpis SLADashboardKPI.validate
  rw [validated_eq_ok]
  have hpen := sumPenalties_nonneg (kpiRows severity siteId db)
  simp only [List.forall_mem_cons, decide_eq_false_iff_not, not_not, dashboardOf, roundTo_intCast]
  constructor
  · rintro ⟨⟨hrew, -⟩, rfl⟩
    exact ⟨by exact_mod_cast hrew, rfl⟩
  · rintro ⟨hrew, rfl⟩
    exact ⟨⟨by exact_mod_cast hrew, by exact_mod_cast hpen, by simp⟩, rfl⟩

end NocIq
