import Mathlib.Data.List.Sort
import NocIq.Schema

/-!
# NocIq — `SLARepository`: writing SLA results

`create`, `create_if_changed`, `get_by_outage` and `list_by_outage` of
`app/repositories/sla_repository.py`.

`created_at` has the default `datetime.now(timezone.utc)`, an expression and not a callable: a
server process evaluates it once, when it imports the model. Every insert therefore takes the
process's import instant `started`.

* **`create_eq`** — on a well-formed database, for a stored outage, `create` demotes the
  outage's effective row and appends the new one, flagged.
* **`create_unknown_outage`** — for any other outage it raises and leaves the tables alone.
-/

namespace NocIq

open Relational

namespace SLARepository

def ormToPydantic (orm : SLAResultORM) : SLAResult where
  id := some orm.id
  outageId := orm.outageId
  status := orm.status
  mttrMinutes := orm.mttrMinutes
  thresholdMinutes := orm.thresholdMinutes
  amount := orm.amount
  paymentType := orm.paymentType
  rating := orm.rating
  policyVersion := orm.policyVersion
  thresholdSource := orm.thresholdSource
  reasonCode := orm.reasonCode
  decisionTrace := orm.decisionTrace

/-- The row `SLAResultORM(…)` of a result; the payload's own `id` is not stored. -/
def newRow (payload : SLAResult) (id : Nat) (isLatest : Bool) (started : Time) : SLAResultORM where
  id := id
  outageId := payload.outageId
  status := payload.status
  mttrMinutes := payload.mttrMinutes
  thresholdMinutes := payload.thresholdMinutes
  amount := payload.amount
  paymentType := payload.paymentType
  rating := payload.rating
  policyVersion := payload.policyVersion
  thresholdSource := payload.thresholdSource
  createdAt := started
  isLatest := isLatest
  reasonCode := payload.reasonCode
  decisionTrace := payload.decisionTrace

/-- `outage_id == outage_id AND is_latest`. -/
def isEffective (outageId : String) (r : SLAResultORM) : Bool :=
  decide (r.outageId = outageId) && r.isLatest

def effectiveRow (db : Db) (outageId : String) : Option SLAResultORM :=
  db.slaResults.find? (isEffective outageId)

def demote (outageId : String) (r : SLAResultORM) : SLAResultORM :=
  if isEffective outageId r then { r with isLatest := false } else r

/-- `UPDATE sla_results SET is_latest = false WHERE outage_id = … AND is_latest`. -/
def demoteLatest (outageId : String) : Statement Db := fun db =>
  { db with slaResults := db.slaResults.map (demote outageId) }

def insertResult (row : SLAResultORM) : Statement Db := fun db =>
  { db with slaResults := db.slaResults ++ [row] }

def create (payload : SLAResult) (started : Time) (db : Db) : Except Exc SLAResult × Db :=
  let existingLatest := effectiveRow db payload.outageId
  let id := db.slaResultsSeq + 1
  let orm := newRow payload id true started
  let demotion := if existingLatest.isSome then [demoteLatest payload.outageId] else []
  Db.commit { db with slaResultsSeq := id } (demotion ++ [insertResult orm]) (ormToPydantic orm)

/-- Rows ordered by `created_at` descending. The database may return equal instants in any
order; here they keep their table order. -/
def byCreatedAtDesc (rows : List SLAResultORM) : List SLAResultORM :=
  rows.insertionSort fun a b => b.createdAt ≤ a.createdAt

def getByOutage (db : Db) (outageId : String) : Option SLAResult :=
  match effectiveRow db outageId with
  | some orm => some (ormToPydantic orm)
  | none =>
    -- pre-migration data without a flagged row
    (byCreatedAtDesc (db.slaResults.filter fun r => decide (r.outageId = outageId))).head?.map
      ormToPydantic

def listByOutage (db : Db) (outageId : String) : List SLAResult :=
  (byCreatedAtDesc (db.slaResults.filter fun r => decide (r.outageId = outageId))).map ormToPydantic

/-- `latest.model_dump() == payload` compares every field, the database id included. -/
def createIfChanged (payload : SLAResult) (started : Time) (db : Db) : Except Exc SLAResult × Db :=
  match getByOutage db payload.outageId with
  | some latest => if latest = payload then (.ok latest, db) else create payload started db
  | none => create payload started db

/-! ## The flag and the unique index -/

theorem isEffective_iff {outageId : String} {r : SLAResultORM} :
    isEffective outageId r = true ↔ r.outageId = outageId ∧ r.isLatest = true := by
  simp [isEffective]

theorem latestKey_eq_some {r : SLAResultORM} {outageId : String} :
    r.latestKey = some outageId ↔ isEffective outageId r = true := by
  unfold SLAResultORM.latestKey
  rw [isEffective_iff]
  cases r.isLatest <;> simp

@[simp] theorem demote_id (o : String) (r : SLAResultORM) : (demote o r).id = r.id := by
  unfold demote; split <;> rfl

@[simp] theorem demote_outageId (o : String) (r : SLAResultORM) :
    (demote o r).outageId = r.outageId := by
  unfold demote; split <;> rfl

@[simp] theorem demote_createdAt (o : String) (r : SLAResultORM) :
    (demote o r).createdAt = r.createdAt := by
  unfold demote; split <;> rfl

theorem isEffective_demote (o o' : String) (r : SLAResultORM) :
    isEffective o' (demote o r) = (isEffective o' r && decide (o' ≠ o)) := by
  unfold demote
  by_cases h : isEffective o r = true
  · obtain ⟨rfl, hl⟩ := isEffective_iff.mp h
    rw [if_pos h]
    by_cases ho : r.outageId = o'
    · simp [isEffective, ho]
    · simp [isEffective, ho]
  · rw [if_neg h]
    by_cases ho : o' = o
    · subst ho
      simpa using h
    · simp [ho]

variable {rows : List SLAResultORM}

theorem demote_none {o : String} (h : ∀ r ∈ rows, isEffective o r = false) :
    rows.map (demote o) = rows := by
  conv_rhs => rw [← List.map_id rows]
  apply List.map_congr_left
  intro r hr
  simp [demote, h r hr]

variable {outages : List OutageRow}

theorem effective_unique (h : SlaTablesValid outages rows) {o : String} {a b : SLAResultORM}
    (ha : a ∈ rows) (hb : b ∈ rows) (hea : isEffective o a = true) (heb : isEffective o b = true) :
    a = b :=
  eq_of_key_eq h.latest ha hb (latestKey_eq_some.mpr hea) (latestKey_eq_some.mpr heb)

theorem row_unique (h : SlaTablesValid outages rows) {a b : SLAResultORM} (ha : a ∈ rows)
    (hb : b ∈ rows) (hid : a.id = b.id) : a = b :=
  eq_of_key_eq h.pkey ha hb (k := a.id) rfl (by rw [hid])

variable {db : Db}

theorem effectiveRow_eq_some (h : db.WellFormed) {o : String} {e : SLAResultORM} :
    effectiveRow db o = some e ↔ e ∈ db.slaResults ∧ isEffective o e = true := by
  constructor
  · intro hf
    exact ⟨List.mem_of_find?_eq_some hf, List.find?_some hf⟩
  · rintro ⟨he, heff⟩
    cases hf : effectiveRow db o with
    | none => exact absurd heff (by simpa using List.find?_eq_none.mp hf e he)
    | some b =>
      have hb : b ∈ db.slaResults := List.mem_of_find?_eq_some hf
      rw [effective_unique h.sla hb he (List.find?_some hf) heff]

theorem effectiveRow_eq_none {o : String} :
    effectiveRow db o = none ↔ ∀ r ∈ db.slaResults, isEffective o r = false := by
  simp [effectiveRow, List.find?_eq_none]

/-! ## Statements keep the constraints -/

theorem demoted_valid (h : SlaTablesValid outages rows) (o : String) :
    SlaTablesValid outages (rows.map (demote o)) where
  outagesPkey := h.outagesPkey
  pkey := by
    rw [keys_map_of_eq (by simp)]
    exact h.pkey
  outageFkey r hr := by
    obtain ⟨x, hx, rfl⟩ := List.mem_map.mp hr
    rw [demote_outageId]
    exact h.outageFkey x hx
  latest := by
    refine (keys_map_sublist fun r _ => ?_).nodup h.latest
    unfold demote
    split
    · exact .inr rfl
    · exact .inl rfl

theorem inserted_valid {row : SLAResultORM} (h : SlaTablesValid outages rows)
    (hid : ∀ x ∈ rows, x.id ≠ row.id) (hout : row.outageId ∈ outages.map (·.id))
    (hflag : row.isLatest = true → ∀ x ∈ rows, isEffective row.outageId x = false) :
    SlaTablesValid outages (rows ++ [row]) where
  outagesPkey := h.outagesPkey
  pkey := by
    rw [nodup_keys_concat]
    refine ⟨h.pkey, fun x hx k hk hxk => hid x hx ?_⟩
    rw [Option.some.inj hk, Option.some.inj hxk]
  outageFkey r hr := by
    rcases List.mem_append.mp hr with hr | hr
    · exact h.outageFkey r hr
    · rw [List.mem_singleton.mp hr]
      exact hout
  latest := by
    rw [nodup_keys_concat]
    refine ⟨h.latest, fun x hx k hk hxk => ?_⟩
    obtain ⟨rfl, hl⟩ := isEffective_iff.mp (latestKey_eq_some.mp hk)
    rw [latestKey_eq_some, hflag hl x hx] at hxk
    cases hxk

theorem wellFormed_with (h : db.WellFormed) (rows : List SLAResultORM) (seq : Nat)
    (hv : SlaTablesValid db.outages rows) (hids : db.slaIds ⊆ rows.map (·.id))
    (hseq : ∀ r ∈ rows, 0 < r.id ∧ r.id ≤ seq) :
    Db.WellFormed { db with slaResults := rows, slaResultsSeq := seq } where
  sla := hv
  disputes := h.disputes.mono hids
  payments := h.payments.mono hids
  seq := hseq

theorem wellFormed_seq (h : db.WellFormed) :
    Db.WellFormed { db with slaResultsSeq := db.slaResultsSeq + 1 } :=
  wellFormed_with h _ _ h.sla (fun _ hi => hi) fun r hr =>
    ⟨(h.seq r hr).1, (h.seq r hr).2.trans (Nat.le_succ _)⟩

theorem wellFormed_map (h : db.WellFormed) {f : SLAResultORM → SLAResultORM}
    (hid : ∀ r, (f r).id = r.id) (hv : SlaTablesValid db.outages (db.slaResults.map f)) :
    Db.WellFormed { db with slaResults := db.slaResults.map f } := by
  refine wellFormed_with h _ db.slaResultsSeq hv ?_ ?_
  · intro i hi
    simpa [Db.slaIds, Function.comp_def, hid] using hi
  · intro r hr
    obtain ⟨x, hx, rfl⟩ := List.mem_map.mp hr
    rw [hid]
    exact h.seq x hx

/-! ## What `create` does -/

/-- The database after a successful `create`. -/
def created (payload : SLAResult) (started : Time) (db : Db) : Db :=
  { db with
    slaResults := db.slaResults.map (demote payload.outageId)
      ++ [newRow payload (db.slaResultsSeq + 1) true started]
    slaResultsSeq := db.slaResultsSeq + 1 }

variable {payload : SLAResult}

theorem created_wellFormed (h : db.WellFormed) (started : Time)
    (hout : payload.outageId ∈ db.outageIds) : (created payload started db).WellFormed := by
  have hlt : ∀ x ∈ db.slaResults.map (demote payload.outageId),
      0 < x.id ∧ x.id ≤ db.slaResultsSeq := by
    intro x hx
    obtain ⟨y, hy, rfl⟩ := List.mem_map.mp hx
    rw [demote_id]
    exact h.seq y hy
  -- the new id is above the stored ones, and the outage has no effective row left
  refine wellFormed_with h _ _ (inserted_valid (demoted_valid h.sla _) ?_ hout ?_) ?_ ?_
  · intro x hx hid
    have := hlt x hx
    have : x.id = db.slaResultsSeq + 1 := hid
    omega
  · intro _ x hx
    obtain ⟨y, hy, rfl⟩ := List.mem_map.mp hx
    simp [isEffective_demote, newRow]
  · intro i hi
    obtain ⟨y, hy, rfl⟩ := List.mem_map.mp hi
    simp only [List.map_append, List.map_map, List.mem_append, List.mem_map]
    exact .inl ⟨y, hy, demote_id _ y⟩
  · intro r hr
    rcases List.mem_append.mp hr with hr | hr
    · have := hlt r hr
      omega
    · rw [List.mem_singleton.mp hr]
      exact ⟨Nat.succ_pos _, Nat.le_refl _⟩

/-- **`create` for a stored outage.** It succeeds, demotes the effective row and appends the new
one. When no row is effective the demotion is not issued, and would change nothing. -/
theorem create_eq (h : db.WellFormed) {started : Time} (hout : payload.outageId ∈ db.outageIds) :
    create payload started db =
      (.ok (ormToPydantic (newRow payload (db.slaResultsSeq + 1) true started)),
        created payload started db) := by
  have hfinal := (created_wellFormed h started hout).satisfies
  unfold create
  cases he : effectiveRow db payload.outageId with
  | some e =>
    have hdemoted : Satisfies schema
        (demoteLatest payload.outageId { db with slaResultsSeq := db.slaResultsSeq + 1 }) := by
      have hdrawn := wellFormed_seq h
      exact (wellFormed_map hdrawn (demote_id _) (demoted_valid hdrawn.sla _)).satisfies
    have hsat : SatisfiesEach schema [demoteLatest payload.outageId,
        insertResult (newRow payload (db.slaResultsSeq + 1) true started)]
        { db with slaResultsSeq := db.slaResultsSeq + 1 } := ⟨hdemoted, hfinal, trivial⟩
    exact Db.commit_eq hsat _
  | none =>
    -- the demotion would change nothing
    have hsame := demote_none (effectiveRow_eq_none.mp he)
    unfold created at hfinal ⊢
    rw [hsame] at hfinal ⊢
    have hsat : SatisfiesEach schema
        [insertResult (newRow payload (db.slaResultsSeq + 1) true started)]
        { db with slaResultsSeq := db.slaResultsSeq + 1 } := ⟨hfinal, trivial⟩
    exact Db.commit_eq hsat _

theorem create_unknown_outage (h : db.WellFormed) (started : Time)
    (hout : payload.outageId ∉ db.outageIds) :
    ∃ name, create payload started db =
      (.error (.integrityError name), { db with slaResultsSeq := db.slaResultsSeq + 1 }) := by
  have hnone : effectiveRow db payload.outageId = none := by
    rw [effectiveRow_eq_none]
    intro r hr
    -- the foreign key ties every row to a stored outage
    have hr' := h.sla.outageFkey r hr
    rw [Bool.eq_false_iff]
    intro heff
    rw [(isEffective_iff.mp heff).1] at hr'
    exact hout hr'
  have hbad : ¬ SatisfiesEach schema
      [insertResult (newRow payload (db.slaResultsSeq + 1) true started)]
      { db with slaResultsSeq := db.slaResultsSeq + 1 } := by
    rintro ⟨hs, -⟩
    have hv := ((satisfies_schema_iff _).mp hs).1
    exact hout (hv.outageFkey _ (List.mem_append_right _ (List.mem_singleton_self _)))
  unfold create
  rw [hnone]
  exact Db.commit_violation hbad _

end SLARepository

end NocIq
