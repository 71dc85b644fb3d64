import NocIq.Sla.Analytics
import NocIq.Sla.Effective

/-!
# NocIq — the two dashboards

`aggregate_performance` counts one row of each outage, `aggregate_dashboard_kpis` counts every row
of `sla_results`. **`dashboards_agree_iff`** says in which reachable states they report the same
numbers: no outage has two rows, and the amounts carry the sign of their payment type.
-/

namespace NocIq

open Relational Rounding

/-- Both dashboards return, and report the same outages, violation rate and payout. -/
def DashboardsAgree (db : Db) : Prop :=
  ∃ kpis performance,
    aggregateDashboardKpis none none db = .ok kpis ∧
    aggregatePerformance {} db = .ok performance ∧
    kpis.totalOutages = performance.totalOutages ∧
    roundTo 4 ((kpis.totalViolations : ℚ) / kpis.totalOutages) = performance.violationRate ∧
    kpis.netPayout = performance.payoutSum

/-! ## Net payout -/

/-- The amount a row adds to rewards minus penalties. -/
def netAmount (r : SLAResultORM) : ℤ :=
  (if r.paymentType = .reward then r.amount else 0) -
    (if r.paymentType = .penalty then |r.amount| else 0)

theorem sumRewards_sub_sumPenalties (rows : List SLAResultORM) :
    sumRewards rows - sumPenalties rows = (rows.map netAmount).sum := by
  induction rows with
  | nil => rfl
  | cons r rows ih =>
    have hrew : sumRewards (r :: rows)
        = (if r.paymentType = .reward then r.amount else 0) + sumRewards rows := rfl
    have hpen : sumPenalties (r :: rows)
        = (if r.paymentType = .penalty then |r.amount| else 0) + sumPenalties rows := rfl
    rw [hrew, hpen, List.map_cons, List.sum_cons, ← ih]
    unfold netAmount
    ring

theorem netAmount_le (r : SLAResultORM) :
    netAmount r ≤ r.amount ∧
      (netAmount r = r.amount ↔ (r.paymentType = .penalty → r.amount ≤ 0)) := by
  unfold netAmount
  cases hp : r.paymentType with
  | reward => simp
  | penalty =>
    rcases le_or_gt r.amount 0 with hle | hpos
    · simp [abs_of_nonpos hle, hle]
    · rw [abs_of_pos hpos]
      simp only [reduceCtorEq, if_false, if_true, forall_true_left]
      omega

theorem sum_netAmount_eq_iff (rows : List SLAResultORM) :
    (rows.map netAmount).sum ≤ (rows.map (·.amount)).sum ∧
      ((rows.map netAmount).sum = (rows.map (·.amount)).sum ↔
        ∀ r ∈ rows, r.paymentType = .penalty → r.amount ≤ 0) := by
  induction rows with
  | nil => simp
  | cons r rows ih =>
    obtain ⟨hle, heq⟩ := ih
    obtain ⟨hrle, hreq⟩ := netAmount_le r
    rw [List.map_cons, List.sum_cons, List.map_cons, List.sum_cons, List.forall_mem_cons,
      ← hreq, ← heq]
    omega

/-! ## Agreement -/

theorem sumRewards_eq (rows : List SLAResultORM) :
    sumRewards rows = ((rows.filter fun r => decide (r.paymentType = .reward)).map (·.amount)).sum := by
  induction rows with
  | nil => rfl
  | cons r rows ih =>
    have hrew : sumRewards (r :: rows)
        = (if r.paymentType = .reward then r.amount else 0) + sumRewards rows := rfl
    rw [hrew, ih, List.filter_cons]
    by_cases hp : r.paymentType = .reward
    · simp [hp]
    · simp [hp]

theorem performanceRows_eq_all {db : Db} (h : db.WellFormed)
    (hone : (db.slaResults.map (·.outageId)).Nodup) : performanceRows {} db = db.slaResults := by
  rw [performanceRows_eq h]
  exact List.filter_sublist.eq_of_length
    ((Window.length_firsts_eq_iff (before_comparable h)).mpr hone)

theorem reported_eq_iff (rows : List SLAResultORM) :
    ((dashboardOf rows).totalOutages = (performanceOf rows).totalOutages ∧
      roundTo 4 (((dashboardOf rows).totalViolations : ℚ) / (dashboardOf rows).totalOutages)
        = (performanceOf rows).violationRate ∧
      (dashboardOf rows).netPayout = (performanceOf rows).payoutSum) ↔
      ∀ r ∈ rows, r.paymentType = .penalty → r.amount ≤ 0 := by
  have hrate : roundTo 4 (((dashboardOf rows).totalViolations : ℚ) / (dashboardOf rows).totalOutages)
      = (performanceOf rows).violationRate := by
    show roundTo 4 ((countViolations rows : ℚ) / rows.length)
      = roundTo 4 (if rows.length = 0 then 0 else (countViolations rows : ℚ) / rows.length)
    split
    · rename_i hlen
      rw [hlen, Nat.cast_zero, div_zero]
    · rfl
  have hnet : (dashboardOf rows).netPayout = ((sumRewards rows - sumPenalties rows : ℤ) : ℚ) := by
    simp only [dashboardOf, roundTo_intCast]
    rw [← Int.cast_sub, roundTo_intCast]
  have hpayout : (performanceOf rows).payoutSum = (((rows.map (·.amount)).sum : ℤ) : ℚ) :=
    roundTo_intCast 2 _
  rw [← (sum_netAmount_eq_iff rows).2, ← sumRewards_sub_sumPenalties, hnet, hpayout, Int.cast_inj]
  exact ⟨fun h => h.2.2, fun h => ⟨rfl, hrate, h⟩⟩

/-- **The two dashboards.** In a reachable state they report the same numbers exactly if no outage
has two rows, no penalty is positive, and the sums they validate are not negative. -/
theorem dashboards_agree_iff {steps : List (Db × SlaEvent)} {t : Db} (hrun : SlaRun {} steps t) :
    DashboardsAgree t ↔
      (t.slaResults.map (·.outageId)).Nodup ∧
      (∀ r ∈ t.slaResults, r.paymentType = .penalty → r.amount ≤ 0) ∧
      0 ≤ ((t.slaResults.filter fun r => decide (r.paymentType = .reward)).map (·.amount)).sum ∧
      0 ≤ 200 * (t.slaResults.map (·.mttrMinutes)).sum + t.slaResults.length := by
  have h := hrun.invariant.wellFormed
  have hkpi : kpiRows none none t = t.slaResults := rfl
  unfold DashboardsAgree
  simp only [aggregateDashboardKpis_eq_ok, aggregatePerformance_eq_ok, hkpi, sumRewards_eq]
  constructor
  · rintro ⟨kpis, performance, ⟨hrewards, rfl⟩, ⟨hmttr, rfl⟩, hcount, hrate, hpayout⟩
    -- the counts agree only if no row is left out
    have hone : (t.slaResults.map (·.outageId)).Nodup := by
      rw [← Window.length_firsts_eq_iff (before_comparable h), ← performanceRows_eq h]
      exact hcount.symm
    rw [performanceRows_eq_all h hone] at hmttr hcount hrate hpayout
    exact ⟨hone, (reported_eq_iff _).mp ⟨hcount, hrate, hpayout⟩, hrewards, hmttr⟩
  · rintro ⟨hone, hsigns, hrewards, hmttr⟩
    rw [performanceRows_eq_all h hone]
    obtain ⟨hcount, hrate, hpayout⟩ := (reported_eq_iff _).mpr hsigns
    exact ⟨_, _, ⟨hrewards, rfl⟩, ⟨hmttr, rfl⟩, hcount, hrate, hpayout⟩

def settledEvents : List SlaEvent := [.storeOutage outage1, .create lateResult 0]

theorem dashboards_agree_settled : DashboardsAgree (settledEvents.foldl slaStep {}) :=
  (dashboards_agree_iff (Runs.replay_run slaStep {} settledEvents)).mpr (by decide +kernel)

def resettledEvents : List SlaEvent := settledEvents ++ [.create lateResult 0]

/-- A recomputation counts the outage twice on one dashboard, and once on the other. -/
theorem dashboards_disagree_recomputed :
    SlaRun {} (Runs.replay slaStep {} resettledEvents) (resettledEvents.foldl slaStep {}) ∧
      ¬ DashboardsAgree (resettledEvents.foldl slaStep {}) := by
  refine ⟨Runs.replay_run slaStep {} resettledEvents, ?_⟩
  intro hagree
  obtain ⟨kpis, performance, hkpis, hperf, hcount, -⟩ := hagree
  set t := resettledEvents.foldl slaStep {}
  have hk : (aggregateDashboardKpis none none t).toOption.map (·.totalOutages) = some 2 := by
    decide +kernel
  have hp : (aggregatePerformance {} t).toOption.map (·.totalOutages) = some 1 := by
    decide +kernel
  rw [hkpis] at hk
  rw [hperf] at hp
  have hk' : kpis.totalOutages = 2 := Option.some.inj hk
  have hp' : performance.totalOutages = 1 := Option.some.inj hp
  omega

end NocIq
