import Mathlib.Algebra.Order.Group.Unbundled.Int
import NocIq.Sla.Calculator

/-!
# NocIq — the law of an SLA calculation

`SLACalculator.calculate` takes its tier from an integer percentage. The floor division loses
nothing: the tiers are those of the exact ratio of MTTR and threshold.

* **`performanceRatio_lt_iff`** — the percentage and the exact ratio.
* **`amount_antitone`** — a longer repair never pays more.
* **`amount_monotone`** — a larger threshold never pays less.
* **`sla_calculation_law`** — the outcome, and both of these.
-/

namespace NocIq

/-! ## What the policy says -/

/-- The multiplier of a met SLA, by the exact ratio. -/
def tierMultiplier (threshold mttr : Int) : Nat :=
  if threshold = 0 ∨ 2 * mttr < threshold then 200
  else if 4 * mttr < 3 * threshold then 150
  else 100

def tierRating (threshold mttr : Int) : Rating :=
  if threshold = 0 ∨ 2 * mttr < threshold then .exceptional
  else if 4 * mttr < 3 * threshold then .excellent
  else .good

def dueAmount (c : SLASeverityConfig) (mttr : Int) : Int :=
  if mttr > c.thresholdMinutes then -((mttr - c.thresholdMinutes) * c.penaltyPerMinute)
  else (c.rewardBase * tierMultiplier c.thresholdMinutes mttr : Int).fdiv 100

/-- The result agrees with the policy. -/
structure FollowsPolicy (c : SLASeverityConfig) (mttr : Int) (r : SLAResult) : Prop where
  violated : r.status = .violated ↔ mttr > c.thresholdMinutes
  penalty : r.paymentType = .penalty ↔ mttr > c.thresholdMinutes
  poor : r.rating = .poor ↔ mttr > c.thresholdMinutes
  tier : ¬ mttr > c.thresholdMinutes → r.rating = tierRating c.thresholdMinutes mttr
  amount : r.amount = dueAmount c mttr
  reward : ¬ mttr > c.thresholdMinutes → 0 ≤ r.amount

/-! ## The tiers -/

variable {c : SLASeverityConfig}

theorem performanceRatio_lt_iff (h : c.thresholdMinutes ≠ 0) (mttr bound : Int) :
    SLACalculator.performanceRatio c mttr < bound ↔ mttr * 100 < bound * c.thresholdMinutes := by
  have hpos : (0 : Int) < c.thresholdMinutes := by omega
  unfold SLACalculator.performanceRatio
  rw [if_neg h, Int.fdiv_eq_ediv_of_nonneg _ (Int.le_of_lt hpos)]
  exact Int.ediv_lt_iff_lt_mul hpos

theorem performanceRatio_zero (h : c.thresholdMinutes = 0) (mttr : Int) :
    SLACalculator.performanceRatio c mttr = 0 := if_pos h

theorem exceptional_iff (c : SLASeverityConfig) (mttr : Int) :
    SLACalculator.performanceRatio c mttr < 50 ↔
      (c.thresholdMinutes : Int) = 0 ∨ 2 * mttr < c.thresholdMinutes := by
  by_cases h : c.thresholdMinutes = 0
  · rw [performanceRatio_zero h]
    omega
  · rw [performanceRatio_lt_iff h]
    omega

theorem excellent_iff (h : c.thresholdMinutes ≠ 0) (mttr : Int) :
    SLACalculator.performanceRatio c mttr < 75 ↔ 4 * mttr < 3 * c.thresholdMinutes := by
  rw [performanceRatio_lt_iff h]
  omega

theorem rewardClass_eq (c : SLASeverityConfig) (mttr : Int) :
    (SLACalculator.rewardClass (SLACalculator.performanceRatio c mttr)).1 =
        tierMultiplier c.thresholdMinutes mttr ∧
      (SLACalculator.rewardClass (SLACalculator.performanceRatio c mttr)).2.1 =
        tierRating c.thresholdMinutes mttr := by
  unfold SLACalculator.rewardClass tierMultiplier tierRating
  by_cases h₁ : (c.thresholdMinutes : Int) = 0 ∨ 2 * mttr < c.thresholdMinutes
  · rw [if_pos ((exceptional_iff c mttr).mpr h₁), if_pos h₁, if_pos h₁]
    exact ⟨rfl, rfl⟩
  · have hne : c.thresholdMinutes ≠ 0 := by omega
    rw [if_neg fun h => h₁ ((exceptional_iff c mttr).mp h), if_neg h₁, if_neg h₁]
    by_cases h₂ : 4 * mttr < 3 * c.thresholdMinutes
    · rw [if_pos ((excellent_iff hne mttr).mpr h₂), if_pos h₂, if_pos h₂]
      exact ⟨rfl, rfl⟩
    · rw [if_neg fun h => h₂ ((excellent_iff hne mttr).mp h), if_neg h₂, if_neg h₂]
      exact ⟨rfl, rfl⟩

theorem tierRating_ne_poor (threshold mttr : Int) : tierRating threshold mttr ≠ .poor := by
  unfold tierRating
  split
  · decide
  · split <;> decide

/-! ## The two results -/

variable {mttr : Int}

theorem violatedResult_follows (h : mttr > c.thresholdMinutes) (outageId pv ts : String) :
    FollowsPolicy c mttr (SLACalculator.violatedResult c outageId mttr pv ts) where
  violated := ⟨fun _ => h, fun _ => rfl⟩
  penalty := ⟨fun _ => h, fun _ => rfl⟩
  poor := ⟨fun _ => h, fun _ => rfl⟩
  tier hnot := absurd h hnot
  amount := (if_pos h).symm
  reward hnot := absurd h hnot

theorem reward_nonneg (rewardBase multiplier : Nat) :
    0 ≤ (rewardBase * multiplier : Int).fdiv 100 := by
  rw [Int.fdiv_eq_ediv_of_nonneg _ (by omega)]
  exact Int.ediv_nonneg (Int.natCast_nonneg (rewardBase * multiplier)) (by omega)

theorem metResult_follows (h : ¬ mttr > c.thresholdMinutes) (outageId pv ts : String) :
    FollowsPolicy c mttr (SLACalculator.metResult c outageId mttr pv ts) := by
  obtain ⟨hmultiplier, hrating⟩ := rewardClass_eq c mttr
  have hamount : (SLACalculator.metResult c outageId mttr pv ts).amount =
      (c.rewardBase * tierMultiplier c.thresholdMinutes mttr : Int).fdiv 100 := by
    rw [← hmultiplier, Int.fdiv_eq_ediv_of_nonneg _ (by omega)]
    rfl
  have htier : (SLACalculator.metResult c outageId mttr pv ts).rating =
      tierRating c.thresholdMinutes mttr := hrating
  constructor
  case violated =>
    refine ⟨fun heq => ?_, fun hgt => absurd hgt h⟩
    cases heq
  case penalty =>
    refine ⟨fun heq => ?_, fun hgt => absurd hgt h⟩
    cases heq
  case poor =>
    refine ⟨fun heq => ?_, fun hgt => absurd hgt h⟩
    rw [htier] at heq
    exact absurd heq (tierRating_ne_poor _ _)
  case tier => exact fun _ => htier
  case amount =>
    unfold dueAmount
    rw [if_neg h]
    exact hamount
  case reward =>
    intro _
    rw [hamount]
    exact reward_nonneg _ _

/-! ## Money and time -/

theorem tierMultiplier_antitone (threshold : Int) {mttr' : Int} (h : mttr ≤ mttr') :
    tierMultiplier threshold mttr' ≤ tierMultiplier threshold mttr := by
  unfold tierMultiplier
  split_ifs <;> omega

/-- At a threshold of zero the tier is the highest one, whence the condition. -/
theorem tierMultiplier_monotone {threshold threshold' : Int} (hpos : 0 < threshold)
    (h : threshold ≤ threshold') (mttr : Int) :
    tierMultiplier threshold mttr ≤ tierMultiplier threshold' mttr := by
  unfold tierMultiplier
  split_ifs <;> omega

theorem reward_mono (rewardBase : Nat) {k k' : Nat} (h : k ≤ k') :
    (rewardBase * k : Int).fdiv 100 ≤ (rewardBase * k' : Int).fdiv 100 := by
  rw [Int.fdiv_eq_ediv_of_nonneg _ (by omega), Int.fdiv_eq_ediv_of_nonneg _ (by omega)]
  apply Int.ediv_le_ediv (by omega)
  exact Int.mul_le_mul_of_nonneg_left (Int.ofNat_le.mpr h) (Int.natCast_nonneg rewardBase)

theorem penalty_nonpos (h : mttr > c.thresholdMinutes) :
    -((mttr - c.thresholdMinutes) * c.penaltyPerMinute) ≤ 0 := by
  have hovertime : 0 ≤ mttr - c.thresholdMinutes := by omega
  have hpenalty := Int.mul_nonneg hovertime (Int.natCast_nonneg c.penaltyPerMinute)
  omega

/-- **More time, no more money.** -/
theorem amount_antitone (c : SLASeverityConfig) {mttr' : Int} (h : mttr ≤ mttr') :
    dueAmount c mttr' ≤ dueAmount c mttr := by
  unfold dueAmount
  by_cases hlate : mttr > c.thresholdMinutes
  · have hlate' : mttr' > c.thresholdMinutes := by omega
    rw [if_pos hlate, if_pos hlate']
    apply Int.neg_le_neg
    exact Int.mul_le_mul_of_nonneg_right (by omega) (Int.natCast_nonneg c.penaltyPerMinute)
  · rw [if_neg hlate]
    by_cases hlate' : mttr' > c.thresholdMinutes
    · rw [if_pos hlate']
      exact Int.le_trans (penalty_nonpos hlate') (reward_nonneg _ _)
    · rw [if_neg hlate']
      exact reward_mono _ (tierMultiplier_antitone _ h)

/-- **A larger threshold, no less money.** -/
theorem amount_monotone {c' : SLASeverityConfig} (hpos : 0 < c.thresholdMinutes)
    (h : c.thresholdMinutes ≤ c'.thresholdMinutes)
    (hpenalty : c'.penaltyPerMinute = c.penaltyPerMinute) (hreward : c'.rewardBase = c.rewardBase)
    (mttr : Int) : dueAmount c mttr ≤ dueAmount c' mttr := by
  unfold dueAmount
  rw [hpenalty, hreward]
  by_cases hlate' : mttr > c'.thresholdMinutes
  · have hlate : mttr > c.thresholdMinutes := by omega
    rw [if_pos hlate, if_pos hlate']
    apply Int.neg_le_neg
    exact Int.mul_le_mul_of_nonneg_right (by omega) (Int.natCast_nonneg c.penaltyPerMinute)
  · rw [if_neg hlate']
    by_cases hlate : mttr > c.thresholdMinutes
    · rw [if_pos hlate]
      exact Int.le_trans (penalty_nonpos hlate) (reward_nonneg _ _)
    · rw [if_neg hlate]
      exact reward_mono _ (tierMultiplier_monotone (by omega) (by omega) mttr)

theorem calculate_follows {config : SLAConfig} {severity : String}
    (h : getConfigForSeverity config severity.toLower = .ok c) (outageId pv ts : String)
    (mttr : Int) :
    ∃ r, SLACalculator.calculate config outageId severity mttr pv ts = .ok r ∧
      FollowsPolicy c mttr r := by
  unfold SLACalculator.calculate
  rw [h]
  dsimp only
  by_cases hlate : mttr > c.thresholdMinutes
  · rw [if_pos hlate]
    exact ⟨_, rfl, violatedResult_follows hlate outageId pv ts⟩
  · rw [if_neg hlate]
    exact ⟨_, rfl, metResult_follows hlate outageId pv ts⟩

/-- **The law.** Two calculations with the configurations `c` and `c'` follow the policy; with one
configuration the one with more time is not paid more, and with one time the one with the larger
threshold is not paid less. -/
theorem sla_calculation_law {config config' : SLAConfig} {severity severity' : String}
    {c c' : SLASeverityConfig} (h : getConfigForSeverity config severity.toLower = .ok c)
    (h' : getConfigForSeverity config' severity'.toLower = .ok c')
    (outageId outageId' pv pv' ts ts' : String) (mttr mttr' : Int) :
    ∃ r r', SLACalculator.calculate config outageId severity mttr pv ts = .ok r ∧
      SLACalculator.calculate config' outageId' severity' mttr' pv' ts' = .ok r' ∧
      FollowsPolicy c mttr r ∧ FollowsPolicy c' mttr' r' ∧
      (c = c' → mttr ≤ mttr' → r'.amount ≤ r.amount) ∧
      (mttr = mttr' → 0 < c.thresholdMinutes → c.thresholdMinutes ≤ c'.thresholdMinutes →
        c'.penaltyPerMinute = c.penaltyPerMinute → c'.rewardBase = c.rewardBase →
        r.amount ≤ r'.amount) := by
  obtain ⟨r, hr, hfollows⟩ := calculate_follows h outageId pv ts mttr
  obtain ⟨r', hr', hfollows'⟩ := calculate_follows h' outageId' pv' ts' mttr'
  refine ⟨r, r', hr, hr', hfollows, hfollows', ?_, ?_⟩
  · rintro rfl hle
    rw [hfollows.amount, hfollows'.amount]
    exact amount_antitone c hle
  · rintro rfl hpos hle hpenalty hreward
    rw [hfollows.amount, hfollows'.amount]
    exact amount_monotone hpos hle hpenalty hreward mttr

/-- A critical outage, repaired after 7 and after 16 minutes. -/
theorem sla_calculation_law_critical :
    ∃ r r', SLACalculator.calculate slaConfig "outage-1" "critical" 7 = .ok r ∧
      SLACalculator.calculate slaConfig "outage-1" "CRITICAL" 16 = .ok r' ∧
      FollowsPolicy ⟨15, 100, 750⟩ 7 r ∧ FollowsPolicy ⟨15, 100, 750⟩ 16 r' ∧
      r'.amount ≤ r.amount := by
  obtain ⟨r, r', hr, hr', hfollows, hfollows', hless, -⟩ :=
    sla_calculation_law
      (show getConfigForSeverity slaConfig "critical".toLower = .ok ⟨15, 100, 750⟩ by
        decide +kernel)
      (show getConfigForSeverity slaConfig "CRITICAL".toLower = .ok ⟨15, 100, 750⟩ by
        decide +kernel)
      "outage-1" "outage-1" "1.0" "1.0" "config" "config" 7 16
  exact ⟨r, r', hr, hr', hfollows, hfollows', hless rfl (by decide)⟩

end NocIq
