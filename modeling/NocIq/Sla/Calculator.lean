import NocIq.Exceptions

/-!
# NocIq — SLA results and their calculation

`app/models/sla.py`, `app/services/sla/config.py` and `app/services/sla/sla_calculator.py`: the
severity configuration, the `SLAResult` model and `SLACalculator.calculate`.
-/

namespace NocIq

inductive SLAStatus where
  | met
  | violated
  deriving DecidableEq, Repr

inductive PaymentType where
  | reward
  | penalty
  deriving DecidableEq, Repr

inductive Rating where
  | exceptional
  | excellent
  | good
  | poor
  deriving DecidableEq, Repr

/-- The string a literal of the model stands for. -/
def SLAStatus.value : SLAStatus → String
  | .met => "met"
  | .violated => "violated"

@[inherit_doc SLAStatus.value]
def PaymentType.value : PaymentType → String
  | .reward => "reward"
  | .penalty => "penalty"

@[inherit_doc SLAStatus.value]
def Rating.value : Rating → String
  | .exceptional => "exceptional"
  | .excellent => "excellent"
  | .good => "good"
  | .poor => "poor"

/-- The pydantic model `SLAResult`. `id` is assigned by the database: a calculated result has
none. -/
structure SLAResult where
  id : Option Nat := none
  outageId : String
  status : SLAStatus
  mttrMinutes : Int
  thresholdMinutes : Int
  amount : Int
  paymentType : PaymentType
  rating : Rating
  policyVersion : String
  thresholdSource : String
  reasonCode : Option String := none
  decisionTrace : Option String := none
  deriving DecidableEq, Repr

/-! ## Configuration -/

/-- `SLASeverityConfig`; each field is declared `ge=0`. -/
structure SLASeverityConfig where
  thresholdMinutes : Nat
  penaltyPerMinute : Nat
  rewardBase : Nat
  deriving DecidableEq, Repr

/-- The dictionary `SLA_CONFIG`. Its entries can be replaced at run time
(`update_config_for_severity`), so every calculation takes the one in force. -/
abbrev SLAConfig := List (String × SLASeverityConfig)

/-- `SLA_CONFIG` as the module defines it. -/
def slaConfig : SLAConfig :=
  [("critical", ⟨15, 100, 750⟩), ("high", ⟨30, 50, 750⟩), ("medium", ⟨60, 25, 750⟩),
   ("low", ⟨120, 10, 600⟩)]

def getConfigForSeverity (config : SLAConfig) (severity : String) :
    Except Exc SLASeverityConfig :=
  match config.lookup severity.toLower with
  | none => .error (.valueError s!"Unknown severity level: {severity}")
  | some values => .ok values

/-! ## `SLACalculator.calculate` -/

namespace SLACalculator

/-- The penalty branch: `mttr_minutes > threshold`. -/
def violatedResult (c : SLASeverityConfig) (outageId : String) (mttrMinutes : Int)
    (policyVersion thresholdSource : String) : SLAResult :=
  let threshold : Int := c.thresholdMinutes
  let overtime := mttrMinutes - threshold
  let penalty := overtime * c.penaltyPerMinute
  { outageId, status := .violated, mttrMinutes, thresholdMinutes := threshold, amount := -penalty,
    paymentType := .penalty, rating := .poor, policyVersion, thresholdSource,
    reasonCode := some "mttr_exceeded",
    decisionTrace :=
      some s!"MTTR {mttrMinutes} > threshold {threshold} (overtime {overtime} minutes)" }

/-- `performance_ratio`, with Python's floor division. -/
def performanceRatio (c : SLASeverityConfig) (mttrMinutes : Int) : Int :=
  if c.thresholdMinutes = 0 then 0 else (mttrMinutes * 100).fdiv c.thresholdMinutes

/-- Multiplier (in percent), rating and reason code of a met SLA. -/
def rewardClass (ratio : Int) : Nat × Rating × String :=
  if ratio < 50 then (200, .exceptional, "met_exceptional")
  else if ratio < 75 then (150, .excellent, "met_excellent")
  else (100, .good, "met_good")

/-- The reward branch: `mttr_minutes <= threshold`. -/
def metResult (c : SLASeverityConfig) (outageId : String) (mttrMinutes : Int)
    (policyVersion thresholdSource : String) : SLAResult :=
  let threshold : Int := c.thresholdMinutes
  let ratio := performanceRatio c mttrMinutes
  let (multiplier, rating, reasonCode) := rewardClass ratio
  let reward : Nat := c.rewardBase * multiplier / 100
  { outageId, status := .met, mttrMinutes, thresholdMinutes := threshold, amount := reward,
    paymentType := .reward, rating, policyVersion, thresholdSource,
    reasonCode := some reasonCode,
    decisionTrace :=
      some (s!"MTTR {mttrMinutes} <= threshold {threshold}, "
        ++ s!"performance ratio {ratio}%, rating {rating.value}") }

/-- `SLACalculator.calculate`. The membership test precedes the lookup, so the `except
ValueError` fallback of the source is never taken. -/
def calculate (config : SLAConfig) (outageId severity : String) (mttrMinutes : Int)
    (policyVersion : String := "1.0") (thresholdSource : String := "config") :
    Except Exc SLAResult :=
  match getConfigForSeverity config severity.toLower with
  | .error e => .error e
  | .ok c =>
    if mttrMinutes > c.thresholdMinutes then
      .ok (violatedResult c outageId mttrMinutes policyVersion thresholdSource)
    else
      .ok (metResult c outageId mttrMinutes policyVersion thresholdSource)

theorem calculate_cases {config : SLAConfig} {outageId severity pv ts : String} {m : Int}
    {r : SLAResult} (h : calculate config outageId severity m pv ts = .ok r) :
    ∃ c, (m > c.thresholdMinutes ∧ r = violatedResult c outageId m pv ts) ∨
      (m ≤ c.thresholdMinutes ∧ r = metResult c outageId m pv ts) := by
  unfold calculate at h
  split at h
  · cases h
  · rename_i c _
    split at h
    · rename_i hm
      exact ⟨c, .inl ⟨hm, (Except.ok.inj h).symm⟩⟩
    · rename_i hm
      exact ⟨c, .inr ⟨Int.not_lt.mp hm, (Except.ok.inj h).symm⟩⟩

end SLACalculator

/-- A result as `SLACalculator.calculate` returns it for the outage. -/
def SLAResult.Calculated (outageId : String) (r : SLAResult) : Prop :=
  ∃ config severity mttr pv ts, SLACalculator.calculate config outageId severity mttr pv ts = .ok r

theorem SLAResult.Calculated.id_eq {outageId : String} {r : SLAResult}
    (h : r.Calculated outageId) : r.id = none := by
  obtain ⟨_, _, _, _, _, h⟩ := h
  obtain ⟨c, ⟨-, rfl⟩ | ⟨-, rfl⟩⟩ := SLACalculator.calculate_cases h <;> rfl

theorem SLAResult.Calculated.outageId_eq {outageId : String} {r : SLAResult}
    (h : r.Calculated outageId) : r.outageId = outageId := by
  obtain ⟨_, _, _, _, _, h⟩ := h
  obtain ⟨c, ⟨-, rfl⟩ | ⟨-, rfl⟩⟩ := SLACalculator.calculate_cases h <;> rfl

end NocIq
