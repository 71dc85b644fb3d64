import NocIq.Exceptions
import NocIq.Lib.Calendar
import NocIq.Lib.Rounding
import NocIq.Lib.Text

/-!
# NocIq — traces of SLA calculations

`src/sla-trace`: `calculateAndTrace` compares the minutes of an incident with a threshold and
inserts a row that says why. The verdict is about the exact minutes, while the row, and the payload
in it, have minutes of two decimal places. Minutes are rational numbers.

* **`breached_iff`** — in every branch the verdict is that the threshold is exceeded.
* **`selfConsistent_iff`** — the record shows the verdict, and the minutes that are returned, just
  when rounding changes neither.
-/

namespace NocIq

namespace SlaTrace

open Rounding

/-! ## Dates -/

/-- A `Date` that is valid: the milliseconds since the epoch. -/
structure Date where
  getTime : Int
  valid : getTime.natAbs ≤ 8640000000000000

/-- So many cycles of 400 years before year 1 there is no `Date`. -/
def cycles : Nat := 680

def epochDay : Nat := 146097 * cycles + 719162

/-- A year outside four digits has a sign and six. -/
def yearText (year : Int) : List Char :=
  if 0 ≤ year ∧ year ≤ 9999 then Text.padded 4 year.toNat
  else (if year < 0 then '-' else '+') :: Text.padded 6 year.natAbs

def Date.toISOString (d : Date) : String :=
  let (year, day) := Calendar.yearAndDay (d.getTime / 86400000 + epochDay).toNat
  let (month, dayOfMonth) := Calendar.monthAndDay (Calendar.monthLengths (Calendar.isLeap year)) day
  let ms := (d.getTime % 86400000).toNat
  String.ofList
    (yearText ((year : Int) - 400 * cycles) ++
      '-' :: Text.padded 2 (month + 1) ++ '-' :: Text.padded 2 (dayOfMonth + 1) ++
      'T' :: Text.padded 2 (ms / 3600000) ++ ':' :: Text.padded 2 (ms / 60000 % 60) ++
      ':' :: Text.padded 2 (ms / 1000 % 60) ++ '.' :: Text.padded 3 (ms % 1000) ++ ['Z'])

/-! ## The service -/

structure SlaCalculationInput where
  incidentId : String
  severity : String
  thresholdMinutes : ℚ
  resolvedAt : Option Date
  openedAt : Date

inductive DecisionBranch where
  | unresolvedElapsedTime
  | invalidNegativeMttr
  | withinSlaThreshold
  | exceededSlaThreshold
  deriving DecidableEq, Repr

def DecisionBranch.text : DecisionBranch → String
  | .unresolvedElapsedTime => "UNRESOLVED_ELAPSED_TIME"
  | .invalidNegativeMttr => "INVALID_NEGATIVE_MTTR"
  | .withinSlaThreshold => "WITHIN_SLA_THRESHOLD"
  | .exceededSlaThreshold => "EXCEEDED_SLA_THRESHOLD"

structure Inputs where
  incidentId : String
  severity : String
  thresholdMinutes : ℚ
  openedAt : String
  resolvedAt : Option String

structure Computation where
  mttrMinutes : ℚ
  thresholdMinutes : ℚ
  differenceMinutes : ℚ

structure Decision where
  branch : String
  slaBreached : Bool
  evaluatedAt : String

structure TracePayload where
  inputs : Inputs
  computation : Computation
  decision : Decision

/-- A row of `sla_calculation_traces`, without its id and its time, and the values it is created
from. -/
structure SlaCalculationTrace where
  incidentId : String
  severity : String
  thresholdMinutes : ℚ
  mttrMinutes : ℚ
  decisionBranch : String
  slaBreached : Bool
  tracePayload : TracePayload

structure SlaCalculationResult where
  mttrMinutes : ℚ
  decisionBranch : String
  slaBreached : Bool
  trace : SlaCalculationTrace

/-- `parseFloat(x.toFixed(2))`. Numbers from `1e21` on are written as they are. -/
def toFixed2 (x : ℚ) : ℚ := if 10 ^ 21 ≤ |x| then x else roundAwayTo 2 x

inductive PgError where
  /-- a text is too long for its column -/
  | stringDataRightTruncation
  /-- a text has the character zero -/
  | characterNotInRepertoire
  /-- a number is too large for its column -/
  | numericValueOutOfRange
  deriving DecidableEq, Repr

/-- A value of a `NUMERIC(10, 2)` column. -/
def numeric (x : ℚ) : Except PgError ℚ :=
  if |roundAwayTo 2 x| < 10 ^ 8 then .ok (roundAwayTo 2 x) else .error .numericValueOutOfRange

/-- A value of a `VARCHAR(n)` column. -/
def varchar (n : Nat) (text : String) : Except PgError String :=
  if Char.ofNat 0 ∈ text.toList then .error .characterNotInRepertoire
  else if n < text.length then .error .stringDataRightTruncation
  else .ok text

/-- `SlaTraceRepository.create`. -/
def create (dto : SlaCalculationTrace) : Except PgError SlaCalculationTrace := do
  let incidentId ← varchar 255 dto.incidentId
  let severity ← varchar 100 dto.severity
  let thresholdMinutes ← numeric dto.thresholdMinutes
  let mttrMinutes ← numeric dto.mttrMinutes
  let decisionBranch ← varchar 255 dto.decisionBranch
  return { dto with incidentId, severity, thresholdMinutes, mttrMinutes, decisionBranch }

/-- The minutes from the opening to the resolution, or to now. -/
def mttrMinutes (now : Date) (input : SlaCalculationInput) : ℚ :=
  (((input.resolvedAt.getD now).getTime - input.openedAt.getTime : Int) : ℚ) / 60000

/-- The branch and whether the SLA is breached. -/
def decision (now : Date) (input : SlaCalculationInput) : DecisionBranch × Bool :=
  let mttrMinutes := mttrMinutes now input
  match input.resolvedAt with
  | none => (.unresolvedElapsedTime, mttrMinutes > input.thresholdMinutes)
  | some _ =>
    if mttrMinutes ≤ 0 then (.invalidNegativeMttr, false)
    else if mttrMinutes ≤ input.thresholdMinutes then (.withinSlaThreshold, false)
    else (.exceededSlaThreshold, true)

def tracePayload (now evaluatedAt : Date) (input : SlaCalculationInput) : TracePayload where
  inputs :=
    { incidentId := input.incidentId, severity := input.severity
      thresholdMinutes := input.thresholdMinutes, openedAt := input.openedAt.toISOString
      resolvedAt := input.resolvedAt.map Date.toISOString }
  computation :=
    { mttrMinutes := toFixed2 (mttrMinutes now input), thresholdMinutes := input.thresholdMinutes
      differenceMinutes := toFixed2 (mttrMinutes now input - input.thresholdMinutes) }
  decision :=
    { branch := (decision now input).1.text, slaBreached := (decision now input).2
      evaluatedAt := evaluatedAt.toISOString }

def createSlaTraceDto (now evaluatedAt : Date) (input : SlaCalculationInput) :
    SlaCalculationTrace where
  incidentId := input.incidentId
  severity := input.severity
  thresholdMinutes := input.thresholdMinutes
  mttrMinutes := toFixed2 (mttrMinutes now input)
  decisionBranch := (decision now input).1.text
  slaBreached := (decision now input).2
  tracePayload := tracePayload now evaluatedAt input

/-- The clock is read for an incident that is not resolved, and once more for the payload. -/
def calculateAndTrace (now evaluatedAt : Date) (input : SlaCalculationInput) :
    Except PgError SlaCalculationResult := do
  let trace ← create (createSlaTraceDto now evaluatedAt input)
  return {
    mttrMinutes := mttrMinutes now input
    decisionBranch := (decision now input).1.text
    slaBreached := (decision now input).2
    trace }

/-! ## What a record shows -/

/-- The verdict of a trace can be seen from its minutes, in the columns and in the payload, and they
are the ones that are returned. -/
structure SelfConsistent (result : SlaCalculationResult) : Prop where
  verdict : result.slaBreached = result.trace.slaBreached ∧
    result.trace.slaBreached = result.trace.tracePayload.decision.slaBreached
  row : result.trace.slaBreached = true ↔
    result.trace.thresholdMinutes < result.trace.mttrMinutes
  payload : result.trace.slaBreached = true ↔
    result.trace.tracePayload.computation.thresholdMinutes <
      result.trace.tracePayload.computation.mttrMinutes
  difference : result.trace.slaBreached = true ↔
    0 < result.trace.tracePayload.computation.differenceMinutes
  returned : result.mttrMinutes = result.trace.mttrMinutes ∧
    result.mttrMinutes = result.trace.tracePayload.computation.mttrMinutes

/-- The time is a multiple of 0.6 seconds, so of 0.01 minutes, and it is not above the threshold by
0.3 seconds or less. -/
def Unrounded (now : Date) (input : SlaCalculationInput) : Prop :=
  600 ∣ (input.resolvedAt.getD now).getTime - input.openedAt.getTime ∧
    ¬ (input.thresholdMinutes < mttrMinutes now input ∧
      mttrMinutes now input ≤ input.thresholdMinutes + 1 / 200)

variable {now evaluatedAt : Date} {input : SlaCalculationInput} {result : SlaCalculationResult}

/-! ## The verdict -/

/-- The guard against a time that is not positive is about no breach: no threshold is below it. -/
theorem breached_iff (hthreshold : 0 ≤ input.thresholdMinutes) :
    (decision now input).2 = true ↔ input.thresholdMinutes < mttrMinutes now input := by
  unfold decision
  cases input.resolvedAt with
  | none => exact decide_eq_true_iff
  | some resolvedAt =>
    dsimp only
    split_ifs with hzero hwithin
    · exact iff_of_false not_false (hzero.trans hthreshold).not_gt
    · exact iff_of_false not_false hwithin.not_gt
    · exact iff_of_true rfl (not_le.mp hwithin)

/-! ## What is recorded -/

theorem eq_of_numeric {x y : ℚ} (h : numeric x = .ok y) : y = roundAwayTo 2 x := by
  unfold numeric at h
  split at h
  · exact (Except.ok.inj h).symm
  · cases h

theorem eq_of_varchar {n : Nat} {text stored : String} (h : varchar n text = .ok stored) :
    stored = text := by
  unfold varchar at h
  split_ifs at h
  exact (Except.ok.inj h).symm

theorem roundAwayTo_toFixed2 (x : ℚ) : roundAwayTo 2 (toFixed2 x) = roundAwayTo 2 x := by
  unfold toFixed2
  split_ifs
  · rfl
  · exact roundAwayTo_roundAwayTo 2 x

theorem toFixed2_eq {x : ℚ} (h : roundAwayTo 2 x = x) : toFixed2 x = x := by
  unfold toFixed2
  split_ifs
  · rfl
  · exact h

theorem toFixed2_pos_iff {x : ℚ} : 0 < toFixed2 x ↔ 1 / 200 ≤ x := by
  unfold toFixed2
  split_ifs with hlarge
  · -- a number that is not rounded is far from zero, on the side of its sign
    constructor
    · intro hpos
      rw [abs_of_pos hpos] at hlarge
      linarith
    · exact fun h => by linarith
  · rw [roundAwayTo_pos_iff]
    constructor <;> intro h <;> linarith

theorem create_spec {dto trace : SlaCalculationTrace} (h : create dto = .ok trace) :
    trace = { dto with
      thresholdMinutes := roundAwayTo 2 dto.thresholdMinutes
      mttrMinutes := roundAwayTo 2 dto.mttrMinutes } := by
  unfold create at h
  obtain ⟨incidentId, hincident, h⟩ := except_bind_ok_iff.mp h
  obtain ⟨severity, hseverity, h⟩ := except_bind_ok_iff.mp h
  obtain ⟨thresholdMinutes, hthreshold, h⟩ := except_bind_ok_iff.mp h
  obtain ⟨mttrMinutes, hmttr, h⟩ := except_bind_ok_iff.mp h
  obtain ⟨decisionBranch, hbranch, h⟩ := except_bind_ok_iff.mp h
  rw [← Except.ok.inj h, eq_of_varchar hincident, eq_of_varchar hseverity,
    eq_of_numeric hthreshold, eq_of_numeric hmttr, eq_of_varchar hbranch]

theorem calculateAndTrace_spec (h : calculateAndTrace now evaluatedAt input = .ok result) :
    result = {
      mttrMinutes := mttrMinutes now input
      decisionBranch := (decision now input).1.text
      slaBreached := (decision now input).2
      trace :=
        { createSlaTraceDto now evaluatedAt input with
          thresholdMinutes := roundAwayTo 2 input.thresholdMinutes
          mttrMinutes := roundAwayTo 2 (mttrMinutes now input) } } := by
  obtain ⟨trace, htrace, h⟩ := except_bind_ok_iff.mp h
  rw [← Except.ok.inj h, create_spec htrace, createSlaTraceDto, roundAwayTo_toFixed2]

/-! ## What rounding changes -/

theorem roundAwayTo_mttrMinutes_iff :
    roundAwayTo 2 (mttrMinutes now input) = mttrMinutes now input ↔
      600 ∣ (input.resolvedAt.getD now).getTime - input.openedAt.getTime := by
  have hscale : mttrMinutes now input * 10 ^ 2 =
      (((input.resolvedAt.getD now).getTime - input.openedAt.getTime : Int) : ℚ) / 600 := by
    unfold mttrMinutes
    linarith
  rw [roundAwayTo_eq_iff, hscale]
  -- no rounding: a whole number of hundredths
  constructor
  · rintro ⟨n, hn⟩
    rw [div_eq_iff (by norm_num)] at hn
    exact ⟨n, by rw [mul_comm]; exact_mod_cast hn⟩
  · rintro ⟨n, hn⟩
    refine ⟨n, ?_⟩
    rw [hn, div_eq_iff (by norm_num), mul_comm]
    push_cast
    rfl

theorem roundAwayTo_lt_rounded_iff {m t : ℚ} (hm : roundAwayTo 2 m = m) (ht : 0 ≤ t) :
    roundAwayTo 2 t < m ↔ t + 1 / 200 < m := by
  obtain ⟨n, hn⟩ := roundAwayTo_eq_iff.mp hm
  have hdiv : m = n / 10 ^ 2 := by rw [← hn, mul_div_cancel_right₀ m (pow_pos_ten 2).ne']
  rcases lt_or_ge 0 n with hpos | hneg
  · rw [hdiv, roundAwayTo_lt_iff hpos]
    constructor <;> intro h <;> linarith
  · have hle : m ≤ 0 := by
      have hcast : (n : ℚ) ≤ 0 := by exact_mod_cast hneg
      linarith
    exact iff_of_false (hle.trans (roundAwayTo_nonneg ht)).not_gt (by linarith)

/-- **A trace shows its verdict** just when rounding changes neither the time nor its relation to
the threshold. -/
theorem selfConsistent_iff (h : calculateAndTrace now evaluatedAt input = .ok result)
    (hthreshold : 0 ≤ input.thresholdMinutes) : SelfConsistent result ↔ Unrounded now input := by
  have hbreached : (decision now input).2 = true ↔ input.thresholdMinutes < mttrMinutes now input :=
    breached_iff hthreshold
  rw [calculateAndTrace_spec h]
  constructor
  · intro hself
    have hrounded : roundAwayTo 2 (mttrMinutes now input) = mttrMinutes now input :=
      hself.returned.1.symm
    have hrow := hbreached.symm.trans hself.row
    rw [hrounded, roundAwayTo_lt_rounded_iff hrounded hthreshold] at hrow
    exact ⟨roundAwayTo_mttrMinutes_iff.mp hrounded,
      fun ⟨hlt, hle⟩ => hle.not_gt (hrow.mp hlt)⟩
  · rintro ⟨hdvd, hgap⟩
    have hrounded : roundAwayTo 2 (mttrMinutes now input) = mttrMinutes now input :=
      roundAwayTo_mttrMinutes_iff.mpr hdvd
    have hfixed : toFixed2 (mttrMinutes now input) = mttrMinutes now input := toFixed2_eq hrounded
    -- a time above the threshold is more than half a hundredth above it
    have hfar : input.thresholdMinutes < mttrMinutes now input ↔
        input.thresholdMinutes + 1 / 200 < mttrMinutes now input :=
      ⟨fun hlt => not_le.mp fun hle => hgap ⟨hlt, hle⟩, fun hlt => by linarith⟩
    refine ⟨⟨rfl, rfl⟩, hbreached.trans ?row, hbreached.trans ?payload, hbreached.trans ?difference,
      hrounded.symm, hfixed.symm⟩
    case row =>
      dsimp only
      rw [hrounded, roundAwayTo_lt_rounded_iff hrounded hthreshold]
      exact hfar
    case payload =>
      dsimp only [createSlaTraceDto, tracePayload]
      rw [hfixed]
    case difference =>
      dsimp only [createSlaTraceDto, tracePayload]
      rw [toFixed2_pos_iff]
      exact ⟨fun hlt => by linarith [hfar.mp hlt], fun hle => by linarith⟩

/-- An incident with a threshold of an hour that is resolved after one hour and a millisecond. -/
def oneMillisecondLate : SlaCalculationInput where
  incidentId := "INC-1"
  severity := "critical"
  thresholdMinutes := 60
  resolvedAt := some ⟨1767225600000 + 3600001, by decide⟩
  openedAt := ⟨1767225600000, by decide⟩

/-- An incident with the same threshold that is resolved after 59.5 minutes. -/
def inTime : SlaCalculationInput :=
  { oneMillisecondLate with resolvedAt := some ⟨1767225600000 + 3570000, by decide⟩ }

def midnight : Date := ⟨1767312000000, by decide⟩

example : midnight.toISOString = "2026-01-02T00:00:00.000Z" := by decide +kernel

/-- The row of the first one says that 60.00 minutes breach a threshold of 60.00. -/
theorem one_millisecond_late_not_shown :
    ∃ result, calculateAndTrace midnight midnight oneMillisecondLate = .ok result ∧
      result.trace.slaBreached = true ∧ result.trace.mttrMinutes = 60 ∧
      result.trace.thresholdMinutes = 60 ∧
      result.trace.tracePayload.computation.differenceMinutes = 0 ∧ ¬ SelfConsistent result := by
  cases h : calculateAndTrace midnight midnight oneMillisecondLate with
  | error e =>
    have hok : (calculateAndTrace midnight midnight oneMillisecondLate).toBool = true := by
      decide +kernel
    rw [h] at hok
    cases hok
  | ok result =>
    have hresult := calculateAndTrace_spec h
    have hbreached : result.trace.slaBreached = true := by
      rw [hresult]
      decide +kernel
    have hmttr : result.trace.mttrMinutes = 60 := by
      rw [hresult]
      decide +kernel
    have hthreshold : result.trace.thresholdMinutes = 60 := by
      rw [hresult]
      decide +kernel
    refine ⟨result, rfl, hbreached, hmttr, hthreshold, ?_, fun hself => ?_⟩
    · rw [hresult]
      decide +kernel
    · have hlt := hself.row.mp hbreached
      rw [hmttr, hthreshold] at hlt
      exact lt_irrefl _ hlt

theorem selfConsistent_iff_inTime :
    ∃ result, calculateAndTrace midnight midnight inTime = .ok result ∧
      (SelfConsistent result ↔ Unrounded midnight inTime) := by
  cases h : calculateAndTrace midnight midnight inTime with
  | error e =>
    have hok : (calculateAndTrace midnight midnight inTime).toBool = true := by decide +kernel
    rw [h] at hok
    cases hok
  | ok result => exact ⟨result, rfl, selfConsistent_iff h (by decide +kernel)⟩

end SlaTrace

end NocIq
