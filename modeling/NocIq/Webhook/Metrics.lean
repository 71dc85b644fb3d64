import NocIq.Lib.Rounding
import NocIq.Webhook.Recovery

/-!
# NocIq — metrics of the delivery

The partition counts and the SLO window that a process of `app/services/webhook_service.py` keeps
in memory, and `dispatch_delivery` with what it records there. It records only what it has
committed, and in its branch for terminal failures it records a success.

* **`report_eq`** — what a dispatch records, from its attempt and the row alone.
* **`dispatch_cases`** — a dispatch in such a process.
-/

namespace NocIq

structure WebhookMetricsSettings where
  partitionBackpressureThreshold : Int := 500
  sloSuccessTarget : ℚ := 999 / 1000
  sloLatencyTargetMs : Int := 5000
  sloBurnRateThreshold : ℚ := 2
  sloWindowSeconds : Int := 3600
  sloBudgetBurnAlertPercent : ℚ := 50
  deriving DecidableEq, Repr

/-! ## Partitions -/

/-- `_partition_lag`, `_partition_throughput` and `_partition_last_recorded`. -/
structure PartitionMetrics where
  lag : Nat → Nat := fun _ => 0
  throughput : Nat → Nat := fun _ => 0
  lastRecorded : Nat → Option Time := fun _ => none

def recordPartitionMetrics (partitionId : Nat) (success : Bool) (now : Time)
    (m : PartitionMetrics) : PartitionMetrics where
  lag :=
    Function.update m.lag partitionId (max 0 (m.lag partitionId + if success then 0 else 1))
  throughput := Function.update m.throughput partitionId (m.throughput partitionId + 1)
  lastRecorded := Function.update m.lastRecorded partitionId (some now)

def getPartitionPendingCount (m : PartitionMetrics) (partitionId : Nat) : Nat := m.lag partitionId

def isBackpressured (settings : WebhookMetricsSettings) (m : PartitionMetrics)
    (partitionId : Nat) : Bool :=
  decide ((getPartitionPendingCount m partitionId : Int) ≥ settings.partitionBackpressureThreshold)

/-! ## The SLO window -/

structure SloObservation where
  timestamp : Time
  success : Bool
  latencyMs : ℚ
  event : String
  endpoint : String
  deriving DecidableEq, Repr

def sloCutoff (settings : WebhookMetricsSettings) (now : Time) : Time :=
  now - settings.sloWindowSeconds * 1000000

/-- The eviction starts at the oldest entry and stops at the first one that stays. -/
def recordSloObservation (settings : WebhookMetricsSettings) (o : SloObservation)
    (window : List SloObservation) : List SloObservation :=
  window.dropWhile (fun x => decide (x.timestamp < sloCutoff settings o.timestamp)) ++ [o]

/-- The numbers of one event type or one endpoint. -/
structure SloStats where
  total : Nat := 0
  successes : Nat := 0
  latencies : List ℚ := []

def SloStats.add (o : SloObservation) (stats : SloStats) : SloStats where
  total := stats.total + 1
  successes := if o.success then stats.successes + 1 else stats.successes
  latencies := stats.latencies ++ [o.latencyMs]

/-- The loop body of the breakdowns, on a dictionary in the order of its insertions. -/
def tally (key : String) (o : SloObservation) :
    List (String × SloStats) → List (String × SloStats)
  | [] => [(key, SloStats.add o {})]
  | (name, stats) :: groups =>
    if name = key then (name, stats.add o) :: groups
    else (name, stats) :: tally key o groups

def breakdown (key : SloObservation → String) (window : List SloObservation) :
    List (String × SloStats) :=
  window.foldl (fun groups o => tally (key o) o groups) []

def sortedLatencies (latencies : List ℚ) : List ℚ := latencies.mergeSort fun a b => decide (a ≤ b)

/-- `latencies[int(len(latencies) * q)]`. -/
def percentile (q : ℚ) (latencies : List ℚ) : ℚ :=
  latencies.getD (⌊(latencies.length : ℚ) * q⌋).toNat 0

def average (latencies : List ℚ) : ℚ := latencies.sum / latencies.length

structure SloEventMetrics where
  total : Nat
  successRate : ℚ
  avgLatencyMs : ℚ
  p95LatencyMs : ℚ

structure SloEndpointMetrics where
  total : Nat
  successRate : ℚ

def SloStats.successRate (stats : SloStats) : ℚ :=
  Rounding.roundTo 4 ((stats.successes : ℚ) / stats.total)

def SloStats.eventMetrics (stats : SloStats) : SloEventMetrics :=
  let latencies := sortedLatencies stats.latencies
  { total := stats.total
    successRate := stats.successRate
    avgLatencyMs := Rounding.roundTo 2 (average latencies)
    p95LatencyMs :=
      if latencies.length > 1 then Rounding.roundTo 2 (percentile (95 / 100) latencies) else 0 }

def SloStats.endpointMetrics (stats : SloStats) : SloEndpointMetrics where
  total := stats.total
  successRate := stats.successRate

structure SloMetrics where
  totalDeliveries : Nat
  successes : Nat
  successRate : ℚ
  avgLatencyMs : ℚ
  p95LatencyMs : ℚ
  p99LatencyMs : ℚ
  errorBudget : ℚ
  actualErrorRate : ℚ
  burnRate : ℚ
  budgetRemainingPct : ℚ
  burnRateAlert : Bool
  budgetBurnAlert : Bool
  latencyBreach : Bool
  perEvent : List (String × SloEventMetrics)
  perEndpoint : List (String × SloEndpointMetrics)

/-- `get_slo_metrics`; `none` is the answer `no_data`. -/
def getSloMetrics (settings : WebhookMetricsSettings) (now : Time)
    (sloWindow : List SloObservation) : Option SloMetrics :=
  let window := sloWindow.filter fun o => decide (o.timestamp ≥ sloCutoff settings now)
  if window = [] then none
  else
    let successes := window.countP SloObservation.success
    let latencies := sortedLatencies (window.map SloObservation.latencyMs)
    let successRate : ℚ := successes / window.length
    let errorBudget := 1 - settings.sloSuccessTarget
    let actualErrorRate := 1 - successRate
    let burnRate := if errorBudget > 0 then actualErrorRate / errorBudget else 0
    let budgetConsumed := if errorBudget > 0 then min 1 (actualErrorRate / errorBudget) else 1
    let budgetRemainingPct := max 0 ((1 - budgetConsumed) * 100)
    some
      { totalDeliveries := window.length
        successes
        successRate := Rounding.roundTo 6 successRate
        avgLatencyMs := Rounding.roundTo 2 (average latencies)
        p95LatencyMs := Rounding.roundTo 2 (percentile (95 / 100) latencies)
        p99LatencyMs := Rounding.roundTo 2 (percentile (99 / 100) latencies)
        errorBudget := Rounding.roundTo 6 errorBudget
        actualErrorRate := Rounding.roundTo 6 actualErrorRate
        burnRate := Rounding.roundTo 4 burnRate
        budgetRemainingPct := Rounding.roundTo 2 budgetRemainingPct
        burnRateAlert := decide (burnRate ≥ settings.sloBurnRateThreshold)
        budgetBurnAlert := decide (budgetRemainingPct ≤ settings.sloBudgetBurnAlertPercent)
        latencyBreach := decide (percentile (95 / 100) latencies > settings.sloLatencyTargetMs)
        perEvent := (breakdown SloObservation.event window).map fun g => (g.1, g.2.eventMetrics)
        perEndpoint :=
          (breakdown SloObservation.endpoint window).map fun g => (g.1, g.2.endpointMetrics) }

/-! ## Dispatching with metrics -/

/-- A process, with the database. -/
structure MeteredProcess where
  store : WebhookStore
  partitions : PartitionMetrics := {}
  sloWindow : List SloObservation := []

/-- The `success` that a dispatch records; `none` if it raises. The branch of the terminal failures
records `True`. -/
def report (env : WebhookEnv) (webhook : Webhook) (attempt : Attempt) (d : WebhookDelivery) :
    Option Bool :=
  let begun := beginDispatch attempt.started d
  match buildHeaders env attempt.started webhook begun with
  | none => none
  | some _ =>
    (attemptDelivery attempt.outcome begun).map fun result =>
      if result.1 then true
      else if isTerminal result.2.responseStatusCode then true
      else false

def MeteredProcess.record (env : WebhookEnv) (settings : WebhookMetricsSettings)
    (webhook : Webhook) (attempt : Attempt) (d : WebhookDelivery) (success : Bool)
    (p : MeteredProcess) : MeteredProcess :=
  { p with
    partitions :=
      recordPartitionMetrics (getPartitionForWebhook env.settings webhook) success
        attempt.finished p.partitions
    sloWindow :=
      recordSloObservation settings
        { timestamp := attempt.finished
          success
          latencyMs := ((attempt.finished - attempt.started : Int) : ℚ) / 1000
          event := d.event.value
          endpoint := webhook.url } p.sloWindow }

@[simp] theorem MeteredProcess.record_store (env : WebhookEnv)
    (settings : WebhookMetricsSettings) (webhook : Webhook) (attempt : Attempt)
    (d : WebhookDelivery) (success : Bool) (p : MeteredProcess) :
    (p.record env settings webhook attempt d success).store = p.store := rfl

/-- `dispatch_delivery`. -/
def MeteredProcess.dispatch (env : WebhookEnv) (settings : WebhookMetricsSettings)
    (deliveryId : UUID) (attempt : Attempt) (p : MeteredProcess) : MeteredProcess :=
  let dispatched := { p with store := (dispatchDelivery env deliveryId attempt p.store).2 }
  match p.store.row deliveryId with
  | none => dispatched
  | some d =>
    match p.store.webhook d.webhookId with
    | none => dispatched
    | some webhook =>
      match report env webhook attempt d with
      | none => dispatched
      | some success => dispatched.record env settings webhook attempt d success

/-- What happens in the process: a delivery is created, or dispatched. -/
inductive MeteredEvent where
  | create (d : WebhookDelivery)
  | dispatch (deliveryId : UUID) (attempt : Attempt)

def MeteredProcess.step (env : WebhookEnv) (settings : WebhookMetricsSettings)
    (p : MeteredProcess) : MeteredEvent → MeteredProcess
  | .create d =>
    if TriggerCall.conflicts d p.store then p
    else
      { p with
        store :=
          { p.store with deliveries := p.store.deliveries ++ [{ d with status := .pending }] } }
  | .dispatch deliveryId attempt => p.dispatch env settings deliveryId attempt

abbrev MeteredRun (env : WebhookEnv) (settings : WebhookMetricsSettings) :=
  Runs.Run fun (p : MeteredProcess) e p' => p.step env settings e = p'

variable {env : WebhookEnv} {settings : WebhookMetricsSettings} {p : MeteredProcess} {id : UUID}
  {d : WebhookDelivery} {w : Webhook} {attempt : Attempt}

/-! ## What a dispatch records -/

/-- The attempt ends with a failure that may pass: no terminal status code is on the row. -/
def FailsForNow (attempt : Attempt) (d : WebhookDelivery) : Prop :=
  attempt.outcome.fails = true ∧ isTerminal (attempt.outcome.codeAfter d) = false

/-- The attempt ends in the branch of the terminal failures. -/
def FailsTerminally (attempt : Attempt) (d : WebhookDelivery) : Prop :=
  attempt.outcome.fails = true ∧ isTerminal (attempt.outcome.codeAfter d) = true

instance (attempt : Attempt) (d : WebhookDelivery) : Decidable (FailsForNow attempt d) :=
  inferInstanceAs (Decidable (_ ∧ _))

instance (attempt : Attempt) (d : WebhookDelivery) : Decidable (FailsTerminally attempt d) :=
  inferInstanceAs (Decidable (_ ∧ _))

/-- **What a dispatch records**: a failure exactly if the attempt fails for now. -/
theorem report_eq (env : WebhookEnv) (w : Webhook) (attempt : Attempt) (d : WebhookDelivery) :
    report env w attempt d =
      if Raises (some w) attempt d then none else some (decide (¬ FailsForNow attempt d)) := by
  let begun := beginDispatch attempt.started d
  have hcode : attempt.outcome.codeAfter begun = attempt.outcome.codeAfter d := by
    cases attempt.outcome <;> rfl
  have hunsignable : buildHeaders env attempt.started w begun = none ↔ Unsignable w d :=
    buildHeaders_eq_none_iff env attempt.started w begun
  unfold report
  dsimp only
  cases hheaders : buildHeaders env attempt.started w begun with
  | none =>
    have hraises : Raises (some w) attempt d := by
      intro v hv
      rw [← Option.some.inj hv]
      exact .inl (hunsignable.mp hheaders)
    rw [if_pos hraises]
  | some headers =>
    have hsignable : ¬ Unsignable w d := by
      intro h
      rw [hunsignable.mpr h] at hheaders
      cases hheaders
    by_cases houtcome : attempt.outcome = .raised
    · have hraises : Raises (some w) attempt d := fun v _ => .inr houtcome
      rw [if_pos hraises, houtcome]
      rfl
    · have hraises : ¬ Raises (some w) attempt d := by
        intro h
        exact (h w rfl).elim hsignable houtcome
      obtain ⟨d', hattempt, -, hafter⟩ := attemptDelivery_eq houtcome begun
      rw [if_neg hraises, hattempt]
      dsimp only [Option.map_some]
      rw [hafter, hcode]
      by_cases hfails : attempt.outcome.fails = true
      · by_cases hterminal : isTerminal (attempt.outcome.codeAfter d) = true
        · simp [FailsForNow, hfails, hterminal]
        · simp [FailsForNow, hfails, hterminal]
      · simp [FailsForNow, hfails]

/-! ## The steps of a process -/

/-- The attempt of a dispatch, with its webhook and the row before it, if it does not raise. -/
structure Completes (s : WebhookStore) (id : UUID) (attempt : Attempt) (d : WebhookDelivery)
    (w : Webhook) : Prop where
  row : s.row id = some d
  webhook : s.webhook d.webhookId = some w
  answered : ¬ Raises (some w) attempt d

/-- **A dispatch in a process** completes its attempt and records it, or raises, or finds no
delivery; then it records nothing. -/
theorem dispatch_cases (env : WebhookEnv) (settings : WebhookMetricsSettings) (id : UUID)
    (attempt : Attempt) (p : MeteredProcess) :
    (∃ d w, Completes p.store id attempt d w ∧
        p.dispatch env settings id attempt =
          MeteredProcess.record env settings w attempt d (decide (¬ FailsForNow attempt d))
            { p with store := (dispatchDelivery env id attempt p.store).2 }) ∨
      (∀ d w, ¬ Completes p.store id attempt d w) ∧
        p.dispatch env settings id attempt =
          { p with store := (dispatchDelivery env id attempt p.store).2 } := by
  unfold MeteredProcess.dispatch
  dsimp only
  cases hrow : p.store.row id with
  | none =>
    refine .inr ⟨?_, rfl⟩
    intro d w h
    rw [h.row] at hrow
    cases hrow
  | some d =>
    dsimp only
    cases hwebhook : p.store.webhook d.webhookId with
    | none =>
      refine .inr ⟨?_, rfl⟩
      intro d' w h
      obtain rfl := Option.some.inj (hrow.symm.trans h.row)
      rw [h.webhook] at hwebhook
      cases hwebhook
    | some w =>
      dsimp only
      rw [report_eq]
      split
      · rename_i hnone
        refine .inr ⟨?_, rfl⟩
        intro d' w' h
        obtain rfl := Option.some.inj (hrow.symm.trans h.row)
        obtain rfl := Option.some.inj (hwebhook.symm.trans h.webhook)
        rw [if_neg h.answered] at hnone
        cases hnone
      · rename_i success hsome
        have hraises : ¬ Raises (some w) attempt d := by
          intro h
          rw [if_pos h] at hsome
          cases hsome
        rw [if_neg hraises] at hsome
        rw [← Option.some.inj hsome]
        exact .inl ⟨d, w, ⟨hrow, hwebhook, hraises⟩, rfl⟩

def queued : WebhookDelivery := storedDelivery 7 5 .pending

end NocIq
