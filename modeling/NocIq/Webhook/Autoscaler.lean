import NocIq.Lib.LastWrite
import Mathlib.Algebra.GroupWithZero.Nat
import Mathlib.Algebra.Order.Ring.Rat

/-!
# NocIq — the autoscaler of the webhook workers

`WebhookAutoscaler` of `app/tasks/webhook_autoscaler.py`. A check reads the queues and the number of
workers, and takes the lock only to write its decision, so that two checks may overlap: the second
one decides on a number that the first one is about to replace.

* **`autoscaler_of_run`** — in every interleaving of checks the number of workers stays within its
  bounds, the partitions keep theirs, and the last event is the last change that was decided.
* **`workers_after_streak`** — where checks in a row lead, and how fast.
-/

namespace NocIq

/-- Without a partition the module does not load: the share of each is a division by their number. -/
structure AutoscalerSettings where
  webhookWorkerMin : Int := 1
  webhookWorkerMax : Int := 10
  webhookQueueScaleUpThreshold : Nat := 100
  webhookQueueScaleDownThreshold : Nat := 10
  webhookPartitionCount : Nat := 4
  webhookSlaPriorityPartition : Nat := 0
  partitions_pos : 0 < webhookPartitionCount := by decide

inductive ScaleAction where
  | none
  | scaleUp
  | atMax
  | scaleDown
  | atMin
  deriving DecidableEq, Repr

/-- `action in ("scale_up", "scale_down")`. -/
def ScaleAction.scales : ScaleAction → Bool
  | .scaleUp => true
  | .scaleDown => true
  | _ => false

structure PartitionReport where
  depth : Nat
  workers : Int
  deriving DecidableEq, Repr

structure ScaleEvent where
  action : ScaleAction
  totalQueueDepth : Nat
  maxPartitionDepth : Nat
  previousWorkers : Int
  currentWorkers : Int
  partitions : List (Nat × PartitionReport)
  timestamp : ℚ
  deriving DecidableEq, Repr

/-- One reading of `_get_queue_depth` for each partition: the length of its queue, or 0 if Redis is
unavailable or raises. -/
abbrev QueueDepths := Nat → Nat

/-- What a check has decided when it asks for the lock. -/
structure ScaleDecision where
  action : ScaleAction
  totalQueueDepth : Nat
  maxPartitionDepth : Nat
  previousWorkers : Int
  newWorkers : Int
  deriving DecidableEq, Repr

/-- `deciding` is the check that a thread is in. -/
structure WebhookAutoscaler where
  currentWorkers : Int
  partitionWorkers : Nat → Option Int
  lastScaleEvent : Option ScaleEvent := none
  deciding : Nat → Option ScaleDecision := fun _ => none

/-- The two halves of `check_and_signal`, by the thread that runs it. -/
inductive CheckStep where
  | decide (thread : Nat) (forTotal forMax : QueueDepths)
  | commit (thread : Nat) (forEvent : QueueDepths) (now : ℚ)

namespace WebhookAutoscaler

variable (settings : AutoscalerSettings)

/-! ## A check -/

def initPartitionWorkers : Nat → Option Int := fun pid =>
  let base := max 1 (settings.webhookWorkerMin / settings.webhookPartitionCount)
  if pid < settings.webhookPartitionCount then
    if pid = settings.webhookSlaPriorityPartition then some (base + 1) else some base
  else none

def init : WebhookAutoscaler where
  currentWorkers := settings.webhookWorkerMin
  partitionWorkers := initPartitionWorkers settings

def getTotalQueueDepth (depths : QueueDepths) : Nat :=
  ((List.range settings.webhookPartitionCount).map depths).sum

def maxPartitionDepth (depths : QueueDepths) : Nat :=
  ((List.range settings.webhookPartitionCount).map depths).foldl max 0

/-- Up to the lock. -/
def decision (workerCount : Int) (forTotal forMax : QueueDepths) : ScaleDecision :=
  let totalQueueDepth := getTotalQueueDepth settings forTotal
  let maxPartitionDepth := maxPartitionDepth settings forMax
  let decided (action : ScaleAction) (newWorkers : Int) : ScaleDecision :=
    { action, totalQueueDepth, maxPartitionDepth, previousWorkers := workerCount, newWorkers }
  if settings.webhookQueueScaleUpThreshold < maxPartitionDepth then
    let newWorkers := min (workerCount + 2) settings.webhookWorkerMax
    decided (if workerCount < newWorkers then .scaleUp else .atMax) newWorkers
  else if totalQueueDepth < settings.webhookQueueScaleDownThreshold then
    let newWorkers := max (workerCount - 1) settings.webhookWorkerMin
    decided (if newWorkers < workerCount then .scaleDown else .atMin) newWorkers
  else decided .none workerCount

def report (d : ScaleDecision) (forEvent : QueueDepths) (now : ℚ) (s : WebhookAutoscaler) :
    ScaleEvent where
  action := d.action
  totalQueueDepth := d.totalQueueDepth
  maxPartitionDepth := d.maxPartitionDepth
  previousWorkers := d.previousWorkers
  currentWorkers := d.newWorkers
  partitions := (List.range settings.webhookPartitionCount).map fun pid =>
    (pid, { depth := forEvent pid, workers := (s.partitionWorkers pid).getD 1 })
  timestamp := now

def commit (d : ScaleDecision) (forEvent : QueueDepths) (now : ℚ) (s : WebhookAutoscaler) :
    WebhookAutoscaler :=
  { s with
    currentWorkers := d.newWorkers
    lastScaleEvent :=
      if d.action.scales then some (report settings d forEvent now s) else s.lastScaleEvent }

/-- A thread in a check does not begin another one. -/
def step (s : WebhookAutoscaler) : CheckStep → WebhookAutoscaler
  | .decide thread forTotal forMax =>
    match s.deciding thread with
    | none =>
      let d := decision settings s.currentWorkers forTotal forMax
      { s with deciding := Function.update s.deciding thread (some d) }
    | some _ => s
  | .commit thread forEvent now =>
    match s.deciding thread with
    | none => s
    | some d =>
      { commit settings d forEvent now s with deciding := Function.update s.deciding thread none }

abbrev Run := Runs.Run fun s e s' => step settings s e = s'

/-- A whole check, with no other one in between. -/
def checkAndSignal (forTotal forMax forEvent : QueueDepths) (now : ℚ) (s : WebhookAutoscaler) :
    WebhookAutoscaler :=
  commit settings (decision settings s.currentWorkers forTotal forMax) forEvent now s

/-! ## What holds in every state -/

def InBounds (n : Int) : Prop := settings.webhookWorkerMin ≤ n ∧ n ≤ settings.webhookWorkerMax

/-- What a decision is: at most two workers more than the number it was made on if a partition is
overloaded, and then at the upper bound at most; one fewer if all queues are short; else the same.
Its action says which way the number goes. -/
structure Sound (d : ScaleDecision) : Prop where
  bounds : InBounds settings d.newWorkers
  scaleUp : d.action = .scaleUp ↔ d.previousWorkers < d.newWorkers
  scaleDown : d.action = .scaleDown ↔ d.newWorkers < d.previousWorkers
  atMost : d.previousWorkers - 1 ≤ d.newWorkers ∧ d.newWorkers ≤ d.previousWorkers + 2
  overloaded : settings.webhookQueueScaleUpThreshold < d.maxPartitionDepth →
    d.newWorkers = min (d.previousWorkers + 2) settings.webhookWorkerMax
  idle : d.maxPartitionDepth ≤ settings.webhookQueueScaleUpThreshold →
    d.totalQueueDepth < settings.webhookQueueScaleDownThreshold →
      d.newWorkers = max (d.previousWorkers - 1) settings.webhookWorkerMin

structure AutoscalerInvariant (s : WebhookAutoscaler) : Prop where
  bounds : InBounds settings s.currentWorkers
  partitions : s.partitionWorkers = initPartitionWorkers settings
  deciding : ∀ thread d, s.deciding thread = some d → Sound settings d

variable {settings} {s : WebhookAutoscaler}

theorem decision_sound {n : Int} (h : InBounds settings n) (forTotal forMax : QueueDepths) :
    Sound settings (decision settings n forTotal forMax) := by
  obtain ⟨hmin, hmax⟩ := h
  unfold decision
  dsimp only
  split
  · rename_i hhot
    have hle : n ≤ min (n + 2) settings.webhookWorkerMax := le_min (by omega) hmax
    have htwo := min_le_left (n + 2) settings.webhookWorkerMax
    refine ⟨⟨hmin.trans hle, min_le_right _ _⟩, ?_, ?_, ⟨?_, htwo⟩, fun _ => rfl, ?_⟩
    · dsimp only
      split
      · rename_i hup
        exact iff_of_true rfl hup
      · rename_i hnot
        exact iff_of_false (by simp) hnot
    · dsimp only
      refine iff_of_false ?_ (not_lt.mpr hle)
      split
      · simp
      · simp
    · dsimp only
      omega
    · intro hcool
      exact absurd hhot (not_lt.mpr hcool)
  · rename_i hcool
    split
    · have hle : max (n - 1) settings.webhookWorkerMin ≤ n := max_le (by omega) hmin
      have hone := le_max_left (n - 1) settings.webhookWorkerMin
      refine ⟨⟨le_max_right _ _, hle.trans hmax⟩, ?_, ?_, ⟨hone, ?_⟩, ?_, fun _ _ => rfl⟩
      · dsimp only
        refine iff_of_false ?_ (not_lt.mpr hle)
        split
        · simp
        · simp
      · dsimp only
        split
        · rename_i hdown
          exact iff_of_true rfl hdown
        · rename_i hnot
          exact iff_of_false (by simp) hnot
      · dsimp only
        omega
      · intro hhot
        exact absurd hhot hcool
    · rename_i hbusy
      refine ⟨⟨hmin, hmax⟩, iff_of_false (by simp) (lt_irrefl n), iff_of_false (by simp) (lt_irrefl n),
        ⟨?_, ?_⟩, ?_, ?_⟩
      · dsimp only
        omega
      · dsimp only
        omega
      · intro hhot
        exact absurd hhot hcool
      · intro _ hidle
        exact absurd hidle hbusy

theorem invariant_init (h : settings.webhookWorkerMin ≤ settings.webhookWorkerMax) :
    AutoscalerInvariant settings (init settings) where
  bounds := ⟨le_rfl, h⟩
  partitions := rfl
  deciding _ _ hd := by cases hd

theorem invariant_step (h : AutoscalerInvariant settings s) (e : CheckStep) :
    AutoscalerInvariant settings (step settings s e) := by
  cases e with
  | decide thread forTotal forMax =>
    unfold step
    dsimp only
    split
    · refine ⟨h.bounds, h.partitions, ?_⟩
      intro u d hd
      dsimp only at hd
      by_cases hu : u = thread
      · rw [hu, Function.update_self] at hd
        obtain rfl := Option.some.inj hd
        exact decision_sound h.bounds forTotal forMax
      · rw [Function.update_of_ne hu] at hd
        exact h.deciding u d hd
    · exact h
  | commit thread forEvent now =>
    unfold step
    dsimp only
    split
    · exact h
    · rename_i d hd
      refine ⟨(h.deciding thread d hd).bounds, h.partitions, ?_⟩
      intro u d' hd'
      dsimp only at hd'
      by_cases hu : u = thread
      · rw [hu, Function.update_self] at hd'
        cases hd'
      · rw [Function.update_of_ne hu] at hd'
        exact h.deciding u d' hd'

/-! ## The last event -/

/-- The step writes the decision of its thread, and the number of workers changes by it. -/
structure Scales (settings : AutoscalerSettings) (x : WebhookAutoscaler × CheckStep)
    (event : ScaleEvent) : Prop where
  scaled : ∃ thread forEvent now d, x.2 = .commit thread forEvent now ∧
    x.1.deciding thread = some d ∧ d.action.scales = true ∧
    event = report settings d forEvent now x.1

theorem lastScaleEvent_iff {t : WebhookAutoscaler} {steps : List (WebhookAutoscaler × CheckStep)}
    (hrun : Run settings (init settings) steps t) (event : ScaleEvent) :
    t.lastScaleEvent = some event ↔
      Runs.LastWritten (Scales settings) steps event := by
  refine hrun.register_iff (r := lastScaleEvent) rfl ?_ ?_
  · rintro s e s' rfl event ⟨thread, forEvent, now, d, rfl, hd, hscales, rfl⟩
    dsimp only at hd
    unfold step
    dsimp only
    rw [hd]
    exact if_pos hscales
  · rintro s e s' rfl hnot
    unfold step
    cases e with
    | decide thread forTotal forMax =>
      dsimp only
      split
      · rfl
      · rfl
    | commit thread forEvent now =>
      dsimp only
      split
      · rfl
      · rename_i d hd
        refine if_neg fun hscales => ?_
        exact hnot _ ⟨thread, forEvent, now, d, rfl, hd, hscales, rfl⟩

/-- **The autoscaler**, whatever checks overlap: the number of workers stays within its bounds, each
decision is sound, and the last event is that of the last change; a change leaves the number its
event names, and never the one the decision was made on. -/
theorem autoscaler_of_run (hbounds : settings.webhookWorkerMin ≤ settings.webhookWorkerMax)
    {t : WebhookAutoscaler} {steps : List (WebhookAutoscaler × CheckStep)}
    (hrun : Run settings (init settings) steps t) :
    (∀ s ∈ Runs.visited steps t, AutoscalerInvariant settings s) ∧
      (∀ event, t.lastScaleEvent = some event ↔ Runs.LastWritten (Scales settings) steps event) ∧
      ∀ x ∈ steps, ∀ event, Scales settings x event →
        (step settings x.1 x.2).currentWorkers = event.currentWorkers ∧
          event.currentWorkers ≠ event.previousWorkers := by
  have hvisited := hrun.invariant_visited (invariant_init hbounds) (by
    rintro s e s' hs rfl
    exact invariant_step hs e)
  refine ⟨hvisited, lastScaleEvent_iff hrun, ?_⟩
  rintro ⟨s, e⟩ hx event ⟨thread, forEvent, now, d, rfl, hd, hscales, rfl⟩
  have hsound := ((Runs.forall_mem_visited.mp hvisited).1 _ hx).deciding thread d hd
  dsimp only at hd
  refine ⟨?_, ?_⟩
  · unfold step
    dsimp only
    rw [hd]
    rfl
  · -- a decision that scales names two different numbers
    show d.newWorkers ≠ d.previousWorkers
    cases haction : d.action with
    | scaleUp => exact ne_of_gt (hsound.scaleUp.mp haction)
    | scaleDown => exact ne_of_lt (hsound.scaleDown.mp haction)
    | none =>
      rw [haction] at hscales
      cases hscales
    | atMax =>
      rw [haction] at hscales
      cases hscales
    | atMin =>
      rw [haction] at hscales
      cases hscales

def defaults : AutoscalerSettings := {}

def busy : QueueDepths := fun _ => 200

/-- The second check decides before the first one has written. -/
def overlappingChecks : List CheckStep :=
  [.decide 1 busy busy, .decide 2 busy busy, .commit 1 busy 0, .commit 2 busy 1]

theorem overlapping_checks_in_bounds :
    AutoscalerInvariant defaults (overlappingChecks.foldl (step defaults) (init defaults)) :=
  (autoscaler_of_run (by decide)
    (Runs.replay_run (step defaults) (init defaults) overlappingChecks)).1 _
    (List.mem_append_right _ List.mem_cons_self)

/-! ## Checks in a row -/

/-- The readings of a check that no other one overlaps. -/
structure Check where
  forTotal : QueueDepths
  forMax : QueueDepths
  forEvent : QueueDepths
  now : ℚ

def check (settings : AutoscalerSettings) (s : WebhookAutoscaler) (c : Check) : WebhookAutoscaler :=
  checkAndSignal settings c.forTotal c.forMax c.forEvent c.now s

theorem check_eq (thread : Nat) (c : Check) (hfree : s.deciding thread = none) :
    step settings (step settings s (.decide thread c.forTotal c.forMax))
      (.commit thread c.forEvent c.now) = check settings s c := by
  unfold step
  dsimp only
  rw [hfree]
  dsimp only
  rw [Function.update_self]
  unfold check checkAndSignal commit report
  dsimp only
  rw [Function.update_idem, ← hfree, Function.update_eq_self]

def Check.Hot (settings : AutoscalerSettings) (c : Check) : Prop :=
  settings.webhookQueueScaleUpThreshold < maxPartitionDepth settings c.forMax

/-- No partition is overloaded, and all of them together hold little. -/
def Check.Quiet (settings : AutoscalerSettings) (c : Check) : Prop :=
  maxPartitionDepth settings c.forMax ≤ settings.webhookQueueScaleUpThreshold ∧
    getTotalQueueDepth settings c.forTotal < settings.webhookQueueScaleDownThreshold

theorem workers_hot {c : Check} (h : c.Hot settings) :
    (check settings s c).currentWorkers = min (s.currentWorkers + 2) settings.webhookWorkerMax := by
  show (decision settings s.currentWorkers c.forTotal c.forMax).newWorkers = _
  unfold decision
  exact congrArg ScaleDecision.newWorkers (if_pos h)

theorem workers_quiet {c : Check} (h : c.Quiet settings) :
    (check settings s c).currentWorkers = max (s.currentWorkers - 1) settings.webhookWorkerMin := by
  show (decision settings s.currentWorkers c.forTotal c.forMax).newWorkers = _
  unfold decision
  exact congrArg ScaleDecision.newWorkers ((if_neg (not_lt.mpr h.1)).trans (if_pos h.2))

/-- **Checks in a row.** While some partition is overloaded every check adds two workers up to the
bound; while all queues are short every check takes one away. Induction on the checks. -/
theorem workers_after_streak (h : InBounds settings s.currentWorkers) (cs : List Check) :
    ((∀ c ∈ cs, c.Hot settings) → (cs.foldl (check settings) s).currentWorkers =
      min (s.currentWorkers + 2 * cs.length) settings.webhookWorkerMax) ∧
    ((∀ c ∈ cs, c.Quiet settings) → (cs.foldl (check settings) s).currentWorkers =
      max (s.currentWorkers - cs.length) settings.webhookWorkerMin) := by
  induction cs generalizing s with
  | nil =>
    obtain ⟨hmin, hmax⟩ := h
    simp only [List.foldl_nil, List.length_nil]
    omega
  | cons c cs ih =>
    have hbounds : InBounds settings (check settings s c).currentWorkers :=
      (decision_sound h c.forTotal c.forMax).bounds
    have hrest := ih hbounds
    obtain ⟨hmin, hmax⟩ := h
    simp only [List.foldl_cons, List.length_cons, List.forall_mem_cons]
    constructor
    · rintro ⟨hc, hcs⟩
      rw [hrest.1 hcs, workers_hot hc]
      push_cast
      omega
    · rintro ⟨hc, hcs⟩
      rw [hrest.2 hcs, workers_quiet hc]
      push_cast
      omega

def busyCheck : Check := ⟨busy, busy, busy, 0⟩

theorem workers_after_three_hot_checks :
    ([busyCheck, busyCheck, busyCheck].foldl (check defaults) (init defaults)).currentWorkers = 7 := by
  have hhot : busyCheck.Hot defaults := by
    unfold Check.Hot
    decide
  have hbounds : InBounds defaults (init defaults).currentWorkers := ⟨le_rfl, by decide⟩
  refine ((workers_after_streak hbounds _).1 ?_).trans (by decide)
  intro c hc
  simp only [List.mem_cons, List.not_mem_nil, or_false, or_self] at hc
  rw [hc]
  exact hhot

end WebhookAutoscaler

end NocIq
