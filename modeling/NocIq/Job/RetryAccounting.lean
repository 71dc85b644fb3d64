import NocIq.Job.Lifecycle

/-!
# NocIq — the accounting of retries

`_mark_failure` and `retry_job` count the retries of a job in one column and compare it with one
bound: `_mark_failure` dead-letters a job that has reached it, and `retry_job` refuses one.

* **`markFailure_accounted_iff`** / **`exhaustDelivery_accounted_iff`** — the failures of workers.
* **`accounted_step_iff`** — the operations that keep the accounts of all jobs.
* **`retriesAccounted_iff`** — hence the runs all of whose states do.
-/

namespace NocIq

variable {env : JobEnv} {s s' : JobStore} {job job' : Job} {now : Time}

/-! ## What is to hold of a job -/

/-- `retry_job` puts the job back: it passes the checks, and its work can be dispatched. -/
def Job.IsAccepted (job : Job) : Prop := job.IsRetryable ∧ job.jobType ≠ .webhookDrReplay

instance (job : Job) : Decidable job.IsAccepted := inferInstanceAs (Decidable (_ ∧ _))

/-- Of a job that may be retried: it has not been retried more often, and if it is dead-lettered,
an operator can retry it. -/
structure Job.Accounted (job : Job) : Prop where
  bounded : 1 ≤ job.maxRetries → job.retryCount ≤ job.maxRetries
  accepted : 1 ≤ job.maxRetries → job.status = .deadLetter →
    job.retryClass ≠ some RetryClass.atMostOnce.value → job.IsAccepted

theorem Job.accounted_iff (job : Job) :
    job.Accounted ↔ (1 ≤ job.maxRetries → job.retryCount ≤ job.maxRetries) ∧
      (1 ≤ job.maxRetries → job.status = .deadLetter →
        job.retryClass ≠ some RetryClass.atMostOnce.value → job.IsAccepted) :=
  ⟨fun h => ⟨h.bounded, h.accepted⟩, fun h => ⟨h.1, h.2⟩⟩

instance (job : Job) : Decidable job.Accounted := decidable_of_iff _ job.accounted_iff.symm

/-! ## Operations on a job -/

theorem Job.Accounted.of_same (h : job.Accounted) (hcount : job'.retryCount = job.retryCount)
    (hmax : job'.maxRetries = job.maxRetries) (hstatus : job'.status ≠ .deadLetter) :
    job'.Accounted where
  bounded := by
    rw [hcount, hmax]
    exact h.bounded
  accepted _ hdead := absurd hdead hstatus

theorem Job.Accounted.of_unchanged (h : job.Accounted) (hcount : job'.retryCount = job.retryCount)
    (hmax : job'.maxRetries = job.maxRetries) (hstatus : job'.status = job.status)
    (hclass : job'.retryClass = job.retryClass) (htype : job'.jobType = job.jobType) :
    job'.Accounted := by
  rw [Job.accounted_iff] at h ⊢
  unfold Job.IsAccepted Job.IsRetryable at h ⊢
  rwa [hcount, hmax, hstatus, hclass, htype]

theorem not_accepted_of_exhausted (job : Job) (h : job.maxRetries ≤ job.retryCount) :
    ¬ job.IsAccepted := by
  rintro ⟨⟨-, hcount, -⟩, -⟩
  omega

/-- The job has a retry left; or this is the last one, and then it is quarantined, or it could not
have been retried anyway. -/
def Job.FailsWithinBounds (settings : JobSettings) (job : Job) : Prop :=
  1 ≤ job.maxRetries → job.attempts ≤ job.maxRetries ∧
    (job.attempts = job.maxRetries → settings.retryDeadLetterEnabled = true →
      job.retryClass = some RetryClass.atMostOnce.value)

instance (settings : JobSettings) (job : Job) : Decidable (job.FailsWithinBounds settings) :=
  inferInstanceAs (Decidable (_ → _ ∧ _))

theorem markFailure_accounted_iff (error : String) (errorCode : Option String)
    (errorRetryable : Option Bool) :
    (job.markFailure env now error errorCode errorRetryable).Accounted ↔
      job.FailsWithinBounds env.settings := by
  have hexhausted : job.exhausted = true ↔ max job.maxRetries 0 ≤ job.attempts := by
    unfold Job.exhausted
    rw [decide_eq_true_eq]
  unfold Job.markFailure Job.FailsWithinBounds
  rw [Job.accounted_iff]
  split
  · rename_i hyes
    rw [hexhausted] at hyes
    -- the bound is reached: the count may not exceed it, and no retry is left
    have hleft : job.maxRetries ≤ job.attempts := le_of_max_le_left hyes
    split
    · rename_i henabled
      dsimp only
      constructor
      · rintro ⟨hbounded, haccepted⟩ hmax
        refine ⟨hbounded hmax, fun _ _ => ?_⟩
        by_contra hclass
        exact not_accepted_of_exhausted _ hleft (haccepted hmax rfl hclass)
      · intro hfails
        refine ⟨fun hmax => (hfails hmax).1, fun hmax _ hclass => ?_⟩
        obtain ⟨hle, hlast⟩ := hfails hmax
        exact absurd (hlast (le_antisymm hle hleft) henabled) hclass
    · rename_i henabled
      dsimp only
      constructor
      · rintro ⟨hbounded, -⟩ hmax
        exact ⟨hbounded hmax, fun _ h => absurd h henabled⟩
      · intro hfails
        exact ⟨fun hmax => (hfails hmax).1, fun _ hdead => by cases hdead⟩
  · rename_i hno
    rw [hexhausted, not_le] at hno
    dsimp only
    -- the bound is not reached, and the job stays retryable
    have hlt : 1 ≤ job.maxRetries → job.attempts < job.maxRetries := by
      intro hmax
      omega
    refine iff_of_true ⟨fun hmax => (hlt hmax).le, fun _ hdead => by cases hdead⟩ ?_
    intro hmax
    have := hlt hmax
    exact ⟨this.le, fun heq => by omega⟩

/-- A delivery whose retries are used up can be retried as long as the job has retries left. -/
def Job.ExhaustsWithinBounds (job : Job) : Prop :=
  1 ≤ job.maxRetries → job.retryClass ≠ some RetryClass.atMostOnce.value →
    job.retryCount < job.maxRetries ∧ job.jobType ≠ .webhookDrReplay

instance (job : Job) : Decidable job.ExhaustsWithinBounds :=
  inferInstanceAs (Decidable (_ → _ → _ ∧ _))

theorem exhaustDelivery_accounted_iff (h : job.Accounted) (error : String) :
    (job.exhaustDelivery now error).Accounted ↔ job.ExhaustsWithinBounds := by
  rw [Job.accounted_iff]
  unfold Job.exhaustDelivery Job.ExhaustsWithinBounds Job.IsAccepted Job.IsRetryable
  dsimp only
  constructor
  · rintro ⟨-, haccepted⟩ hmax hclass
    obtain ⟨⟨-, hcount, -⟩, htype⟩ := haccepted hmax rfl hclass
    exact ⟨hcount, htype⟩
  · intro hwithin
    refine ⟨h.bounded, fun hmax _ hclass => ?_⟩
    obtain ⟨hcount, htype⟩ := hwithin hmax hclass
    exact ⟨⟨by decide, hcount, hclass⟩, htype⟩

theorem giveUp_accounted_iff (h : job.Accounted) (hgiven : job.IsGivenUp env.settings) :
    (job.giveUp now).Accounted ↔
      (1 ≤ job.maxRetries → job.retryClass = some RetryClass.atMostOnce.value) := by
  rw [Job.accounted_iff]
  unfold Job.giveUp
  dsimp only
  constructor
  · rintro ⟨-, haccepted⟩ hmax
    by_contra hclass
    exact not_accepted_of_exhausted (job.giveUp now) hgiven.2.1 (haccepted hmax rfl hclass)
  · intro hclass
    exact ⟨h.bounded, fun hmax _ hne => absurd (hclass hmax) hne⟩

theorem accounted_rowProperty : RowProperty Job.Accounted where
  new _ _ _ _ _ := ⟨fun _ => (by decide : (0 : Int) ≤ 3), fun _ hdead => by cases hdead⟩
  task _ h := h.of_unchanged rfl rfl rfl rfl rfl

theorem sync_accounted (h : job.Accounted) (celeryState : String) :
    (job.sync celeryState).Accounted := by
  unfold Job.sync
  split
  · exact h
  · rename_i hended
    refine h.of_same rfl rfl ?_
    show Job.celeryStatus celeryState job.status ≠ .deadLetter
    unfold Job.celeryStatus
    split
    -- a state that Celery does not list leaves the status, which is no end
    case h_6 =>
      rintro hdead
      rw [hdead] at hended
      exact hended (by decide)
    all_goals decide

/-! ## Steps and runs -/

/-- What the system does, and the failures of `dispatch_webhook_delivery`. -/
inductive RetryEvent where
  | serve (op : JobOperation)
  | exhaustDelivery (celeryTaskId : String) (now : Time) (error : String)

def serveRetryEvent (env : JobEnv) (s : JobStore) : RetryEvent → JobStore
  | .serve op => serveJobs env s op
  | .exhaustDelivery celeryTaskId now error =>
    s.onTask celeryTaskId (Job.exhaustDelivery now error)

abbrev RetryRun (env : JobEnv) :=
  Runs.Run fun (s : JobStore) event s' => serveRetryEvent env s event = s'

namespace JobStore

def Accounted (s : JobStore) : Prop := ∀ job ∈ s.jobs, job.Accounted

/-- What the job of a failure or of a retry is, if there is one. -/
def KeepsAccounts (env : JobEnv) (s : JobStore) : RetryEvent → Prop
  | .serve (.markFailure celeryTaskId _ _ _ _) =>
    ∀ job ∈ s.byTask celeryTaskId, job.FailsWithinBounds env.settings
  | .serve (.retry jobId _ _ _) =>
    ∀ job ∈ s.job jobId, job.IsGivenUp env.settings → 1 ≤ job.maxRetries →
      job.retryClass = some RetryClass.atMostOnce.value
  | .exhaustDelivery celeryTaskId _ _ => ∀ job ∈ s.byTask celeryTaskId, job.ExhaustsWithinBounds
  | .serve _ => True

instance (env : JobEnv) (s : JobStore) (event : RetryEvent) : Decidable (s.KeepsAccounts env event) :=
  match event with
  | .exhaustDelivery celeryTaskId _ _ =>
    inferInstanceAs (Decidable (∀ job ∈ s.byTask celeryTaskId, job.ExhaustsWithinBounds))
  | .serve (.markFailure celeryTaskId _ _ _ _) =>
    inferInstanceAs (Decidable (∀ job ∈ s.byTask celeryTaskId, job.FailsWithinBounds env.settings))
  | .serve (.retry jobId _ _ _) =>
    inferInstanceAs (Decidable (∀ job ∈ s.job jobId, job.IsGivenUp env.settings →
      1 ≤ job.maxRetries → job.retryClass = some RetryClass.atMostOnce.value))
  | .serve (.submit ..) => .isTrue trivial
  | .serve (.submitBulk ..) => .isTrue trivial
  | .serve (.markStarted ..) => .isTrue trivial
  | .serve (.heartbeat ..) => .isTrue trivial
  | .serve (.updateProgress ..) => .isTrue trivial
  | .serve (.markSuccess ..) => .isTrue trivial
  | .serve (.poll ..) => .isTrue trivial
  | .serve (.cancel ..) => .isTrue trivial
  | .serve (.release ..) => .isTrue trivial
  | .serve (.recordHeartbeat ..) => .isTrue trivial
  | .serve (.reclaimStaleLeases ..) => .isTrue trivial

theorem accounted_onTask (hs : s.Accounted) (celeryTaskId : String) {callback : Job → Job}
    (hid : ∀ job, (callback job).id = job.id)
    (hkeep : ∀ job, job.Accounted → (callback job).Accounted) :
    (s.onTask celeryTaskId callback).Accounted :=
  (forall_onTask_iff hs celeryTaskId callback hid).mpr fun job hjob =>
    hkeep job (hs job (mem_of_byTask hjob).1)

theorem accounted_put (hs : s.Accounted) {job' : Job} (hjob : job'.Accounted) :
    (s.put job').Accounted :=
  forall_put_of (P := Job.Accounted) hs hjob

theorem accounted_serve (hs : s.Accounted) (op : JobOperation)
    (hfailure : ∀ celeryTaskId now error errorCode errorRetryable,
      op ≠ .markFailure celeryTaskId now error errorCode errorRetryable)
    (hretry : ∀ jobId now correlationId answer, op ≠ .retry jobId now correlationId answer) :
    (serveJobs env s op).Accounted := by
  cases op with
  | submit deviceId period correlationId answer =>
    exact forall_submit accounted_rowProperty env hs _ _ _ _ _
  | submitBulk deviceIds period correlationId answer =>
    show (submitBulkSlaComputation env deviceIds period correlationId answer s).2.Accounted
    unfold submitBulkSlaComputation
    split
    · exact hs
    · exact forall_submit accounted_rowProperty env hs _ _ _ _ _
  | markStarted celeryTaskId now =>
    exact accounted_onTask hs celeryTaskId (fun _ => rfl) fun job h =>
      h.of_same rfl rfl (fun hdead => by cases hdead)
  | heartbeat celeryTaskId now =>
    refine accounted_onTask hs celeryTaskId (fun job => (Job.heartbeat_sameWork env now job).id)
      fun job h => ?_
    unfold Job.heartbeat
    split
    · exact h.of_unchanged rfl rfl rfl rfl rfl
    · exact h
  | updateProgress celeryTaskId progress details =>
    exact accounted_onTask hs celeryTaskId (fun _ => rfl) fun job h =>
      h.of_unchanged rfl rfl rfl rfl rfl
  | markSuccess celeryTaskId now result =>
    exact accounted_onTask hs celeryTaskId (fun _ => rfl) fun job h =>
      h.of_same rfl rfl (fun hdead => by cases hdead)
  | markFailure celeryTaskId now error errorCode errorRetryable =>
    exact absurd rfl (hfailure _ _ _ _ _)
  | poll jobId celeryState =>
    show (pollJob celeryState jobId s).2.Accounted
    unfold pollJob
    cases hjob : s.job jobId with
    | none => exact hs
    | some job => exact accounted_put hs (sync_accounted (hs job (mem_of_job hjob).1) celeryState)
  | cancel jobId =>
    show (cancelJob jobId s).2.Accounted
    unfold cancelJob
    cases hjob : s.job jobId with
    | none => exact hs
    | some job =>
      dsimp only
      split
      · exact hs
      · refine accounted_put hs ((hs job (mem_of_job hjob).1).of_same rfl rfl ?_)
        exact fun hdead => by cases hdead
  | retry jobId now correlationId answer => exact absurd rfl (hretry _ _ _ _)
  | release jobId correlationId answer =>
    refine forall_release accounted_rowProperty hs correlationId answer jobId fun job hjob _ => ?_
    refine ⟨fun hmax => ?_, fun _ hdead => by cases hdead⟩
    show 0 ≤ job.maxRetries
    have hmax' : 1 ≤ job.maxRetries := hmax
    omega
  | recordHeartbeat jobId now workerId =>
    show (recordJobHeartbeat env now workerId jobId s).2.Accounted
    unfold recordJobHeartbeat
    cases hjob : s.job jobId with
    | none => exact hs
    | some job =>
      dsimp only
      split
      · exact hs
      · exact accounted_put hs ((hs job (mem_of_job hjob).1).of_unchanged rfl rfl rfl rfl rfl)
  | reclaimStaleLeases now batchSize dryRun =>
    refine forall_reclaim env hs batchSize dryRun fun job hjob _ => ?_
    exact (hs job hjob).of_same rfl rfl (fun hdead => by cases hdead)

theorem accounted_retry_iff (hs : s.Accounted) (jobId : UUID) (now : Time)
    (correlationId : Option String) (answer : Dispatch) :
    (serveJobs env s (.retry jobId now correlationId answer)).Accounted ↔
      s.KeepsAccounts env (.serve (.retry jobId now correlationId answer)) := by
  refine (forall_retry_iff accounted_rowProperty hs correlationId answer jobId ?_).trans ?_
  · rintro job hjob ⟨-, hcount, -⟩
    exact ⟨fun _ => Int.add_one_le_iff.mpr hcount, fun _ hdead => by cases hdead⟩
  · refine forall₂_congr fun job hjob => forall_congr' fun hgiven => ?_
    exact giveUp_accounted_iff (hs job (mem_of_job hjob).1) hgiven

/-- **The operations that keep the accounts of all jobs.** -/
theorem accounted_step_iff (hs : s.Accounted) (event : RetryEvent) :
    (serveRetryEvent env s event).Accounted ↔ s.KeepsAccounts env event := by
  cases event with
  | exhaustDelivery celeryTaskId now error =>
    refine (forall_onTask_iff hs celeryTaskId (Job.exhaustDelivery now error) fun _ => rfl).trans
      (forall₂_congr fun job hjob => ?_)
    exact exhaustDelivery_accounted_iff (hs job (mem_of_byTask hjob).1) error
  | serve op =>
    cases op with
    | markFailure celeryTaskId now error errorCode errorRetryable =>
      refine (forall_onTask_iff hs celeryTaskId
        (Job.markFailure env now error errorCode errorRetryable)
        (fun job => (Job.markFailure_sameWork env now error errorCode errorRetryable job).id)).trans
        (forall₂_congr fun job hjob => ?_)
      exact markFailure_accounted_iff error errorCode errorRetryable
    | retry jobId now correlationId answer =>
      exact accounted_retry_iff hs jobId now correlationId answer
    | submit | submitBulk | markStarted | heartbeat | updateProgress | markSuccess | poll | cancel
    | release | recordHeartbeat | reclaimStaleLeases =>
      exact iff_of_true (accounted_serve hs _ nofun nofun) trivial

/-- **The accounts of all jobs**: from a table that keeps them, every state of a run does exactly
if each of its steps keeps them. -/
theorem retriesAccounted_iff (hs : s.Accounted) {steps : List (JobStore × RetryEvent)}
    (h : RetryRun env s steps s') :
    (∀ t ∈ Runs.visited steps s', t.Accounted) ↔ ∀ x ∈ steps, x.1.KeepsAccounts env x.2 := by
  rw [Runs.forall_mem_visited]
  refine h.forall_iff (I := fun _ => True) (P := Accounted)
    (C := fun t event => t.KeepsAccounts env event) trivial hs (fun _ _ _ _ _ => trivial) ?_
  intro t event u _ ht hstep
  rw [← hstep]
  exact accounted_step_iff ht event

instance (s : JobStore) : Decidable s.Accounted :=
  inferInstanceAs (Decidable (∀ job ∈ s.jobs, job.Accounted))

def failingRun (start : Time) : List RetryEvent :=
  [.serve (.markStarted "task-1" start),
    .serve (.markFailure "task-1" (start + 1000000) "timeout" (some "SLA_COMPUTATION_ERROR")
      (some true))]

def enqueueOne : RetryEvent := .serve (.submit "device-1" "2026-09" none ⟨.ok "task-1", 1⟩)

/-- **The third failure of a job dead-letters it for good.** -/
theorem dead_letter_not_retryable :
    ¬ ∀ (env : JobEnv) (steps : List (JobStore × RetryEvent)) (s : JobStore),
      RetryRun env {} steps s → ∀ t ∈ Runs.visited steps s, t.Accounted := by
  intro hall
  have hrun := Runs.replay_run (serveRetryEvent jobEnv) {}
    (enqueueOne :: failingRun 1000000 ++ failingRun 3000000 ++ failingRun 5000000)
  have hlast := (Runs.forall_mem_visited.mp (hall jobEnv _ _ hrun)).2
  revert hlast
  decide +kernel

/-- A job that fails twice; its retry is refused while it runs once more. -/
def twoFailures : List RetryEvent :=
  enqueueOne :: failingRun 1000000 ++ failingRun 3000000 ++
    [.serve (.markStarted "task-1" 5000000), .serve (.retry 1 6000000 none ⟨.ok "task-2", 2⟩)]

theorem retriesAccounted_twoFailures :
    (twoFailures.foldl (serveRetryEvent jobEnv) {}).Accounted := by
  have hempty : ({} : JobStore).Accounted := by decide
  have hrun := Runs.replay_run (serveRetryEvent jobEnv) {} twoFailures
  exact (Runs.forall_mem_visited.mp ((retriesAccounted_iff hempty hrun).mpr (by decide +kernel))).2

end JobStore

end NocIq
