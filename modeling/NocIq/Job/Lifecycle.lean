import NocIq.Job.Callbacks

/-!
# NocIq — the lifecycle of jobs

Retention and reclamation select jobs by their status, `finished_at` and `lease_expires_at`; which
of the four columns of the lifecycle is set should follow from the status. Each operation on a job
sets some of them, whatever the job is. `Shape` records which are set, and on shapes an operation
does what it does on jobs.

* **`Job.consistent_iff`** — a job is consistent if its shape is the one of its status.
* **`consistent_step_iff`** — the operations that keep all jobs consistent.
* **`lifecycle_iff`** — hence the runs all of whose states are.
-/

namespace NocIq

/-! ## Shapes -/

/-- Which of the columns are set. -/
structure Shape where
  finished : Bool
  leased : Bool
  deadLettered : Bool
  quarantined : Bool
  deriving DecidableEq, Repr

def Job.shape (job : Job) : Shape where
  finished := job.finishedAt.isSome
  leased := job.leaseExpiresAt.isSome
  deadLettered := job.deadLetterAt.isSome
  quarantined := job.quarantinedAt.isSome

def JobStatus.shape (status : JobStatus) : Shape where
  finished := decide (status ∈ JobStatus.ended)
  leased := decide (status = .started)
  deadLettered := decide (status = .deadLetter)
  quarantined := decide (status = .quarantined)

/-- The columns that say when a job has ended, until when it is leased, and when it has been
dead-lettered or quarantined are set exactly while its status says so. -/
structure Job.Consistent (job : Job) : Prop where
  finished : job.finishedAt.isSome = true ↔ job.status ∈ JobStatus.ended
  leased : job.leaseExpiresAt.isSome = true ↔ job.status = .started
  deadLettered : job.deadLetterAt.isSome = true ↔ job.status = .deadLetter
  quarantined : job.quarantinedAt.isSome = true ↔ job.status = .quarantined

theorem Job.consistent_iff (job : Job) : job.Consistent ↔ job.shape = job.status.shape := by
  unfold Job.shape JobStatus.shape
  rw [Shape.mk.injEq]
  constructor
  · intro h
    refine ⟨?_, ?_, ?_, ?_⟩
    · rw [Bool.eq_iff_iff, decide_eq_true_eq]
      exact h.finished
    · rw [Bool.eq_iff_iff, decide_eq_true_eq]
      exact h.leased
    · rw [Bool.eq_iff_iff, decide_eq_true_eq]
      exact h.deadLettered
    · rw [Bool.eq_iff_iff, decide_eq_true_eq]
      exact h.quarantined
  · intro ⟨hfinished, hleased, hdeadLettered, hquarantined⟩
    refine ⟨?_, ?_, ?_, ?_⟩
    · rw [hfinished, decide_eq_true_eq]
    · rw [hleased, decide_eq_true_eq]
    · rw [hdeadLettered, decide_eq_true_eq]
    · rw [hquarantined, decide_eq_true_eq]

instance (job : Job) : Decidable job.Consistent := decidable_of_iff _ (Job.consistent_iff job).symm

variable {env : JobEnv} {s s' : JobStore} {job job' : Job} {now : Time}

/-! ## Operations on a consistent job -/

theorem Job.Consistent.after (h : job.Consistent) (job' : Job) (columns : Shape → Shape)
    (hshape : job'.shape = columns job.shape) :
    job'.Consistent ↔ columns job.status.shape = job'.status.shape := by
  rw [Job.consistent_iff, hshape, (Job.consistent_iff job).mp h]

theorem Job.Consistent.of_same (h : job.Consistent) (hstatus : job'.status = job.status)
    (hshape : job'.shape = job.shape) : job'.Consistent := by
  rw [Job.consistent_iff, hshape, hstatus]
  exact (Job.consistent_iff job).mp h

theorem markStarted_consistent_iff (h : job.Consistent) :
    (job.markStarted env now).Consistent ↔ job.status = .pending ∨ job.status = .started := by
  rw [h.after (job.markStarted env now) (fun shape => { shape with leased := true }) rfl]
  show ({ job.status.shape with leased := true } : Shape) = JobStatus.started.shape ↔ _
  cases job.status <;> decide

theorem heartbeat_consistent (h : job.Consistent) : (job.heartbeat env now).Consistent := by
  unfold Job.heartbeat
  split
  · rename_i hstarted
    rw [h.after _ (fun shape => { shape with leased := true }) rfl]
    show ({ job.status.shape with leased := true } : Shape) = job.status.shape
    rw [hstarted]
    decide
  · exact h

theorem updateProgress_consistent (h : job.Consistent) (progress : ℚ)
    (details : List (String × Json.Value)) : (job.updateProgress progress details).Consistent :=
  h.of_same rfl rfl

theorem markSuccess_consistent_iff (h : job.Consistent) (result : String) :
    (job.markSuccess now result).Consistent ↔
      job.status ≠ .deadLetter ∧ job.status ≠ .quarantined := by
  rw [h.after (job.markSuccess now result)
    (fun shape => { shape with finished := true, leased := false }) rfl]
  show ({ job.status.shape with finished := true, leased := false } : Shape) =
    JobStatus.success.shape ↔ _
  cases job.status <;> decide

/-- The job is not started; and if it is dead-lettered or quarantined, it fails into the same
status once more. -/
def Job.FailsCleanly (settings : JobSettings) (job : Job) : Prop :=
  job.status ≠ .started ∧
    (job.status = .deadLetter →
      job.exhausted = true ∧ settings.retryDeadLetterEnabled = true) ∧
    (job.status = .quarantined →
      job.exhausted = true ∧ settings.retryDeadLetterEnabled = false)

instance (settings : JobSettings) (job : Job) : Decidable (job.FailsCleanly settings) :=
  inferInstanceAs (Decidable (_ ∧ _ ∧ _))

theorem markFailure_consistent_iff (h : job.Consistent) (error : String)
    (errorCode : Option String) (errorRetryable : Option Bool) :
    (job.markFailure env now error errorCode errorRetryable).Consistent ↔
      job.FailsCleanly env.settings := by
  unfold Job.markFailure Job.FailsCleanly
  cases job.exhausted with
  | true =>
    cases env.settings.retryDeadLetterEnabled with
    | true =>
      rw [if_pos rfl, if_pos rfl,
        h.after _ (fun shape => { shape with finished := true, deadLettered := true }) rfl]
      show ({ job.status.shape with finished := true, deadLettered := true } : Shape) =
        JobStatus.deadLetter.shape ↔ _
      cases job.status <;> decide
    | false =>
      rw [if_pos rfl, if_neg Bool.false_ne_true,
        h.after _ (fun shape => { shape with finished := true, quarantined := true }) rfl]
      show ({ job.status.shape with finished := true, quarantined := true } : Shape) =
        JobStatus.quarantined.shape ↔ _
      cases job.status <;> decide
  | false =>
    rw [if_neg Bool.false_ne_true,
      h.after _ (fun shape => { shape with finished := true }) rfl]
    show ({ job.status.shape with finished := true } : Shape) = JobStatus.failure.shape ↔ _
    cases job.status <;> simp <;> decide

theorem sync_consistent_iff (h : job.Consistent) (celeryState : String) :
    (job.sync celeryState).Consistent ↔
      job.status ∈ JobStatus.ended ∨ Job.celeryStatus celeryState job.status = job.status := by
  unfold Job.sync
  split
  · rename_i hended
    exact iff_of_true h (.inl hended)
  · rename_i hended
    rw [or_iff_right hended]
    refine (h.after { job with status := Job.celeryStatus celeryState job.status } id rfl).trans ?_
    show job.status.shape = (Job.celeryStatus celeryState job.status).shape ↔ _
    generalize Job.celeryStatus celeryState job.status = status
    revert hended
    cases job.status <;> cases status <;> decide

theorem workerHeartbeat_consistent_iff (h : job.Consistent) (workerId : String) :
    (job.workerHeartbeat env now workerId).Consistent ↔ job.status = .started := by
  rw [h.after (job.workerHeartbeat env now workerId)
    (fun shape => { shape with leased := true }) rfl]
  show ({ job.status.shape with leased := true } : Shape) = job.status.shape ↔ _
  cases job.status <;> decide

theorem revoked_consistent_iff (h : job.Consistent) :
    ({ job with status := .revoked } : Job).Consistent ↔
      job.status ∈ [JobStatus.success, .failure, .revoked] := by
  refine (h.after { job with status := .revoked } id rfl).trans ?_
  show job.status.shape = JobStatus.revoked.shape ↔ _
  cases job.status <;> decide

theorem giveUp_consistent (h : job.Consistent)
    (hstatus : job.status ∈ [JobStatus.failure, .revoked, .deadLetter]) :
    (job.giveUp now).Consistent := by
  rw [h.after (job.giveUp now)
    (fun shape => { shape with finished := true, deadLettered := true }) rfl]
  show ({ job.status.shape with finished := true, deadLettered := true } : Shape) =
    JobStatus.deadLetter.shape
  revert hstatus
  cases job.status <;> decide

theorem resetForRetry_consistent (h : job.Consistent)
    (hstatus : job.status ∈ [JobStatus.failure, .revoked, .deadLetter]) :
    (job.resetForRetry now).Consistent := by
  rw [h.after (job.resetForRetry now)
    (fun shape => { shape with finished := false, deadLettered := false }) rfl]
  show ({ job.status.shape with finished := false, deadLettered := false } : Shape) =
    JobStatus.pending.shape
  revert hstatus
  cases job.status <;> decide

theorem resetForRelease_consistent (h : job.Consistent) (hstatus : job.status = .quarantined) :
    job.resetForRelease.Consistent := by
  rw [h.after job.resetForRelease
    (fun shape => { shape with finished := false, quarantined := false }) rfl]
  show ({ job.status.shape with finished := false, quarantined := false } : Shape) =
    JobStatus.pending.shape
  rw [hstatus]
  decide

theorem reclaim_consistent (h : job.Consistent) (hstale : job.isStale now = true) :
    (job.reclaim env now).Consistent := by
  have hstarted : job.status = .started := by
    unfold Job.isStale at hstale
    rw [Bool.and_eq_true, decide_eq_true_eq] at hstale
    exact hstale.2
  rw [h.after (job.reclaim env now) (fun shape => { shape with leased := false }) rfl]
  show ({ job.status.shape with leased := false } : Shape) = JobStatus.pending.shape
  rw [hstarted]
  decide

theorem newJob_consistent (id : UUID) (celeryTaskId : String) (jobType : JobType)
    (payload retryClass : Option String) :
    ({ id, celeryTaskId, jobType, payload, retryClass } : Job).Consistent := by
  rw [Job.consistent_iff]
  rfl

/-! ## Operations on the table -/

namespace JobStore

/-- All jobs are. -/
def Consistent (s : JobStore) : Prop := ∀ job ∈ s.jobs, job.Consistent

theorem consistent_rowProperty : RowProperty Job.Consistent where
  new := newJob_consistent
  task _ h := h.of_same rfl rfl

theorem consistent_retry (hs : s.Consistent) (correlationId : Option String) (answer : Dispatch)
    (jobId : UUID) : (retryJob env now correlationId answer jobId s).2.Consistent := by
  refine (forall_retry_iff consistent_rowProperty hs correlationId answer jobId ?_).mpr ?_
  · intro job hjob hretry
    exact resetForRetry_consistent (hs job (mem_of_job hjob).1) hretry.1
  · intro job hjob hgiven
    exact giveUp_consistent (hs job (mem_of_job hjob).1)
      (List.mem_append_left [JobStatus.deadLetter] hgiven.1)

theorem consistent_release (hs : s.Consistent) (correlationId : Option String) (answer : Dispatch)
    (jobId : UUID) :
    (releaseJobFromQuarantine env correlationId answer jobId s).2.Consistent := by
  apply forall_release consistent_rowProperty hs correlationId answer jobId
  intro job hjob hstatus
  exact resetForRelease_consistent (hs job (mem_of_job hjob).1) hstatus

theorem consistent_submit (hs : s.Consistent) (task : TaskSignature) (jobType : JobType)
    (payload : List (String × Json.Value)) (correlationId : Option String) (answer : Dispatch) :
    (applyPolicy (enqueue env task jobType payload correlationId answer s)).2.Consistent :=
  forall_submit consistent_rowProperty env hs task jobType payload correlationId answer

theorem consistent_reclaim (hs : s.Consistent) (batchSize : Nat) (dryRun : Bool) :
    (reclaimStaleLeases env now batchSize dryRun s).2.Consistent :=
  forall_reclaim env hs batchSize dryRun fun job hjob hstale => reclaim_consistent (hs job hjob) hstale

/-! ## Steps and runs -/

/-- What the job of the operation is, if there is one. Only a job that waits or runs is started, a
job that runs has not failed, what has ended is not reported again under another status, and
neither a poll nor a cancellation changes a status. -/
def KeepsLifecycle (env : JobEnv) (s : JobStore) : JobOperation → Prop
  | .markStarted celeryTaskId _ =>
    ∀ job ∈ s.byTask celeryTaskId, job.status = .pending ∨ job.status = .started
  | .markSuccess celeryTaskId _ _ =>
    ∀ job ∈ s.byTask celeryTaskId, job.status ≠ .deadLetter ∧ job.status ≠ .quarantined
  | .markFailure celeryTaskId _ _ _ _ =>
    ∀ job ∈ s.byTask celeryTaskId, job.FailsCleanly env.settings
  | .poll jobId celeryState =>
    ∀ job ∈ s.job jobId,
      job.status ∈ JobStatus.ended ∨ Job.celeryStatus celeryState job.status = job.status
  | .cancel jobId =>
    ∀ job ∈ s.job jobId, job.status ∈ [JobStatus.success, .failure, .revoked, .deadLetter]
  | .recordHeartbeat jobId _ _ => ∀ job ∈ s.job jobId, job.status ≠ .pending
  | _ => True

instance (env : JobEnv) (s : JobStore) (op : JobOperation) : Decidable (s.KeepsLifecycle env op) :=
  match op with
  | .markStarted celeryTaskId _ =>
    inferInstanceAs (Decidable (∀ job ∈ s.byTask celeryTaskId, _ ∨ _))
  | .markSuccess celeryTaskId _ _ =>
    inferInstanceAs (Decidable (∀ job ∈ s.byTask celeryTaskId, _ ∧ _))
  | .markFailure celeryTaskId _ _ _ _ =>
    inferInstanceAs (Decidable (∀ job ∈ s.byTask celeryTaskId, job.FailsCleanly env.settings))
  | .poll jobId celeryState =>
    inferInstanceAs (Decidable (∀ job ∈ s.job jobId,
      job.status ∈ JobStatus.ended ∨ Job.celeryStatus celeryState job.status = job.status))
  | .cancel jobId =>
    inferInstanceAs (Decidable (∀ job ∈ s.job jobId,
      job.status ∈ [JobStatus.success, .failure, .revoked, .deadLetter]))
  | .recordHeartbeat jobId _ _ =>
    inferInstanceAs (Decidable (∀ job ∈ s.job jobId, job.status ≠ .pending))
  | .submit _ _ _ _ => .isTrue trivial
  | .submitBulk _ _ _ _ => .isTrue trivial
  | .heartbeat _ _ => .isTrue trivial
  | .updateProgress _ _ _ => .isTrue trivial
  | .retry _ _ _ _ => .isTrue trivial
  | .release _ _ _ => .isTrue trivial
  | .reclaimStaleLeases _ _ _ => .isTrue trivial

theorem consistent_poll_iff (hs : s.Consistent) (jobId : UUID) (celeryState : String) :
    (pollJob celeryState jobId s).2.Consistent ↔ s.KeepsLifecycle env (.poll jobId celeryState) := by
  apply forall_found_iff hs
  · intro hnone
    simp only [pollJob, hnone]
  · intro job hjob
    have hid : (job.sync celeryState).id = job.id := by
      unfold Job.sync
      split
      · rfl
      · rfl
    simp only [pollJob, hjob]
    exact (forall_put_iff hs hjob (job.sync celeryState) hid).trans
      (sync_consistent_iff (hs job (mem_of_job hjob).1) celeryState)

theorem consistent_cancel_iff (hs : s.Consistent) (jobId : UUID) :
    (cancelJob jobId s).2.Consistent ↔ s.KeepsLifecycle env (.cancel jobId) := by
  apply forall_found_iff hs
  · intro hnone
    simp only [cancelJob, hnone]
  · intro job hjob
    simp only [cancelJob, hjob]
    split
    · rename_i hended
      exact iff_of_true hs hended
    · rename_i hended
      refine iff_of_false ?_ hended
      intro hafter
      have hput := (forall_put_iff hs hjob { job with status := .revoked } rfl).mp hafter
      have hmem := (revoked_consistent_iff (hs job (mem_of_job hjob).1)).mp hput
      exact hended (List.mem_append_left [JobStatus.deadLetter] hmem)

theorem consistent_recordHeartbeat_iff (hs : s.Consistent) (jobId : UUID) (workerId : String) :
    (recordJobHeartbeat env now workerId jobId s).2.Consistent ↔
      s.KeepsLifecycle env (.recordHeartbeat jobId now workerId) := by
  apply forall_found_iff hs
  · intro hnone
    simp only [recordJobHeartbeat, hnone]
  · intro job hjob
    simp only [recordJobHeartbeat, hjob]
    split
    · rename_i hrefused
      refine iff_of_true hs ?_
      intro hpending
      exact hrefused (by simp [hpending])
    · rename_i hstatus
      rw [not_not] at hstatus
      have hbefore := hs job (mem_of_job hjob).1
      refine ((forall_put_iff hs hjob (job.workerHeartbeat env now workerId) rfl).trans
        (workerHeartbeat_consistent_iff hbefore workerId)).trans ?_
      revert hstatus
      cases job.status <;> decide

/-- **The operations that keep all jobs consistent.** -/
theorem consistent_step_iff (hs : s.Consistent) (op : JobOperation) :
    (serveJobs env s op).Consistent ↔ s.KeepsLifecycle env op := by
  cases op with
  | submit deviceId period correlationId answer =>
    exact iff_of_true (consistent_submit hs _ _ _ _ _) trivial
  | submitBulk deviceIds period correlationId answer =>
    refine iff_of_true ?_ trivial
    show (submitBulkSlaComputation env deviceIds period correlationId answer s).2.Consistent
    unfold submitBulkSlaComputation
    split
    · exact hs
    · exact consistent_submit hs _ _ _ _ _
  | markStarted celeryTaskId now =>
    refine (forall_onTask_iff hs celeryTaskId (Job.markStarted env now) fun _ => rfl).trans
      (forall₂_congr ?_)
    intro job hjob
    exact markStarted_consistent_iff (hs job (mem_of_byTask hjob).1)
  | heartbeat celeryTaskId now =>
    refine iff_of_true ((forall_onTask_iff hs celeryTaskId (Job.heartbeat env now) ?_).mpr ?_)
      trivial
    · exact fun job => (Job.heartbeat_sameWork env now job).id
    · intro job hjob
      exact heartbeat_consistent (hs job (mem_of_byTask hjob).1)
  | updateProgress celeryTaskId progress details =>
    refine iff_of_true ((forall_onTask_iff hs celeryTaskId
      (Job.updateProgress progress details) fun _ => rfl).mpr ?_) trivial
    intro job hjob
    exact updateProgress_consistent (hs job (mem_of_byTask hjob).1) progress details
  | markSuccess celeryTaskId now result =>
    refine (forall_onTask_iff hs celeryTaskId (Job.markSuccess now result) fun _ => rfl).trans
      (forall₂_congr ?_)
    intro job hjob
    exact markSuccess_consistent_iff (hs job (mem_of_byTask hjob).1) result
  | markFailure celeryTaskId now error errorCode errorRetryable =>
    refine (forall_onTask_iff hs celeryTaskId
      (Job.markFailure env now error errorCode errorRetryable) ?_).trans (forall₂_congr ?_)
    · exact fun job => (Job.markFailure_sameWork env now error errorCode errorRetryable job).id
    · intro job hjob
      exact markFailure_consistent_iff (hs job (mem_of_byTask hjob).1) error errorCode errorRetryable
  | poll jobId celeryState => exact consistent_poll_iff hs jobId celeryState
  | cancel jobId => exact consistent_cancel_iff hs jobId
  | retry jobId now correlationId answer =>
    exact iff_of_true (consistent_retry hs correlationId answer jobId) trivial
  | release jobId correlationId answer =>
    exact iff_of_true (consistent_release hs correlationId answer jobId) trivial
  | recordHeartbeat jobId now workerId => exact consistent_recordHeartbeat_iff hs jobId workerId
  | reclaimStaleLeases now batchSize dryRun =>
    exact iff_of_true (consistent_reclaim hs batchSize dryRun) trivial

/-- **The lifecycle of jobs**: from a table of consistent jobs, all jobs are consistent in every
state of a run exactly if each of its operations keeps them so. -/
theorem lifecycle_iff (hs : s.Consistent) {steps : List (JobStore × JobOperation)}
    (h : JobRun env s steps s') :
    (∀ t ∈ Runs.visited steps s', t.Consistent) ↔ ∀ x ∈ steps, x.1.KeepsLifecycle env x.2 := by
  rw [Runs.forall_mem_visited]
  refine h.forall_iff (I := fun _ => True) (P := Consistent)
    (C := fun t op => t.KeepsLifecycle env op) trivial hs (fun _ _ _ _ _ => trivial) ?_
  intro t op u _ ht hstep
  rw [← hstep]
  exact consistent_step_iff ht op

/-! ### A job that fails, and one that succeeds -/

instance (s : JobStore) : Decidable s.Consistent :=
  inferInstanceAs (Decidable (∀ job ∈ s.jobs, job.Consistent))

def failedRun : List JobOperation :=
  [.submit "device-1" "2026-09" none ⟨.ok "task-1", 1⟩, .markStarted "task-1" 1000000,
    .markFailure "task-1" 2000000 "timeout" (some "SLA_COMPUTATION_ERROR") (some true)]

/-- **A failed job keeps its lease.** -/
theorem failed_job_keeps_lease :
    ¬ ∀ (env : JobEnv) (steps : List (JobStore × JobOperation)) (s : JobStore),
      JobRun env {} steps s → ∀ t ∈ Runs.visited steps s, t.Consistent := by
  intro hall
  have hrun := Runs.replay_run (serveJobs jobEnv) {} failedRun
  have hlast := (Runs.forall_mem_visited.mp (hall jobEnv _ _ hrun)).2
  revert hlast
  decide +kernel

def succeededRun : List JobOperation :=
  [.submit "device-1" "2026-09" none ⟨.ok "task-1", 1⟩, .markStarted "task-1" 1000000,
    .updateProgress "task-1" 30 [], .heartbeat "task-1" 2000000,
    .markSuccess "task-1" 3000000 "null", .poll 1 "SUCCESS"]

theorem lifecycle_succeededRun :
    (succeededRun.foldl (serveJobs jobEnv) {}).Consistent := by
  have hempty : ({} : JobStore).Consistent := by decide
  have hrun := Runs.replay_run (serveJobs jobEnv) {} succeededRun
  exact (Runs.forall_mem_visited.mp ((lifecycle_iff hempty hrun).mpr (by decide +kernel))).2

end JobStore

end NocIq
