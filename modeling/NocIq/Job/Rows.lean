import NocIq.Job.Operations

/-!
# NocIq — what holds of all jobs

A callback updates the job of its task, an endpoint the job of its id, and an enqueuing inserts a
job. What is true of all rows of the table before an operation is true of them afterwards if it is
true of the rows that the operation writes.

* **`RowProperty`** — a property of jobs that new jobs have, whatever task a job belongs to.
* **`forall_onTask_iff`** — the callbacks.
* **`forall_requeue`** — the enqueuings of the endpoints.
* **`retryJob_cases` / `release_cases`** — what the two endpoints that put a job back do.
-/

namespace NocIq

/-- A property of jobs that new jobs have, and that does not depend on the task of the job. -/
structure RowProperty (P : Job → Prop) : Prop where
  new (id : UUID) (celeryTaskId : String) (jobType : JobType) (payload retryClass : Option String) :
    P { id, celeryTaskId, jobType, payload, retryClass }
  task {job : Job} (celeryTaskId : String) (h : P job) : P { job with celeryTaskId }

namespace JobStore

variable {env : JobEnv} {s s' : JobStore} {job : Job} {now : Time} {P : Job → Prop}

/-! ## Callbacks and endpoints -/

theorem forall_found_iff (hs : ∀ j ∈ s.jobs, P j) {found : Option Job} {Q : Job → Prop}
    (hnone : found = none → s' = s)
    (hsome : ∀ job, found = some job → ((∀ j ∈ s'.jobs, P j) ↔ Q job)) :
    (∀ j ∈ s'.jobs, P j) ↔ ∀ job ∈ found, Q job := by
  cases found with
  | none =>
    rw [hnone rfl]
    refine iff_of_true hs ?_
    intro job hmem
    cases hmem
  | some job =>
    refine (hsome job rfl).trans ⟨?_, fun hall => hall job rfl⟩
    intro hjob j hj
    rwa [← Option.some.inj hj]

theorem forall_onTask_iff (hs : ∀ j ∈ s.jobs, P j) (celeryTaskId : String) (callback : Job → Job)
    (hid : ∀ job, (callback job).id = job.id) :
    (∀ j ∈ (s.onTask celeryTaskId callback).jobs, P j) ↔
      ∀ job ∈ s.byTask celeryTaskId, P (callback job) := by
  apply forall_found_iff hs
  · intro hnone
    simp only [onTask, hnone]
  · intro job hjob
    simp only [onTask, hjob]
    exact forall_put (mem_of_byTask hjob).1 (hid job) hs

theorem forall_put_iff (hs : ∀ j ∈ s.jobs, P j) {id : UUID} (hjob : s.job id = some job)
    (job' : Job) (hid : job'.id = job.id) : (∀ j ∈ (s.put job').jobs, P j) ↔ P job' :=
  forall_put (mem_of_job hjob).1 hid hs

theorem jobs_dispatch {answer : Dispatch} {task : TaskSignature} {args : List Json.Value}
    {kwargs : List (String × Json.Value)} {outcome : Except JobFault String}
    (h : s.dispatch answer task args kwargs = (outcome, s')) : s'.jobs = s.jobs := by
  unfold dispatch at h
  split at h
  · rw [← (Prod.mk.inj h).2]
  · split at h
    · rw [← (Prod.mk.inj h).2]
    · rw [← (Prod.mk.inj h).2]

/-! ## Enqueuing -/

theorem forall_setTask (hP : RowProperty P) (hs : ∀ j ∈ s.jobs, P j) (hjob : P job)
    {celeryTaskId : String} (h : s.setTask job celeryTaskId = .ok s') : ∀ j ∈ s'.jobs, P j := by
  unfold setTask at h
  split at h
  · cases h
  · rw [← Except.ok.inj h]
    exact forall_put_of hs (hP.task celeryTaskId hjob)

theorem forall_enqueue (hP : RowProperty P) (env : JobEnv) (hs : ∀ j ∈ s.jobs, P j)
    (task : TaskSignature) (jobType : JobType) (payload : List (String × Json.Value))
    (correlationId : Option String) (answer : Dispatch) :
    (∀ j ∈ (enqueue env task jobType payload correlationId answer s).2.jobs, P j) ∧
      ∀ job, (enqueue env task jobType payload correlationId answer s).1 = .ok job →
        ∀ retryClass, P { job with retryClass } := by
  unfold enqueue
  dsimp only
  split
  · rename_i hdispatch
    refine ⟨?_, ?_⟩
    · rw [jobs_dispatch hdispatch]
      exact hs
    · intro job hjob
      cases hjob
  · rename_i celeryTaskId s' hdispatch
    have hbefore : ∀ j ∈ s'.jobs, P j := by
      rw [jobs_dispatch hdispatch]
      exact hs
    have hnew := hP.new answer.jobId celeryTaskId jobType
    split
    · refine ⟨hbefore, ?_⟩
      intro job hjob
      cases hjob
    · rename_i hinsert
      refine ⟨forall_insert hinsert hbefore (hnew _ none), ?_⟩
      intro job hjob retryClass
      rw [← Except.ok.inj hjob]
      exact hnew _ retryClass

/-- What follows an enqueuing leaves the jobs that the enqueuing has left, or those before it, and
at most gives the reset job another task. -/
theorem forall_adoptTask (hP : RowProperty P) (hs : ∀ j ∈ s.jobs, P j) {reset : Job}
    (hreset : P reset) (words : RequeueWords) {enqueued : Except JobFault Job × JobStore}
    (henqueued : ∀ j ∈ enqueued.2.jobs, P j) :
    ∀ j ∈ (adoptTask env words reset s enqueued).2.jobs, P j := by
  unfold adoptTask
  split
  · exact hs
  · split
    · exact henqueued
    · rename_i hset
      exact forall_setTask hP henqueued hreset hset

/-- **The work of a reset job is dispatched once more.** -/
theorem forall_requeue (hP : RowProperty P) (env : JobEnv) (hs : ∀ j ∈ s.jobs, P j) {reset : Job}
    (hreset : P reset) (words : RequeueWords) (answer : Dispatch)
    (webhookArgument : Json.Value → Except Exc Json.Value) (correlationId : Option String) :
    ∀ j ∈ (requeue env words answer webhookArgument correlationId reset s).2.jobs, P j := by
  have hput : ∀ j ∈ (s.put reset).jobs, P j := forall_put_of hs hreset
  unfold requeue
  split
  · exact hs
  · split
    · split
      · exact forall_adoptTask hP hs hreset words (forall_enqueue hP env hput _ _ _ _ _).1
      · exact hs
    · split
      · exact forall_adoptTask hP hs hreset words (forall_enqueue hP env hput _ _ _ _ _).1
      · exact hs
    · split
      · exact hs
      · split
        · rename_i hdispatch
          rw [jobs_dispatch hdispatch]
          exact hs
        · rename_i s' hdispatch
          have hbefore : ∀ j ∈ s'.jobs, P j := by
            rw [jobs_dispatch hdispatch]
            exact hs
          split
          · exact hbefore
          · rename_i hset
            exact forall_setTask hP hbefore hreset hset
    · exact hs

theorem forall_submit (hP : RowProperty P) (env : JobEnv) (hs : ∀ j ∈ s.jobs, P j)
    (task : TaskSignature) (jobType : JobType) (payload : List (String × Json.Value))
    (correlationId : Option String) (answer : Dispatch) :
    ∀ j ∈ (applyPolicy (enqueue env task jobType payload correlationId answer s)).2.jobs, P j := by
  obtain ⟨henqueued, hnew⟩ := forall_enqueue hP env hs task jobType payload correlationId answer
  unfold applyPolicy
  split
  · rename_i hresult
    rw [hresult] at henqueued
    exact henqueued
  · rename_i job s' hresult
    rw [hresult] at henqueued hnew
    exact forall_put_of henqueued (hnew job rfl _)

/-- Reclaiming one stale job after another. Induction on the jobs. -/
theorem forall_reclaim (env : JobEnv) (hs : ∀ j ∈ s.jobs, P j) (batchSize : Nat) (dryRun : Bool)
    (hreclaim : ∀ job ∈ s.jobs, job.isStale now = true → P (job.reclaim env now)) :
    ∀ j ∈ (reclaimStaleLeases env now batchSize dryRun s).2.jobs, P j := by
  unfold reclaimStaleLeases
  dsimp only
  split
  · exact hs
  · have hstale : ∀ job ∈ (s.jobs.filter (Job.isStale now)).take batchSize,
        P (job.reclaim env now) := by
      intro job hmem
      have hfilter := List.mem_filter.mp (List.mem_of_mem_take hmem)
      exact hreclaim job hfilter.1 hfilter.2
    generalize (s.jobs.filter (Job.isStale now)).take batchSize = stale at hstale
    clear hreclaim
    induction stale generalizing s with
    | nil => exact hs
    | cons job stale ih =>
      have hfirst := forall_put_of hs (hstale job List.mem_cons_self)
      exact ih hfirst fun j hj => hstale j (List.mem_cons_of_mem job hj)

end JobStore

/-! ## Putting a job back -/

/-- The checks of `retry_job`. -/
def Job.IsRetryable (job : Job) : Prop :=
  job.status ∈ [JobStatus.failure, .revoked, .deadLetter] ∧ job.retryCount < job.maxRetries ∧
    job.retryClass ≠ some RetryClass.atMostOnce.value

instance (job : Job) : Decidable job.IsRetryable := inferInstanceAs (Decidable (_ ∧ _ ∧ _))

/-- A job that `retry_job` moves to `DEAD_LETTER`. -/
def Job.IsGivenUp (settings : JobSettings) (job : Job) : Prop :=
  job.status ∈ [JobStatus.failure, .revoked] ∧ job.maxRetries ≤ job.retryCount ∧
    settings.retryDeadLetterEnabled = true

instance (settings : JobSettings) (job : Job) : Decidable (job.IsGivenUp settings) :=
  inferInstanceAs (Decidable (_ ∧ _ ∧ _))

/-- **What `retry_job` does**: it refuses, or moves the job to `DEAD_LETTER`, or puts it back. -/
theorem retryJob_cases (env : JobEnv) (now : Time) (correlationId : Option String)
    (answer : Dispatch) (jobId : UUID) (s : JobStore) :
    ((∀ job ∈ s.job jobId, ¬ job.IsRetryable ∧ ¬ job.IsGivenUp env.settings) ∧
      ∃ statusCode detail, retryJob env now correlationId answer jobId s =
        (.error (.httpException statusCode detail), s)) ∨
    (∃ job, s.job jobId = some job ∧ job.IsGivenUp env.settings ∧ ¬ job.IsRetryable ∧
      ∃ statusCode detail, retryJob env now correlationId answer jobId s =
        (.error (.httpException statusCode detail), s.put (job.giveUp now))) ∨
    (∃ job, s.job jobId = some job ∧ job.IsRetryable ∧ ¬ job.IsGivenUp env.settings ∧
      (retryJob env now correlationId answer jobId s).1.map (fun _ => ()) =
        (requeue env retryWords answer .ok correlationId (job.resetForRetry now) s).1.map
          (fun _ => ()) ∧
      (retryJob env now correlationId answer jobId s).2 =
        (requeue env retryWords answer .ok correlationId (job.resetForRetry now) s).2) := by
  unfold retryJob
  cases hjob : s.job jobId with
  | none =>
    refine .inl ⟨?_, 404, _, rfl⟩
    intro job hmem
    cases hmem
  | some job =>
    simp only [Option.mem_def, Option.some.injEq, forall_eq', exists_eq_left']
    by_cases hstatus : job.status ∈ [JobStatus.failure, .revoked, .deadLetter]
    · rw [if_neg (not_not.mpr hstatus)]
      by_cases hexhausted : job.maxRetries ≤ job.retryCount
      · have hretry : ¬ job.IsRetryable := fun h => absurd h.2.1 (not_lt.mpr hexhausted)
        rw [if_pos hexhausted]
        by_cases hgiven : (env.settings.retryDeadLetterEnabled &&
            decide (job.status ≠ .deadLetter)) = true
        · rw [if_pos hgiven]
          rw [Bool.and_eq_true, decide_eq_true_eq] at hgiven
          have hmem : job.status ∈ [JobStatus.failure, .revoked] := by
            simpa [hgiven.2] using hstatus
          exact .inr (.inl ⟨⟨hmem, hexhausted, hgiven.1⟩, hretry, 400, _, rfl⟩)
        · rw [if_neg hgiven]
          refine .inl ⟨⟨hretry, ?_⟩, 400, _, rfl⟩
          rintro ⟨hmem, -, henabled⟩
          apply hgiven
          rw [henabled, Bool.true_and, decide_eq_true_eq]
          rintro hdead
          rw [hdead] at hmem
          exact absurd hmem (by decide)
      · rw [if_neg hexhausted]
        have hgiven : ¬ job.IsGivenUp env.settings := fun h => hexhausted h.2.1
        by_cases hclass : job.retryClass = some RetryClass.atMostOnce.value
        · rw [if_pos hclass]
          exact .inl ⟨⟨fun h => h.2.2 hclass, hgiven⟩, 400, _, rfl⟩
        · rw [if_neg hclass]
          refine .inr (.inr ⟨⟨hstatus, not_le.mp hexhausted, hclass⟩, hgiven, ?_⟩)
          generalize requeue env retryWords answer .ok correlationId (job.resetForRetry now) s =
            outcome
          obtain ⟨result, s'⟩ := outcome
          cases result with
          | error exc => exact ⟨rfl, rfl⟩
          | ok job => exact ⟨rfl, rfl⟩
    · rw [if_pos hstatus]
      refine .inl ⟨⟨fun h => hstatus h.1, ?_⟩, 400, _, rfl⟩
      intro h
      exact hstatus (List.mem_append_left [JobStatus.deadLetter] h.1)

/-- **What `release_job_from_quarantine` does**: it refuses, or puts the job back. -/
theorem release_cases (env : JobEnv) (correlationId : Option String) (answer : Dispatch)
    (jobId : UUID) (s : JobStore) :
    ((∀ job ∈ s.job jobId, job.status ≠ .quarantined) ∧
      ∃ statusCode detail, releaseJobFromQuarantine env correlationId answer jobId s =
        (.error (.httpException statusCode detail), s)) ∨
    (∃ job, s.job jobId = some job ∧ job.status = .quarantined ∧
      (releaseJobFromQuarantine env correlationId answer jobId s).1.map (fun _ => ()) =
        (requeue env releaseWords answer (deliveryArgument env) correlationId job.resetForRelease
          s).1.map (fun _ => ()) ∧
      (releaseJobFromQuarantine env correlationId answer jobId s).2 =
        (requeue env releaseWords answer (deliveryArgument env) correlationId job.resetForRelease
          s).2) := by
  unfold releaseJobFromQuarantine
  cases hjob : s.job jobId with
  | none =>
    refine .inl ⟨?_, 404, _, rfl⟩
    intro job hmem
    cases hmem
  | some job =>
    simp only [Option.mem_def, Option.some.injEq, forall_eq', exists_eq_left']
    by_cases hstatus : job.status = .quarantined
    · rw [if_neg (not_not.mpr hstatus)]
      refine .inr ⟨hstatus, ?_⟩
      generalize requeue env releaseWords answer (deliveryArgument env) correlationId
        job.resetForRelease s = outcome
      obtain ⟨result, s'⟩ := outcome
      cases result with
      | error exc => exact ⟨rfl, rfl⟩
      | ok job => exact ⟨rfl, rfl⟩
    · rw [if_pos hstatus]
      exact .inl ⟨hstatus, 400, _, rfl⟩

namespace JobStore

variable {env : JobEnv} {s : JobStore} {now : Time} {P : Job → Prop}

theorem forall_retry_iff (hP : RowProperty P) (hs : ∀ j ∈ s.jobs, P j)
    (correlationId : Option String) (answer : Dispatch) (jobId : UUID)
    (hreset : ∀ job ∈ s.job jobId, job.IsRetryable → P (job.resetForRetry now)) :
    (∀ j ∈ (retryJob env now correlationId answer jobId s).2.jobs, P j) ↔
      ∀ job ∈ s.job jobId, job.IsGivenUp env.settings → P (job.giveUp now) := by
  rcases retryJob_cases env now correlationId answer jobId s with
    ⟨hrefused, _, _, hstore⟩ | ⟨job, hjob, hgiven, -, _, _, hstore⟩ |
      ⟨job, hjob, hretry, hnot, -, hstore⟩
  · rw [hstore]
    exact iff_of_true hs fun job hmem hgiven => absurd hgiven (hrefused job hmem).2
  · rw [hstore]
    refine (forall_put_iff hs hjob (job.giveUp now) rfl).trans ⟨?_, fun h => h job hjob hgiven⟩
    intro h job' hmem _
    rw [hjob] at hmem
    rwa [← Option.some.inj hmem]
  · rw [hstore]
    refine iff_of_true (forall_requeue hP env hs (hreset job hjob hretry) _ _ _ _) ?_
    intro job' hmem hgiven
    rw [hjob] at hmem
    exact absurd hgiven (Option.some.inj hmem ▸ hnot)

theorem forall_release (hP : RowProperty P) (hs : ∀ j ∈ s.jobs, P j)
    (correlationId : Option String) (answer : Dispatch) (jobId : UUID)
    (hreset : ∀ job ∈ s.job jobId, job.status = .quarantined → P job.resetForRelease) :
    ∀ j ∈ (releaseJobFromQuarantine env correlationId answer jobId s).2.jobs, P j := by
  rcases release_cases env correlationId answer jobId s with
    ⟨-, _, _, hstore⟩ | ⟨job, hjob, hstatus, -, hstore⟩
  · rw [hstore]
    exact hs
  · rw [hstore]
    exact forall_requeue hP env hs (hreset job hjob hstatus) _ _ _ _

end JobStore

end NocIq
