import NocIq.Job.Sessions

/-!
# NocIq — terminal jobs

A job that has succeeded, or has been revoked, dead-lettered or quarantined, is to keep its status
until an operator puts it back.

* **`status_update_eq_iff`** — which commits leave the status of a job alone.
* **`job_requeue_other`** — the endpoints that put a job back leave the other jobs alone.
* **`terminal_absorbing_iff`** — hence the runs in which terminal statuses are absorbing.
-/

namespace NocIq

def JobStatus.terminal : List JobStatus := [.success, .revoked, .deadLetter, .quarantined]

variable {env : JobEnv}

/-! ## The statuses that are written -/

def Job.failureStatus (settings : JobSettings) (job : Job) : JobStatus :=
  if job.exhausted then if settings.retryDeadLetterEnabled then .deadLetter else .quarantined
  else .failure

/-- The status that a callback gives a job, if any. -/
def Callback.target (settings : JobSettings) (job : Job) : Callback → Option JobStatus
  | .markStarted _ | .recoverStarted _ => some .started
  | .heartbeat _ | .updateProgress .. => none
  | .markSuccess .. | .recoverSuccess .. => some .success
  | .markFailure .. => some (job.failureStatus settings)
  | .exhaustDelivery .. => some .deadLetter
  | .recoverFailure .. => some .failure

def JobWrite.target (settings : JobSettings) (job : Job) : JobWrite → Option JobStatus
  | .callback _ c => c.target settings job
  | .sync status => some status
  | .revoke => some .revoked
  | .heartbeat .. => none
  | .reclaim _ => some .pending

/-- All writes but the last of a recovery leave out a status that has been loaded. -/
def JobWrite.IsConditional : JobWrite → Prop
  | .callback _ (.recoverSuccess ..) => False
  | _ => True

theorem Callback.status_apply (env : JobEnv) (callback : Callback) (job : Job) :
    (callback.apply env job).status = (callback.target env.settings job).getD job.status := by
  cases callback with
  | heartbeat now =>
    show (Job.heartbeat env now job).status = job.status
    unfold Job.heartbeat
    split
    · rfl
    · rfl
  | markFailure now error errorCode errorRetryable =>
    show (Job.markFailure env now error errorCode errorRetryable job).status =
      job.failureStatus env.settings
    unfold Job.markFailure Job.failureStatus
    split
    · split
      · rfl
      · rfl
    · rfl
  | markStarted | updateProgress | markSuccess | exhaustDelivery | recoverStarted | recoverSuccess
  | recoverFailure => rfl

theorem JobWrite.status_apply (env : JobEnv) (write : JobWrite) (job : Job) :
    (write.apply env job).status = (write.target env.settings job).getD job.status := by
  cases write with
  | callback worker callback => exact callback.status_apply env job
  | sync | revoke | heartbeat | reclaim => rfl

theorem JobSession.update_of_isConditional (session : JobSession)
    (h : session.write.IsConditional) (row : Job) :
    session.update env row =
      Job.update session.loaded (session.write.apply env session.loaded) row := by
  obtain ⟨write, loaded⟩ := session
  cases write with
  | callback worker callback =>
    cases callback with
    | recoverSuccess => exact h.elim
    | markStarted | heartbeat | updateProgress | markSuccess | markFailure | exhaustDelivery
    | recoverStarted | recoverFailure => rfl
  | sync | revoke | heartbeat | reclaim => rfl

/-- A row whose status a session leaves as it is: the session gives it none, or the one that the
row has, or one that the session has loaded. -/
def JobSession.Keeps (settings : JobSettings) (session : JobSession) (row : Job) : Prop :=
  ∀ status ∈ session.write.target settings session.loaded,
    row.status = status ∨ session.write.IsConditional ∧ session.loaded.status = status

theorem JobSession.status_update_eq_iff (env : JobEnv) (session : JobSession) (row : Job) :
    (session.update env row).status = row.status ↔ session.Keeps env.settings row := by
  by_cases hconditional : session.write.IsConditional
  · rw [session.update_of_isConditional hconditional]
    show column _ _ _ = _ ↔ _
    rw [column_eq_current_iff, session.write.status_apply]
    unfold HasColumn Keeps
    cases session.write.target env.settings session.loaded with
    | none => simp
    | some status =>
      simp only [Option.getD_some, Option.mem_def, Option.some.injEq, forall_eq', hconditional,
        true_and]
      exact ⟨fun h => h.symm.imp Eq.symm Eq.symm, fun h => h.symm.imp Eq.symm Eq.symm⟩
  -- the last write of a recovery does not look at what it has loaded
  · have hkeeps : session.Keeps env.settings row ↔ row.status = .success := by
      obtain ⟨write, loaded⟩ := session
      cases write with
      | callback worker callback =>
        cases callback with
        | recoverSuccess now result =>
          constructor
          · intro h
            exact (h .success rfl).resolve_right fun h => h.1
          · intro h status hstatus
            rw [← Option.some.inj hstatus]
            exact .inl h
        | _ => exact absurd trivial hconditional
      | _ => exact absurd trivial hconditional
    have hupdate : (session.update env row).status = .success := by
      obtain ⟨write, loaded⟩ := session
      cases write with
      | callback worker callback =>
        cases callback with
        | recoverSuccess now result => rfl
        | _ => exact absurd trivial hconditional
      | _ => exact absurd trivial hconditional
    rw [hkeeps, hupdate]
    exact eq_comm

/-! ## The other jobs -/

namespace JobStore

variable {s s' : JobStore} {row job : Job} {id : UUID}

theorem job_put_other (hid : id ≠ job.id) (hrow : s.job id = some row) :
    (s.put job).job id = some row := by
  show ({ s with jobs := s.jobs.map _ } : JobStore).job id = some row
  rw [job_map, hrow]
  · rw [Option.map_some, if_neg]
    intro h
    exact hid ((mem_of_job hrow).2.symm.trans h)
  · intro r
    split
    · rename_i h
      exact h.symm
    · rfl

theorem job_insert (h : s.insert job = .ok s') (hrow : s.job id = some row) :
    s'.job id = some row := by
  unfold insert at h
  split at h
  · cases h
  · split at h
    · cases h
    · rw [← Except.ok.inj h]
      show (s.jobs ++ [job]).find? _ = some row
      rw [List.find?_append]
      exact Option.or_eq_some_iff.mpr (.inl hrow)

theorem job_setTask_other {celeryTaskId : String} (h : s.setTask job celeryTaskId = .ok s')
    (hid : id ≠ job.id) (hrow : s.job id = some row) : s'.job id = some row := by
  unfold setTask at h
  split at h
  · cases h
  · rw [← Except.ok.inj h]
    exact job_put_other hid hrow

theorem job_dispatch {answer : Dispatch} {task : TaskSignature} {args : List Json.Value}
    {kwargs : List (String × Json.Value)} {outcome : Except JobFault String}
    (h : s.dispatch answer task args kwargs = (outcome, s')) (hrow : s.job id = some row) :
    s'.job id = some row := by
  unfold job
  rw [jobs_dispatch h]
  exact hrow

theorem job_enqueue (env : JobEnv) (task : TaskSignature) (jobType : JobType)
    (payload : List (String × Json.Value)) (correlationId : Option String) (answer : Dispatch)
    (hrow : s.job id = some row) :
    (enqueue env task jobType payload correlationId answer s).2.job id = some row := by
  unfold enqueue
  dsimp only
  split
  · rename_i hdispatch
    exact job_dispatch hdispatch hrow
  · rename_i hdispatch
    split
    · exact job_dispatch hdispatch hrow
    · rename_i hinsert
      exact job_insert hinsert (job_dispatch hdispatch hrow)

theorem job_adoptTask_other {reset : Job} (hid : id ≠ reset.id) (words : RequeueWords)
    {enqueued : Except JobFault Job × JobStore} (hrow : s.job id = some row)
    (henqueued : enqueued.2.job id = some row) :
    (adoptTask env words reset s enqueued).2.job id = some row := by
  unfold adoptTask
  split
  · exact hrow
  · split
    · exact henqueued
    · rename_i hset
      exact job_setTask_other hset hid henqueued

/-- **Putting a job back** leaves the other jobs alone. -/
theorem job_requeue_other {reset : Job} (hid : id ≠ reset.id) (env : JobEnv) (words : RequeueWords)
    (answer : Dispatch) (webhookArgument : Json.Value → Except Exc Json.Value)
    (correlationId : Option String) (hrow : s.job id = some row) :
    (requeue env words answer webhookArgument correlationId reset s).2.job id = some row := by
  have hput := job_put_other hid hrow
  unfold requeue
  split
  · exact hrow
  · split
    · split
      · exact job_adoptTask_other hid words hrow (job_enqueue env _ _ _ _ _ hput)
      · exact hrow
    · split
      · exact job_adoptTask_other hid words hrow (job_enqueue env _ _ _ _ _ hput)
      · exact hrow
    · split
      · exact hrow
      · split
        · rename_i hdispatch
          exact job_dispatch hdispatch hrow
        · rename_i hdispatch
          split
          · exact job_dispatch hdispatch hrow
          · rename_i hset
            exact job_setTask_other hset hid (job_dispatch hdispatch hrow)
    · exact hrow

theorem job_serve_other (env : JobEnv) (call : RequeueCall) (hid : id ≠ call.jobId)
    (hrow : s.job id = some row) : (call.serve env s).2.job id = some row := by
  cases call with
  | retry jobId now correlationId answer =>
    show (retryJob env now correlationId answer jobId s).2.job id = some row
    rcases retryJob_cases env now correlationId answer jobId s with
      ⟨-, _, _, hcall⟩ | ⟨job, hjob, -, -, _, _, hcall⟩ | ⟨job, hjob, -, -, -, hstore⟩
    · rw [hcall]
      exact hrow
    · rw [hcall]
      exact job_put_other (fun h => hid (h.trans (mem_of_job hjob).2)) hrow
    · have hother : id ≠ (job.resetForRetry now).id := fun h => hid (h.trans (mem_of_job hjob).2)
      rw [hstore]
      exact job_requeue_other hother env _ _ _ _ hrow
  | release jobId correlationId answer =>
    show (releaseJobFromQuarantine env correlationId answer jobId s).2.job id = some row
    rcases release_cases env correlationId answer jobId s with
      ⟨-, _, _, hcall⟩ | ⟨job, hjob, -, -, hstore⟩
    · rw [hcall]
      exact hrow
    · have hother : id ≠ job.resetForRelease.id := fun h => hid (h.trans (mem_of_job hjob).2)
      rw [hstore]
      exact job_requeue_other hother env _ _ _ _ hrow

end JobStore

namespace JobSystem

/-! ## Absorption -/

/-- Of a later state: the jobs that were terminal have kept their status, unless they have been put
back meanwhile. -/
def Absorbs (s s' : JobSystem) : Prop :=
  ∃ requeued, s'.requeues = s.requeues ++ requeued ∧
    ∀ id job, s.store.job id = some job → job.status ∈ JobStatus.terminal → id ∉ requeued →
      ∃ job' ∈ s'.store.job id, job'.status = job.status

theorem Absorbs.trans {s s' s'' : JobSystem} (h : s.Absorbs s') (h' : s'.Absorbs s'') :
    s.Absorbs s'' := by
  obtain ⟨requeued, hlog, hkept⟩ := h
  obtain ⟨requeued', hlog', hkept'⟩ := h'
  refine ⟨requeued ++ requeued', by rw [hlog', hlog, List.append_assoc], ?_⟩
  intro id job hjob hterminal hid
  rw [List.mem_append, not_or] at hid
  obtain ⟨job', hjob', hstatus⟩ := hkept id job hjob hterminal hid.1
  obtain ⟨job'', hjob'', hstatus'⟩ := hkept' id job' hjob' (hstatus ▸ hterminal) hid.2
  exact ⟨job'', hjob'', hstatus'.trans hstatus⟩

/-- What a step must not do: commit a session that gives a terminal job another status. -/
def CommitsInTime (settings : JobSettings) (s : JobSystem) : SessionEvent → Prop
  | .commit i => ∀ session ∈ s.sessions[i]?, ∀ row ∈ s.store.job session.loaded.id,
      row.status ∈ JobStatus.terminal → session.Keeps settings row
  | _ => True

variable {s s' : JobSystem}

theorem Unwritten.absorbs (h : s.Unwritten s') : s.Absorbs s' := by
  refine ⟨[], by rw [h.requeues, List.append_nil], ?_⟩
  intro id job hjob _ _
  exact ⟨job, h.store ▸ hjob, rfl⟩

theorem commit_absorbs_iff (env : JobEnv) (s : JobSystem) (i : Nat) :
    s.Absorbs (s.commit env i) ↔ s.CommitsInTime env.settings (.commit i) := by
  show _ ↔ ∀ session ∈ s.sessions[i]?, ∀ row ∈ s.store.job session.loaded.id, _ → _
  unfold commit
  cases hsession : s.sessions[i]? with
  | none =>
    refine iff_of_true (Unwritten.absorbs ⟨rfl, rfl, rfl⟩) ?_
    intro session hmem
    cases hmem
  | some session =>
    dsimp only
    simp only [Option.mem_def, Option.some.injEq, forall_eq']
    constructor
    · rintro ⟨requeued, hlog, hkept⟩ row hrow hterminal
      -- a commit puts no job back
      have hnone : requeued = [] := List.self_eq_append_right.mp hlog
      obtain ⟨row', hrow', hstatus⟩ := hkept _ row hrow hterminal (hnone ▸ List.not_mem_nil)
      rw [Option.mem_def, JobStore.job_commit, hrow, Option.map_some, if_pos rfl] at hrow'
      rw [← Option.some.inj hrow'] at hstatus
      exact (session.status_update_eq_iff env row).mp hstatus
    · intro hkeeps
      refine ⟨[], (List.append_nil _).symm, ?_⟩
      intro id row hrow hterminal _
      refine ⟨if id = session.loaded.id then session.update env row else row, ?_, ?_⟩
      · rw [Option.mem_def, JobStore.job_commit, hrow, Option.map_some]
      · split
        · rename_i hid
          exact (session.status_update_eq_iff env row).mpr (hkeeps row (hid ▸ hrow) hterminal)
        · rfl

/-- **What one step does to terminal jobs.** -/
theorem serve_absorbs_iff (env : JobEnv) (s : JobSystem) (event : SessionEvent) :
    s.Absorbs (serve env s event) ↔ s.CommitsInTime env.settings event := by
  cases event with
  | commit i => exact commit_absorbs_iff env s i
  | requeue call =>
    refine iff_of_true ⟨[call.jobId], rfl, ?_⟩ trivial
    intro id job hjob _ hid
    exact ⟨job, JobStore.job_serve_other env call (List.ne_of_not_mem_cons hid) hjob, rfl⟩
  | callback | poll | cancel | heartbeatJob | recordHeartbeat | reclaim | reload =>
    refine iff_of_true (Unwritten.absorbs (serve_unwritten env s ?_ ?_)) trivial
    · exact fun _ h => by cases h
    · exact fun _ h => by cases h

/-- **The runs in which terminal statuses are absorbing**: at every commit of a session, the job is
not terminal, or the session gives it no status, the one that it has, or the one that the session
has loaded. -/
theorem terminal_absorbing_iff {steps : List (JobSystem × SessionEvent)} (h : Run env s steps s') :
    (Runs.visited steps s').Pairwise Absorbs ↔
      ∀ x ∈ steps, x.1.CommitsInTime env.settings x.2 := by
  rw [h.pairwise_iff (R := Absorbs) fun _ _ _ hfirst hrest => hfirst.trans hrest]
  exact forall₂_congr fun x _ => serve_absorbs_iff env x.1 x.2

/-! ### A task that is cancelled while it runs -/

def runningJob : Job where
  id := 1
  celeryTaskId := "task-1"
  jobType := .slaComputation
  status := .started

def running : JobSystem := { store := { jobs := [runningJob] } }

/-- The job is revoked, and the task, which goes on, succeeds. -/
def cancelledRun : List SessionEvent :=
  [.cancel 1, .reload 0, .commit 0,
    .callback (.task "task-1") "worker-1" (.markSuccess 2000000 "{}"), .commit 0]

/-- **A revoked job becomes successful.** -/
theorem revoked_job_succeeds :
    ¬ ∀ (env : JobEnv) (s s' : JobSystem) (steps : List (JobSystem × SessionEvent)),
      Run env s steps s' → (Runs.visited steps s').Pairwise Absorbs := by
  intro hall
  have hrun := Runs.replay_run (serve JobStore.jobEnv) running cancelledRun
  have habsorbs := (hrun.pairwise_iff (R := Absorbs) fun _ _ _ hfirst hrest =>
    hfirst.trans hrest).mp (hall _ _ _ _ hrun)
  have hlast := (commit_absorbs_iff _ _ 0).mp (habsorbs (_, .commit 0)
    (.tail _ (.tail _ (.tail _ (.tail _ (.head _))))))
  rcases hlast _ rfl _ rfl (by decide) .success rfl with hrow | ⟨-, hloaded⟩
  · exact absurd hrow (by decide)
  · exact absurd hloaded (by decide)

def finishedRun : List SessionEvent :=
  [.callback (.task "task-1") "worker-1" (.markSuccess 2000000 "{}"), .poll 1 "STARTED", .commit 0,
    .cancel 1]

theorem terminal_absorbing_finishedRun :
    (Runs.visited (Runs.replay (serve JobStore.jobEnv) running finishedRun)
      (finishedRun.foldl (serve JobStore.jobEnv) running)).Pairwise Absorbs := by
  refine (terminal_absorbing_iff (Runs.replay_run _ _ _)).mpr ?_
  simp only [finishedRun, Runs.replay, List.forall_mem_cons]
  refine ⟨trivial, trivial, ?_, trivial, List.forall_mem_nil _⟩
  intro session hsession row hrow hterminal
  obtain rfl := Option.some.inj hsession
  obtain rfl := Option.some.inj hrow
  exact absurd hterminal (by decide)

end JobSystem

end NocIq
