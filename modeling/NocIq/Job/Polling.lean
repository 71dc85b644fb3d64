import NocIq.Job.Writes

/-!
# NocIq — polling a job

`GET /jobs/{job_id}` and its siblings load the job, ask Celery for the state of its task, and store
the status that this maps to. Meanwhile the worker of the task loads and stores the same row.

`alone` is the row that the worker would have without polls (`withoutPolls_foldl`). It is read by no
step.

* **`Agrees.step`** — polls make a difference to the status only, as long as heartbeats do not
  depend on it.
* **`polling_harmless_iff`** — the runs in which polls do no harm.
-/

namespace NocIq

structure Polling where
  row : Job
  /-- the callback that the worker is at, with the row it has loaded -/
  worker : Option (Callback × Job) := none
  /-- the statuses that polls are about to store -/
  polls : List JobStatus := []
  alone : Job
  /-- the last callback that has been stored is an end of the task -/
  ended : Bool := false

inductive PollingEvent where
  | load (callback : Callback)
  | store
  | poll (celeryState : String)
  | storePoll (i : Nat)

namespace Polling

variable {env : JobEnv} {s s' : Polling} {event : PollingEvent} {callback : Callback}

def load (callback : Callback) (s : Polling) : Polling :=
  match s.worker with
  | none => { s with worker := some (callback, s.row) }
  | some _ => s

def store (env : JobEnv) (s : Polling) : Polling :=
  match s.worker with
  | none => s
  | some (callback, loaded) =>
    { s with
      row := callback.store env loaded s.row
      worker := none
      alone := callback.apply env s.alone
      ended := callback.IsEnd }

/-- `_sync_job_status_from_celery` up to its commit. -/
def poll (celeryState : String) (s : Polling) : Polling :=
  if s.row.status ∈ JobStatus.ended then s
  else
    let newStatus := Job.celeryStatus celeryState s.row.status
    if newStatus = s.row.status then s else { s with polls := s.polls ++ [newStatus] }

def storePoll (i : Nat) (s : Polling) : Polling :=
  match s.polls[i]? with
  | none => s
  | some status => { s with row := { s.row with status }, polls := s.polls.eraseIdx i }

def serve (env : JobEnv) (s : Polling) : PollingEvent → Polling
  | .load callback => s.load callback
  | .store => s.store env
  | .poll celeryState => s.poll celeryState
  | .storePoll i => s.storePoll i

abbrev PollingRun (env : JobEnv) :=
  Runs.Run fun (s : Polling) event s' => serve env s event = s'

/-! ## The operations that this splits -/

theorem row_storePoll_poll (h : s.polls = []) (celeryState : String) :
    ((s.poll celeryState).storePoll 0).row = s.row.sync celeryState := by
  have hnone : s.storePoll 0 = s := by
    unfold storePoll
    rw [h]
    rfl
  unfold poll Job.sync
  dsimp only
  split
  · rw [hnone]
  · split
    · rename_i hsame
      rw [hnone, hsame]
    · rw [h]
      rfl

/-! ## The same run without polls -/

def IsWorker : PollingEvent → Bool
  | .load _ | .store => true
  | .poll _ | .storePoll _ => false

def withoutPolls (s : Polling) : Polling where
  row := s.alone
  worker := s.worker.map fun x => (x.1, s.alone)
  alone := s.alone
  ended := s.ended

theorem withoutPolls_serve (env : JobEnv) (s : Polling) (event : PollingEvent) :
    (serve env s event).withoutPolls =
      if IsWorker event then serve env s.withoutPolls event else s.withoutPolls := by
  cases event with
  | load callback =>
    cases hworker : s.worker <;> simp [serve, load, IsWorker, withoutPolls, hworker]
  | store =>
    cases hworker : s.worker with
    | none => simp [serve, store, IsWorker, withoutPolls, hworker]
    | some x =>
      simp [serve, store, IsWorker, withoutPolls, hworker, Callback.store_loaded]
  | poll celeryState =>
    simp only [serve, IsWorker, poll, Bool.false_eq_true, if_false]
    split
    · rfl
    · split <;> rfl
  | storePoll i =>
    simp only [serve, storePoll, IsWorker, Bool.false_eq_true, if_false]
    split <;> rfl

/-- `alone` is the row of the run without polls. Induction on the events. -/
theorem withoutPolls_foldl (env : JobEnv) (s : Polling) (events : List PollingEvent) :
    (events.foldl (serve env) s).withoutPolls =
      (events.filter IsWorker).foldl (serve env) s.withoutPolls := by
  induction events generalizing s with
  | nil => rfl
  | cons event events ih =>
    rw [List.foldl_cons, ih, withoutPolls_serve, List.filter_cons]
    split
    · rw [List.foldl_cons]
    · rfl

end Polling

/-! ## Rows that differ in their status -/

def Job.SameButStatus (job job' : Job) : Prop := ∃ status, job' = { job with status }

theorem Job.SameButStatus.refl (job : Job) : job.SameButStatus job := ⟨job.status, rfl⟩

theorem Job.SameButStatus.symm {job job' : Job} (h : job.SameButStatus job') :
    job'.SameButStatus job := by
  obtain ⟨status, rfl⟩ := h
  exact ⟨job.status, rfl⟩

theorem Job.SameButStatus.trans {job job' job'' : Job} (h : job.SameButStatus job')
    (h' : job'.SameButStatus job'') : job.SameButStatus job'' := by
  obtain ⟨status, rfl⟩ := h
  obtain ⟨status', rfl⟩ := h'
  exact ⟨status', rfl⟩

theorem Job.withStatus_eq_iff (job : Job) (status : JobStatus) :
    { job with status } = job ↔ status = job.status := by
  constructor
  · intro h
    rw [← h]
  · intro h
    rw [h]

namespace Callback

variable {env : JobEnv} {callback : Callback} {job job' : Job}

theorem apply_sameButStatus (env : JobEnv) (h : job.SameButStatus job')
    (hbeat : callback.IsHeartbeat = true → (job.status = .started ↔ job'.status = .started)) :
    (callback.apply env job).SameButStatus (callback.apply env job') := by
  obtain ⟨status, rfl⟩ := h
  cases callback with
  | heartbeat now =>
    show (Job.heartbeat env now job).SameButStatus (Job.heartbeat env now { job with status })
    have hstarted := hbeat rfl
    unfold Job.heartbeat
    by_cases hjob : job.status = .started
    · rw [if_pos hjob, if_pos (hstarted.mp hjob)]
      exact ⟨status, rfl⟩
    · rw [if_neg hjob, if_neg fun h => hjob (hstarted.mpr h)]
      exact ⟨status, rfl⟩
  | updateProgress progress details => exact ⟨status, rfl⟩
  | markStarted | recoverStarted | markSuccess | markFailure | exhaustDelivery | recoverSuccess
  | recoverFailure =>
    exact Job.SameButStatus.refl (Callback.apply env _ job)

theorem apply_eq_of_isEnd (h : job.SameButStatus job') (hend : callback.IsEnd = true) :
    callback.apply env job = callback.apply env job' := by
  obtain ⟨status, rfl⟩ := h
  cases callback with
  | markStarted | heartbeat | updateProgress | recoverStarted => cases hend
  | markFailure | markSuccess | exhaustDelivery | recoverSuccess | recoverFailure => rfl

theorem store_sameButStatus (env : JobEnv) (h : job.SameButStatus job') :
    (callback.apply env job).SameButStatus (callback.store env job job') := by
  obtain ⟨status, rfl⟩ := h
  cases callback with
  | recoverSuccess now result => exact ⟨.success, rfl⟩
  | markStarted | heartbeat | updateProgress | markSuccess | markFailure | exhaustDelivery
  | recoverStarted | recoverFailure =>
    exact ⟨_, Job.update_withStatus (apply_id env _ job) (apply_jobType env _ job) status⟩

/-- The UPDATE of the callback has a status in it. -/
def WritesStatus (env : JobEnv) (callback : Callback) (loaded : Job) : Prop :=
  match callback with
  | .recoverSuccess .. => True
  | callback => (callback.apply env loaded).status ≠ loaded.status

/-- An end of the task leaves what it should, if it writes the status or finds the one it has
loaded. -/
theorem store_eq_apply_iff (env : JobEnv) (h : job.SameButStatus job') :
    callback.store env job job' = callback.apply env job ↔
      (callback.WritesStatus env job ∨ job'.status = job.status) := by
  obtain ⟨status, rfl⟩ := h
  cases callback with
  | recoverSuccess now result => exact iff_of_true rfl (.inl trivial)
  | markStarted | heartbeat | updateProgress | markSuccess | markFailure | exhaustDelivery
  | recoverStarted | recoverFailure =>
    refine Eq.congr_left (Job.update_withStatus (apply_id env _ job) (apply_jobType env _ job)
      status) |>.trans ?_
    exact (Job.withStatus_eq_iff _ _).trans (column_eq_iff _ _ _)

end Callback

namespace Polling

variable {env : JobEnv} {s s' : Polling} {event : PollingEvent}

/-! ## What polls change -/

structure Agrees (s : Polling) : Prop where
  row : s.row.SameButStatus s.alone
  loaded : ∀ callback loaded, s.worker = some (callback, loaded) →
    loaded.SameButStatus s.row ∧
      (callback.IsHeartbeat = true → (loaded.status = .started ↔ s.alone.status = .started))

/-- A heartbeat finds the job started if and only if it would without polls. -/
def BeatsAlike (s : Polling) : PollingEvent → Prop
  | .load callback =>
    callback.IsHeartbeat = true → (s.row.status = .started ↔ s.alone.status = .started)
  | _ => True

theorem Agrees.load (h : s.Agrees) {callback : Callback} (hbeat : s.BeatsAlike (.load callback)) :
    (s.load callback).Agrees := by
  unfold Polling.load
  split
  · refine ⟨h.row, ?_⟩
    intro callback' loaded hworker
    obtain ⟨rfl, rfl⟩ := Prod.mk.inj (Option.some.inj hworker)
    exact ⟨.refl _, hbeat⟩
  · exact h

theorem Agrees.store (h : s.Agrees) : (s.store env).Agrees := by
  unfold Polling.store
  split
  · exact h
  · rename_i callback loaded hworker
    obtain ⟨hloaded, hbeat⟩ := h.loaded callback loaded hworker
    refine ⟨?_, ?_⟩
    -- through the callback on the row that it has loaded
    · have hstore := callback.store_sameButStatus env hloaded
      have halone := callback.apply_sameButStatus env (hloaded.trans h.row) hbeat
      exact hstore.symm.trans halone
    · intro callback' loaded' hnone
      cases hnone

theorem Agrees.poll (h : s.Agrees) (celeryState : String) : (s.poll celeryState).Agrees := by
  unfold Polling.poll
  dsimp only
  split
  · exact h
  · split
    · exact h
    · exact ⟨h.row, h.loaded⟩

theorem Agrees.storePoll (h : s.Agrees) (i : Nat) : (s.storePoll i).Agrees := by
  unfold Polling.storePoll
  split
  · exact h
  · rename_i status _
    have hrow : s.row.SameButStatus { s.row with status } := ⟨status, rfl⟩
    refine ⟨hrow.symm.trans h.row, ?_⟩
    intro callback loaded hworker
    obtain ⟨hloaded, hbeat⟩ := h.loaded callback loaded hworker
    exact ⟨hloaded.trans hrow, hbeat⟩

/-- **What an event does**: the row stays the one without polls, up to its status. -/
theorem Agrees.step (h : s.Agrees) (hbeat : s.BeatsAlike event) : (s.serve env event).Agrees := by
  cases event with
  | load callback => exact h.load hbeat
  | store => exact h.store
  | poll celeryState => exact h.poll celeryState
  | storePoll i => exact h.storePoll i

/-! ## What polls must not do -/

/-- The worker has ended. -/
def AtRest (s : Polling) : Prop := s.ended = true ∧ s.worker = none

/-- The row of a worker that has ended is the one it has without polls. -/
def RowIsKept (s : Polling) : Prop := s.AtRest → s.row = s.alone

/-- What a poll may make of a row: a started job does not become pending, and a job that has ended
has a result or an error. -/
structure IsSound (row row' : Job) : Prop where
  started : row.status = .started → row'.status ≠ .pending
  success : row'.status = .success → row'.result ≠ none
  failure : row'.status = .failure → row'.error ≠ none

def StoresSoundly (env : JobEnv) (s : Polling) : PollingEvent → Prop
  | .storePoll i => (s.polls[i]?).isSome = true → IsSound s.row (s.serve env (.storePoll i)).row
  | _ => True

/-- A poll that stores pending does not find the job started, and one that stores success (failure)
finds its result (error). -/
def ReadsSoundly (s : Polling) : PollingEvent → Prop
  | .storePoll i => ∀ status ∈ s.polls[i]?,
      (status = .pending → s.row.status ≠ .started) ∧
        (status = .success → s.row.result ≠ none) ∧ (status = .failure → s.row.error ≠ none)
  | _ => True

/-- A poll after the end of the task stores the status that the job has; and an end of the task that
has loaded the status it gives finds this status when it is stored. -/
def KeepsRow (env : JobEnv) (s : Polling) : PollingEvent → Prop
  | .storePoll i => ∀ status ∈ s.polls[i]?, s.AtRest → status = s.row.status
  | .store => ∀ callback loaded, s.worker = some (callback, loaded) → callback.IsEnd = true →
      callback.WritesStatus env loaded ∨ s.row.status = loaded.status
  | _ => True

theorem storesSoundly_iff (event : PollingEvent) :
    s.StoresSoundly env event ↔ s.ReadsSoundly event := by
  cases event with
  | load | store | poll => exact Iff.rfl
  | storePoll i =>
    show (_ → IsSound s.row (s.storePoll i).row) ↔ ∀ status ∈ s.polls[i]?, _
    unfold Polling.storePoll
    cases hstatus : s.polls[i]? with
    | none => simp
    | some status =>
      simp only [Option.isSome_some, forall_const, Option.mem_def, Option.some.injEq, forall_eq']
      constructor
      · intro hsound
        exact ⟨fun hpending hstarted => hsound.started hstarted hpending, hsound.success,
          hsound.failure⟩
      · rintro ⟨hpending, hsuccess, hfailure⟩
        exact ⟨fun hstarted h => hpending h hstarted, hsuccess, hfailure⟩

theorem rowIsKept_step_iff (hagrees : s.Agrees) (hkept : s.RowIsKept) (event : PollingEvent) :
    (s.serve env event).RowIsKept ↔ s.KeepsRow env event := by
  cases event with
  | load callback =>
    refine iff_of_true ?_ trivial
    show (s.load callback).RowIsKept
    unfold Polling.load
    split
    · rintro ⟨-, hworker⟩
      cases hworker
    · exact hkept
  | poll celeryState =>
    refine iff_of_true ?_ trivial
    show (s.poll celeryState).RowIsKept
    unfold Polling.poll
    dsimp only
    split
    · exact hkept
    · split
      · exact hkept
      · exact hkept
  | storePoll i =>
    show (s.storePoll i).RowIsKept ↔ ∀ status ∈ s.polls[i]?, s.AtRest → status = s.row.status
    unfold Polling.storePoll
    cases hstatus : s.polls[i]? with
    | none => simpa using hkept
    | some status =>
      simp only [Option.mem_def, Option.some.injEq, forall_eq']
      refine forall_congr' fun hrest => ?_
      -- after the end the row is the one without polls, so that only the status can differ
      rw [show s.alone = s.row from (hkept hrest).symm]
      exact s.row.withStatus_eq_iff status
  | store =>
    show (s.store env).RowIsKept ↔ ∀ callback loaded, s.worker = some (callback, loaded) → _
    unfold Polling.store
    cases hworker : s.worker with
    | none => simpa using hkept
    | some x =>
      obtain ⟨callback, loaded⟩ := x
      obtain ⟨hloaded, -⟩ := hagrees.loaded callback loaded hworker
      have hstored (hend : callback.IsEnd = true) :
          callback.store env loaded s.row = callback.apply env s.alone ↔
            (callback.WritesStatus env loaded ∨ s.row.status = loaded.status) := by
        rw [← callback.apply_eq_of_isEnd (hloaded.trans hagrees.row) hend]
        exact callback.store_eq_apply_iff env hloaded
      constructor
      · intro hrow callback' loaded' hsame hend
        obtain ⟨rfl, rfl⟩ := Prod.mk.inj (Option.some.inj hsame)
        exact (hstored hend).mp (hrow ⟨hend, rfl⟩)
      · rintro hwrites ⟨hend, -⟩
        exact (hstored hend).mpr (hwrites callback loaded rfl hend)

/-! ## Runs -/

/-- Polls do no harm in a step. -/
structure PollsHarmlessly (env : JobEnv) (s : Polling) (event : PollingEvent) : Prop where
  reads : s.ReadsSoundly event
  keeps : s.KeepsRow env event

/-- **The runs in which polls do no harm.** Where heartbeats find the job started if and only if
they would without polls: every poll stores soundly, and in every state in which the worker has ended
the row is the one without polls, if and only if every step of the run meets the condition. -/
theorem polling_harmless_iff {row : Job} {steps : List (Polling × PollingEvent)}
    (h : PollingRun env { row, alone := row } steps s) (hbeats : ∀ x ∈ steps, x.1.BeatsAlike x.2) :
    ((∀ x ∈ steps, x.1.StoresSoundly env x.2) ∧ ∀ t ∈ Runs.visited steps s, t.RowIsKept) ↔
      ∀ x ∈ steps, x.1.PollsHarmlessly env x.2 := by
  have hkept : (∀ t ∈ Runs.visited steps s, t.RowIsKept) ↔ ∀ x ∈ steps, x.1.KeepsRow env x.2 := by
    rw [Runs.forall_mem_visited]
    refine (h.restrict hbeats).forall_iff (I := Agrees) (P := RowIsKept)
      (C := fun t event => t.KeepsRow env event) ⟨.refl row, ?_⟩ ?_ ?_ ?_
    · intro callback loaded hworker
      cases hworker
    · rintro ⟨hended, -⟩
      cases hended
    · rintro t event u ht ⟨hstep, hbeat⟩
      rw [← hstep]
      exact ht.step hbeat
    · rintro t event u ht hP ⟨hstep, -⟩
      rw [← hstep]
      exact rowIsKept_step_iff ht hP event
  rw [hkept]
  constructor
  · rintro ⟨hsound, hkeeps⟩ x hx
    exact ⟨(storesSoundly_iff x.2).mp (hsound x hx), hkeeps x hx⟩
  · intro hharmless
    exact ⟨fun x hx => (storesSoundly_iff x.2).mpr (hharmless x hx).reads,
      fun x hx => (hharmless x hx).keeps⟩

/-! ### A task whose state Celery does not know -/

def enqueuedJob : Job where
  id := 1
  celeryTaskId := "task-1"
  jobType := .slaComputation

/-- The worker starts, and a poll finds no state of the task. -/
def unknownStatePoll : List PollingEvent :=
  [.load (.markStarted 1000000), .store, .poll "PENDING", .storePoll 0]

/-- **A poll makes a started job pending again.** -/
theorem poll_makes_started_job_pending :
    ¬ ∀ (env : JobEnv) (row : Job) (steps : List (Polling × PollingEvent)) (s : Polling),
      PollingRun env { row, alone := row } steps s →
        (∀ x ∈ steps, x.1.StoresSoundly env x.2) ∧ ∀ t ∈ Runs.visited steps s, t.RowIsKept := by
  intro hall
  have hrun := Runs.replay_run (serve JobStore.jobEnv) { row := enqueuedJob, alone := enqueuedJob }
    unknownStatePoll
  obtain ⟨hsound, -⟩ := hall _ _ _ _ hrun
  have hlast := hsound (_, .storePoll 0)
    (.tail _ (.tail _ (.tail _ (.head _))))
  exact (hlast rfl).started rfl rfl

/-- A poll that is overtaken by the start of the task, and one after its end. -/
def watchedTask : List PollingEvent :=
  [.load (.markStarted 1000000), .poll "STARTED", .store, .storePoll 0,
    .load (.markSuccess 2000000 "{}"), .store, .poll "SUCCESS"]

/-- The steps of `watchedTask`. -/
def watchedSteps : List (Polling × PollingEvent) :=
  Runs.replay (serve JobStore.jobEnv) { row := enqueuedJob, alone := enqueuedJob } watchedTask

theorem polling_harmless_watchedTask :
    (∀ x ∈ watchedSteps, x.1.StoresSoundly JobStore.jobEnv x.2) ∧
      ∀ t ∈ Runs.visited watchedSteps
        (watchedTask.foldl (serve JobStore.jobEnv) { row := enqueuedJob, alone := enqueuedJob }),
        t.RowIsKept := by
  have hrun := Runs.replay_run (serve JobStore.jobEnv) { row := enqueuedJob, alone := enqueuedJob }
    watchedTask
  refine (polling_harmless_iff hrun ?_).mpr ?_
  · simp only [watchedTask, Runs.replay, List.forall_mem_cons]
    have hstart (s : Polling) : s.BeatsAlike (.load (.markStarted 1000000)) := fun h => by cases h
    have hend (s : Polling) : s.BeatsAlike (.load (.markSuccess 2000000 "{}")) := fun h => by cases h
    exact ⟨hstart _, trivial, trivial, trivial, hend _, trivial, trivial, List.forall_mem_nil _⟩
  · simp only [watchedTask, Runs.replay, List.forall_mem_cons]
    refine ⟨⟨trivial, trivial⟩, ⟨trivial, trivial⟩, ⟨trivial, ?_⟩, ⟨?_, ?_⟩, ⟨trivial, trivial⟩,
      ⟨trivial, ?_⟩, ⟨trivial, trivial⟩, List.forall_mem_nil _⟩
    · intro callback loaded hworker hend
      obtain ⟨rfl, rfl⟩ := Prod.mk.inj (Option.some.inj hworker)
      cases hend
    · intro status hstatus
      obtain rfl := Option.some.inj hstatus
      exact ⟨by decide, by decide, by decide⟩
    · rintro status hstatus ⟨hended, -⟩
      cases hended
    · intro callback loaded hworker hend
      obtain ⟨rfl, rfl⟩ := Prod.mk.inj (Option.some.inj hworker)
      have hwrites : JobStatus.success ≠ JobStatus.started := by decide
      exact .inl hwrites

end Polling

end NocIq
