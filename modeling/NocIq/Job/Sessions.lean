import NocIq.Job.Writes
import NocIq.Job.Requeue

/-!
# NocIq — sessions that take turns on the jobs

A session loads a job, decides what to write, and commits its UPDATE later; in between others may
commit theirs. `cancel_job` and `reclaim_stale_leases` check a job first and load it again before
they change it, since an audit event in between commits the session. The requests that put a job
back are one step.

`requeues` and `reclaimed` record which jobs have been put back, and from which workers jobs have
been reclaimed. They are read by no step.

* **`job_commit`** — what a commit does to the job that an id finds.
* **`commit_opened`** — a session that commits at once is the operation that it is a part of.
-/

namespace NocIq

/-! ## Writes -/

/-- What a session has decided to write. -/
inductive JobWrite where
  /-- a callback of a worker -/
  | callback (worker : String) (callback : Callback)
  /-- the status that a poll has read -/
  | sync (status : JobStatus)
  | revoke
  /-- `heartbeat_job` -/
  | heartbeat (worker : String) (now : Time)
  | reclaim (now : Time)

namespace JobWrite

def apply (env : JobEnv) : JobWrite → Job → Job
  | .callback _ c => c.apply env
  | .sync status => fun job => { job with status }
  | .revoke => fun job => { job with status := .revoked }
  | .heartbeat worker now => Job.workerHeartbeat env now worker
  | .reclaim now => Job.reclaim env now

theorem apply_id (env : JobEnv) (write : JobWrite) (job : Job) :
    (write.apply env job).id = job.id := by
  cases write with
  | callback worker callback => exact callback.apply_id env job
  | sync | revoke | heartbeat | reclaim => rfl

end JobWrite

structure JobSession where
  write : JobWrite
  loaded : Job

namespace JobSession

variable (env : JobEnv)

/-- The UPDATE of the session, on the row as it is by then. -/
def update (session : JobSession) (row : Job) : Job :=
  match session.write with
  | .callback _ callback => callback.store env session.loaded row
  | write => Job.update session.loaded (write.apply env session.loaded) row

theorem update_id (session : JobSession) (row : Job) : (session.update env row).id = row.id := by
  obtain ⟨write, loaded⟩ := session
  cases write with
  | callback worker callback => cases callback <;> rfl
  | sync | revoke | heartbeat | reclaim => rfl

theorem update_loaded (write : JobWrite) (loaded : Job) :
    ({ write, loaded } : JobSession).update env loaded = write.apply env loaded := by
  cases write with
  | callback worker callback => exact callback.store_loaded env loaded
  | sync | revoke | heartbeat | reclaim => exact Job.update_loaded rfl rfl

end JobSession

/-! ## The system -/

/-- How a worker looks up its job: `_get_job`, or `_get_job_by_id` in a recovery. -/
inductive JobKey where
  | task (celeryTaskId : String)
  | id (jobId : UUID)

def JobStore.find (s : JobStore) : JobKey → Option Job
  | .task celeryTaskId => s.byTask celeryTaskId
  | .id jobId => s.job jobId

structure JobSystem where
  store : JobStore
  sessions : List JobSession := []
  /-- what has passed its check, and is to load the job again -/
  checked : List (UUID × JobWrite) := []
  requeues : List UUID := []
  reclaimed : List (UUID × String) := []

inductive SessionEvent where
  | callback (key : JobKey) (worker : String) (callback : Callback)
  | poll (jobId : UUID) (celeryState : String)
  | cancel (jobId : UUID)
  | heartbeatJob (celeryTaskId : String) (worker : String) (now : Time)
  | recordHeartbeat (jobId : UUID) (worker : String) (now : Time)
  /-- `ids` is what the query of `reclaim_stale_leases` returns -/
  | reclaim (now : Time) (ids : List UUID)
  | reload (i : Nat)
  | commit (i : Nat)
  | requeue (call : RequeueCall)

namespace JobSystem

variable (env : JobEnv) (s : JobSystem)

def opened (write : JobWrite) : Option Job → JobSystem
  | none => s
  | some loaded => { s with sessions := s.sessions ++ [{ write, loaded }] }

/-- `_sync_job_status_from_celery`. -/
def poll (jobId : UUID) (celeryState : String) : JobSystem :=
  match s.store.job jobId with
  | none => s
  | some job =>
    let newStatus := Job.celeryStatus celeryState job.status
    if job.status ∈ JobStatus.ended ∨ newStatus = job.status then s
    else s.opened (.sync newStatus) (some job)

def cancel (jobId : UUID) : JobSystem :=
  match s.store.job jobId with
  | none => s
  | some job =>
    if job.status ∈ [JobStatus.success, .failure, .revoked, .deadLetter] then s
    else { s with checked := s.checked ++ [(jobId, .revoke)] }

def recordHeartbeat (jobId : UUID) (worker : String) (now : Time) : JobSystem :=
  match s.store.job jobId with
  | none => s
  | some job =>
    if job.status ∉ [JobStatus.started, .pending] then s
    else s.opened (.heartbeat worker now) (some job)

/-- The stale jobs among those of the ids. -/
def reclaim (now : Time) (ids : List UUID) : JobSystem :=
  let stale := ids.filter fun id => (s.store.job id).any (Job.isStale now)
  { s with checked := s.checked ++ stale.map fun id => (id, .reclaim now) }

def reload (i : Nat) : JobSystem :=
  match s.checked[i]? with
  | none => s
  | some (jobId, write) =>
    ({ s with checked := s.checked.eraseIdx i } : JobSystem).opened write (s.store.job jobId)

/-- The workers that lose the job if the session is a reclamation. -/
def losers (session : JobSession) (row : Option Job) : List (UUID × String) :=
  match session.write with
  | .reclaim _ =>
    (session.loaded.workerId.toList ++ (row.bind Job.workerId).toList).map fun worker =>
      (session.loaded.id, worker)
  | _ => []

end JobSystem

def JobStore.commit (env : JobEnv) (session : JobSession) (s : JobStore) : JobStore :=
  { s with
    jobs := s.jobs.map fun row =>
      if row.id = session.loaded.id then session.update env row else row }

namespace JobSystem

def commit (env : JobEnv) (s : JobSystem) (i : Nat) : JobSystem :=
  match s.sessions[i]? with
  | none => s
  | some session =>
    { s with
      store := s.store.commit env session
      sessions := s.sessions.eraseIdx i
      reclaimed := s.reclaimed ++ losers session (s.store.job session.loaded.id) }

def serve (env : JobEnv) (s : JobSystem) : SessionEvent → JobSystem
  | .callback key worker callback => s.opened (.callback worker callback) (s.store.find key)
  | .poll jobId celeryState => s.poll jobId celeryState
  | .cancel jobId => s.cancel jobId
  | .heartbeatJob celeryTaskId worker now =>
    s.opened (.heartbeat worker now) (s.store.byTask celeryTaskId)
  | .recordHeartbeat jobId worker now => s.recordHeartbeat jobId worker now
  | .reclaim now ids => s.reclaim now ids
  | .reload i => s.reload i
  | .commit i => s.commit env i
  | .requeue call =>
    { s with store := (call.serve env s.store).2, requeues := s.requeues ++ [call.jobId] }

abbrev Run (env : JobEnv) := Runs.Run fun (s : JobSystem) event s' => serve env s event = s'

/-! ## What happens before a commit -/

/-- The table and the records are what they were. -/
structure Unwritten (s s' : JobSystem) : Prop where
  store : s'.store = s.store
  requeues : s'.requeues = s.requeues
  reclaimed : s'.reclaimed = s.reclaimed

theorem opened_unwritten (s : JobSystem) (write : JobWrite) (found : Option Job) :
    s.Unwritten (s.opened write found) := by
  cases found with
  | none => exact ⟨rfl, rfl, rfl⟩
  | some job => exact ⟨rfl, rfl, rfl⟩

/-- **Nothing is written before a commit.** A session that is opened, or has passed its check, has
changed neither the table nor the records. -/
theorem serve_unwritten (env : JobEnv) (s : JobSystem) {event : SessionEvent}
    (hcommit : ∀ i, event ≠ .commit i) (hrequeue : ∀ call, event ≠ .requeue call) :
    s.Unwritten (serve env s event) := by
  cases event with
  | callback key worker callback => exact s.opened_unwritten _ _
  | heartbeatJob celeryTaskId worker now => exact s.opened_unwritten _ _
  | reclaim now ids => exact ⟨rfl, rfl, rfl⟩
  | poll jobId celeryState =>
    show s.Unwritten (s.poll jobId celeryState)
    unfold poll
    split
    · exact ⟨rfl, rfl, rfl⟩
    · -- a poll of an ended job, or of one whose status is the same, opens no session
      dsimp only
      split
      · exact ⟨rfl, rfl, rfl⟩
      · exact s.opened_unwritten _ _
  | cancel jobId =>
    show s.Unwritten (s.cancel jobId)
    unfold cancel
    split
    · exact ⟨rfl, rfl, rfl⟩
    · split
      · exact ⟨rfl, rfl, rfl⟩
      · exact ⟨rfl, rfl, rfl⟩
  | recordHeartbeat jobId worker now =>
    show s.Unwritten (s.recordHeartbeat jobId worker now)
    unfold recordHeartbeat
    split
    · exact ⟨rfl, rfl, rfl⟩
    · split
      · exact ⟨rfl, rfl, rfl⟩
      · exact s.opened_unwritten _ _
  | reload i =>
    show s.Unwritten (s.reload i)
    unfold reload
    split
    · exact ⟨rfl, rfl, rfl⟩
    · -- the session that has been checked is opened on the job as it is by now
      rename_i jobId write _
      have hopened := opened_unwritten { s with checked := s.checked.eraseIdx i } write
        (s.store.job jobId)
      exact ⟨hopened.store, hopened.requeues, hopened.reclaimed⟩
  | commit i => exact absurd rfl (hcommit i)
  | requeue call => exact absurd rfl (hrequeue call)

end JobSystem

/-! ## What a commit does -/

namespace JobStore

variable (env : JobEnv) {s : JobStore} {job : Job}

theorem job_map {f : Job → Job} (hid : ∀ row, (f row).id = row.id) (s : JobStore) (id : UUID) :
    ({ s with jobs := s.jobs.map f } : JobStore).job id = (s.job id).map f := by
  show (s.jobs.map f).find? _ = (s.jobs.find? _).map f
  rw [List.find?_map]
  congr 2
  funext row
  show decide ((f row).id = id) = decide (row.id = id)
  rw [hid]

theorem job_commit (session : JobSession) (s : JobStore) (id : UUID) :
    (s.commit env session).job id =
      (s.job id).map fun row => if id = session.loaded.id then session.update env row else row := by
  unfold commit
  rw [job_map]
  · cases hjob : s.job id with
    | none => rfl
    | some row =>
      obtain rfl := (mem_of_job hjob).2
      rfl
  · intro row
    split
    · exact session.update_id env row
    · rfl

/-- **A session that commits at once**: its write, as one operation. -/
theorem commit_opened (hkeys : (s.jobs.map Job.id).Nodup) (hjob : job ∈ s.jobs) (write : JobWrite) :
    s.commit env { write, loaded := job } = s.put (write.apply env job) := by
  have hrows : s.jobs.map (fun row => if row.id = job.id then
      ({ write, loaded := job } : JobSession).update env row else row) =
      s.jobs.map fun row => if row.id = (write.apply env job).id then write.apply env job else row := by
    refine List.map_congr_left fun row hrow => ?_
    rw [write.apply_id]
    split
    · rename_i hid
      rw [List.inj_on_of_nodup_map hkeys hrow hjob hid]
      exact JobSession.update_loaded env write job
    · rfl
  show ({ s with jobs := _ } : JobStore) = { s with jobs := _ }
  rw [hrows]
  rfl

end JobStore

end NocIq
