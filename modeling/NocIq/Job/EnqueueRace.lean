import NocIq.Job.Outcome
import NocIq.Job.TaskArguments

/-!
# NocIq — an enqueuing and its task

The request that enqueues a task and the worker that runs it take turns on the table. The requests
for computations hand their task over before they insert its job, and the callbacks up to then do
not find it. `enqueue_webhook_dr_replay` inserts the job first; its task finds the job by its id,
but looks for the job of its reports under that id as the id of a task.

`early` and `late` record the callbacks before and after the insertion. They are read by no step.

* **`request_alone`** — the request on its own is the enqueuing of its endpoint.
* **`hasOutcome_iff`** — when the job comes to what its task has come to.
-/

namespace NocIq

/-! ## Requests -/

inductive EnqueueRequest where
  | sla (deviceId period : String) (correlationId : Option String)
  | bulk (deviceIds : List String) (period : String) (correlationId : Option String)
  | replay (startTime endTime : Time)

namespace EnqueueRequest

variable (env : JobEnv)

/-- The job is inserted before its task is handed over. -/
def insertsFirst : EnqueueRequest → Bool
  | .sla .. | .bulk .. => false
  | .replay .. => true

def jobType : EnqueueRequest → JobType
  | .sla .. => .slaComputation
  | .bulk .. => .bulkSlaComputation
  | .replay .. => .webhookDrReplay

def payload : EnqueueRequest → List (String × Json.Value)
  | .sla deviceId period correlationId =>
    withCorrelation [("device_id", .str deviceId), ("period", .str period)] correlationId
  | .bulk deviceIds period correlationId =>
    withCorrelation [("device_ids", .arr (deviceIds.map .str)), ("period", .str period)]
      correlationId
  | .replay startTime endTime =>
    [("start_time", .str (env.isoformat startTime)), ("end_time", .str (env.isoformat endTime))]

def taskCall (jobId : UUID) : EnqueueRequest → TaskCall
  | .sla deviceId period correlationId => slaCall (.str deviceId) (.str period) correlationId
  | .bulk deviceIds period correlationId =>
    bulkCall (.arr (deviceIds.map .str)) (.str period) correlationId
  | .replay startTime endTime => replayCall env startTime endTime jobId

/-- A window that ends before it starts: the `ValueError`. -/
def isInvalid : EnqueueRequest → Bool
  | .sla .. | .bulk .. => false
  | .replay startTime endTime => decide (endTime < startTime)

def newJob (jobId : UUID) (celeryTaskId : String) (request : EnqueueRequest) : Job where
  id := jobId
  celeryTaskId := celeryTaskId
  jobType := request.jobType
  payload := some (Json.dumps env.float (.obj (request.payload env)))

/-- What the task looks up for a callback. -/
def key (jobId : UUID) (taskId : String) (callback : Callback) : EnqueueRequest → JobKey
  | .sla .. | .bulk .. => .task taskId
  | .replay .. => if callback.isRecovery then .id jobId else .task (Uuid.text jobId)

/-- The callbacks that a task makes. -/
def makes (callback : Callback) : EnqueueRequest → Bool
  | .sla .. | .bulk .. => true
  | .replay .. => callback.ofRecovery

/-- The callbacks that look for the job where it is. -/
def found (callbacks : List Callback) : EnqueueRequest → List Callback
  | .sla .. | .bulk .. => callbacks
  | .replay .. => callbacks.filter Callback.isRecovery

end EnqueueRequest

/-- A request, and the ids it is given. -/
structure Enqueuing where
  request : EnqueueRequest
  answer : Dispatch

/-! ## The race -/

inductive RequestPhase where
  | ready
  | dispatched
  | inserted
  | ended
  | failed
  deriving DecidableEq

structure Race where
  store : JobStore
  phase : RequestPhase := .ready
  /-- the id of the task that has been handed over -/
  handed : Option String := none
  inserted : Bool := false
  /-- what the task is still to do -/
  todo : List Callback
  early : List Callback := []
  late : List Callback := []

/-- A callback on the job that is found, if any. -/
def JobStore.onKey (s : JobStore) (key : JobKey) (callback : Job → Job) : JobStore :=
  match s.find key with
  | none => s
  | some job => s.put (callback job)

def JobStore.updateRow (s : JobStore) (jobId : UUID) (columns : Job → Job) : JobStore :=
  { s with jobs := s.jobs.map fun row => if row.id = jobId then columns row else row }

inductive RaceTurn where
  | request
  | worker

namespace Race

variable (env : JobEnv) (call : Enqueuing) (r : Race)

def dispatch : Race :=
  let task := call.request.taskCall env call.answer.jobId
  match r.store.dispatch call.answer task.task task.args task.kwargs with
  | (.error _, store) => { r with store, phase := .failed }
  | (.ok taskId, store) => { r with store, phase := .dispatched, handed := some taskId }

def insert (celeryTaskId : String) : Race :=
  match r.store.insert (call.request.newJob env call.answer.jobId celeryTaskId) with
  | .error _ => { r with phase := .failed }
  | .ok store => { r with store, phase := .inserted, inserted := true }

/-- What the endpoints for computations do last. -/
def setPolicy : Race :=
  { r with
    store := r.store.updateRow call.answer.jobId fun row =>
      { row with retryClass := some (retryPolicyClass call.request.jobType).value }
    phase := .ended }

/-- What `enqueue_webhook_dr_replay` does last. -/
def assign (taskId : String) : Race :=
  if r.store.jobs.any fun j => decide (j.id ≠ call.answer.jobId ∧ j.celeryTaskId = taskId) then
    { r with phase := .failed }
  else
    { r with
      store := r.store.updateRow call.answer.jobId fun row => { row with celeryTaskId := taskId }
      phase := .ended }

/-- The next step of the request. -/
def request : Race :=
  match r.phase, call.request.insertsFirst, r.handed with
  | .ready, false, _ => r.dispatch env call
  | .dispatched, false, some taskId => r.insert env call taskId
  | .inserted, false, _ => r.setPolicy call
  | .ready, true, _ =>
    if call.request.isInvalid then { r with phase := .failed } else r.insert env call "pending"
  | .inserted, true, _ => r.dispatch env call
  | .dispatched, true, some taskId => r.assign call taskId
  | _, _, _ => r

/-- The next callback, which changes nothing if no job is found. -/
def worker : Race :=
  match r.handed, r.todo with
  | some taskId, callback :: todo =>
    let store := r.store.onKey (call.request.key call.answer.jobId taskId callback)
      (callback.apply env)
    if r.inserted then { r with store, todo, late := r.late ++ [callback] }
    else { r with store, todo, early := r.early ++ [callback] }
  | _, _ => r

def turn (r : Race) : RaceTurn → Race
  | .request => r.request env call
  | .worker => r.worker env call

/-- Where the request and its task have got after some turns. -/
def after (s : JobStore) (script : List Callback) (turns : List RaceTurn) : Race :=
  turns.foldl (turn env call) { store := s, todo := script }

/-- The job has come to what the task has: to what its callbacks make of the job, all of them. -/
def HasOutcome (script : List Callback) : Prop :=
  ∃ job, r.store.job call.answer.jobId = some job ∧
    SameOutcome job ((call.request.newJob env call.answer.jobId "").afterCallbacks env script)

/-- What is missed does not matter. -/
def Harmless : Prop :=
  match call.request with
  | .sla .. | .bulk .. => FoundEnough r.early r.late
  | .replay .. => NoProgressLost r.late

end Race

/-- Ids that are new: that of the job, that of the task, and the text of the one as the other. -/
structure Enqueuing.IsFresh (call : Enqueuing) (s : JobStore) : Prop where
  jobId : ∀ job ∈ s.jobs, job.id ≠ call.answer.jobId
  taskId {taskId : String} (h : call.answer.task = .ok taskId) :
    (∀ job ∈ s.jobs, job.celeryTaskId ≠ taskId) ∧ taskId ≠ Uuid.text call.answer.jobId
  text : ∀ job ∈ s.jobs, job.celeryTaskId ≠ Uuid.text call.answer.jobId

/-! ## The row of the job -/

theorem pending_ne_text (jobId : UUID) : "pending" ≠ Uuid.text jobId := by
  intro h
  have hparse : Uuid.parse "pending" = some jobId := h ▸ Uuid.parse_text jobId
  have hnone : Uuid.parse "pending" = none := by decide
  rw [hnone] at hparse
  cases hparse

/-- The job under another task, and with another retry class. -/
def Job.named (celeryTaskId : String) (retryClass : Option String) (job : Job) : Job :=
  { job with celeryTaskId, retryClass }

theorem Callback.apply_named (env : JobEnv) (callback : Callback) (celeryTaskId : String)
    (retryClass : Option String) (job : Job) :
    callback.apply env (job.named celeryTaskId retryClass) =
      (callback.apply env job).named celeryTaskId retryClass := by
  cases callback with
  | heartbeat now =>
    show Job.heartbeat env now (job.named celeryTaskId retryClass) =
      (Job.heartbeat env now job).named celeryTaskId retryClass
    unfold Job.heartbeat
    show (if job.status = .started then _ else _) = _
    split
    · rfl
    · rfl
  | markFailure now error errorCode errorRetryable =>
    show Job.markFailure env now error errorCode errorRetryable (job.named celeryTaskId retryClass) =
      (Job.markFailure env now error errorCode errorRetryable job).named celeryTaskId retryClass
    unfold Job.markFailure
    show (if job.exhausted then _ else _) = _
    split
    · split
      · rfl
      · rfl
    · rfl
  | markStarted | updateProgress | markSuccess | exhaustDelivery | recoverStarted | recoverSuccess
  | recoverFailure => rfl

theorem afterCallbacks_id (env : JobEnv) (job : Job) (callbacks : List Callback) :
    (job.afterCallbacks env callbacks).id = job.id := by
  induction callbacks generalizing job with
  | nil => rfl
  | cons callback callbacks ih => exact (ih _).trans (callback.apply_id env job)

section LastRow

variable {s s' : JobStore} {row : Job}

theorem byTask_eq_none {celeryTaskId : String}
    (h : ∀ job ∈ s.jobs, job.celeryTaskId ≠ celeryTaskId) : s.byTask celeryTaskId = none := by
  refine List.find?_eq_none.mpr fun job hjob => ?_
  rw [decide_eq_true_eq]
  exact h job hjob

theorem byTask_last (hjobs : s'.jobs = s.jobs ++ [row])
    (h : ∀ job ∈ s.jobs, job.celeryTaskId ≠ row.celeryTaskId) :
    s'.byTask row.celeryTaskId = some row := by
  have hbefore : s.jobs.find? (fun job => decide (job.celeryTaskId = row.celeryTaskId)) = none :=
    byTask_eq_none h
  show s'.jobs.find? _ = some row
  rw [hjobs, List.find?_append, hbefore]
  simp

theorem job_last (hjobs : s'.jobs = s.jobs ++ [row]) (h : ∀ job ∈ s.jobs, job.id ≠ row.id) :
    s'.job row.id = some row := by
  have hbefore : s.jobs.find? (fun job => decide (job.id = row.id)) = none := by
    refine List.find?_eq_none.mpr fun job hjob => ?_
    rw [decide_eq_true_eq]
    exact h job hjob
  show s'.jobs.find? _ = some row
  rw [hjobs, List.find?_append, hbefore]
  simp

theorem map_last {jobId : UUID} {f : Job → Job} (h : ∀ job ∈ s.jobs, job.id ≠ jobId)
    (hrow : row.id = jobId) :
    (s.jobs ++ [row]).map (fun job => if job.id = jobId then f job else job) =
      s.jobs ++ [f row] := by
  have hbefore : s.jobs.map (fun job => if job.id = jobId then f job else job) = s.jobs := by
    refine (List.map_congr_left fun job hjob => ?_).trans (List.map_id s.jobs)
    exact if_neg (h job hjob)
  rw [List.map_append, hbefore, List.map_singleton, if_pos hrow]

end LastRow

/-! ## What holds during the race -/

namespace Race

variable {env : JobEnv} {call : Enqueuing} {s : JobStore} {script : List Callback} {r : Race}

/-- In which phases the job is there. -/
def HasRow (insertsFirst inserted : Bool) : RequestPhase → Prop
  | .ready => inserted = false
  | .dispatched => inserted = insertsFirst
  | .inserted | .ended => inserted = true
  | .failed => True

def StandsUnder (call : Enqueuing) (handed : Option String) (celeryTaskId : String) : Prop :=
  match call.request.insertsFirst with
  | false => handed = some celeryTaskId
  | true => celeryTaskId ≠ Uuid.text call.answer.jobId

/-- The row of the job: what the callbacks that have found it have made of it. -/
def rowOf (env : JobEnv) (call : Enqueuing) (late : List Callback) : Job :=
  (call.request.newJob env call.answer.jobId "").afterCallbacks env (call.request.found late)

structure Inv (env : JobEnv) (call : Enqueuing) (s : JobStore) (script : List Callback)
    (r : Race) : Prop where
  script : r.early ++ r.late ++ r.todo = script
  handed {taskId : String} (h : r.handed = some taskId) : call.answer.task = .ok taskId
  phase : HasRow call.request.insertsFirst r.inserted r.phase
  before (h : r.inserted = false) : r.store.jobs = s.jobs ∧ r.late = []
  row (h : r.inserted = true) : ∃ celeryTaskId retryClass,
    StandsUnder call r.handed celeryTaskId ∧
      r.store.jobs = s.jobs ++ [(rowOf env call r.late).named celeryTaskId retryClass]
  /-- a task whose job is inserted first misses it at no time -/
  first (h : call.request.insertsFirst = true) :
    r.early = [] ∧ (r.handed.isSome → r.inserted = true)

theorem inv_start : Inv env call s script { store := s, todo := script } where
  script := rfl
  handed h := by cases h
  phase := rfl
  before _ := ⟨rfl, rfl⟩
  row h := by cases h
  first _ := ⟨rfl, fun h => by cases h⟩

theorem Inv.fail (hinv : Inv env call s script r) :
    Inv env call s script { r with phase := .failed } :=
  { hinv with phase := trivial }

theorem Inv.dispatch (hinv : Inv env call s script r)
    (hrow : r.inserted = call.request.insertsFirst) :
    Inv env call s script (r.dispatch env call) := by
  unfold Race.dispatch
  dsimp only
  rcases applyAsync_cases r.store call.answer (call.request.taskCall env call.answer.jobId).task
      (call.request.taskCall env call.answer.jobId).args
      (call.request.taskCall env call.answer.jobId).kwargs with
    ⟨fault, hfails⟩ | ⟨taskId, htask, hdispatched⟩
  · rw [hfails]
    exact hinv.fail
  · rw [hdispatched]
    refine ⟨hinv.script, ?_, hrow, hinv.before, ?_, ?_⟩
    · intro taskId' h
      rw [htask, Option.some.inj h]
    · intro hinserted
      obtain ⟨celeryTaskId, retryClass, hunder, hjobs⟩ := hinv.row hinserted
      refine ⟨celeryTaskId, retryClass, ?_, hjobs⟩
      -- only a job that is inserted first is there before its task is handed over
      have hfirst : call.request.insertsFirst = true := hrow.symm.trans hinserted
      unfold StandsUnder at hunder ⊢
      rw [hfirst] at hunder ⊢
      exact hunder
    · intro hfirst
      exact ⟨(hinv.first hfirst).1, fun _ => hrow.trans hfirst⟩

theorem Inv.insert (hinv : Inv env call s script r) (hbefore : r.inserted = false)
    {celeryTaskId : String} (hunder : StandsUnder call r.handed celeryTaskId) :
    Inv env call s script (r.insert env call celeryTaskId) := by
  obtain ⟨hjobs, hlate⟩ := hinv.before hbefore
  unfold Race.insert
  split
  · exact hinv.fail
  · rename_i store hinsert
    refine ⟨hinv.script, hinv.handed, rfl, (fun h => by cases h), ?_, ?_⟩
    · intro _
      refine ⟨celeryTaskId, none, hunder, ?_⟩
      show store.jobs = _ ++ [(rowOf env call r.late).named celeryTaskId none]
      rw [(insert_ok hinsert).2.2, hlate, ← hjobs]
      unfold rowOf EnqueueRequest.found
      cases call.request <;> rfl
    · intro hfirst
      exact ⟨(hinv.first hfirst).1, fun _ => rfl⟩

theorem named_rowOf_id (env : JobEnv) (call : Enqueuing) (late : List Callback)
    (celeryTaskId : String) (retryClass : Option String) :
    ((rowOf env call late).named celeryTaskId retryClass).id = call.answer.jobId :=
  afterCallbacks_id env _ _

theorem Inv.updateRow (hinv : Inv env call s script r) (hfresh : call.IsFresh s)
    (hinserted : r.inserted = true) {columns : Job → Job}
    (hcolumns : ∀ celeryTaskId retryClass, StandsUnder call r.handed celeryTaskId →
      ∃ celeryTaskId' retryClass', StandsUnder call r.handed celeryTaskId' ∧
        ∀ job : Job, columns (job.named celeryTaskId retryClass) =
          job.named celeryTaskId' retryClass') :
    Inv env call s script
      { r with store := r.store.updateRow call.answer.jobId columns, phase := .ended } := by
  refine ⟨hinv.script, hinv.handed, hinserted, (fun h => ?_), ?_, hinv.first⟩
  · rw [show r.inserted = false from h] at hinserted
    cases hinserted
  · intro _
    obtain ⟨celeryTaskId, retryClass, hunder, hjobs⟩ := hinv.row hinserted
    obtain ⟨celeryTaskId', retryClass', hunder', hnamed⟩ := hcolumns _ retryClass hunder
    refine ⟨celeryTaskId', retryClass', hunder', ?_⟩
    show r.store.jobs.map _ = _
    rw [hjobs, map_last hfresh.jobId (named_rowOf_id ..), hnamed]

theorem Inv.request (hinv : Inv env call s script r) (hfresh : call.IsFresh s) :
    Inv env call s script (r.request env call) := by
  have hphase := hinv.phase
  unfold Race.request
  cases hp : r.phase with
  | ready =>
    rw [hp] at hphase
    cases hfirst : call.request.insertsFirst with
    | false => exact hinv.dispatch (hphase.trans hfirst.symm)
    | true =>
      dsimp only
      split
      · exact hinv.fail
      · refine hinv.insert hphase ?_
        unfold StandsUnder
        rw [hfirst]
        exact pending_ne_text call.answer.jobId
  | dispatched =>
    rw [hp] at hphase
    cases hhanded : r.handed with
    | none =>
      cases call.request.insertsFirst with
      | false => exact hinv
      | true => exact hinv
    | some taskId =>
      cases hfirst : call.request.insertsFirst with
      | false =>
        refine hinv.insert (hphase.trans hfirst) ?_
        unfold StandsUnder
        rw [hfirst]
        exact hhanded
      | true =>
        dsimp only
        unfold Race.assign
        split
        · exact hinv.fail
        · refine hinv.updateRow hfresh (hphase.trans hfirst) fun celeryTaskId retryClass _ => ?_
          refine ⟨taskId, retryClass, ?_, fun job => rfl⟩
          unfold StandsUnder
          rw [hfirst]
          exact (hfresh.taskId (hinv.handed hhanded)).2
  | inserted =>
    rw [hp] at hphase
    cases hfirst : call.request.insertsFirst with
    | false =>
      exact hinv.updateRow hfresh hphase fun celeryTaskId retryClass hunder =>
        ⟨celeryTaskId, _, hunder, fun job => rfl⟩
    | true => exact hinv.dispatch (hphase.trans hfirst.symm)
  | ended => exact hinv
  | failed => exact hinv

theorem jobs_onKey_none {store : JobStore} {key : JobKey} (h : store.find key = none)
    (callback : Job → Job) : (store.onKey key callback).jobs = store.jobs := by
  unfold JobStore.onKey
  rw [h]

theorem jobs_onKey_last {store : JobStore} {key : JobKey} {row : Job}
    (hjobs : store.jobs = s.jobs ++ [row]) (hother : ∀ job ∈ s.jobs, job.id ≠ row.id)
    (hfind : store.find key = some row) (callback : Callback) :
    (store.onKey key (callback.apply env)).jobs = s.jobs ++ [callback.apply env row] := by
  unfold JobStore.onKey
  rw [hfind]
  show store.jobs.map (fun job => if job.id = (callback.apply env row).id then _ else job) = _
  rw [hjobs, callback.apply_id]
  exact map_last (f := fun _ => callback.apply env row) hother rfl

theorem found_append (late : List Callback) (callback : Callback) (request : EnqueueRequest) :
    request.found (late ++ [callback]) = request.found late ++ request.found [callback] := by
  cases request with
  | sla | bulk => rfl
  | replay => exact List.filter_append ..

theorem Inv.onKey_early (hinv : Inv env call s script r) (hfresh : call.IsFresh s)
    {taskId : String} (hhanded : r.handed = some taskId) (hbefore : r.inserted = false)
    (callback : Callback) :
    (r.store.onKey (call.request.key call.answer.jobId taskId callback)
      (callback.apply env)).jobs = s.jobs := by
  have hjobs := (hinv.before hbefore).1
  -- a request that inserts first has not handed its task over yet
  have hfirst : call.request.insertsFirst = false := by
    rw [← Bool.not_eq_true]
    intro hfirst
    have hinserted := (hinv.first hfirst).2 (hhanded ▸ rfl)
    rw [hbefore] at hinserted
    cases hinserted
  have hkey : call.request.key call.answer.jobId taskId callback = .task taskId := by
    cases hrequest : call.request with
    | sla | bulk => rfl
    | replay =>
      rw [hrequest] at hfirst
      cases hfirst
  rw [hkey, jobs_onKey_none _ _, hjobs]
  refine byTask_eq_none ?_
  rw [hjobs]
  exact (hfresh.taskId (hinv.handed hhanded)).1

theorem Inv.onKey_late (hinv : Inv env call s script r) (hfresh : call.IsFresh s)
    {taskId : String} (hhanded : r.handed = some taskId) (hinserted : r.inserted = true)
    (callback : Callback) :
    ∃ celeryTaskId retryClass, StandsUnder call r.handed celeryTaskId ∧
      (r.store.onKey (call.request.key call.answer.jobId taskId callback)
        (callback.apply env)).jobs =
        s.jobs ++ [(rowOf env call (r.late ++ [callback])).named celeryTaskId retryClass] := by
  obtain ⟨celeryTaskId, retryClass, hunder, hjobs⟩ := hinv.row hinserted
  refine ⟨celeryTaskId, retryClass, hunder, ?_⟩
  have hid := named_rowOf_id env call r.late celeryTaskId retryClass
  have hother : ∀ job ∈ s.jobs,
      job.id ≠ ((rowOf env call r.late).named celeryTaskId retryClass).id := by
    rw [hid]
    exact hfresh.jobId
  unfold rowOf
  rw [found_append, afterCallbacks_append]
  unfold StandsUnder at hunder
  show _ = s.jobs ++ [((rowOf env call r.late).afterCallbacks env _).named celeryTaskId retryClass]
  have hof : ∀ key, r.store.find key = some ((rowOf env call r.late).named celeryTaskId retryClass) →
      (r.store.onKey key (callback.apply env)).jobs =
        s.jobs ++ [((rowOf env call r.late).afterCallbacks env [callback]).named celeryTaskId
          retryClass] := by
    intro key hfind
    rw [jobs_onKey_last hjobs hother hfind, callback.apply_named]
    rfl
  -- a computation is inserted under the id of its task
  have htask : call.request.insertsFirst = false → r.store.find (.task taskId) =
      some ((rowOf env call r.late).named celeryTaskId retryClass) := by
    intro hfirst
    rw [hfirst] at hunder
    obtain rfl := Option.some.inj (hhanded.symm.trans hunder)
    exact byTask_last hjobs (hfresh.taskId (hinv.handed hhanded)).1
  cases hrequest : call.request with
  | sla | bulk => exact hof _ (htask (by rw [hrequest]; rfl))
  | replay startTime endTime =>
    rw [hrequest] at hunder
    by_cases hrecovery : callback.isRecovery
    · have hkey : EnqueueRequest.key call.answer.jobId taskId callback (.replay startTime endTime) =
          .id call.answer.jobId := if_pos hrecovery
      have hfound : EnqueueRequest.found [callback] (.replay startTime endTime) = [callback] := by
        simp [EnqueueRequest.found, hrecovery]
      rw [hkey, hfound]
      refine hof _ ?_
      rw [← hid]
      exact job_last hjobs hother
    · -- a report: no job has the id of this one as the id of its task
      have hkey : EnqueueRequest.key call.answer.jobId taskId callback (.replay startTime endTime) =
          .task (Uuid.text call.answer.jobId) := if_neg hrecovery
      have hfound : EnqueueRequest.found [callback] (.replay startTime endTime) = [] := by
        simp [EnqueueRequest.found, hrecovery]
      rw [hkey, hfound, jobs_onKey_none _ _, hjobs]
      · rfl
      · refine byTask_eq_none ?_
        rw [hjobs, List.forall_mem_append, List.forall_mem_singleton]
        exact ⟨hfresh.text, hunder⟩

theorem worker_of_none (h : r.handed = none) : r.worker env call = r := by
  unfold Race.worker
  split
  · rename_i hhanded _
    rw [h] at hhanded
    cases hhanded
  · rfl

theorem worker_of_nil (h : r.todo = []) : r.worker env call = r := by
  unfold Race.worker
  split
  · rename_i htodo
    rw [h] at htodo
    cases htodo
  · rfl

theorem worker_eq {taskId : String} {callback : Callback} {todo : List Callback}
    (hhanded : r.handed = some taskId) (htodo : r.todo = callback :: todo) :
    r.worker env call =
      if r.inserted then
        { r with
          store := r.store.onKey (call.request.key call.answer.jobId taskId callback)
            (callback.apply env)
          todo, late := r.late ++ [callback] }
      else
        { r with
          store := r.store.onKey (call.request.key call.answer.jobId taskId callback)
            (callback.apply env)
          todo, early := r.early ++ [callback] } := by
  unfold Race.worker
  simp only [hhanded, htodo]

theorem Inv.worker (hinv : Inv env call s script r) (hfresh : call.IsFresh s) :
    Inv env call s script (r.worker env call) := by
  cases hhanded : r.handed with
  | none =>
    rw [worker_of_none hhanded]
    exact hinv
  | some taskId =>
    cases htodo : r.todo with
    | nil =>
      rw [worker_of_nil htodo]
      exact hinv
    | cons callback todo =>
      have hscript := hinv.script
      rw [htodo] at hscript
      rw [worker_eq hhanded htodo]
      split
      · rename_i hinserted
        refine ⟨?_, hinv.handed, hinv.phase, (fun h => ?_), ?_, hinv.first⟩
        · rw [← hscript]
          simp
        · rw [show r.inserted = false from h] at hinserted
          cases hinserted
        · intro _
          exact hinv.onKey_late hfresh hhanded hinserted callback
      · rename_i hinserted
        rw [Bool.not_eq_true] at hinserted
        refine ⟨?_, hinv.handed, hinv.phase, ?_, (fun h => ?_), ?_⟩
        · rw [← hscript, (hinv.before hinserted).2]
          simp
        · intro _
          exact ⟨hinv.onKey_early hfresh hhanded hinserted callback, (hinv.before hinserted).2⟩
        · rw [show r.inserted = true from h] at hinserted
          cases hinserted
        · intro hfirst
          -- its task runs only after the insertion
          have hnever := (hinv.first hfirst).2 (hhanded ▸ rfl)
          rw [hinserted] at hnever
          cases hnever

theorem inv_after (env : JobEnv) (hfresh : call.IsFresh s) (script : List Callback)
    (turns : List RaceTurn) :
    Inv env call s script (after env call s script turns) := by
  induction turns using List.reverseRecOn with
  | nil => exact inv_start
  | append_singleton turns turn ih =>
    unfold after at ih ⊢
    rw [List.foldl_append]
    cases turn with
    | request => exact ih.request hfresh
    | worker => exact ih.worker hfresh

theorem isNew_newJob (env : JobEnv) (jobId : UUID) (celeryTaskId : String)
    (request : EnqueueRequest) : (request.newJob env jobId celeryTaskId).IsNew :=
  ⟨rfl, rfl, rfl, rfl, rfl⟩

/-- **The outcome of a task.** When the request and its task have ended, the job has come to what
the task has exactly if what is missed does not matter. -/
theorem hasOutcome_iff (hfresh : call.IsFresh s)
    (hmakes : ∀ callback ∈ script, call.request.makes callback) (turns : List RaceTurn)
    (hended : (after env call s script turns).phase = .ended)
    (htodo : (after env call s script turns).todo = []) :
    (after env call s script turns).HasOutcome env call script ↔
      (after env call s script turns).Harmless call := by
  have hinv := inv_after env hfresh script turns
  generalize after env call s script turns = r at hinv hended htodo
  have hscript := hinv.script
  rw [htodo, List.append_nil] at hscript
  have hphase := hinv.phase
  rw [hended] at hphase
  obtain ⟨celeryTaskId, retryClass, -, hjobs⟩ := hinv.row hphase
  have hid := named_rowOf_id env call r.late celeryTaskId retryClass
  have hjob : r.store.job call.answer.jobId =
      some ((rowOf env call r.late).named celeryTaskId retryClass) := by
    rw [← hid]
    refine job_last hjobs ?_
    rw [hid]
    exact hfresh.jobId
  have hsame : r.HasOutcome env call script ↔ SameOutcome (rowOf env call r.late)
      ((call.request.newJob env call.answer.jobId "").afterCallbacks env script) := by
    unfold HasOutcome
    rw [hjob]
    simp only [Option.some.injEq, exists_eq_left']
    exact ⟨fun h => ⟨h.status, h.result, h.progress⟩, fun h => ⟨h.status, h.result, h.progress⟩⟩
  have hnew := isNew_newJob env call.answer.jobId "" call.request
  rw [hsame]
  unfold rowOf Harmless
  cases hrequest : call.request with
  | sla | bulk =>
    rw [hrequest] at hnew
    rw [← hscript]
    exact sameOutcome_missed_iff env r.early r.late hnew
  | replay startTime endTime =>
    -- the task of a recovery is handed over after the insertion, so that no callback is early
    have hearly : r.early = [] := (hinv.first (by rw [hrequest]; rfl)).1
    rw [hearly, List.nil_append] at hscript
    rw [hrequest] at hmakes hnew
    rw [hscript]
    exact sameOutcome_filter_iff env hnew hmakes

end Race

/-! ## The request on its own -/

def Enqueuing.endpoint (call : Enqueuing) : EnqueueCall :=
  match call.request with
  | .sla deviceId period correlationId => .sla deviceId period correlationId call.answer
  | .bulk deviceIds period correlationId => .bulk deviceIds period correlationId call.answer
  | .replay startTime endTime => .replay startTime endTime call.answer

theorem updateRow_last {s s' : JobStore} {job : Job} (hjobs : s'.jobs = s.jobs ++ [job])
    (hother : ∀ j ∈ s.jobs, j.id ≠ job.id) {columns : Job → Job}
    (hid : (columns job).id = job.id) : s'.updateRow job.id columns = s'.put (columns job) := by
  have hupdate : (s.jobs ++ [job]).map (fun row => if row.id = job.id then columns row else row) =
      s.jobs ++ [columns job] := map_last hother rfl
  have hput : (s.jobs ++ [job]).map
      (fun row => if row.id = (columns job).id then columns job else row) =
      s.jobs ++ [columns job] := by
    rw [hid]
    exact map_last (f := fun _ => columns job) hother rfl
  show ({ s' with jobs := s'.jobs.map _ } : JobStore) = { s' with jobs := s'.jobs.map _ }
  rw [hjobs]
  exact congrArg (fun jobs => { s' with jobs }) (hupdate.trans hput.symm)

namespace Race

variable {env : JobEnv} {s : JobStore}

theorem request_failed {call : Enqueuing} {r : Race} (h : r.phase = .failed) :
    r.request env call = r := by
  unfold Race.request
  rw [h]

theorem request_computation (env : JobEnv) {call : Enqueuing} {r : Race}
    (hfirst : call.request.insertsFirst = false) :
    (r.phase = .ready → r.request env call = r.dispatch env call) ∧
      (∀ taskId, r.phase = .dispatched → r.handed = some taskId →
        r.request env call = r.insert env call taskId) ∧
      (r.phase = .inserted → r.request env call = r.setPolicy call) := by
  unfold Race.request
  rw [hfirst]
  refine ⟨?_, ?_, ?_⟩
  · intro h
    rw [h]
  · intro taskId h hhanded
    rw [h, hhanded]
  · intro h
    rw [h]

theorem computation_alone {call : Enqueuing} {task : TaskSignature}
    {payload : List (String × Json.Value)} {correlationId : Option String}
    (hfirst : call.request.insertsFirst = false)
    (htask : call.request.taskCall env call.answer.jobId =
      { task, kwargs := withCorrelation payload correlationId })
    (hpayload : call.request.payload env = withCorrelation payload correlationId)
    (script : List Callback) :
    (after env call s script [.request, .request, .request]).store =
      (applyPolicy
        (enqueue env task call.request.jobType payload correlationId call.answer s)).2 := by
  let r : Race := { store := s, todo := script }
  show (((r.request env call).request env call).request env call).store = _
  have hready : r.request env call = r.dispatch env call := (request_computation env hfirst).1 rfl
  rw [hready]
  rw [enqueue_eq]
  unfold Race.dispatch
  rw [htask]
  dsimp only
  cases s.dispatch call.answer task [] (withCorrelation payload correlationId) with
  | mk outcome store =>
    cases outcome with
    | error fault =>
      dsimp only
      rw [request_failed rfl, request_failed rfl]
      rfl
    | ok taskId =>
      dsimp only
      have hinserts := (request_computation env
        (r := { store := store, phase := .dispatched, handed := some taskId, todo := script })
        hfirst).2.1 taskId rfl rfl
      rw [hinserts]
      unfold Race.insert EnqueueRequest.newJob
      rw [hpayload]
      dsimp only
      cases hinsert : store.insert _ with
      | error fault =>
        dsimp only
        rw [request_failed rfl]
        rfl
      | ok store' =>
        dsimp only
        rw [(request_computation env hfirst).2.2 rfl]
        obtain ⟨hother, -, hstore⟩ := insert_ok hinsert
        exact updateRow_last (by rw [hstore]) hother rfl

theorem assign_store {call : Enqueuing} {r : Race} {job : Job} (taskId : String)
    (hid : job.id = call.answer.jobId) (hjobs : r.store.jobs = s.jobs ++ [job])
    (hother : ∀ j ∈ s.jobs, j.id ≠ job.id) :
    (r.assign call taskId).store =
      match r.store.setTask job taskId with
      | .error _ => r.store
      | .ok s' => s' := by
  have hput : r.store.updateRow job.id (fun row => { row with celeryTaskId := taskId }) =
      r.store.put { job with celeryTaskId := taskId } := updateRow_last hjobs hother rfl
  unfold assign JobStore.setTask
  rw [← hid]
  split
  · rfl
  · exact hput

theorem replay_alone {startTime endTime : Time} {answer : Dispatch} (script : List Callback) :
    (after env ⟨.replay startTime endTime, answer⟩ s script [.request, .request, .request]).store =
      (enqueueWebhookDrReplay env startTime endTime answer s).2 := by
  let call : Enqueuing := ⟨.replay startTime endTime, answer⟩
  let r : Race := { store := s, todo := script }
  show (((r.request env call).request env call).request env call).store = _
  have hready : r.request env call =
      if decide (endTime < startTime) then { r with phase := .failed }
      else r.insert env call "pending" := rfl
  rw [hready]
  unfold enqueueWebhookDrReplay
  by_cases hinvalid : endTime < startTime
  · rw [if_pos (decide_eq_true hinvalid), if_pos hinvalid, request_failed rfl, request_failed rfl]
  · rw [if_neg (by simpa using hinvalid), if_neg hinvalid]
    unfold Race.insert
    dsimp only
    show _ = (match s.insert (call.request.newJob env answer.jobId "pending") with
      | .error fault => _ | .ok s => _ : Option (Except JobFault Job) × JobStore).2
    cases hinsert : s.insert (call.request.newJob env answer.jobId "pending") with
    | error fault =>
      dsimp only
      rw [request_failed rfl, request_failed rfl]
    | ok store =>
      obtain ⟨hother, -, hstore⟩ := insert_ok hinsert
      dsimp only
      have hinserted : Race.request env call
          { store, phase := .inserted, handed := none, inserted := true, todo := script } =
        Race.dispatch env call
          { store, phase := .inserted, handed := none, inserted := true, todo := script } := rfl
      rw [hinserted]
      have hbind : recoverWebhooksInWindow.bind []
          (replayCall env startTime endTime answer.jobId).kwargs ≠ none := by
        rw [show recoverWebhooksInWindow.bind [] (replayCall env startTime endTime
          answer.jobId).kwargs = _ from bind_recovery _ _ _]
        exact nofun
      -- the request of the race and the endpoint apply the task to the same arguments
      have hrace : store.dispatch call.answer (call.request.taskCall env call.answer.jobId).task
          (call.request.taskCall env call.answer.jobId).args
          (call.request.taskCall env call.answer.jobId).kwargs =
        store.dispatch answer recoverWebhooksInWindow []
          (replayCall env startTime endTime answer.jobId).kwargs := rfl
      have hendpoint : store.dispatch answer recoverWebhooksInWindow []
          [("job_id", .str (Uuid.text (pendingReplay env startTime endTime answer.jobId).id)),
            ("start_iso", .str (env.isoformat startTime)),
            ("end_iso", .str (env.isoformat endTime))] =
        store.dispatch answer recoverWebhooksInWindow []
          (replayCall env startTime endTime answer.jobId).kwargs := rfl
      unfold Race.dispatch
      dsimp only
      rw [hrace, hendpoint]
      cases hanswer : answer.task with
      | error message =>
        rw [dispatch_error hbind hanswer]
        dsimp only
        rw [request_failed rfl]
      | ok taskId =>
        rw [dispatch_ok hbind hanswer]
        dsimp only
        let handed : JobStore :=
          { store with
            dispatched := store.dispatched ++
              [(replayCall env startTime endTime answer.jobId).message taskId] }
        let dispatched : Race :=
          { store := handed
            phase := .dispatched
            handed := some taskId
            inserted := true
            todo := script }
        let job := call.request.newJob env answer.jobId "pending"
        have hjobs : handed.jobs = s.jobs ++ [job] := congrArg JobStore.jobs hstore
        show (dispatched.assign call taskId).store =
          (match handed.setTask job taskId with
            | .error fault => (some (.error fault), handed)
            | .ok s => (some (.ok { job with celeryTaskId := taskId }), s) :
            Option (Except JobFault Job) × JobStore).2
        refine (assign_store taskId rfl hjobs hother).trans ?_
        show (match handed.setTask job taskId with | .error _ => handed | .ok s => s) = _
        cases handed.setTask job taskId with
        | error fault => rfl
        | ok s' => rfl

/-- **The request on its own** is the enqueuing of its endpoint. -/
theorem request_alone (env : JobEnv) (call : Enqueuing) (s : JobStore) (script : List Callback)
    (hbulk : ∀ period correlationId, call.request ≠ .bulk [] period correlationId) :
    (after env call s script [.request, .request, .request]).store =
      call.endpoint.serve env s := by
  obtain ⟨request, answer⟩ := call
  cases request with
  | sla deviceId period correlationId => exact computation_alone rfl rfl rfl script
  | bulk deviceIds period correlationId =>
    have hne : deviceIds ≠ [] := fun h => hbulk period correlationId (by rw [h])
    -- the endpoint refuses an empty list before it enqueues
    have hsubmit : (submitBulkSlaComputation env deviceIds period correlationId answer s).2 =
        (applyPolicy (enqueueBulkSlaComputation env (.arr (deviceIds.map .str)) (.str period)
          correlationId answer s)).2 := by
      unfold submitBulkSlaComputation
      rw [if_neg hne]
    exact (computation_alone rfl rfl rfl script).trans hsubmit.symm
  | replay startTime endTime => exact replay_alone script

theorem one_request_alone :
    let call : Enqueuing := ⟨.sla "device-1" "2026-09" none, ⟨.ok "task-1", 1⟩⟩
    (after JobStore.jobEnv call {} [] [.request, .request, .request]).store =
      call.endpoint.serve JobStore.jobEnv {} :=
  request_alone _ _ _ [] (by rintro _ _ ⟨⟩)

end Race

end NocIq
