import NocIq.Job.Lifecycle

/-!
# NocIq — putting a job back

`retry_job` and `release_job_from_quarantine` reset a job, dispatch its work once more and give the
job the id of the new task. The enqueuing functions commit a row of their own under that id before
the job gets it, and `celery_task_id` is unique. A retry answers an HTTP error for an exception that
it does not expect; the release raises another exception in its place.

* **`enqueue_adoptTask_error`** — the job of an enqueuing never gets the new task.
* **`requeue_atomic_iff`** — dispatching the work of a reset job.
* **`requeued_or_unchanged_iff`** — the calls that do all of it or nothing.
-/

namespace NocIq

/-! ## What is to hold of a call -/

/-- A call of one of the two endpoints. -/
inductive RequeueCall where
  | retry (jobId : UUID) (now : Time) (correlationId : Option String) (answer : Dispatch)
  | release (jobId : UUID) (correlationId : Option String) (answer : Dispatch)

/-- What has come of a call, whose response is left out. -/
def withoutResponse {α : Type} (outcome : Except Exc α × JobStore) : Except Exc Unit × JobStore :=
  (outcome.1.map fun _ => (), outcome.2)

namespace RequeueCall

def jobId : RequeueCall → UUID
  | .retry jobId .. => jobId
  | .release jobId .. => jobId

def answer : RequeueCall → Dispatch
  | .retry _ _ _ answer => answer
  | .release _ _ answer => answer

def serve (env : JobEnv) (s : JobStore) : RequeueCall → Except Exc Unit × JobStore
  | .retry jobId now correlationId answer =>
    withoutResponse (retryJob env now correlationId answer jobId s)
  | .release jobId correlationId answer =>
    withoutResponse (releaseJobFromQuarantine env correlationId answer jobId s)

end RequeueCall

/-- The job waits under the id of the one task that is new, and no row is. -/
structure Requeued (s s' : JobStore) (jobId : UUID) : Prop where
  pending : ∃ job ∈ s'.job jobId, job.status = .pending ∧
    ∃ message, s'.dispatched = s.dispatched ++ [message] ∧ job.celeryTaskId = message.taskId
  noNewRow : s'.jobs.map Job.id = s.jobs.map Job.id

/-- The job is as it was, or one of the changes that are allowed, and no task is new. -/
structure LeftAlone (allowed : Job → Job → Prop) (s s' : JobStore) (jobId : UUID) : Prop where
  row : s'.job jobId = s.job jobId ∨
    ∃ job ∈ s.job jobId, ∃ job' ∈ s'.job jobId, allowed job job'
  noTask : s'.dispatched = s.dispatched

/-- A call does all of its work, or answers an HTTP error and has done nothing. -/
inductive RequeuedOrUnchanged (allowed : Job → Job → Prop) (s : JobStore) (jobId : UUID) :
    Except Exc Unit × JobStore → Prop where
  | requeued {s' : JobStore} (h : Requeued s s' jobId) :
      RequeuedOrUnchanged allowed s jobId (.ok (), s')
  | unchanged {s' : JobStore} (statusCode : Nat) (detail : HttpDetail)
      (h : LeftAlone allowed s s' jobId) :
      RequeuedOrUnchanged allowed s jobId (.error (.httpException statusCode detail), s')

/-- The documented move of a job without retries left. -/
def MovedToDeadLetter (now : Time) (job job' : Job) : Prop :=
  job.maxRetries ≤ job.retryCount ∧ job' = job.giveUp now

namespace RequeueCall

def Allows : RequeueCall → Job → Job → Prop
  | .retry _ now .. => MovedToDeadLetter now
  | .release .. => fun _ _ => False

def IsAtomic (env : JobEnv) (s : JobStore) (call : RequeueCall) : Prop :=
  RequeuedOrUnchanged call.Allows s call.jobId (call.serve env s)

end RequeueCall

/-! ## The arguments of the tasks -/

/-- There is a correlation id to pass on. -/
def hasCorrelation : Option String → Bool
  | none => false
  | some text => decide (text ≠ "")

/-- The keyword arguments of an enqueuing: its payload, with the correlation id if there is one. -/
def withCorrelation (payload : List (String × Json.Value)) (correlationId : Option String) :
    List (String × Json.Value) :=
  payload ++
    match correlationId with
    | none => []
    | some text => if text = "" then [] else [("correlation_id", .str text)]

theorem withCorrelation_eq (payload : List (String × Json.Value)) (correlationId : Option String) :
    (hasCorrelation correlationId = false ∧ withCorrelation payload correlationId = payload) ∨
      hasCorrelation correlationId = true ∧ ∃ text,
        withCorrelation payload correlationId = payload ++ [("correlation_id", .str text)] := by
  unfold withCorrelation hasCorrelation
  cases correlationId with
  | none => exact .inl ⟨rfl, List.append_nil _⟩
  | some text =>
    dsimp only
    by_cases htext : text = ""
    · rw [if_pos htext, List.append_nil]
      exact .inl ⟨by simp [htext], rfl⟩
    · rw [if_neg htext]
      exact .inr ⟨by simp [htext], text, rfl⟩

variable {kwargs : List (String × Json.Value)} {args : List Json.Value}

theorem bind_of_fits {signature : TaskSignature} (names : List String)
    (hnames : (signature.names.zip args ++ kwargs).map Prod.fst = names)
    (hlength : args.length ≤ signature.names.length)
    (hfits : names.Nodup ∧ (∀ name ∈ names, name ∈ signature.names) ∧
      ∀ name ∈ signature.required, name ∈ names) :
    signature.bind args kwargs = some (signature.names.zip args ++ kwargs) := by
  unfold TaskSignature.bind
  dsimp only
  rw [hnames, if_pos ⟨hlength, hfits⟩]

theorem bind_of_unknown {signature : TaskSignature} {name : String}
    (hname : name ∈ kwargs.map Prod.fst) (hunknown : name ∉ signature.names) :
    signature.bind args kwargs = none := by
  unfold TaskSignature.bind
  dsimp only
  rw [if_neg]
  rintro ⟨-, -, hnames, -⟩
  refine hunknown (hnames name ?_)
  rw [List.map_append]
  exact List.mem_append_right _ hname

/-- `compute_sla_for_device` takes what it is given, with or without a correlation id. -/
theorem bind_sla (deviceId period : Json.Value) (correlationId : Option String) :
    let kwargs := withCorrelation [("device_id", deviceId), ("period", period)] correlationId
    computeSlaForDevice.bind [] kwargs = some kwargs := by
  rcases withCorrelation_eq [("device_id", deviceId), ("period", period)] correlationId with
    ⟨-, hkwargs⟩ | ⟨-, text, hkwargs⟩
  · rw [hkwargs]
    exact bind_of_fits ["device_id", "period"] rfl (Nat.zero_le _) (by decide)
  · rw [hkwargs]
    exact bind_of_fits ["device_id", "period", "correlation_id"] rfl (Nat.zero_le _) (by decide)

/-- `compute_bulk_sla` has no parameter for a correlation id. -/
theorem bind_bulk (deviceIds period : Json.Value) (correlationId : Option String) :
    computeBulkSla.bind []
        (withCorrelation [("device_ids", deviceIds), ("period", period)] correlationId) =
      if hasCorrelation correlationId then none
      else some [("device_ids", deviceIds), ("period", period)] := by
  rcases withCorrelation_eq [("device_ids", deviceIds), ("period", period)] correlationId with
    ⟨hnone, hkwargs⟩ | ⟨hsome, text, hkwargs⟩
  · rw [hkwargs, hnone]
    exact bind_of_fits ["device_ids", "period"] rfl (Nat.zero_le _) (by decide)
  · have hunknown : "correlation_id" ∉ computeBulkSla.names := by decide
    rw [hkwargs, hsome]
    exact bind_of_unknown (List.mem_map_of_mem (List.mem_append_right _ List.mem_cons_self)) hunknown

theorem bind_delivery (argument : Json.Value) :
    dispatchWebhookDelivery.bind [argument] [] = some [("delivery_id", argument)] :=
  bind_of_fits ["delivery_id"] rfl (Nat.le_refl _) (by decide)

theorem bind_recovery (jobId startIso endIso : Json.Value) :
    let kwargs := [("job_id", jobId), ("start_iso", startIso), ("end_iso", endIso)]
    recoverWebhooksInWindow.bind [] kwargs = some kwargs :=
  bind_of_fits ["job_id", "start_iso", "end_iso"] rfl (Nat.zero_le _) (by decide)

/-! ## What the calls look at -/

/-- The payload of the job is JSON, and it has what the endpoint dispatches for its type. -/
def Job.HasWork (env : JobEnv) (webhookArgument : Json.Value → Except Exc Json.Value) (job : Job) :
    Bool :=
  match job.payloadValue env with
  | none => false
  | some payload =>
    match job.jobType with
    | .slaComputation | .bulkSlaComputation => (getMember payload "period" .null).isSome
    | .webhookDispatch =>
      match webhookArgument payload with
      | .ok _ => true
      | .error _ => false
    | .webhookDrReplay => false

theorem getMember_of_dict {payload : Json.Value} {members : List (String × Json.Value)}
    (h : payload.dict? = some members) (name : String) (default : Json.Value) :
    getMember payload name default = some ((members.lookup name).getD default) := by
  unfold getMember
  rw [h, Option.map_some]

theorem getMember_of_not_dict {payload : Json.Value} (h : payload.dict? = none) (name : String)
    (default : Json.Value) : getMember payload name default = none := by
  unfold getMember
  rw [h, Option.map_none]

/-- What comes of the work of a job that is put back: the endpoint refuses it with an HTTP error, an
exception ends the call before there is a task, or the broker has the task. -/
inductive RequeueFate where
  | refused
  | fails
  | dispatched (taskId : String)

def Dispatch.fate (answer : Dispatch) : RequeueFate :=
  match answer.task with
  | .error _ => .fails
  | .ok taskId => .dispatched taskId

/-- A computation needs a payload that is an object, and a bulk one no correlation id, which its task
does not take. -/
def Job.requeueFate (env : JobEnv) (webhookArgument : Json.Value → Except Exc Json.Value)
    (correlationId : Option String) (answer : Dispatch) (job : Job) : RequeueFate :=
  match job.payloadValue env with
  | none => .fails
  | some payload =>
    match job.jobType with
    | .slaComputation =>
      if (getMember payload "period" .null).isSome then answer.fate else .fails
    | .bulkSlaComputation =>
      if (getMember payload "period" .null).isSome ∧ hasCorrelation correlationId = false then
        answer.fate
      else .fails
    | .webhookDispatch =>
      match webhookArgument payload with
      | .ok _ => answer.fate
      | .error (.httpException ..) => .refused
      | .error _ => .fails
    | .webhookDrReplay => .refused

def JobStore.TaskIsFree (s : JobStore) (jobId : UUID) (celeryTaskId : String) : Prop :=
  ∀ job ∈ s.jobs, job.id ≠ jobId → job.celeryTaskId ≠ celeryTaskId

instance (s : JobStore) (jobId : UUID) (celeryTaskId : String) :
    Decidable (s.TaskIsFree jobId celeryTaskId) :=
  inferInstanceAs (Decidable (∀ job ∈ s.jobs, _ → _))

/-- The job is a webhook dispatch, and its new task has an id that no other job has. -/
def JobStore.CanAdopt (s : JobStore) (job : Job) (celeryTaskId : String) : Prop :=
  job.jobType = .webhookDispatch ∧ s.TaskIsFree job.id celeryTaskId

instance (s : JobStore) (job : Job) (celeryTaskId : String) :
    Decidable (s.CanAdopt job celeryTaskId) :=
  inferInstanceAs (Decidable (_ ∧ _))

/-- Nothing is done and an HTTP error is the answer, which it is for an exception only if the call
answers those; or the job can adopt the task. -/
def RequeueFate.Allowed (answersFailures : Prop) (s : JobStore) (job : Job) : RequeueFate → Prop
  | .refused => True
  | .fails => answersFailures
  | .dispatched taskId => s.CanAdopt job taskId

namespace RequeueCall

def argument (env : JobEnv) : RequeueCall → Json.Value → Except Exc Json.Value
  | .retry .. => .ok
  | .release .. => deliveryArgument env

/-- The job passes the checks of the call. -/
def Checks (call : RequeueCall) (job : Job) : Prop :=
  match call with
  | .retry .. => job.IsRetryable
  | .release .. => job.status = .quarantined

instance (call : RequeueCall) (job : Job) : Decidable (call.Checks job) :=
  match call with
  | .retry .. => inferInstanceAs (Decidable job.IsRetryable)
  | .release .. => inferInstanceAs (Decidable (_ = _))

/-- The call puts the job back. -/
def Admits (env : JobEnv) (call : RequeueCall) (job : Job) : Prop :=
  call.Checks job ∧ job.HasWork env (call.argument env) = true

instance (env : JobEnv) (call : RequeueCall) (job : Job) : Decidable (call.Admits env job) :=
  inferInstanceAs (Decidable (_ ∧ _))

def correlationId : RequeueCall → Option String
  | .retry _ _ correlationId _ => correlationId
  | .release _ correlationId _ => correlationId

/-- An exception that the call does not expect becomes an HTTP error. -/
def AnswersFailures : RequeueCall → Prop
  | .retry .. => True
  | .release .. => False

/-- What comes of the work of a job that passes the checks is an HTTP error, or a task that the job
can adopt. -/
def CanServe (env : JobEnv) (s : JobStore) (call : RequeueCall) : Prop :=
  ∀ job ∈ s.job call.jobId, call.Checks job →
    (job.requeueFate env (call.argument env) call.correlationId call.answer).Allowed
      call.AnswersFailures s job

end RequeueCall

variable {env : JobEnv} {s s' : JobStore} {job reset : Job} {answer : Dispatch}
  {allowed : Job → Job → Prop}

/-! ## Parts of a call -/

theorem unchanged_error (allowed : Job → Job → Prop) (s : JobStore) (jobId : UUID)
    (statusCode : Nat) (detail : HttpDetail) :
    RequeuedOrUnchanged allowed s jobId (.error (.httpException statusCode detail), s) :=
  .unchanged statusCode detail ⟨.inl rfl, rfl⟩

theorem not_requeued_of_dispatched {jobId : UUID} {exc : Exc} {message : TaskMessage}
    (h : s'.dispatched = s.dispatched ++ [message]) :
    ¬ RequeuedOrUnchanged allowed s jobId (.error exc, s') := by
  intro hatomic
  cases hatomic with
  | unchanged statusCode detail halone =>
    have hlength := congrArg List.length (h.symm.trans halone.noTask)
    rw [List.length_append, List.length_singleton] at hlength
    omega

theorem job_put (reset : Job) (hjob : s.job reset.id = some job) :
    (s.put reset).job reset.id = some reset := by
  show Batch.lookup Job.id (Batch.put Job.id reset s.jobs) reset.id = some reset
  rw [Batch.lookup_put, if_pos rfl]
  exact congrArg (Option.map fun _ => reset) hjob

theorem dispatch_refused {task : TaskSignature} (h : task.bind args kwargs = none)
    (answer : Dispatch) : s.dispatch answer task args kwargs = (.error .typeError, s) := by
  unfold JobStore.dispatch
  rw [h]

theorem dispatch_error {task : TaskSignature} (hbind : task.bind args kwargs ≠ none)
    {message : String} (h : answer.task = .error message) :
    s.dispatch answer task args kwargs = (.error (.brokerError message), s) := by
  obtain ⟨bound, hbound⟩ := Option.ne_none_iff_exists'.mp hbind
  unfold JobStore.dispatch
  rw [hbound, h]

theorem dispatch_ok {task : TaskSignature} (hbind : task.bind args kwargs ≠ none) {taskId : String}
    (h : answer.task = .ok taskId) :
    s.dispatch answer task args kwargs =
      (.ok taskId,
        { s with dispatched := s.dispatched ++ [{ taskId, task := task.task, args, kwargs }] }) := by
  obtain ⟨bound, hbound⟩ := Option.ne_none_iff_exists'.mp hbind
  unfold JobStore.dispatch
  rw [hbound, h]

/-- **What `apply_async` does**: it raises, or hands over one message. -/
theorem applyAsync_cases (s : JobStore) (answer : Dispatch) (task : TaskSignature)
    (args : List Json.Value) (kwargs : List (String × Json.Value)) :
    (∃ fault, s.dispatch answer task args kwargs = (.error fault, s)) ∨
      ∃ taskId, answer.task = .ok taskId ∧
        s.dispatch answer task args kwargs =
          (.ok taskId, { s with
            dispatched := s.dispatched ++ [{ taskId, task := task.task, args, kwargs }] }) := by
  by_cases hbind : task.bind args kwargs = none
  · exact .inl ⟨_, dispatch_refused hbind answer⟩
  · cases htask : answer.task with
    | error message => exact .inl ⟨_, dispatch_error hbind htask⟩
    | ok taskId => exact .inr ⟨taskId, rfl, dispatch_ok hbind htask⟩

theorem insert_ok (h : s.insert job = .ok s') :
    (∀ j ∈ s.jobs, j.id ≠ job.id) ∧ (∀ j ∈ s.jobs, j.celeryTaskId ≠ job.celeryTaskId) ∧
      s' = { s with jobs := s.jobs ++ [job] } := by
  unfold JobStore.insert at h
  split at h
  · cases h
  · rename_i hid
    split at h
    · cases h
    · rename_i htask
      refine ⟨?_, ?_, (Except.ok.inj h).symm⟩
      · intro j hj heq
        exact hid (List.any_eq_true.mpr ⟨j, hj, decide_eq_true heq⟩)
      · intro j hj heq
        exact htask (List.any_eq_true.mpr ⟨j, hj, decide_eq_true heq⟩)

theorem setTask_of_free {celeryTaskId : String} (h : s.TaskIsFree job.id celeryTaskId) :
    s.setTask job celeryTaskId = .ok (s.put { job with celeryTaskId }) := by
  unfold JobStore.setTask
  refine if_neg ?_
  rw [List.any_eq_true]
  rintro ⟨other, hmem, hother⟩
  have htaken := of_decide_eq_true hother
  exact h other hmem htaken.1 htaken.2

theorem setTask_of_taken {celeryTaskId : String} (h : ¬ s.TaskIsFree job.id celeryTaskId) :
    s.setTask job celeryTaskId = .error (.integrityError "ix_jobs_celery_task_id") := by
  unfold JobStore.TaskIsFree at h
  push Not at h
  obtain ⟨other, hmem, hne, htask⟩ := h
  unfold JobStore.setTask
  refine if_pos ?_
  rw [List.any_eq_true]
  exact ⟨other, hmem, decide_eq_true ⟨hne, htask⟩⟩

/-! ## Enqueuing once more -/

theorem enqueue_eq (task : TaskSignature) (jobType : JobType) (payload : List (String × Json.Value))
    (correlationId : Option String) (answer : Dispatch) (s : JobStore) :
    enqueue env task jobType payload correlationId answer s =
      match s.dispatch answer task [] (withCorrelation payload correlationId) with
      | (.error fault, s) => (.error fault, s)
      | (.ok celeryTaskId, s) =>
        let job : Job :=
          { id := answer.jobId
            celeryTaskId
            jobType
            payload :=
              some (Json.dumps env.float (.obj (withCorrelation payload correlationId))) }
        match s.insert job with
        | .error fault => (.error fault, s)
        | .ok s => (.ok job, s) := rfl

section Enqueuing

variable (env) {task : TaskSignature} (jobType : JobType) {payload : List (String × Json.Value)}
  {correlationId : Option String}

theorem enqueue_fails (answer : Dispatch) (s : JobStore)
    (h : task.bind [] (withCorrelation payload correlationId) = none ∨
      ∃ message, answer.task = .error message) :
    ∃ fault, enqueue env task jobType payload correlationId answer s = (.error fault, s) := by
  rw [enqueue_eq]
  by_cases hbind : task.bind [] (withCorrelation payload correlationId) = none
  · rw [dispatch_refused hbind]
    exact ⟨_, rfl⟩
  · obtain ⟨message, hmessage⟩ := h.resolve_left hbind
    rw [dispatch_error hbind hmessage]
    exact ⟨_, rfl⟩

theorem enqueue_ok (hbind : task.bind [] (withCorrelation payload correlationId) ≠ none)
    {taskId : String} (h : answer.task = .ok taskId) :
    (∃ message, (enqueue env task jobType payload correlationId answer s).2.dispatched =
      s.dispatched ++ [message]) ∧
      ∀ new, (enqueue env task jobType payload correlationId answer s).1 = .ok new →
        new.celeryTaskId = taskId ∧ (∀ j ∈ s.jobs, j.id ≠ new.id) ∧
          new ∈ (enqueue env task jobType payload correlationId answer s).2.jobs := by
  rw [enqueue_eq, dispatch_ok hbind h]
  dsimp only
  split
  · refine ⟨⟨_, rfl⟩, ?_⟩
    intro new hnew
    cases hnew
  · rename_i hinsert
    obtain ⟨hid, _, hjobs⟩ := insert_ok hinsert
    refine ⟨⟨_, by rw [hjobs]⟩, ?_⟩
    intro new hnew
    rw [← Except.ok.inj hnew, hjobs]
    exact ⟨rfl, hid, List.mem_append_right _ (List.mem_singleton_self _)⟩

/-- **The job of an enqueuing never gets the new task**: the row that the enqueuing has committed
has it. -/
theorem enqueue_adoptTask_error
    (hbind : task.bind [] (withCorrelation payload correlationId) ≠ none) {taskId : String}
    (h : answer.task = .ok taskId) (hjob : s.job reset.id = some job) (words : RequeueWords) :
    ∃ fault message s', adoptTask env words reset s
        (enqueue env task jobType payload correlationId answer (s.put reset)) =
          (.error (words.exc env fault), s') ∧
      s'.dispatched = s.dispatched ++ [message] := by
  obtain ⟨⟨message, hdispatched⟩, hnew⟩ :=
    enqueue_ok env jobType hbind (s := s.put reset) h
  generalize enqueue env task jobType payload correlationId answer (s.put reset) = enqueued
    at hdispatched hnew
  obtain ⟨outcome, s'⟩ := enqueued
  cases outcome with
  | error fault => exact ⟨_, message, _, rfl, hdispatched⟩
  | ok new =>
    obtain ⟨htask, hid, hmem⟩ := hnew new rfl
    have hreset : reset ∈ (s.put reset).jobs := (JobStore.mem_of_job (job_put reset hjob)).1
    have htaken : ¬ s'.TaskIsFree reset.id new.celeryTaskId := by
      intro hfree
      exact hfree new hmem (hid reset hreset).symm rfl
    refine ⟨.integrityError "ix_jobs_celery_task_id", message, s', ?_, hdispatched⟩
    unfold adoptTask
    dsimp only
    rw [setTask_of_taken htaken]

end Enqueuing

/-! ## Dispatching the work of a reset job -/

/-- The exceptions that failures become are HTTP errors, if the call answers failures at all. -/
def RequeueWords.Answer (env : JobEnv) (words : RequeueWords) (answersFailures : Prop) : Prop :=
  ∀ fault, (∃ statusCode detail, words.exc env fault = .httpException statusCode detail) ↔
    answersFailures

variable {answersFailures : Prop} {words : RequeueWords}

theorem failed_iff (hwords : words.Answer env answersFailures) (allowed : Job → Job → Prop)
    (s : JobStore) (jobId : UUID) (fault : JobFault) :
    RequeuedOrUnchanged allowed s jobId (.error (words.exc env fault), s) ↔ answersFailures := by
  rw [← hwords fault]
  generalize words.exc env fault = exc
  constructor
  · intro hatomic
    cases hatomic with
    | unchanged statusCode detail _ => exact ⟨statusCode, detail, rfl⟩
  · rintro ⟨statusCode, detail, rfl⟩
    exact unchanged_error allowed s jobId statusCode detail

/-- A computation is put back only by doing nothing: its arguments do not fit, or the broker refuses
the task. -/
theorem computation_atomic_iff (htype : reset.jobType ≠ .webhookDispatch)
    (hjob : s.job reset.id = some job) (hwords : words.Answer env answersFailures)
    (task : TaskSignature) (jobType : JobType) (payload : List (String × Json.Value))
    (correlationId : Option String) :
    RequeuedOrUnchanged allowed s reset.id
        (withoutResponse (adoptTask env words reset s
          (enqueue env task jobType payload correlationId answer (s.put reset)))) ↔
      RequeueFate.Allowed answersFailures s reset
        (if task.bind [] (withCorrelation payload correlationId) ≠ none then answer.fate
          else .fails) := by
  by_cases hbind : task.bind [] (withCorrelation payload correlationId) = none
  · obtain ⟨fault, hfails⟩ := enqueue_fails env jobType answer (s.put reset) (.inl hbind)
    rw [hfails, if_neg (not_not_intro hbind)]
    exact failed_iff hwords allowed s reset.id fault
  · rw [if_pos hbind]
    unfold Dispatch.fate
    cases htask : answer.task with
    | error message =>
      obtain ⟨fault, hfails⟩ : ∃ fault, enqueue env task jobType payload correlationId answer
          (s.put reset) = (.error fault, s.put reset) :=
        enqueue_fails env jobType answer (s.put reset) (.inr ⟨message, htask⟩)
      rw [hfails]
      exact failed_iff hwords allowed s reset.id fault
    | ok taskId =>
      obtain ⟨fault, message, s', hadopt, hdispatched⟩ :=
        enqueue_adoptTask_error env jobType hbind htask hjob words
      rw [hadopt]
      refine iff_of_false (not_requeued_of_dispatched hdispatched) ?_
      intro hadopts
      exact htype hadopts.1

theorem requeued_setTask (allowed : Job → Job → Prop) (hjob : s.job reset.id = some job)
    (hpending : reset.status = .pending) (message : TaskMessage) :
    RequeuedOrUnchanged allowed s reset.id
      (.ok (), JobStore.put { s with dispatched := s.dispatched ++ [message] }
        { reset with celeryTaskId := message.taskId }) := by
  refine .requeued ⟨?_, Batch.keys_put _ _⟩
  have hput := job_put (s := { s with dispatched := s.dispatched ++ [message] })
    { reset with celeryTaskId := message.taskId } hjob
  exact ⟨_, hput, hpending, message, rfl, rfl⟩

variable {webhookArgument : Json.Value → Except Exc Json.Value}

theorem delivery_atomic_iff (htype : reset.jobType = .webhookDispatch)
    (hjob : s.job reset.id = some job) (hpending : reset.status = .pending)
    (hwords : words.Answer env answersFailures)
    {payload argument : Json.Value} (hpayload : reset.payloadValue env = some payload)
    (hargument : webhookArgument payload = .ok argument) (correlationId : Option String) :
    RequeuedOrUnchanged allowed s reset.id
        (withoutResponse (requeue env words answer webhookArgument correlationId reset s)) ↔
      answer.fate.Allowed answersFailures s reset := by
  have hbind : dispatchWebhookDelivery.bind [argument] [] ≠ none := by
    rw [bind_delivery]
    exact nofun
  unfold requeue Dispatch.fate
  simp only [hpayload, htype, hargument]
  cases htask : answer.task with
  | error message =>
    rw [dispatch_error hbind htask]
    exact failed_iff hwords allowed s reset.id _
  | ok taskId =>
    rw [dispatch_ok hbind htask]
    dsimp only
    -- the broker has the task by now, whether or not another job has its id
    by_cases hfree : s.TaskIsFree reset.id taskId
    · rw [setTask_of_free (s := { s with dispatched := s.dispatched ++ [_] }) hfree]
      exact iff_of_true (requeued_setTask allowed hjob hpending
        { taskId, task := _, args := [argument], kwargs := [] }) ⟨htype, hfree⟩
    · rw [setTask_of_taken (s := { s with dispatched := s.dispatched ++ [_] }) hfree]
      exact iff_of_false (not_requeued_of_dispatched rfl) fun hadopts => hfree hadopts.2

theorem fate_of_argument_error {payload : Json.Value} {exc : Exc}
    (htype : job.jobType = .webhookDispatch) (hpayload : job.payloadValue env = some payload)
    (hargument : webhookArgument payload = .error exc) (correlationId : Option String)
    (answer : Dispatch) :
    ((∃ statusCode detail, exc = .httpException statusCode detail) ∧
        job.requeueFate env webhookArgument correlationId answer = .refused) ∨
      (∀ statusCode detail, exc ≠ .httpException statusCode detail) ∧
        job.requeueFate env webhookArgument correlationId answer = .fails := by
  unfold Job.requeueFate
  simp only [hpayload, htype, hargument]
  cases exc with
  | httpException statusCode detail => exact .inl ⟨⟨statusCode, detail, rfl⟩, rfl⟩
  | _ => exact .inr ⟨fun _ _ => nofun, rfl⟩

/-- **Dispatching the work of a reset job.** -/
theorem requeue_atomic_iff (reset : Job) (hjob : s.job reset.id = some job)
    (hpending : reset.status = .pending) (hwords : words.Answer env answersFailures)
    (hargument : ∀ payload exc, webhookArgument payload = .error exc →
      (∀ statusCode detail, exc ≠ .httpException statusCode detail) → ¬ answersFailures)
    (correlationId : Option String) :
    RequeuedOrUnchanged allowed s reset.id
        (withoutResponse (requeue env words answer webhookArgument correlationId reset s)) ↔
      (reset.requeueFate env webhookArgument correlationId answer).Allowed answersFailures s reset := by
  have hfails := failed_iff hwords allowed s reset.id
  cases hpayload : reset.payloadValue env with
  | none =>
    unfold requeue Job.requeueFate
    rw [hpayload]
    exact hfails _
  | some payload =>
    cases htype : reset.jobType with
    | slaComputation =>
      have hnot : reset.jobType ≠ .webhookDispatch := by rw [htype]; decide
      unfold requeue Job.requeueFate
      rw [hpayload, htype]
      cases hdict : payload.dict? with
      | some members =>
        simp only [getMember_of_dict hdict]
        refine (computation_atomic_iff hnot hjob hwords _ _ _ _).trans ?_
        rw [bind_sla]
        rfl
      | none =>
        -- what is no object has no `get`
        simp only [getMember_of_not_dict hdict]
        exact hfails _
    | bulkSlaComputation =>
      have hnot : reset.jobType ≠ .webhookDispatch := by rw [htype]; decide
      unfold requeue Job.requeueFate
      rw [hpayload, htype]
      cases hdict : payload.dict? with
      | some members =>
        simp only [getMember_of_dict hdict]
        refine (computation_atomic_iff hnot hjob hwords _ _ _ _).trans ?_
        rw [bind_bulk]
        cases hasCorrelation correlationId with
        | true => rfl
        | false => rfl
      | none =>
        simp only [getMember_of_not_dict hdict]
        exact hfails _
    | webhookDispatch =>
      cases harg : webhookArgument payload with
      | ok argument =>
        have hfate : reset.requeueFate env webhookArgument correlationId answer = answer.fate := by
          unfold Job.requeueFate
          simp only [hpayload, htype, harg]
        rw [hfate]
        exact delivery_atomic_iff htype hjob hpending hwords hpayload harg correlationId
      | error exc =>
        have hcall : requeue env words answer webhookArgument correlationId reset s =
            (.error exc, s) := by
          unfold requeue
          simp only [hpayload, htype, harg]
        rw [hcall]
        rcases fate_of_argument_error htype hpayload harg correlationId answer with
          ⟨⟨statusCode, detail, rfl⟩, hfate⟩ | ⟨hother, hfate⟩
        · rw [hfate]
          exact iff_of_true (unchanged_error allowed s reset.id _ _) trivial
        · rw [hfate]
          refine iff_of_false ?_ (hargument payload exc harg hother)
          intro hatomic
          cases hatomic with
          | unchanged statusCode detail _ => exact hother statusCode detail rfl
    | webhookDrReplay =>
      unfold requeue Job.requeueFate
      rw [hpayload, htype]
      exact iff_of_true (unchanged_error allowed s reset.id 400 _) trivial

/-! ## The calls -/

theorem retryWords_answer (env : JobEnv) : retryWords.Answer env True := by
  intro fault
  exact iff_of_true ⟨500, _, rfl⟩ trivial

theorem releaseWords_answer (env : JobEnv) : releaseWords.Answer env False := by
  intro fault
  refine iff_of_false ?_ id
  rintro ⟨_, _, h⟩
  cases h

namespace RequeueCall

theorem canServe_iff (env : JobEnv) (call : RequeueCall) (hjob : s.job call.jobId = some job)
    (hchecks : call.Checks job) :
    call.CanServe env s ↔
      (job.requeueFate env (call.argument env) call.correlationId call.answer).Allowed
        call.AnswersFailures s job := by
  unfold CanServe
  rw [hjob]
  constructor
  · intro hall
    exact hall job rfl hchecks
  · intro hserve job' hmem _
    rwa [← Option.some.inj hmem]

theorem retry_atomic_iff (env : JobEnv) (s : JobStore) (jobId : UUID) (now : Time)
    (correlationId : Option String) (answer : Dispatch) :
    (RequeueCall.retry jobId now correlationId answer).IsAtomic env s ↔
      (RequeueCall.retry jobId now correlationId answer).CanServe env s := by
  unfold IsAtomic
  dsimp only [serve, RequeueCall.jobId]
  rcases retryJob_cases env now correlationId answer jobId s with
    ⟨hrefused, _, _, hcall⟩ | ⟨job, hjob, hgiven, hnot, _, _, hcall⟩ |
    ⟨job, hjob, hretry, -, hresult, hstore⟩
  · rw [hcall]
    exact iff_of_true (unchanged_error _ s jobId _ _) fun job hmem hchecks =>
      absurd hchecks (hrefused job hmem).1
  · obtain rfl := (JobStore.mem_of_job hjob).2
    rw [hcall]
    have hmoved : (s.put (job.giveUp now)).job job.id = some (job.giveUp now) :=
      job_put (job.giveUp now) hjob
    refine iff_of_true
      (.unchanged _ _ ⟨.inr ⟨job, hjob, job.giveUp now, hmoved, hgiven.2.1, rfl⟩, rfl⟩) ?_
    intro job' hmem hchecks
    exact absurd hchecks (Option.some.inj (hjob.symm.trans hmem) ▸ hnot)
  · obtain rfl := (JobStore.mem_of_job hjob).2
    unfold withoutResponse
    rw [hresult, hstore]
    have hserve := canServe_iff env (.retry job.id now correlationId answer) hjob hretry
    exact (requeue_atomic_iff (job.resetForRetry now) hjob rfl (retryWords_answer env)
      (fun _ _ h => by cases h) correlationId).trans hserve.symm

theorem release_atomic_iff (env : JobEnv) (s : JobStore) (jobId : UUID)
    (correlationId : Option String) (answer : Dispatch) :
    (RequeueCall.release jobId correlationId answer).IsAtomic env s ↔
      (RequeueCall.release jobId correlationId answer).CanServe env s := by
  unfold IsAtomic
  dsimp only [serve, RequeueCall.jobId]
  rcases release_cases env correlationId answer jobId s with
    ⟨hrefused, _, _, hcall⟩ | ⟨job, hjob, hstatus, hresult, hstore⟩
  · rw [hcall]
    exact iff_of_true (unchanged_error _ s jobId _ _) fun job hmem hchecks =>
      absurd hchecks (hrefused job hmem)
  · obtain rfl := (JobStore.mem_of_job hjob).2
    unfold withoutResponse
    rw [hresult, hstore]
    have hserve := canServe_iff env (.release job.id correlationId answer) hjob hstatus
    exact (requeue_atomic_iff job.resetForRelease hjob rfl (releaseWords_answer env)
      (fun _ _ _ _ => id) correlationId).trans hserve.symm

end RequeueCall

/-- **The calls that put a job back or leave it alone**: those that the endpoint refuses, the retries
that an exception ends before there is a task, and the calls for a webhook dispatch whose new task no
other job has. -/
theorem requeued_or_unchanged_iff (env : JobEnv) (s : JobStore) (call : RequeueCall) :
    call.IsAtomic env s ↔ call.CanServe env s := by
  cases call with
  | retry jobId now correlationId answer =>
    exact RequeueCall.retry_atomic_iff env s jobId now correlationId answer
  | release jobId correlationId answer =>
    exact RequeueCall.release_atomic_iff env s jobId correlationId answer

theorem payloadValue_dumps {payload : Json.Value} (h : Json.ReadsBack env.float payload)
    (hpayload : job.payload = some (Json.dumps env.float payload)) :
    job.payloadValue env = some payload := by
  obtain ⟨c, cs, htext, -⟩ := Json.dumps_eq_cons h
  have hne : Json.dumps env.float payload ≠ "" := by
    intro hempty
    rw [hempty] at htext
    cases htext
  unfold Job.payloadValue
  rw [hpayload]
  dsimp only
  rw [if_neg hne]
  exact Json.loads_dumps h

def failedComputation : Job where
  id := 1
  celeryTaskId := "task-1"
  jobType := .slaComputation
  status := .failure
  payload := some (Json.dumps JobStore.jobEnv.float
    (.obj [("device_id", .str "device-1"), ("period", .str "2026-09")]))
  error := some "timeout"
  retryCount := 1
  finishedAt := some 2000000

theorem failedComputation_fate :
    failedComputation.requeueFate JobStore.jobEnv .ok none ⟨.ok "task-2", 2⟩ =
      .dispatched "task-2" := by
  have hback : Json.ReadsBack JobStore.jobEnv.float
      (.obj [("device_id", .str "device-1"), ("period", .str "2026-09")]) := by
    refine .obj (by decide) ?_
    intro member hmember
    rcases List.mem_pair.mp hmember with rfl | rfl
    · exact .str "device-1"
    · exact .str "2026-09"
  have hpayload : failedComputation.payloadValue JobStore.jobEnv =
      some (.obj [("device_id", .str "device-1"), ("period", .str "2026-09")]) :=
    payloadValue_dumps hback rfl
  have htype : failedComputation.jobType = .slaComputation := rfl
  have hperiod : (getMember (.obj [("device_id", .str "device-1"), ("period", .str "2026-09")])
      "period" .null).isSome = true := rfl
  unfold Job.requeueFate
  simp only [hpayload, htype, hperiod, if_true]
  rfl

/-- **A retry has dispatched a task, and answers an error.** -/
theorem retry_fails_after_dispatch :
    ¬ ∀ (env : JobEnv) (s : JobStore) (call : RequeueCall), call.IsAtomic env s := by
  intro hall
  let call : RequeueCall := .retry 1 3000000 none ⟨.ok "task-2", 2⟩
  have hserve : call.CanServe JobStore.jobEnv { jobs := [failedComputation] } :=
    (RequeueCall.retry_atomic_iff _ _ _ _ _ _).mp (hall _ _ _)
  have hfound : ({ jobs := [failedComputation] } : JobStore).job 1 = some failedComputation := by
    show List.find? (fun r => decide (r.id = 1)) [failedComputation] = _
    exact List.find?_cons_of_pos (by decide)
  have hretryable : failedComputation.IsRetryable := by decide
  have hchecks : call.Checks failedComputation := hretryable
  rw [RequeueCall.canServe_iff _ call hfound hchecks] at hserve
  dsimp only [call, RequeueCall.argument, RequeueCall.correlationId, RequeueCall.answer] at hserve
  rw [failedComputation_fate] at hserve
  exact absurd hserve.1 (by decide)

end NocIq
