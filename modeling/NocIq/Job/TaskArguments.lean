import NocIq.Job.Requeue
import NocIq.Lib.Uuid

/-!
# NocIq — the arguments of tasks

`apply_async` binds its arguments to the parameters of the task, and raises if they do not fit; so
does the worker that runs the task. A job keeps the payload it was made of, and `retry_job` and
`release_job_from_quarantine` make the arguments of the next run out of it.

* **`TaskMessage.work`** — the work that a message denotes, if the task accepts its arguments.
* **`dispatched_serve`** — the messages of a call: what it applies, if Celery and the broker take it.
* **`handsOverWork_iff`** — the calls that hand over the work of their job.
-/

namespace NocIq

variable {env : JobEnv} {s : JobStore}

/-! ## Work -/

inductive Work where
  | device (deviceId period : Json.Value)
  | devices (deviceIds period : Json.Value)
  | delivery (deliveryId : UUID)
  | window (jobId : UUID) (startIso endIso : Json.Value)

/-- A string that `UUID` reads. -/
def uuidOf : Json.Value → Option UUID
  | .str text => Uuid.parse text
  | _ => none

/-- The arguments of a message for a task, by the names of the parameters. -/
def TaskMessage.bound (message : TaskMessage) (signature : TaskSignature) :
    Option (String → Option Json.Value) :=
  if message.task = signature.task then
    (signature.bind message.args message.kwargs).map fun bound name => bound.lookup name
  else none

/-- What a message makes a worker do. -/
def TaskMessage.work (message : TaskMessage) : Option Work :=
  ((message.bound computeSlaForDevice).bind fun argument =>
    (argument "device_id").bind fun deviceId => (argument "period").map (.device deviceId)) <|>
  ((message.bound computeBulkSla).bind fun argument =>
    (argument "device_ids").bind fun deviceIds => (argument "period").map (.devices deviceIds)) <|>
  ((message.bound dispatchWebhookDelivery).bind fun argument =>
    ((argument "delivery_id").bind uuidOf).map .delivery) <|>
  ((message.bound recoverWebhooksInWindow).bind fun argument =>
    ((argument "job_id").bind uuidOf).bind fun jobId =>
      (argument "start_iso").bind fun startIso => (argument "end_iso").map (.window jobId startIso))

def Job.work (env : JobEnv) (job : Job) : Option Work :=
  (job.payloadValue env).bind fun payload => payload.dict?.bind fun members =>
    match job.jobType with
    | .slaComputation =>
      (members.lookup "device_id").bind fun deviceId =>
        (members.lookup "period").map (.device deviceId)
    | .bulkSlaComputation =>
      (members.lookup "device_ids").bind fun deviceIds =>
        (members.lookup "period").map (.devices deviceIds)
    | .webhookDispatch => ((members.lookup "delivery_id").bind uuidOf).map .delivery
    | .webhookDrReplay =>
      (members.lookup "start_time").bind fun startIso =>
        (members.lookup "end_time").map (.window job.id startIso)

/-! ## Calls -/

/-- The job of `enqueue_webhook_dr_replay`, before its task has an id. -/
def pendingReplay (env : JobEnv) (startTime endTime : Time) (jobId : UUID) : Job where
  id := jobId
  celeryTaskId := "pending"
  jobType := .webhookDrReplay
  payload :=
    some (Json.dumps env.float (.obj [("start_time", .str (env.isoformat startTime)),
      ("end_time", .str (env.isoformat endTime))]))

/-- `enqueue_webhook_dr_replay`, whose `ValueError` is `none`. -/
def enqueueWebhookDrReplay (env : JobEnv) (startTime endTime : Time) (answer : Dispatch)
    (s : JobStore) : Option (Except JobFault Job) × JobStore :=
  if endTime < startTime then (none, s)
  else
    let startIso := env.isoformat startTime
    let endIso := env.isoformat endTime
    let job := pendingReplay env startTime endTime answer.jobId
    match s.insert job with
    | .error fault => (some (.error fault), s)
    | .ok s =>
      match s.dispatch answer recoverWebhooksInWindow []
        [("job_id", .str (Uuid.text job.id)), ("start_iso", .str startIso),
          ("end_iso", .str endIso)] with
      | (.error fault, s) => (some (.error fault), s)
      | (.ok taskId, s) =>
        match s.setTask job taskId with
        | .error fault => (some (.error fault), s)
        | .ok s => (some (.ok { job with celeryTaskId := taskId }), s)

/-- The calls that hand work to Celery. -/
inductive EnqueueCall where
  | sla (deviceId period : String) (correlationId : Option String) (answer : Dispatch)
  | bulk (deviceIds : List String) (period : String) (correlationId : Option String)
      (answer : Dispatch)
  | replay (startTime endTime : Time) (answer : Dispatch)
  | requeue (call : RequeueCall)

namespace EnqueueCall

def serve (env : JobEnv) (s : JobStore) : EnqueueCall → JobStore
  | .sla deviceId period correlationId answer =>
    (submitSlaComputation env deviceId period correlationId answer s).2
  | .bulk deviceIds period correlationId answer =>
    (submitBulkSlaComputation env deviceIds period correlationId answer s).2
  | .replay startTime endTime answer => (enqueueWebhookDrReplay env startTime endTime answer s).2
  | .requeue call => (call.serve env s).2

/-- What the call is to do. -/
def work (env : JobEnv) (s : JobStore) : EnqueueCall → Option Work
  | .sla deviceId period _ _ => some (.device (.str deviceId) (.str period))
  | .bulk deviceIds period _ _ => some (.devices (.arr (deviceIds.map .str)) (.str period))
  | .replay startTime endTime answer =>
    some (.window answer.jobId (.str (env.isoformat startTime)) (.str (env.isoformat endTime)))
  | .requeue call => (s.job call.jobId).bind (Job.work env)

end EnqueueCall

/-! ## What is handed over -/

/-- A task with the arguments of `apply_async`. -/
structure TaskCall where
  task : TaskSignature
  args : List Json.Value := []
  kwargs : List (String × Json.Value) := []

namespace TaskCall

def message (call : TaskCall) (taskId : String) : TaskMessage :=
  { taskId, task := call.task.task, args := call.args, kwargs := call.kwargs }

/-- What the call makes a worker do, whatever the id of the task is. -/
def work (call : TaskCall) : Option Work := (call.message "").work

def fits (call : TaskCall) : Bool := (call.task.bind call.args call.kwargs).isSome

end TaskCall

def slaCall (deviceId period : Json.Value) (correlationId : Option String) : TaskCall where
  task := computeSlaForDevice
  kwargs := withCorrelation [("device_id", deviceId), ("period", period)] correlationId

def bulkCall (deviceIds period : Json.Value) (correlationId : Option String) : TaskCall where
  task := computeBulkSla
  kwargs := withCorrelation [("device_ids", deviceIds), ("period", period)] correlationId

def deliveryCall (argument : Json.Value) : TaskCall where
  task := dispatchWebhookDelivery
  args := [argument]

def replayCall (env : JobEnv) (startTime endTime : Time) (jobId : UUID) : TaskCall where
  task := recoverWebhooksInWindow
  kwargs := [("job_id", .str (Uuid.text jobId)), ("start_iso", .str (env.isoformat startTime)),
    ("end_iso", .str (env.isoformat endTime))]

def Job.handed (env : JobEnv) (webhookArgument : Json.Value → Except Exc Json.Value)
    (correlationId : Option String) (job : Job) : Option TaskCall :=
  (job.payloadValue env).bind fun payload =>
    match job.jobType with
    | .slaComputation =>
      (getMember payload "device_id" (.str "")).bind fun deviceId =>
        (getMember payload "period" (.str "")).map fun period => slaCall deviceId period correlationId
    | .bulkSlaComputation =>
      (getMember payload "device_ids" (.arr [])).bind fun deviceIds =>
        (getMember payload "period" (.str "")).map fun period =>
          bulkCall deviceIds period correlationId
    | .webhookDispatch => (webhookArgument payload).toOption.map deliveryCall
    | .webhookDrReplay => none

/-- The messages of a call, if its arguments fit and the broker accepts it. -/
def handedTo (answer : Dispatch) (call : Option TaskCall) : List TaskMessage :=
  (call.bind fun call =>
    if call.fits then answer.task.toOption.map call.message else none).toList

section Dispatched

variable (answer : Dispatch) (task : TaskSignature)

theorem dispatched_dispatch (args : List Json.Value) (kwargs : List (String × Json.Value))
    (s : JobStore) :
    (s.dispatch answer task args kwargs).2.dispatched =
      s.dispatched ++ handedTo answer (some { task, args, kwargs }) := by
  unfold JobStore.dispatch handedTo TaskCall.fits
  dsimp only [Option.bind_some]
  cases task.bind args kwargs with
  | none => exact (List.append_nil _).symm
  | some bound =>
    cases answer.task with
    | error message => exact (List.append_nil _).symm
    | ok taskId => rfl

theorem dispatched_enqueue (env : JobEnv) (jobType : JobType)
    (payload : List (String × Json.Value)) (correlationId : Option String) (s : JobStore) :
    (enqueue env task jobType payload correlationId answer s).2.dispatched =
      s.dispatched ++
        handedTo answer (some { task, kwargs := withCorrelation payload correlationId }) := by
  have hdispatch := dispatched_dispatch answer task [] (withCorrelation payload correlationId) s
  rw [enqueue_eq]
  split
  · rename_i hresult
    rw [hresult] at hdispatch
    exact hdispatch
  · rename_i hresult
    rw [hresult] at hdispatch
    dsimp only
    split
    · exact hdispatch
    · rename_i hinsert
      rw [(insert_ok hinsert).2.2]
      exact hdispatch

theorem dispatched_setTask {s s' : JobStore} {job : Job} {celeryTaskId : String}
    (h : s.setTask job celeryTaskId = .ok s') : s'.dispatched = s.dispatched := by
  unfold JobStore.setTask at h
  split at h
  · cases h
  · rw [← Except.ok.inj h]
    rfl

theorem dispatched_adoptTask (env : JobEnv) (words : RequeueWords) (reset : Job) (s : JobStore)
    (enqueued : Except JobFault Job × JobStore) :
    (adoptTask env words reset s enqueued).2.dispatched = enqueued.2.dispatched := by
  unfold adoptTask
  split
  · rfl
  · split
    · rfl
    · rename_i hset
      exact dispatched_setTask hset

theorem dispatched_requeue (env : JobEnv) (words : RequeueWords)
    (webhookArgument : Json.Value → Except Exc Json.Value) (correlationId : Option String)
    (reset : Job) (s : JobStore) :
    (requeue env words answer webhookArgument correlationId reset s).2.dispatched =
      s.dispatched ++ handedTo answer (reset.handed env webhookArgument correlationId) := by
  unfold requeue Job.handed
  cases reset.payloadValue env with
  | none => exact (List.append_nil _).symm
  | some payload =>
    cases reset.jobType with
    | slaComputation =>
      cases hdict : payload.dict? with
      | some members =>
        simp only [Option.bind_some, getMember_of_dict hdict]
        exact (dispatched_adoptTask env words reset s _).trans
          (dispatched_enqueue answer _ env _ _ _ (s.put reset))
      | none =>
        simp only [Option.bind_some, getMember_of_not_dict hdict]
        exact (List.append_nil _).symm
    | bulkSlaComputation =>
      cases hdict : payload.dict? with
      | some members =>
        simp only [Option.bind_some, getMember_of_dict hdict]
        exact (dispatched_adoptTask env words reset s _).trans
          (dispatched_enqueue answer _ env _ _ _ (s.put reset))
      | none =>
        simp only [Option.bind_some, getMember_of_not_dict hdict]
        exact (List.append_nil _).symm
    | webhookDispatch =>
      dsimp only [Option.bind_some]
      cases webhookArgument payload with
      | error exc => exact (List.append_nil _).symm
      | ok argument =>
        have hdispatch := dispatched_dispatch answer dispatchWebhookDelivery [argument] [] s
        dsimp only
        split
        · rename_i hresult
          rw [hresult] at hdispatch
          exact hdispatch
        · rename_i hresult
          rw [hresult] at hdispatch
          split
          · exact hdispatch
          · rename_i hset
            exact (dispatched_setTask hset).trans hdispatch
    | webhookDrReplay => exact (List.append_nil _).symm

theorem dispatched_applyPolicy (enqueued : Except JobFault Job × JobStore) :
    (applyPolicy enqueued).2.dispatched = enqueued.2.dispatched := by
  unfold applyPolicy
  split
  · rfl
  · rfl

theorem dispatched_enqueueWebhookDrReplay (env : JobEnv) (startTime endTime : Time) (s : JobStore) :
    (enqueueWebhookDrReplay env startTime endTime answer s).2.dispatched =
      s.dispatched ++ handedTo answer
        (if endTime < startTime then none
          else
            (s.insert (pendingReplay env startTime endTime answer.jobId)).toOption.map fun _ =>
              replayCall env startTime endTime answer.jobId) := by
  unfold enqueueWebhookDrReplay
  split
  · exact (List.append_nil _).symm
  · dsimp only
    cases hinsert : s.insert (pendingReplay env startTime endTime answer.jobId) with
    | error fault => exact (List.append_nil _).symm
    | ok s' =>
      have hbefore : s'.dispatched = s.dispatched := by rw [(insert_ok hinsert).2.2]
      have hdispatch := dispatched_dispatch answer recoverWebhooksInWindow []
        (replayCall env startTime endTime (pendingReplay env startTime endTime answer.jobId).id).kwargs
        s'
      rw [hbefore] at hdispatch
      dsimp only
      split
      · rename_i hresult
        rw [show s'.dispatch _ _ _ (replayCall _ _ _ _).kwargs = _ from hresult] at hdispatch
        exact hdispatch
      · rename_i hresult
        rw [show s'.dispatch _ _ _ (replayCall _ _ _ _).kwargs = _ from hresult] at hdispatch
        split
        · exact hdispatch
        · rename_i hset
          exact (dispatched_setTask hset).trans hdispatch

end Dispatched

/-! ## What the tasks make of it -/

theorem bound_of_task {message : TaskMessage} {signature : TaskSignature}
    (h : message.task = signature.task) :
    message.bound signature =
      (signature.bind message.args message.kwargs).map fun bound name => bound.lookup name :=
  if_pos h

theorem bound_of_ne {message : TaskMessage} {signature : TaskSignature}
    (h : message.task ≠ signature.task) : message.bound signature = none :=
  if_neg h

theorem work_slaCall (deviceId period : Json.Value) (correlationId : Option String) :
    (slaCall deviceId period correlationId).work = some (.device deviceId period) := by
  have htask : ((slaCall deviceId period correlationId).message "").task =
      computeSlaForDevice.task := rfl
  have hbind := bind_sla deviceId period correlationId
  unfold TaskCall.work TaskMessage.work
  rw [bound_of_task htask,
    show computeSlaForDevice.bind ((slaCall deviceId period correlationId).message "").args
      ((slaCall deviceId period correlationId).message "").kwargs = _ from hbind]
  rcases withCorrelation_eq [("device_id", deviceId), ("period", period)] correlationId with
    ⟨-, hkwargs⟩ | ⟨-, text, hkwargs⟩
  · rw [hkwargs]
    rfl
  · rw [hkwargs]
    rfl

theorem work_bulkCall (deviceIds period : Json.Value) (correlationId : Option String) :
    (bulkCall deviceIds period correlationId).work =
      if hasCorrelation correlationId then none else some (.devices deviceIds period) := by
  have htask : ((bulkCall deviceIds period correlationId).message "").task =
      computeBulkSla.task := rfl
  have hbind := bind_bulk deviceIds period correlationId
  unfold TaskCall.work TaskMessage.work
  rw [bound_of_ne (by rw [htask]; decide), bound_of_task htask,
    bound_of_ne (by rw [htask]; decide), bound_of_ne (by rw [htask]; decide),
    show computeBulkSla.bind ((bulkCall deviceIds period correlationId).message "").args
      ((bulkCall deviceIds period correlationId).message "").kwargs = _ from hbind]
  cases hasCorrelation correlationId with
  | true => rfl
  | false => rfl

theorem work_deliveryCall (argument : Json.Value) :
    (deliveryCall argument).work = (uuidOf argument).map .delivery := by
  have htask : ((deliveryCall argument).message "").task = dispatchWebhookDelivery.task := rfl
  unfold TaskCall.work TaskMessage.work
  rw [bound_of_ne (by rw [htask]; decide), bound_of_ne (by rw [htask]; decide),
    bound_of_task htask, bound_of_ne (by rw [htask]; decide),
    show dispatchWebhookDelivery.bind ((deliveryCall argument).message "").args
      ((deliveryCall argument).message "").kwargs = _ from bind_delivery argument]
  show (none <|> none <|> (uuidOf argument).map _ <|> none : Option Work) = _
  cases uuidOf argument with
  | none => rfl
  | some deliveryId => rfl

theorem work_recovery {text : String} {jobId : UUID} (h : Uuid.parse text = some jobId)
    (startIso endIso : Json.Value) (taskId : String) :
    (TaskMessage.mk taskId recoverWebhooksInWindow.task []
      [("job_id", .str text), ("start_iso", startIso), ("end_iso", endIso)]).work =
      some (.window jobId startIso endIso) := by
  unfold TaskMessage.work
  rw [bound_of_ne (by dsimp only; decide), bound_of_ne (by dsimp only; decide),
    bound_of_ne (by dsimp only; decide), bound_of_task rfl,
    bind_recovery (.str text) startIso endIso]
  have hjob : List.lookup "job_id"
      [("job_id", Json.Value.str text), ("start_iso", startIso), ("end_iso", endIso)] =
      some (.str text) := rfl
  have hstart : List.lookup "start_iso"
      [("job_id", Json.Value.str text), ("start_iso", startIso), ("end_iso", endIso)] =
      some startIso := rfl
  have hend : List.lookup "end_iso"
      [("job_id", Json.Value.str text), ("start_iso", startIso), ("end_iso", endIso)] =
      some endIso := rfl
  have huuid : uuidOf (.str text) = some jobId := h
  simp only [Option.map_some, Option.bind_some, Option.bind_none, hjob, huuid, hstart, hend]
  rfl

theorem work_replayCall (env : JobEnv) (startTime endTime : Time) (jobId : UUID) :
    (replayCall env startTime endTime jobId).work =
      some (.window jobId (.str (env.isoformat startTime)) (.str (env.isoformat endTime))) :=
  work_recovery (Uuid.parse_text jobId) _ _ ""

/-! ## The calls -/

namespace RequeueCall

/-- The call of `apply_async`, if it gets there. -/
def handed (env : JobEnv) (s : JobStore) (call : RequeueCall) : Option TaskCall :=
  (s.job call.jobId).bind fun job =>
    if call.Admits env job then job.handed env (call.argument env) call.correlationId else none

theorem handed_of_not_hasWork {webhookArgument : Json.Value → Except Exc Json.Value} {job : Job}
    (h : ¬ job.HasWork env webhookArgument = true) (correlationId : Option String) :
    job.handed env webhookArgument correlationId = none := by
  unfold Job.HasWork at h
  unfold Job.handed
  cases hpayload : job.payloadValue env with
  | none => rfl
  | some payload =>
    rw [hpayload] at h
    dsimp only [Option.bind_some] at h ⊢
    cases htype : job.jobType with
    | slaComputation | bulkSlaComputation =>
      rw [htype] at h
      cases hdict : payload.dict? with
      | some members =>
        dsimp only at h
        rw [getMember_of_dict hdict] at h
        exact absurd rfl h
      | none =>
        dsimp only
        rw [getMember_of_not_dict hdict]
        rfl
    | webhookDispatch =>
      rw [htype] at h
      dsimp only at h ⊢
      cases hargument : webhookArgument payload with
      | error exc => rfl
      | ok argument =>
        rw [hargument] at h
        exact absurd rfl h
    | webhookDrReplay => rfl

theorem handed_of_refused {call : RequeueCall}
    (h : ∀ job ∈ s.job call.jobId, ¬ call.Admits env job) : call.handed env s = none := by
  unfold handed
  cases hjob : s.job call.jobId with
  | none => rfl
  | some job => exact if_neg (h job hjob)

theorem dispatched_serve (env : JobEnv) (s : JobStore) (call : RequeueCall) :
    (call.serve env s).2.dispatched = s.dispatched ++ handedTo call.answer (call.handed env s) := by
  have hnone (hhanded : call.handed env s = none) :
      s.dispatched = s.dispatched ++ handedTo call.answer (call.handed env s) := by
    rw [hhanded]
    exact (List.append_nil _).symm
  -- a job that passes the checks of the call hands over what its reset form does
  have hput {job : Job} (reset : Job) (hjob : s.job call.jobId = some job)
      (hchecks : call.Admits env job ↔ job.HasWork env (call.argument env) = true)
      (hsame : reset.handed env (call.argument env) call.correlationId =
        job.handed env (call.argument env) call.correlationId) :
      reset.handed env (call.argument env) call.correlationId = call.handed env s := by
    unfold handed
    rw [hjob, hsame, Option.bind_some]
    split
    · rfl
    · rename_i hrefused
      exact handed_of_not_hasWork (fun h => hrefused (hchecks.mpr h)) _
  cases call with
  | retry jobId now correlationId answer =>
    show (retryJob env now correlationId answer jobId s).2.dispatched = _
    rcases retryJob_cases env now correlationId answer jobId s with
      ⟨hrefused, _, _, hcall⟩ | ⟨job, hjob, -, hnot, _, _, hcall⟩ | ⟨job, hjob, hretry, -, -, hstore⟩
    · rw [hcall]
      exact hnone (handed_of_refused fun job hjob hadmits => (hrefused job hjob).1 hadmits.1)
    · rw [hcall]
      refine hnone (handed_of_refused fun job' hjob' hadmits => hnot ?_)
      rw [Option.some.inj (hjob.symm.trans hjob')]
      exact hadmits.1
    · rw [hstore, dispatched_requeue]
      have hhanded := hput (job.resetForRetry now) hjob (and_iff_right hretry) rfl
      rw [← hhanded]
      rfl
  | release jobId correlationId answer =>
    show (releaseJobFromQuarantine env correlationId answer jobId s).2.dispatched = _
    rcases release_cases env correlationId answer jobId s with
      ⟨hrefused, _, _, hcall⟩ | ⟨job, hjob, hstatus, -, hstore⟩
    · rw [hcall]
      exact hnone (handed_of_refused fun job hjob hadmits => hrefused job hjob hadmits.1)
    · rw [hstore, dispatched_requeue]
      have hhanded := hput job.resetForRelease hjob (and_iff_right hstatus) rfl
      rw [← hhanded]
      rfl

/-- The task takes what is made of the job's payload: the payload has the members of its work; no
correlation id comes to a bulk computation; and a delivery is released, not retried, for `retry_job`
hands over the whole payload. -/
def FitsTask (env : JobEnv) (call : RequeueCall) (job : Job) : Prop :=
  match job.jobType, call with
  | .slaComputation, _ => (job.work env).isSome = true
  | .bulkSlaComputation, _ =>
    (job.work env).isSome = true ∧ hasCorrelation call.correlationId = false
  | .webhookDispatch, .release .. => (job.work env).isSome = true
  | .webhookDispatch, .retry .. => False
  | .webhookDrReplay, _ => True

variable {members : List (String × Json.Value)} {payload : Json.Value}

theorem uuidOf_deliveryArgument {argument : Json.Value} (hdict : payload.dict? = some members)
    {deliveryId : UUID} (hid : (members.lookup "delivery_id").bind uuidOf = some deliveryId)
    (hargument : deliveryArgument env payload = .ok argument) :
    uuidOf argument = some deliveryId := by
  obtain ⟨value, hvalue, huuid⟩ := Option.bind_eq_some_iff.mp hid
  have htruthy : isTruthy value = true := by
    cases value with
    | str text =>
      refine decide_eq_true fun hempty => ?_
      rw [hempty] at huuid
      cases huuid
    | null | bool | int | float | nonFinite | loneStr | arr | obj | loneObj => cases huuid
  unfold deliveryArgument at hargument
  rw [hdict] at hargument
  dsimp only at hargument
  rw [hvalue, Option.getD_some, if_pos htruthy, if_pos htruthy] at hargument
  rw [← Except.ok.inj hargument]
  exact huuid

theorem work_slaMembers (members : List (String × Json.Value)) (correlationId : Option String) :
    (∃ work, ((members.lookup "device_id").bind fun deviceId =>
        (members.lookup "period").map (Work.device deviceId)) = some work ∧
      (slaCall ((members.lookup "device_id").getD (.str ""))
        ((members.lookup "period").getD (.str "")) correlationId).work = some work) ↔
      ((members.lookup "device_id").bind fun deviceId =>
        (members.lookup "period").map (Work.device deviceId)).isSome = true := by
  rw [work_slaCall]
  cases members.lookup "device_id" with
  | none => simp
  | some deviceId =>
    cases members.lookup "period" with
    | none => simp
    | some period => simp

theorem work_bulkMembers (members : List (String × Json.Value)) (correlationId : Option String) :
    (∃ work, ((members.lookup "device_ids").bind fun deviceIds =>
        (members.lookup "period").map (Work.devices deviceIds)) = some work ∧
      (bulkCall ((members.lookup "device_ids").getD (.arr []))
        ((members.lookup "period").getD (.str "")) correlationId).work = some work) ↔
      ((members.lookup "device_ids").bind fun deviceIds =>
        (members.lookup "period").map (Work.devices deviceIds)).isSome = true ∧
        hasCorrelation correlationId = false := by
  rw [work_bulkCall]
  cases members.lookup "device_ids" with
  | none => simp
  | some deviceIds =>
    cases members.lookup "period" with
    | none => simp
    | some period => cases hasCorrelation correlationId <;> simp

theorem work_released (env : JobEnv) {argument : Json.Value} (hdict : payload.dict? = some members)
    (hargument : deliveryArgument env payload = .ok argument) :
    (∃ work, ((members.lookup "delivery_id").bind uuidOf).map Work.delivery = some work ∧
      (deliveryCall argument).work = some work) ↔
      (((members.lookup "delivery_id").bind uuidOf).map Work.delivery).isSome = true := by
  rw [work_deliveryCall]
  cases hid : (members.lookup "delivery_id").bind uuidOf with
  | none => simp
  | some deliveryId =>
    rw [uuidOf_deliveryArgument hdict hid hargument]
    simp

theorem uuidOf_of_dict (h : payload.dict? = some members) : uuidOf payload = none := by
  cases payload with
  | str text => cases h
  | null | bool | int | float | nonFinite | loneStr | arr | obj | loneObj => rfl

/-- **What is handed over for a job that has work.** -/
theorem work_handed (env : JobEnv) (call : RequeueCall) (job : Job)
    (hwork : job.HasWork env (call.argument env) = true) :
    ∃ taskCall, job.handed env (call.argument env) call.correlationId = some taskCall ∧
      ((∃ work, job.work env = some work ∧ taskCall.work = some work) ↔
        call.FitsTask env job) := by
  unfold Job.HasWork at hwork
  unfold Job.handed FitsTask Job.work
  cases hpayload : job.payloadValue env with
  | none =>
    rw [hpayload] at hwork
    cases hwork
  | some payload =>
    rw [hpayload] at hwork
    dsimp only [Option.bind_some] at hwork ⊢
    cases htype : job.jobType with
    | slaComputation =>
      rw [htype] at hwork
      dsimp only at hwork ⊢
      cases hdict : payload.dict? with
      | some members =>
        rw [getMember_of_dict hdict, getMember_of_dict hdict]
        exact ⟨_, rfl, work_slaMembers members call.correlationId⟩
      | none =>
        rw [getMember_of_not_dict hdict] at hwork
        cases hwork
    | bulkSlaComputation =>
      rw [htype] at hwork
      dsimp only at hwork ⊢
      cases hdict : payload.dict? with
      | some members =>
        rw [getMember_of_dict hdict, getMember_of_dict hdict]
        exact ⟨_, rfl, work_bulkMembers members call.correlationId⟩
      | none =>
        rw [getMember_of_not_dict hdict] at hwork
        cases hwork
    | webhookDispatch =>
      rw [htype] at hwork
      cases call with
      | retry jobId now correlationId answer =>
        refine ⟨deliveryCall payload, rfl, iff_of_false ?_ id⟩
        rintro ⟨work, hwork', hmessage⟩
        rw [work_deliveryCall] at hmessage
        cases hdict : payload.dict? with
        | some members =>
          rw [uuidOf_of_dict hdict] at hmessage
          cases hmessage
        | none =>
          rw [hdict] at hwork'
          cases hwork'
      | release jobId correlationId answer =>
        dsimp only [argument] at hwork
        show ∃ taskCall, (deliveryArgument env payload).toOption.map deliveryCall = some taskCall ∧ _
        cases hargument : deliveryArgument env payload with
        | error exc =>
          rw [hargument] at hwork
          cases hwork
        | ok argument =>
          cases hdict : payload.dict? with
          | some members => exact ⟨deliveryCall argument, rfl, work_released env hdict hargument⟩
          | none =>
            unfold deliveryArgument at hargument
            rw [hdict] at hargument
            cases hargument
    | webhookDrReplay =>
      rw [htype] at hwork
      cases hwork

end RequeueCall

namespace EnqueueCall

def answer : EnqueueCall → Dispatch
  | .sla _ _ _ answer => answer
  | .bulk _ _ _ answer => answer
  | .replay _ _ answer => answer
  | .requeue call => call.answer

/-- The call of `apply_async`, if the request gets there. -/
def applied (env : JobEnv) (s : JobStore) : EnqueueCall → Option TaskCall
  | .sla deviceId period correlationId _ =>
    some (slaCall (.str deviceId) (.str period) correlationId)
  | .bulk deviceIds period correlationId _ =>
    if deviceIds = [] then none
    else some (bulkCall (.arr (deviceIds.map .str)) (.str period) correlationId)
  | .replay startTime endTime answer =>
    if endTime < startTime then none
    else
      (s.insert (pendingReplay env startTime endTime answer.jobId)).toOption.map fun _ =>
        replayCall env startTime endTime answer.jobId
  | .requeue call => call.handed env s

theorem applied_bulk (env : JobEnv) (s : JobStore) (deviceIds : List String) (period : String)
    (correlationId : Option String) (answer : Dispatch) :
    (bulk deviceIds period correlationId answer).applied env s =
      if deviceIds = [] then none
      else some (bulkCall (.arr (deviceIds.map .str)) (.str period) correlationId) := rfl

/-- **The messages of a request** are what it applies, if Celery and the broker take it. -/
theorem dispatched_serve (env : JobEnv) (s : JobStore) (call : EnqueueCall) :
    (call.serve env s).dispatched = s.dispatched ++ handedTo call.answer (call.applied env s) := by
  cases call with
  | sla deviceId period correlationId answer =>
    exact (dispatched_applyPolicy _).trans (dispatched_enqueue answer computeSlaForDevice env
      .slaComputation [("device_id", .str deviceId), ("period", .str period)] correlationId s)
  | bulk deviceIds period correlationId answer =>
    show (submitBulkSlaComputation env deviceIds period correlationId answer s).2.dispatched = _
    unfold submitBulkSlaComputation
    rw [applied_bulk]
    by_cases hempty : deviceIds = []
    · rw [if_pos hempty, if_pos hempty]
      exact (List.append_nil _).symm
    · rw [if_neg hempty, if_neg hempty]
      exact (dispatched_applyPolicy _).trans (dispatched_enqueue answer computeBulkSla env
        .bulkSlaComputation [("device_ids", .arr (deviceIds.map .str)), ("period", .str period)]
        correlationId s)
  | replay startTime endTime answer =>
    exact dispatched_enqueueWebhookDrReplay answer env startTime endTime s
  | requeue call => exact call.dispatched_serve env s

/-- What the request passes to `apply_async`, if anything, is taken by the task and denotes the work
of the request. -/
def HandsOverWork (env : JobEnv) (s : JobStore) (call : EnqueueCall) : Prop :=
  ∀ taskCall ∈ call.applied env s, ∃ work,
    call.work env s = some work ∧ taskCall.work = some work

/-- The calls whose tasks can do what they are for. -/
def FitsTask (env : JobEnv) (s : JobStore) : EnqueueCall → Prop
  | .sla .. | .replay .. => True
  | .bulk deviceIds _ correlationId _ => deviceIds ≠ [] → hasCorrelation correlationId = false
  | .requeue call => ∀ job ∈ s.job call.jobId, call.Admits env job → call.FitsTask env job

/-- **The calls that hand over the work of their job.** -/
theorem handsOverWork_iff (env : JobEnv) (s : JobStore) (call : EnqueueCall) :
    call.HandsOverWork env s ↔ call.FitsTask env s := by
  unfold HandsOverWork
  cases call with
  | sla deviceId period correlationId answer =>
    refine iff_of_true ?_ trivial
    intro taskCall hcall
    rw [← Option.some.inj hcall]
    exact ⟨_, rfl, work_slaCall (.str deviceId) (.str period) correlationId⟩
  | bulk deviceIds period correlationId answer =>
    show _ ↔ (deviceIds ≠ [] → hasCorrelation correlationId = false)
    rw [applied_bulk]
    by_cases hempty : deviceIds = []
    · rw [if_pos hempty]
      exact iff_of_true (fun _ hcall => by cases hcall) fun hne => absurd hempty hne
    · rw [if_neg hempty]
      simp only [Option.mem_def, Option.some.injEq, forall_eq', work_bulkCall]
      cases hasCorrelation correlationId <;> simp [hempty, work]
  | replay startTime endTime answer =>
    refine iff_of_true ?_ trivial
    intro taskCall hcall
    change taskCall ∈ if endTime < startTime then none else _ at hcall
    split at hcall
    · cases hcall
    · obtain ⟨_, -, rfl⟩ := Option.map_eq_some_iff.mp hcall
      exact ⟨_, rfl, work_replayCall env startTime endTime answer.jobId⟩
  | requeue call =>
    show (∀ taskCall ∈ call.handed env s, ∃ work,
      (s.job call.jobId).bind (Job.work env) = some work ∧ taskCall.work = some work) ↔
        ∀ job ∈ s.job call.jobId, call.Admits env job → call.FitsTask env job
    unfold RequeueCall.handed
    cases hjob : s.job call.jobId with
    | none => simp
    | some job =>
      simp only [Option.bind_some, Option.mem_def, Option.some.injEq, forall_eq']
      by_cases hadmits : call.Admits env job
      · obtain ⟨taskCall, hhanded, hfits⟩ := call.work_handed env job hadmits.2
        rw [if_pos hadmits, hhanded]
        simp only [Option.some.injEq, forall_eq', hfits, hadmits, forall_const]
      · rw [if_neg hadmits]
        simp [hadmits]

/-- **A bulk computation with a correlation id** applies its task to an argument that the task does
not take: Celery raises, and nothing is enqueued. -/
theorem bulk_with_correlation_not_accepted :
    ¬ ∀ (env : JobEnv) (s : JobStore) (call : EnqueueCall), call.HandsOverWork env s := by
  intro hall
  let call : EnqueueCall := .bulk ["device-1"] "2026-09" (some "request-1") ⟨.ok "task-1", 1⟩
  have hfits := (handsOverWork_iff JobStore.jobEnv {} call).mp (hall _ _ _)
  exact absurd (hfits (List.cons_ne_nil "device-1" [])) (by decide)

end EnqueueCall

end NocIq
