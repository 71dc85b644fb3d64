import NocIq.Job.Schema
import NocIq.Lib.Runs

/-!
# NocIq — what works on jobs

The callbacks of `DatabaseTask` and the enqueuing functions of `app/tasks/sla_tasks.py`, the
endpoints of `app/api/v1/endpoints/jobs.py`, `heartbeat_job` and `reclaim_stale_leases` of
`app/services/job_cleanup.py`, and the system of all of them. One call reads the clock once.

Audit events and metrics are left out. `audit_log.log_event` commits the session; where it is
called, this commits what the call has changed so far, and the rest of the call changes no more.
-/

namespace NocIq

/-! ## The worker -/

/-- A character that `str.strip` removes. -/
def isWhitespace (c : Char) : Bool :=
  let n := c.toNat
  decide ((9 ≤ n ∧ n ≤ 13) ∨ (28 ≤ n ∧ n ≤ 32) ∨ (8192 ≤ n ∧ n ≤ 8202)) ||
    decide (n ∈ [133, 160, 5760, 8232, 8233, 8239, 8287, 12288])

def strip (text : String) : String :=
  String.ofList ((text.toList.dropWhile isWhitespace).reverse.dropWhile isWhitespace).reverse

theorem dropWhile_isWhitespace {cs : List Char} (h : ∀ c ∈ cs, isWhitespace c = false) :
    cs.dropWhile isWhitespace = cs := by
  cases cs with
  | nil => rfl
  | cons c cs => rw [List.dropWhile_cons, h c List.mem_cons_self, if_neg (by decide)]

theorem strip_blanks {blanks cs : List Char} (hblanks : ∀ c ∈ blanks, isWhitespace c = true)
    (h : ∀ c ∈ cs, isWhitespace c = false) :
    strip (String.ofList (blanks ++ cs)) = String.ofList cs := by
  unfold strip
  rw [String.toList_ofList, List.dropWhile_append_of_pos hblanks, dropWhile_isWhitespace h,
    dropWhile_isWhitespace fun c hc => h c (List.mem_reverse.mp hc), List.reverse_reverse]

theorem strip_of_not_whitespace {text : String} (h : ∀ c ∈ text.toList, isWhitespace c = false) :
    strip text = text := by
  have hstrip := @strip_blanks [] _ (fun c hc => absurd hc List.not_mem_nil) h
  rwa [List.nil_append, String.ofList_toList] at hstrip

namespace Job

variable (env : JobEnv)

/-- `_hash_job_payload`. -/
def hashPayload (job : Job) : String :=
  let raw := job.payload.getD ""
  match Json.loads env.float raw.toList with
  | some obj => env.sha256 (env.dumpsCanonical obj)
  | none => env.sha256 (strip raw)

def leaseUntil (now : Time) : Time := now + env.settings.leaseTimeoutSeconds * 1000000

def markStarted (now : Time) (job : Job) : Job :=
  { job with
    status := .started
    startedAt := some now
    heartbeatAt := some now
    leaseExpiresAt := some (leaseUntil env now) }

def heartbeat (now : Time) (job : Job) : Job :=
  if job.status = .started then
    { job with heartbeatAt := some now, leaseExpiresAt := some (leaseUntil env now) }
  else job

def markSuccess (now : Time) (result : String) (job : Job) : Job :=
  { job with
    status := .success
    result := some result
    progress := 100
    finishedAt := some now
    leaseExpiresAt := none
    heartbeatAt := none }

/-- `text or default`. -/
def orElse (text : Option String) (default : String) : String :=
  match text with
  | none => default
  | some text => if text = "" then default else text

def attempts (job : Job) : Int := job.retryCount + 1

def exhausted (job : Job) : Bool := decide (max job.maxRetries 0 ≤ job.attempts)

def markFailure (now : Time) (error : String) (errorCode : Option String)
    (errorRetryable : Option Bool) (job : Job) : Job :=
  if job.exhausted then
    if env.settings.retryDeadLetterEnabled then
      { job with
        status := .deadLetter
        deadLetterReason :=
          some s!"Max retries exhausted ({job.maxRetries}). Last error: {error}"
        deadLetterAt := some now
        finishedAt := some now
        retryCount := job.attempts
        error := some error
        errorCode := some (orElse errorCode "DEAD_LETTER")
        errorRetryable := some false }
    else
      { job with
        payloadHash := some (hashPayload env job)
        quarantineReason := some error
        quarantinedAt := some now
        status := .quarantined
        retryCount := job.attempts
        finishedAt := some now
        errorCode := some (orElse errorCode "QUARANTINED")
        errorRetryable := some false }
  else
    { job with
      retryCount := job.attempts
      status := .failure
      error := some error
      errorCode
      errorRetryable := some (errorRetryable.getD false)
      finishedAt := some now }

/-- `if details:`. -/
def updateProgress (progress : ℚ) (details : List (String × Json.Value)) (job : Job) : Job :=
  { job with
    progress := min progress 99
    progressDetails := if details.isEmpty then job.progressDetails else some (.obj details) }

/-- `heartbeat_job`, which does not look at the status. -/
def workerHeartbeat (now : Time) (workerId : String) (job : Job) : Job :=
  { job with
    heartbeatAt := some now
    leaseExpiresAt := some (leaseUntil env now)
    workerId := some workerId }

/-! ## The operators -/

/-- The `state_map` of `_sync_job_status_from_celery`. -/
def celeryStatus (celeryState : String) (status : JobStatus) : JobStatus :=
  match celeryState with
  | "PENDING" => .pending
  | "STARTED" => .started
  | "SUCCESS" => .success
  | "FAILURE" => .failure
  | "REVOKED" => .revoked
  | _ => status

/-- `_sync_job_status_from_celery`. -/
def sync (celeryState : String) (job : Job) : Job :=
  if job.status ∈ JobStatus.ended then job
  else { job with status := celeryStatus celeryState job.status }

/-- `retry_job`, of a job without retries left. -/
def giveUp (now : Time) (job : Job) : Job :=
  let lastError := job.error.getD "None"
  { job with
    status := .deadLetter
    deadLetterReason :=
      some s!"Max retries exhausted ({job.maxRetries}). Last error: {lastError}"
    deadLetterAt := some now
    finishedAt := some now }

def resetForRetry (now : Time) (job : Job) : Job :=
  { job with
    retryCount := job.retryCount + 1
    lastRetriedAt := some now
    error := none
    errorCode := none
    errorRetryable := none
    errorDetails := none
    status := .pending
    progress := 0
    startedAt := none
    finishedAt := none
    deadLetterReason := none
    deadLetterAt := none }

def resetForRelease (job : Job) : Job :=
  { job with
    quarantinedAt := none
    quarantineReason := none
    payloadHash := none
    retryCount := 0
    error := none
    errorCode := none
    errorRetryable := none
    errorDetails := none
    finishedAt := none
    startedAt := none
    progress := 0
    status := .pending }

/-- What `reclaim_stale_leases` selects. -/
def isStale (now : Time) (job : Job) : Bool :=
  (job.leaseExpiresAt.any fun t => decide (t < now)) && job.workerId.isSome &&
    decide (job.status = .started)

def reclaim (now : Time) (job : Job) : Job :=
  let worker := job.workerId.getD "None"
  let expired := (job.leaseExpiresAt.map env.isoformat).getD "N/A"
  let reclaimedAt := env.isoformat now
  { job with
    workerId := none
    heartbeatAt := none
    leaseExpiresAt := none
    status := .pending
    startedAt := none
    error := some
      s!"Lease expired (worker={worker}, expired={expired}); reclaimed at {reclaimedAt}" }

/-- `_build_base_query`: what `cleanup_old_jobs` deletes. -/
def isEligible (status : JobStatus) (cutoff : Time) (job : Job) : Bool :=
  decide (job.status = status) && (job.finishedAt.any fun t => decide (t < cutoff)) &&
    !job.underInvestigation && !job.underDispute && !job.auditCritical

end Job

/-! ## The tasks -/

/-- The parameters of a task after `self`; those of `optional` have a default. -/
structure TaskSignature where
  task : String
  required : List String
  optional : List String := []

namespace TaskSignature

def names (signature : TaskSignature) : List String := signature.required ++ signature.optional

/-- The arguments of a call, bound to the parameters; `none` is the `TypeError` of one that does not
fit. -/
def bind (signature : TaskSignature) (args : List Json.Value) (kwargs : List (String × Json.Value)) :
    Option (List (String × Json.Value)) :=
  let bound := signature.names.zip args ++ kwargs
  let given := bound.map Prod.fst
  if args.length ≤ signature.names.length ∧ given.Nodup ∧ (∀ name ∈ given, name ∈ signature.names) ∧
      ∀ name ∈ signature.required, name ∈ given then
    some bound
  else none

end TaskSignature

def computeSlaForDevice : TaskSignature where
  task := "app.tasks.sla_tasks.compute_sla_for_device"
  required := ["device_id", "period"]
  optional := ["correlation_id"]

def computeBulkSla : TaskSignature where
  task := "app.tasks.sla_tasks.compute_bulk_sla"
  required := ["device_ids", "period"]

def dispatchWebhookDelivery : TaskSignature where
  task := "app.tasks.webhook_tasks.dispatch_webhook_delivery"
  required := ["delivery_id"]

def recoverWebhooksInWindow : TaskSignature where
  task := "app.tasks.webhook_tasks.recover_webhooks_in_window"
  required := ["job_id", "start_iso", "end_iso"]

/-! ## Enqueuing -/

/-- What the broker answers, the id of the task or an exception; and the id of the new row. -/
structure Dispatch where
  task : Except String String
  jobId : UUID

/-- `task.apply_async`, or `delay`: Celery checks the arguments against the parameters of the task
before it sends anything. -/
def JobStore.dispatch (s : JobStore) (answer : Dispatch) (task : TaskSignature)
    (args : List Json.Value) (kwargs : List (String × Json.Value)) :
    Except JobFault String × JobStore :=
  match task.bind args kwargs with
  | none => (.error .typeError, s)
  | some _ =>
    match answer.task with
    | .error message => (.error (.brokerError message), s)
    | .ok taskId =>
      (.ok taskId,
        { s with dispatched := s.dispatched ++ [{ taskId, task := task.task, args, kwargs }] })

section Enqueuing

variable (env : JobEnv)

/-- The body of both enqueuing functions. -/
def enqueue (task : TaskSignature) (jobType : JobType) (payload : List (String × Json.Value))
    (correlationId : Option String) (answer : Dispatch) (s : JobStore) :
    Except JobFault Job × JobStore :=
  let payload := payload ++
    match correlationId with
    | none => []
    | some text => if text = "" then [] else [("correlation_id", .str text)]
  match s.dispatch answer task [] payload with
  | (.error fault, s) => (.error fault, s)
  | (.ok celeryTaskId, s) =>
    let job : Job :=
      { id := answer.jobId
        celeryTaskId
        jobType
        payload := some (Json.dumps env.float (.obj payload)) }
    match s.insert job with
    | .error fault => (.error fault, s)
    | .ok s => (.ok job, s)

def enqueueSlaComputation (deviceId period : Json.Value) :
    Option String → Dispatch → JobStore → Except JobFault Job × JobStore :=
  enqueue env computeSlaForDevice .slaComputation [("device_id", deviceId), ("period", period)]

def enqueueBulkSlaComputation (deviceIds period : Json.Value) :
    Option String → Dispatch → JobStore → Except JobFault Job × JobStore :=
  enqueue env computeBulkSla .bulkSlaComputation [("device_ids", deviceIds), ("period", period)]

/-- The `retry_class` of `get_retry_policy`. -/
def retryPolicyClass : JobType → RetryClass
  | .slaComputation => .exponentialBackoff
  | .bulkSlaComputation => .exponentialBackoff
  | .webhookDispatch => .atLeastOnce
  | .webhookDrReplay => .atMostOnce

/-- What the endpoints do with what has been enqueued. -/
def applyPolicy : Except JobFault Job × JobStore → Except JobFault Job × JobStore
  | (.error fault, s) => (.error fault, s)
  | (.ok job, s) =>
    let job := { job with retryClass := some (retryPolicyClass job.jobType).value }
    (.ok job, s.put job)

def submitSlaComputation (deviceId period : String) (correlationId : Option String)
    (answer : Dispatch) (s : JobStore) : Except JobFault Job × JobStore :=
  applyPolicy (enqueueSlaComputation env (.str deviceId) (.str period) correlationId answer s)

def submitBulkSlaComputation (deviceIds : List String) (period : String)
    (correlationId : Option String) (answer : Dispatch) (s : JobStore) :
    Except Exc (Except JobFault Job) × JobStore :=
  if deviceIds = [] then (.error (.http 400 "device_ids must not be empty."), s)
  else
    match applyPolicy (enqueueBulkSlaComputation env (.arr (deviceIds.map .str)) (.str period)
      correlationId answer s) with
    | (outcome, s) => (.ok outcome, s)

end Enqueuing

/-! ## The endpoints -/

/-- `_get_job_or_404`. -/
def jobNotFound : Exc := .http 404 "Job not found."

def pollJob (celeryState : String) (jobId : UUID) (s : JobStore) : Except Exc Job × JobStore :=
  match s.job jobId with
  | none => (.error jobNotFound, s)
  | some job => (.ok (job.sync celeryState), s.put (job.sync celeryState))

def cancelJob (jobId : UUID) (s : JobStore) : Except Exc Unit × JobStore :=
  match s.job jobId with
  | none => (.error jobNotFound, s)
  | some job =>
    if job.status ∈ [JobStatus.success, .failure, .revoked, .deadLetter] then
      (.error (.http 400 s!"Cannot cancel a job with status '{job.status.text}'."), s)
    else
      (.ok (),
        { s.put { job with status := .revoked } with revoked := s.revoked ++ [job.celeryTaskId] })

/-- `json.loads(job.payload) if job.payload else {}`. -/
def Job.payloadValue (env : JobEnv) (job : Job) : Option Json.Value :=
  match job.payload with
  | none => some (.obj [])
  | some text => if text = "" then some (.obj []) else Json.loads env.float text.toList

/-- `payload.get(name, default)`; `none` is the `AttributeError` of what is not a dictionary. -/
def getMember (payload : Json.Value) (name : String) (default : Json.Value) : Option Json.Value :=
  payload.dict?.map fun members => (members.lookup name).getD default

def isTruthy : Json.Value → Bool
  | .null => false
  | .bool b => b
  | .int n => decide (n ≠ 0)
  | .float q => decide (q ≠ 0)
  | .str text => decide (text ≠ "")
  | .arr items => !items.isEmpty
  | .obj members => !members.isEmpty
  | .nonFinite _ | .loneStr _ | .loneObj _ => true

/-- What one of the two endpoints that put a job back says of a job type that it does not support,
and what it raises for an exception with a text. -/
structure RequeueWords where
  unsupported : String
  failed : String → Exc

section Requeue

variable (env : JobEnv) (words : RequeueWords) (answer : Dispatch)

/-- The `except Exception` of both. -/
def RequeueWords.exc (fault : JobFault) : Exc := words.failed (env.faultText fault)

/-- What follows an enqueuing, which has committed the reset job if it has succeeded. -/
def adoptTask (reset : Job) (s : JobStore) :
    Except JobFault Job × JobStore → Except Exc Job × JobStore
  | (.error fault, s') => (.error (words.exc env fault), { s with dispatched := s'.dispatched })
  | (.ok newTask, s') =>
    match s'.setTask reset newTask.celeryTaskId with
    | .error fault => (.error (words.exc env fault), s')
    | .ok s' => (.ok { reset with celeryTaskId := newTask.celeryTaskId }, s')

/-- The end of both: the work of the job, which has been reset, is dispatched once more. -/
def requeue (webhookArgument : Json.Value → Except Exc Json.Value) (correlationId : Option String)
    (reset : Job) (s : JobStore) : Except Exc Job × JobStore :=
  match reset.payloadValue env with
  | none => (.error (words.exc env .jsonDecodeError), s)
  | some payload =>
    match reset.jobType with
    | .slaComputation =>
      match getMember payload "device_id" (.str ""), getMember payload "period" (.str "") with
      | some deviceId, some period =>
        adoptTask env words reset s
          (enqueueSlaComputation env deviceId period correlationId answer (s.put reset))
      | _, _ => (.error (words.exc env .attributeError), s)
    | .bulkSlaComputation =>
      match getMember payload "device_ids" (.arr []), getMember payload "period" (.str "") with
      | some deviceIds, some period =>
        adoptTask env words reset s
          (enqueueBulkSlaComputation env deviceIds period correlationId answer (s.put reset))
      | _, _ => (.error (words.exc env .attributeError), s)
    | .webhookDispatch =>
      match webhookArgument payload with
      | .error exc => (.error exc, s)
      | .ok argument =>
        match s.dispatch answer dispatchWebhookDelivery [argument] [] with
        | (.error fault, s) => (.error (words.exc env fault), s)
        | (.ok taskId, s) =>
          match s.setTask reset taskId with
          | .error fault => (.error (words.exc env fault), s)
          | .ok s => (.ok { reset with celeryTaskId := taskId }, s)
    | .webhookDrReplay => (.error (.http 400 (words.unsupported ++ reset.jobType.value)), s)

end Requeue

structure JobRetryResponse where
  id : UUID
  celeryTaskId : String
  jobType : JobType
  status : JobStatus
  retryCount : Int
  maxRetries : Int
  retryClass : Option String := none
  message : String
  deriving DecidableEq, Repr

def retryWords : RequeueWords where
  unsupported := "Unsupported job type for retry: "
  failed text := .http 500 ("Failed to retry job: " ++ text)

def retryJob (env : JobEnv) (now : Time) (correlationId : Option String) (answer : Dispatch)
    (jobId : UUID) (s : JobStore) : Except Exc JobRetryResponse × JobStore :=
  match s.job jobId with
  | none => (.error jobNotFound, s)
  | some job =>
    if job.status ∉ [JobStatus.failure, .revoked, .deadLetter] then
      (.error (.http 400
        (s!"Cannot retry job with status '{job.status.value}'. " ++
          "Only FAILED, REVOKED, or DEAD_LETTER jobs can be retried.")), s)
    else if job.maxRetries ≤ job.retryCount then
      if env.settings.retryDeadLetterEnabled && decide (job.status ≠ .deadLetter) then
        (.error (.http 400
          (s!"Job has exceeded maximum retry limit ({job.maxRetries}) " ++
            s!"and has been moved to DEAD_LETTER. Current retry count: {job.retryCount}")),
          s.put (job.giveUp now))
      else
        (.error (.http 400
          (s!"Job has exceeded maximum retry limit ({job.maxRetries}). " ++
            s!"Current retry count: {job.retryCount}")), s)
    else if job.retryClass = some RetryClass.atMostOnce.value then
      (.error (.http 400 "Job has retry class 'at_most_once' and cannot be retried."), s)
    else
      match requeue env retryWords answer .ok correlationId (job.resetForRetry now) s with
      | (.error exc, s) => (.error exc, s)
      | (.ok job, s) =>
        (.ok
          { id := job.id
            celeryTaskId := job.celeryTaskId
            jobType := job.jobType
            status := job.status
            retryCount := job.retryCount
            maxRetries := job.maxRetries
            retryClass := job.retryClass
            message := s!"Job retry #{job.retryCount} initiated successfully" }, s)

structure JobReleaseResponse where
  jobId : UUID
  celeryTaskId : String
  jobType : JobType
  status : JobStatus
  retryCount : Int
  maxRetries : Int
  message : String
  deriving DecidableEq, Repr

/-- The handler of the release gives `logger.error` positional arguments, which a `StructuredLogger`
does not take; its own HTTP error is never raised. -/
def releaseWords : RequeueWords where
  unsupported := "Unsupported job type for release: "
  failed _ :=
    .typeError "StructuredLogger.error() takes 2 positional arguments but 4 were given"

/-- `payload.get("delivery_id") or payload.get("idempotency_key")`. -/
def deliveryArgument (env : JobEnv) (payload : Json.Value) : Except Exc Json.Value :=
  match payload.dict? with
  | some members =>
    let deliveryId := (members.lookup "delivery_id").getD .null
    let argument :=
      if isTruthy deliveryId then deliveryId
      else (members.lookup "idempotency_key").getD .null
    if isTruthy argument then .ok argument
    else .error (.http 400 "webhook dispatch job payload missing delivery_id.")
  | none => .error (releaseWords.exc env .attributeError)

def releaseJobFromQuarantine (env : JobEnv) (correlationId : Option String) (answer : Dispatch)
    (jobId : UUID) (s : JobStore) : Except Exc JobReleaseResponse × JobStore :=
  match s.job jobId with
  | none => (.error jobNotFound, s)
  | some job =>
    if job.status ≠ .quarantined then
      (.error (.http 400 s!"Job is not quarantined (current status: {job.status.value})."), s)
    else
      match requeue env releaseWords answer (deliveryArgument env) correlationId
        job.resetForRelease s with
      | (.error exc, s) => (.error exc, s)
      | (.ok job, s) =>
        (.ok
          { jobId := job.id
            celeryTaskId := job.celeryTaskId
            jobType := job.jobType
            status := job.status
            retryCount := job.retryCount
            maxRetries := job.maxRetries
            message :=
              if job.jobType = .webhookDispatch then
                "Released from quarantine and re-dispatched."
              else "Released from quarantine and re-enqueued." }, s)

/-- `POST /jobs/{job_id}/heartbeat`. -/
def recordJobHeartbeat (env : JobEnv) (now : Time) (workerId : String) (jobId : UUID)
    (s : JobStore) : Except Exc Time × JobStore :=
  match s.job jobId with
  | none => (.error jobNotFound, s)
  | some job =>
    if job.status ∉ [JobStatus.started, .pending] then
      (.error (.http 400 s!"Cannot heartbeat a job with status '{job.status.value}'."), s)
    else (.ok now, s.put (job.workerHeartbeat env now workerId))

/-- The result of a reclamation. -/
structure LeaseReclamation where
  staleLeasesFound : Nat
  reclaimed : Nat
  dryRun : Bool
  checkedAt : Time
  deriving DecidableEq, Repr

/-- `reclaim_stale_leases`, which takes the stale jobs in the order of the table. It never comes to
its result: the line that it logs after the commit has more arguments than the logger takes. -/
def reclaimStaleLeases (env : JobEnv) (now : Time) (batchSize : Nat) (dryRun : Bool)
    (s : JobStore) : Except Exc LeaseReclamation × JobStore :=
  let stale := (s.jobs.filter (Job.isStale now)).take batchSize
  (.error (.typeError "StructuredLogger.info() takes 2 positional arguments but 5 were given"),
    if dryRun then s else stale.foldl (fun s job => s.put (job.reclaim env now)) s)

/-! ## The system -/

inductive JobOperation where
  | submit (deviceId period : String) (correlationId : Option String) (answer : Dispatch)
  | submitBulk (deviceIds : List String) (period : String) (correlationId : Option String)
      (answer : Dispatch)
  | markStarted (celeryTaskId : String) (now : Time)
  | heartbeat (celeryTaskId : String) (now : Time)
  | updateProgress (celeryTaskId : String) (progress : ℚ) (details : List (String × Json.Value))
  | markSuccess (celeryTaskId : String) (now : Time) (result : String)
  | markFailure (celeryTaskId : String) (now : Time) (error : String) (errorCode : Option String)
      (errorRetryable : Option Bool)
  | poll (jobId : UUID) (celeryState : String)
  | cancel (jobId : UUID)
  | retry (jobId : UUID) (now : Time) (correlationId : Option String) (answer : Dispatch)
  | release (jobId : UUID) (correlationId : Option String) (answer : Dispatch)
  | recordHeartbeat (jobId : UUID) (now : Time) (workerId : String)
  | reclaimStaleLeases (now : Time) (batchSize : Nat) (dryRun : Bool)

/-- A callback of the worker, which changes nothing if the task has no job. -/
def JobStore.onTask (s : JobStore) (celeryTaskId : String) (callback : Job → Job) : JobStore :=
  match s.byTask celeryTaskId with
  | none => s
  | some job => s.put (callback job)

def serveJobs (env : JobEnv) (s : JobStore) : JobOperation → JobStore
  | .submit deviceId period correlationId answer =>
    (submitSlaComputation env deviceId period correlationId answer s).2
  | .submitBulk deviceIds period correlationId answer =>
    (submitBulkSlaComputation env deviceIds period correlationId answer s).2
  | .markStarted celeryTaskId now => s.onTask celeryTaskId (Job.markStarted env now)
  | .heartbeat celeryTaskId now => s.onTask celeryTaskId (Job.heartbeat env now)
  | .updateProgress celeryTaskId progress details =>
    s.onTask celeryTaskId (Job.updateProgress progress details)
  | .markSuccess celeryTaskId now result => s.onTask celeryTaskId (Job.markSuccess now result)
  | .markFailure celeryTaskId now error errorCode errorRetryable =>
    s.onTask celeryTaskId (Job.markFailure env now error errorCode errorRetryable)
  | .poll jobId celeryState => (pollJob celeryState jobId s).2
  | .cancel jobId => (cancelJob jobId s).2
  | .retry jobId now correlationId answer => (retryJob env now correlationId answer jobId s).2
  | .release jobId correlationId answer =>
    (releaseJobFromQuarantine env correlationId answer jobId s).2
  | .recordHeartbeat jobId now workerId => (recordJobHeartbeat env now workerId jobId s).2
  | .reclaimStaleLeases now batchSize dryRun => (reclaimStaleLeases env now batchSize dryRun s).2

abbrev JobRun (env : JobEnv) :=
  Runs.Run fun (s : JobStore) op s' => serveJobs env s op = s'

/-- Libraries for jobs whose payload and results do not matter. -/
def JobStore.jobEnv : JobEnv where
  float := { repr := fun q => toString q, parse := fun _ => some 0 }
  dumpsCanonical := Json.dumps { repr := fun q => toString q, parse := fun _ => some 0 }
  sha256 text := text
  isoformat t := toString t
  faultText
    | .brokerError message => message
    | .integrityError constraint => "UNIQUE constraint failed: " ++ constraint
    | .jsonDecodeError => "Expecting value: line 1 column 1 (char 0)"
    | .attributeError => "object has no attribute 'get'"
    | .typeError => "got an unexpected keyword argument"

end NocIq
