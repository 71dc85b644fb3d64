import NocIq.JsonText
import NocIq.Webhook.Schema

/-!
# NocIq — jobs

The table of `app/models/job.py`, the settings of its lifecycle, and what has been handed to Celery.
-/

namespace NocIq

inductive JobStatus where
  | pending
  | started
  | success
  | failure
  | revoked
  | quarantined
  | deadLetter
  deriving DecidableEq, Repr

def JobStatus.value : JobStatus → String
  | .pending => "pending"
  | .started => "started"
  | .success => "success"
  | .failure => "failure"
  | .revoked => "revoked"
  | .quarantined => "quarantined"
  | .deadLetter => "dead_letter"

/-- `str(status)`, as Python 3.12 writes it. -/
def JobStatus.text : JobStatus → String
  | .pending => "JobStatus.PENDING"
  | .started => "JobStatus.STARTED"
  | .success => "JobStatus.SUCCESS"
  | .failure => "JobStatus.FAILURE"
  | .revoked => "JobStatus.REVOKED"
  | .quarantined => "JobStatus.QUARANTINED"
  | .deadLetter => "JobStatus.DEAD_LETTER"

def JobStatus.ended : List JobStatus := [.success, .failure, .revoked, .deadLetter, .quarantined]

inductive JobType where
  | slaComputation
  | webhookDispatch
  | bulkSlaComputation
  | webhookDrReplay
  deriving DecidableEq, Repr

def JobType.value : JobType → String
  | .slaComputation => "sla_computation"
  | .webhookDispatch => "webhook_dispatch"
  | .bulkSlaComputation => "bulk_sla_computation"
  | .webhookDrReplay => "webhook_dr_replay"

inductive RetryClass where
  | atMostOnce
  | atLeastOnce
  | exponentialBackoff
  deriving DecidableEq, Repr

def RetryClass.value : RetryClass → String
  | .atMostOnce => "at_most_once"
  | .atLeastOnce => "at_least_once"
  | .exponentialBackoff => "exponential_backoff"

/-- A row of `jobs`. `payload` and `result` are JSON texts. -/
structure Job where
  id : UUID
  celeryTaskId : String
  jobType : JobType
  status : JobStatus := .pending
  payload : Option String := none
  result : Option String := none
  error : Option String := none
  errorCode : Option String := none
  errorRetryable : Option Bool := none
  errorDetails : Option Json.Value := none
  progress : ℚ := 0
  progressDetails : Option Json.Value := none
  retryCount : Int := 0
  maxRetries : Int := 3
  retryClass : Option String := none
  lastRetriedAt : Option Time := none
  deadLetterReason : Option String := none
  deadLetterAt : Option Time := none
  startedAt : Option Time := none
  finishedAt : Option Time := none
  payloadHash : Option String := none
  quarantineReason : Option String := none
  quarantinedAt : Option Time := none
  workerId : Option String := none
  heartbeatAt : Option Time := none
  leaseExpiresAt : Option Time := none
  underInvestigation : Bool := false
  underDispute : Bool := false
  auditCritical : Bool := false
  deriving Repr

structure JobSettings where
  leaseTimeoutSeconds : Int := 120
  retryDeadLetterEnabled : Bool := true
  deriving DecidableEq, Repr

/-- What makes an enqueuing fail, other than the request itself. -/
inductive JobFault where
  | brokerError (message : String)
  | integrityError (constraint : String)
  | jsonDecodeError
  | attributeError
  /-- arguments that the task does not take -/
  | typeError
  deriving DecidableEq, Repr

/-- The settings, and what the jobs take from libraries: `float`, canonical JSON, SHA-256 in hex,
`isoformat`, and the texts of exceptions. -/
structure JobEnv where
  settings : JobSettings := {}
  float : Json.FloatText
  /-- `json.dumps(obj, sort_keys=True, separators=(",", ":"))` -/
  dumpsCanonical : Json.Value → String
  sha256 : String → String
  isoformat : Time → String
  faultText : JobFault → String

/-- A message that has been handed to the broker. -/
structure TaskMessage where
  taskId : String
  task : String
  args : List Json.Value := []
  kwargs : List (String × Json.Value) := []
  deriving Repr

/-- The table, the messages that have been dispatched, and the task ids that have been revoked. -/
structure JobStore where
  jobs : List Job := []
  dispatched : List TaskMessage := []
  revoked : List String := []

namespace JobStore

/-- `_get_job`. -/
def byTask (s : JobStore) (celeryTaskId : String) : Option Job :=
  Batch.lookup Job.celeryTaskId s.jobs celeryTaskId

def job (s : JobStore) (id : UUID) : Option Job := Batch.lookup Job.id s.jobs id

/-- An UPDATE of the row of the job. -/
def put (s : JobStore) (job : Job) : JobStore := { s with jobs := Batch.put Job.id job s.jobs }

/-- An INSERT; the primary key and `celery_task_id` are unique. -/
def insert (s : JobStore) (job : Job) : Except JobFault JobStore :=
  if s.jobs.any fun j => decide (j.id = job.id) then .error (.integrityError "jobs_pkey")
  else if s.jobs.any fun j => decide (j.celeryTaskId = job.celeryTaskId) then
    .error (.integrityError "ix_jobs_celery_task_id")
  else .ok { s with jobs := s.jobs ++ [job] }

/-- An UPDATE that gives the job another `celery_task_id`. -/
def setTask (s : JobStore) (job : Job) (celeryTaskId : String) : Except JobFault JobStore :=
  if s.jobs.any fun j => decide (j.id ≠ job.id ∧ j.celeryTaskId = celeryTaskId) then
    .error (.integrityError "ix_jobs_celery_task_id")
  else .ok (s.put { job with celeryTaskId })

variable {s s' : JobStore} {job : Job}

theorem mem_of_byTask {celeryTaskId : String} (h : s.byTask celeryTaskId = some job) :
    job ∈ s.jobs ∧ job.celeryTaskId = celeryTaskId :=
  Batch.lookup_eq_some h

theorem mem_of_job {id : UUID} (h : s.job id = some job) : job ∈ s.jobs ∧ job.id = id :=
  Batch.lookup_eq_some h

theorem forall_put_of {P : Job → Prop} {job' : Job} (hall : ∀ j ∈ s.jobs, P j) (hjob' : P job') :
    ∀ j ∈ (s.put job').jobs, P j := by
  show ∀ j ∈ s.jobs.map fun r => if r.id = job'.id then job' else r, P j
  rw [List.forall_mem_map]
  intro j hj
  split
  · exact hjob'
  · exact hall j hj

theorem forall_put {P : Job → Prop} (hjob : job ∈ s.jobs) {job' : Job} (hid : job'.id = job.id)
    (hall : ∀ j ∈ s.jobs, P j) : (∀ j ∈ (s.put job').jobs, P j) ↔ P job' := by
  refine ⟨?_, forall_put_of hall⟩
  intro h
  have hself : P (if job.id = job'.id then job' else job) := h _ (List.mem_map_of_mem hjob)
  rwa [if_pos hid.symm] at hself

theorem forall_insert {P : Job → Prop} (h : s.insert job = .ok s') (hall : ∀ j ∈ s.jobs, P j)
    (hjob : P job) : ∀ j ∈ s'.jobs, P j := by
  unfold insert at h
  split at h
  · cases h
  · split at h
    · cases h
    · rw [← Except.ok.inj h]
      show ∀ j ∈ s.jobs ++ [job], P j
      rw [List.forall_mem_append, List.forall_mem_singleton]
      exact ⟨hall, hjob⟩

end JobStore

end NocIq
