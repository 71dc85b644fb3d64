import NocIq.Job.Rows

/-!
# NocIq — what workers write into a job

The callbacks of `DatabaseTask` and of `WebhookDatabaseTask` (which are the same on the row), and
what the webhook tasks of `app/tasks/webhook_tasks.py` write themselves: `dispatch_webhook_delivery`
when its retries are used up, and `recover_webhooks_in_window` in its course.
-/

namespace NocIq

namespace Job

/-- The `max_retries` of the task `dispatch_webhook_delivery`. -/
def deliveryMaxRetries : Nat := 5

/-- `dispatch_webhook_delivery`, whose retries are used up. The retry count stays as it is. -/
def exhaustDelivery (now : Time) (error : String) (job : Job) : Job :=
  { job with
    status := .deadLetter
    deadLetterReason := some s!"Max retries exhausted ({deliveryMaxRetries}). Last error: {error}"
    deadLetterAt := some now
    finishedAt := some now
    error := some error
    errorCode := some "WEBHOOK_RETRIES_EXHAUSTED"
    errorRetryable := some false }

def recoverStarted (now : Time) (job : Job) : Job :=
  { job with status := .started, startedAt := some now }

def recoverSuccess (now : Time) (result : String) (job : Job) : Job :=
  { job with status := .success, result := some result, progress := 100, finishedAt := some now }

def recoverFailure (now : Time) (error : String) (job : Job) : Job :=
  { job with status := .failure, error := some error, finishedAt := some now }

end Job

/-- What a worker writes into the row of its job. -/
inductive Callback where
  | markStarted (now : Time)
  | heartbeat (now : Time)
  | updateProgress (progress : ℚ) (details : List (String × Json.Value))
  | markSuccess (now : Time) (result : String)
  | markFailure (now : Time) (error : String) (errorCode : Option String)
      (errorRetryable : Option Bool)
  | exhaustDelivery (now : Time) (error : String)
  | recoverStarted (now : Time)
  | recoverSuccess (now : Time) (result : String)
  | recoverFailure (now : Time) (error : String)

namespace Callback

def apply (env : JobEnv) : Callback → Job → Job
  | .markStarted now => Job.markStarted env now
  | .heartbeat now => Job.heartbeat env now
  | .updateProgress progress details => Job.updateProgress progress details
  | .markSuccess now result => Job.markSuccess now result
  | .markFailure now error errorCode errorRetryable =>
    Job.markFailure env now error errorCode errorRetryable
  | .exhaustDelivery now error => Job.exhaustDelivery now error
  | .recoverStarted now => Job.recoverStarted now
  | .recoverSuccess now result => Job.recoverSuccess now result
  | .recoverFailure now error => Job.recoverFailure now error

/-- The callbacks that end a task, and give the job its result or error. -/
def IsEnd : Callback → Bool
  | .markSuccess .. | .markFailure .. | .exhaustDelivery .. | .recoverSuccess ..
  | .recoverFailure .. => true
  | _ => false

def IsHeartbeat : Callback → Bool
  | .heartbeat _ => true
  | _ => false

end Callback

/-! ## What a callback leaves alone -/

/-- The columns of a job that a failure or a heartbeat does not write. -/
structure Job.SameWork (job' job : Job) : Prop where
  id : job'.id = job.id
  jobType : job'.jobType = job.jobType
  maxRetries : job'.maxRetries = job.maxRetries
  progress : job'.progress = job.progress
  result : job'.result = job.result

theorem Job.heartbeat_sameWork (env : JobEnv) (now : Time) (job : Job) :
    (job.heartbeat env now).SameWork job := by
  unfold Job.heartbeat
  split
  · exact ⟨rfl, rfl, rfl, rfl, rfl⟩
  · exact ⟨rfl, rfl, rfl, rfl, rfl⟩

/-- The three ends of `_mark_failure`: dead-lettered, quarantined, and failed. -/
theorem Job.markFailure_sameWork (env : JobEnv) (now : Time) (error : String)
    (errorCode : Option String) (errorRetryable : Option Bool) (job : Job) :
    (job.markFailure env now error errorCode errorRetryable).SameWork job := by
  unfold Job.markFailure
  split
  · split
    · exact ⟨rfl, rfl, rfl, rfl, rfl⟩
    · exact ⟨rfl, rfl, rfl, rfl, rfl⟩
  · exact ⟨rfl, rfl, rfl, rfl, rfl⟩

theorem Callback.apply_id (env : JobEnv) (callback : Callback) (job : Job) :
    (callback.apply env job).id = job.id := by
  cases callback with
  | heartbeat now => exact (Job.heartbeat_sameWork env now job).id
  | markFailure now error errorCode errorRetryable =>
    exact (Job.markFailure_sameWork env now error errorCode errorRetryable job).id
  | markStarted | updateProgress | markSuccess | exhaustDelivery | recoverStarted | recoverSuccess
  | recoverFailure => rfl

end NocIq
