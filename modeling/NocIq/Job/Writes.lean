import NocIq.Job.Callbacks

/-!
# NocIq — the UPDATE of a session

A session loads the row of a job, changes its columns, and commits. The UPDATE writes the columns
that differ from what has been loaded, and leaves the others as they are by then.

* **`Job.update_loaded`** — a session that nobody comes in between writes what it has changed.
* **`Job.update_withStatus`** — one that another status has been written meanwhile.
-/

namespace NocIq

namespace Json

/-! ## Equality of JSON values -/

mutual

def Value.beq : Value → Value → Bool
  | .null, .null => true
  | .bool a, .bool b => decide (a = b)
  | .int a, .int b => decide (a = b)
  | .float a, .float b => decide (a = b)
  | .nonFinite a, .nonFinite b => decide (a = b)
  | .str a, .str b => decide (a = b)
  | .loneStr a, .loneStr b => decide (a = b)
  | .arr as, .arr bs => Value.beqItems as bs
  | .obj as, .obj bs => Value.beqMembers as bs
  | .loneObj as, .loneObj bs => Value.beqLoneMembers as bs
  | _, _ => false

def Value.beqItems : List Value → List Value → Bool
  | [], [] => true
  | a :: as, b :: bs => a.beq b && Value.beqItems as bs
  | _, _ => false

def Value.beqMembers : List (String × Value) → List (String × Value) → Bool
  | [], [] => true
  | (name, a) :: as, (name', b) :: bs =>
    decide (name = name') && (a.beq b && Value.beqMembers as bs)
  | _, _ => false

def Value.beqLoneMembers : List (PyString × Value) → List (PyString × Value) → Bool
  | [], [] => true
  | (name, a) :: as, (name', b) :: bs =>
    decide (name = name') && (a.beq b && Value.beqLoneMembers as bs)
  | _, _ => false

end

mutual

theorem Value.beq_iff (a b : Value) : a.beq b = true ↔ a = b := by
  cases a with
  | arr as =>
    cases b with
    | arr bs => simp [Value.beq, Value.beqItems_iff as bs]
    | _ => simp [Value.beq]
  | obj as =>
    cases b with
    | obj bs => simp [Value.beq, Value.beqMembers_iff as bs]
    | _ => simp [Value.beq]
  | loneObj as =>
    cases b with
    | loneObj bs => simp [Value.beq, Value.beqLoneMembers_iff as bs]
    | _ => simp [Value.beq]
  | _ => cases b <;> simp [Value.beq]

theorem Value.beqItems_iff (as bs : List Value) : Value.beqItems as bs = true ↔ as = bs := by
  cases as with
  | nil => cases bs <;> simp [Value.beqItems]
  | cons a as =>
    cases bs with
    | nil => simp [Value.beqItems]
    | cons b bs => simp [Value.beqItems, Value.beq_iff a b, Value.beqItems_iff as bs]

theorem Value.beqMembers_iff (as bs : List (String × Value)) :
    Value.beqMembers as bs = true ↔ as = bs := by
  cases as with
  | nil => cases bs <;> simp [Value.beqMembers]
  | cons a as =>
    obtain ⟨name, a⟩ := a
    cases bs with
    | nil => simp [Value.beqMembers]
    | cons b bs =>
      obtain ⟨name', b⟩ := b
      simp [Value.beqMembers, Value.beq_iff a b, Value.beqMembers_iff as bs, and_assoc]

theorem Value.beqLoneMembers_iff (as bs : List (PyString × Value)) :
    Value.beqLoneMembers as bs = true ↔ as = bs := by
  cases as with
  | nil => cases bs <;> simp [Value.beqLoneMembers]
  | cons a as =>
    obtain ⟨name, a⟩ := a
    cases bs with
    | nil => simp [Value.beqLoneMembers]
    | cons b bs =>
      obtain ⟨name', b⟩ := b
      simp [Value.beqLoneMembers, Value.beq_iff a b, Value.beqLoneMembers_iff as bs, and_assoc]

end

instance : DecidableEq Value := fun a b => decidable_of_iff _ (a.beq_iff b)

end Json

/-! ## The columns of an UPDATE -/

/-- A column after the UPDATE of a session that has loaded and changed it. -/
def column {α : Type} [DecidableEq α] (loaded changed current : α) : α :=
  if changed = loaded then current else changed

@[simp] theorem column_loaded {α : Type} [DecidableEq α] (loaded changed : α) :
    column loaded changed loaded = changed := by
  unfold column
  split
  · rename_i h
    exact h.symm
  · rfl

theorem column_eq_iff {α : Type} [DecidableEq α] (loaded changed current : α) :
    column loaded changed current = changed ↔ changed ≠ loaded ∨ current = loaded := by
  unfold column
  split
  · rename_i h
    rw [h]
    simp
  · rename_i h
    simp [h]

/-- A column that has been loaded or is there already as it is to be. -/
def HasColumn {α : Type} (loaded changed current : α) : Prop := changed = loaded ∨ changed = current

theorem column_eq_current_iff {α : Type} [DecidableEq α] (loaded changed current : α) :
    column loaded changed current = current ↔ HasColumn loaded changed current := by
  unfold column
  split
  · rename_i h
    exact iff_of_true rfl (.inl h)
  · rename_i h
    exact ⟨.inr, fun hor => hor.resolve_left h⟩

namespace Job

def update (loaded changed current : Job) : Job where
  id := current.id
  celeryTaskId := column loaded.celeryTaskId changed.celeryTaskId current.celeryTaskId
  jobType := current.jobType
  status := column loaded.status changed.status current.status
  payload := column loaded.payload changed.payload current.payload
  result := column loaded.result changed.result current.result
  error := column loaded.error changed.error current.error
  errorCode := column loaded.errorCode changed.errorCode current.errorCode
  errorRetryable := column loaded.errorRetryable changed.errorRetryable current.errorRetryable
  errorDetails := column loaded.errorDetails changed.errorDetails current.errorDetails
  progress := column loaded.progress changed.progress current.progress
  progressDetails := column loaded.progressDetails changed.progressDetails current.progressDetails
  retryCount := column loaded.retryCount changed.retryCount current.retryCount
  maxRetries := column loaded.maxRetries changed.maxRetries current.maxRetries
  retryClass := column loaded.retryClass changed.retryClass current.retryClass
  lastRetriedAt := column loaded.lastRetriedAt changed.lastRetriedAt current.lastRetriedAt
  deadLetterReason :=
    column loaded.deadLetterReason changed.deadLetterReason current.deadLetterReason
  deadLetterAt := column loaded.deadLetterAt changed.deadLetterAt current.deadLetterAt
  startedAt := column loaded.startedAt changed.startedAt current.startedAt
  finishedAt := column loaded.finishedAt changed.finishedAt current.finishedAt
  payloadHash := column loaded.payloadHash changed.payloadHash current.payloadHash
  quarantineReason :=
    column loaded.quarantineReason changed.quarantineReason current.quarantineReason
  quarantinedAt := column loaded.quarantinedAt changed.quarantinedAt current.quarantinedAt
  workerId := column loaded.workerId changed.workerId current.workerId
  heartbeatAt := column loaded.heartbeatAt changed.heartbeatAt current.heartbeatAt
  leaseExpiresAt := column loaded.leaseExpiresAt changed.leaseExpiresAt current.leaseExpiresAt
  underInvestigation :=
    column loaded.underInvestigation changed.underInvestigation current.underInvestigation
  underDispute := column loaded.underDispute changed.underDispute current.underDispute
  auditCritical := column loaded.auditCritical changed.auditCritical current.auditCritical

variable {loaded changed : Job}

theorem update_loaded (hid : changed.id = loaded.id) (htype : changed.jobType = loaded.jobType) :
    update loaded changed loaded = changed := by
  unfold update
  simp only [column_loaded, ← hid, ← htype]

theorem update_withStatus (hid : changed.id = loaded.id) (htype : changed.jobType = loaded.jobType)
    (status : JobStatus) :
    update loaded changed { loaded with status } =
      { changed with status := column loaded.status changed.status status } := by
  unfold update
  simp only [column_loaded, ← hid, ← htype]

/-- The row has all that an UPDATE is to write. -/
@[mk_iff]
structure Repeats (loaded changed current : Job) : Prop where
  celeryTaskId : HasColumn loaded.celeryTaskId changed.celeryTaskId current.celeryTaskId
  status : HasColumn loaded.status changed.status current.status
  payload : HasColumn loaded.payload changed.payload current.payload
  result : HasColumn loaded.result changed.result current.result
  error : HasColumn loaded.error changed.error current.error
  errorCode : HasColumn loaded.errorCode changed.errorCode current.errorCode
  errorRetryable : HasColumn loaded.errorRetryable changed.errorRetryable current.errorRetryable
  errorDetails : HasColumn loaded.errorDetails changed.errorDetails current.errorDetails
  progress : HasColumn loaded.progress changed.progress current.progress
  progressDetails : HasColumn loaded.progressDetails changed.progressDetails current.progressDetails
  retryCount : HasColumn loaded.retryCount changed.retryCount current.retryCount
  maxRetries : HasColumn loaded.maxRetries changed.maxRetries current.maxRetries
  retryClass : HasColumn loaded.retryClass changed.retryClass current.retryClass
  lastRetriedAt : HasColumn loaded.lastRetriedAt changed.lastRetriedAt current.lastRetriedAt
  deadLetterReason : HasColumn loaded.deadLetterReason changed.deadLetterReason current.deadLetterReason
  deadLetterAt : HasColumn loaded.deadLetterAt changed.deadLetterAt current.deadLetterAt
  startedAt : HasColumn loaded.startedAt changed.startedAt current.startedAt
  finishedAt : HasColumn loaded.finishedAt changed.finishedAt current.finishedAt
  payloadHash : HasColumn loaded.payloadHash changed.payloadHash current.payloadHash
  quarantineReason : HasColumn loaded.quarantineReason changed.quarantineReason current.quarantineReason
  quarantinedAt : HasColumn loaded.quarantinedAt changed.quarantinedAt current.quarantinedAt
  workerId : HasColumn loaded.workerId changed.workerId current.workerId
  heartbeatAt : HasColumn loaded.heartbeatAt changed.heartbeatAt current.heartbeatAt
  leaseExpiresAt : HasColumn loaded.leaseExpiresAt changed.leaseExpiresAt current.leaseExpiresAt
  underInvestigation : HasColumn loaded.underInvestigation changed.underInvestigation current.underInvestigation
  underDispute : HasColumn loaded.underDispute changed.underDispute current.underDispute
  auditCritical : HasColumn loaded.auditCritical changed.auditCritical current.auditCritical

theorem update_eq_current_iff (loaded changed current : Job) :
    update loaded changed current = current ↔ Repeats loaded changed current := by
  cases current
  simp only [update, mk.injEq, column_eq_current_iff, repeats_iff, true_and]

end Job

/-! ## Callbacks -/

namespace Callback

/-- The UPDATE of a callback. `recover_webhooks_in_window` ends on an object that its first commit
has expired, so that all columns it sets are written. -/
def store (env : JobEnv) (callback : Callback) (loaded current : Job) : Job :=
  match callback with
  | .recoverSuccess now result => current.recoverSuccess now result
  | callback => Job.update loaded (callback.apply env loaded) current

theorem apply_jobType (env : JobEnv) (callback : Callback) (job : Job) :
    (callback.apply env job).jobType = job.jobType := by
  cases callback with
  | heartbeat now => exact (Job.heartbeat_sameWork env now job).jobType
  | markFailure now error errorCode errorRetryable =>
    exact (Job.markFailure_sameWork env now error errorCode errorRetryable job).jobType
  | markStarted | updateProgress | markSuccess | exhaustDelivery | recoverStarted | recoverSuccess
  | recoverFailure => rfl

theorem store_loaded (env : JobEnv) (callback : Callback) (job : Job) :
    callback.store env job job = callback.apply env job := by
  cases callback with
  | recoverSuccess now result => rfl
  | markStarted | heartbeat | updateProgress | markSuccess | markFailure | exhaustDelivery
  | recoverStarted | recoverFailure =>
    exact Job.update_loaded (apply_id env _ job) (apply_jobType env _ job)

end Callback

end NocIq
