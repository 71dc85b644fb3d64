import Mathlib.Data.List.Induction
import NocIq.Job.Terminal

/-!
# NocIq — the outcome of a task

What the callbacks of a task leave in the status, the result and the progress of its job. The last
callback that writes a column decides; a failure also depends on how many there have been.

* **`progress_foldl`** / **`result_foldl`** / **`status_foldl`** — the columns after some callbacks.
* **`sameOutcome_missed_iff`** — when the first callbacks can be missed.
* **`sameOutcome_filter_iff`** — when the reports of progress can.
-/

namespace NocIq

/-- The last of the values that the entries of a list have. -/
def lastSome {α β : Type} (value : α → Option β) : List α → Option β
  | [] => none
  | a :: as => lastSome value as <|> value a

theorem lastSome_append {α β : Type} (value : α → Option β) (as bs : List α) :
    lastSome value (as ++ bs) = (lastSome value bs <|> lastSome value as) := by
  induction as with
  | nil => cases h : lastSome value bs <;> simp [lastSome, h]
  | cons a as ih =>
    show (lastSome value (as ++ bs) <|> value a) = (_ <|> (_ <|> _))
    rw [ih]
    cases lastSome value bs <;> simp

theorem lastSome_eq_none_iff {α β : Type} (value : α → Option β) (as : List α) :
    lastSome value as = none ↔ ∀ a ∈ as, value a = none := by
  induction as with
  | nil => simp [lastSome]
  | cons a as ih =>
    show (lastSome value as <|> value a) = none ↔ _
    rw [List.forall_mem_cons, ← ih]
    cases lastSome value as <;> simp

theorem mem_of_lastSome {α β : Type} {value : α → Option β} {as : List α} {b : β}
    (h : lastSome value as = some b) : ∃ a ∈ as, value a = some b := by
  induction as with
  | nil => cases h
  | cons a as ih =>
    change (lastSome value as <|> value a) = some b at h
    cases hrest : lastSome value as with
    | none =>
      rw [hrest] at h
      exact ⟨a, List.mem_cons_self, h⟩
    | some b' =>
      rw [hrest] at h
      obtain ⟨c, hc, hvalue⟩ := ih (hrest.trans h)
      exact ⟨c, List.mem_cons_of_mem a hc, hvalue⟩

theorem lastSome_filter {α β : Type} {value : α → Option β} {keep : α → Bool} {as : List α}
    (h : ∀ a ∈ as, keep a = false → value a = none) :
    lastSome value (as.filter keep) = lastSome value as := by
  induction as with
  | nil => rfl
  | cons a as ih =>
    have hrest := ih fun b hb => h b (List.mem_cons_of_mem a hb)
    rw [List.filter_cons]
    split
    · show (_ <|> _) = (_ <|> _)
      rw [hrest]
    · rename_i hkeep
      show _ = (lastSome value as <|> value a)
      rw [hrest, h a List.mem_cons_self (Bool.not_eq_true _ ▸ hkeep)]
      cases lastSome value as <;> rfl

/-! ## What a callback writes -/

/-- The status that a callback gives: this one, or the one after a failure. -/
inductive StatusWrite where
  | to (status : JobStatus)
  | failed
  deriving DecidableEq

namespace Callback

def statusWrite : Callback → Option StatusWrite
  | .markStarted _ | .recoverStarted _ => some (.to .started)
  | .heartbeat _ | .updateProgress .. => none
  | .markSuccess .. | .recoverSuccess .. => some (.to .success)
  | .markFailure .. => some .failed
  | .exhaustDelivery .. => some (.to .deadLetter)
  | .recoverFailure .. => some (.to .failure)

def resultWrite : Callback → Option String
  | .markSuccess _ result | .recoverSuccess _ result => some result
  | _ => none

def progressWrite : Callback → Option ℚ
  | .updateProgress progress _ => some (min progress 99)
  | .markSuccess .. | .recoverSuccess .. => some 100
  | _ => none

def isFailure : Callback → Bool
  | .markFailure .. => true
  | _ => false

variable (env : JobEnv) (callback : Callback) (job : Job)

theorem progress_apply :
    (callback.apply env job).progress = callback.progressWrite.getD job.progress := by
  cases callback with
  | heartbeat now => exact (Job.heartbeat_sameWork env now job).progress
  | markFailure now error errorCode errorRetryable =>
    exact (Job.markFailure_sameWork env now error errorCode errorRetryable job).progress
  | markStarted | updateProgress | markSuccess | exhaustDelivery | recoverStarted | recoverSuccess
  | recoverFailure => rfl

theorem result_apply :
    (callback.apply env job).result = (callback.resultWrite <|> job.result) := by
  cases callback with
  | heartbeat now => exact (Job.heartbeat_sameWork env now job).result
  | markFailure now error errorCode errorRetryable =>
    exact (Job.markFailure_sameWork env now error errorCode errorRetryable job).result
  | markStarted | updateProgress | markSuccess | exhaustDelivery | recoverStarted | recoverSuccess
  | recoverFailure => rfl

theorem retries_apply :
    (callback.apply env job).retryCount = job.retryCount + (if callback.isFailure then 1 else 0) ∧
      (callback.apply env job).maxRetries = job.maxRetries := by
  cases callback with
  | heartbeat now =>
    refine ⟨?_, (Job.heartbeat_sameWork env now job).maxRetries⟩
    show (Job.heartbeat env now job).retryCount = _
    unfold Job.heartbeat
    split
    · exact (add_zero _).symm
    · exact (add_zero _).symm
  | markFailure now error errorCode errorRetryable =>
    refine ⟨?_, (Job.markFailure_sameWork env now error errorCode errorRetryable job).maxRetries⟩
    show (Job.markFailure env now error errorCode errorRetryable job).retryCount = job.attempts
    unfold Job.markFailure
    split
    · split
      · rfl
      · rfl
    · rfl
  | markStarted | updateProgress | markSuccess | exhaustDelivery | recoverStarted | recoverSuccess
  | recoverFailure => exact ⟨(add_zero _).symm, rfl⟩

theorem target_eq (settings : JobSettings) :
    callback.target settings job = callback.statusWrite.map fun
      | .to status => status
      | .failed => job.failureStatus settings := by
  cases callback <;> rfl

theorem target_ne_pending {settings : JobSettings} {status : JobStatus}
    (h : callback.target settings job = some status) : status ≠ .pending := by
  cases callback with
  | heartbeat | updateProgress => cases h
  | markFailure =>
    rw [← Option.some.inj h]
    unfold Job.failureStatus
    split
    · split <;> decide
    · decide
  | markStarted | markSuccess | exhaustDelivery | recoverStarted | recoverSuccess
  | recoverFailure =>
    rw [← Option.some.inj h]
    decide

theorem isFailure_eq : callback.isFailure = decide (callback.statusWrite = some .failed) := by
  cases callback <;> rfl

theorem progressWrite_eq_some_hundred_iff :
    callback.progressWrite = some 100 ↔ callback.resultWrite.isSome := by
  cases callback with
  | updateProgress progress details =>
    have hlt : min progress 99 < 100 := lt_of_le_of_lt (min_le_right _ _) (by norm_num)
    refine iff_of_false ?_ (by simp [resultWrite])
    intro h
    exact hlt.ne (Option.some.inj h)
  | markStarted | heartbeat | markSuccess | markFailure | exhaustDelivery | recoverStarted
  | recoverSuccess | recoverFailure => simp [progressWrite, resultWrite]

end Callback

/-! ## What callbacks leave -/

section Foldl

variable (env : JobEnv) (job : Job) (callbacks : List Callback)

/-- How many of the callbacks are failures. -/
def failures (callbacks : List Callback) : Nat := callbacks.countP Callback.isFailure

def Job.afterCallbacks : Job := callbacks.foldl (fun job callback => callback.apply env job) job

theorem afterCallbacks_append (more : List Callback) :
    job.afterCallbacks env (callbacks ++ more) =
      (job.afterCallbacks env callbacks).afterCallbacks env more :=
  List.foldl_append ..

theorem progress_foldl :
    (job.afterCallbacks env callbacks).progress =
      (lastSome Callback.progressWrite callbacks).getD job.progress := by
  induction callbacks generalizing job with
  | nil => rfl
  | cons callback callbacks ih =>
    show ((callback.apply env job).afterCallbacks env callbacks).progress =
      (lastSome Callback.progressWrite callbacks <|> callback.progressWrite).getD job.progress
    rw [ih, callback.progress_apply]
    cases lastSome Callback.progressWrite callbacks <;> rfl

theorem result_foldl :
    (job.afterCallbacks env callbacks).result =
      (lastSome Callback.resultWrite callbacks <|> job.result) := by
  induction callbacks generalizing job with
  | nil => rfl
  | cons callback callbacks ih =>
    show ((callback.apply env job).afterCallbacks env callbacks).result =
      ((lastSome Callback.resultWrite callbacks <|> callback.resultWrite) <|> job.result)
    rw [ih, callback.result_apply]
    cases lastSome Callback.resultWrite callbacks <;> rfl

theorem retries_foldl :
    (job.afterCallbacks env callbacks).retryCount = job.retryCount + failures callbacks ∧
      (job.afterCallbacks env callbacks).maxRetries = job.maxRetries := by
  induction callbacks generalizing job with
  | nil => exact ⟨(add_zero _).symm, rfl⟩
  | cons callback callbacks ih =>
    obtain ⟨hcount, hmax⟩ := ih (callback.apply env job)
    obtain ⟨hcount', hmax'⟩ := callback.retries_apply env job
    refine ⟨?_, hmax.trans hmax'⟩
    show ((callback.apply env job).afterCallbacks env callbacks).retryCount = _
    rw [hcount, hcount', failures, failures, List.countP_cons]
    split <;> push_cast <;> ring

/-- The status after a failure, which is so many attempts. -/
def failedStatus (settings : JobSettings) (maxRetries attempts : Int) : JobStatus :=
  if max maxRetries 0 ≤ attempts then
    if settings.retryDeadLetterEnabled then .deadLetter else .quarantined
  else .failure

/-- The status after the last callback that writes one and so many attempts. -/
def statusAfter (settings : JobSettings) (job : Job) (attempts : Int) :
    Option StatusWrite → JobStatus
  | none => job.status
  | some (.to status) => status
  | some .failed => failedStatus settings job.maxRetries attempts

/-- **The status**: the last callback that writes it decides, a failure with all failures so far. -/
theorem status_foldl :
    (job.afterCallbacks env callbacks).status =
      statusAfter env.settings job (job.retryCount + failures callbacks)
        (lastSome Callback.statusWrite callbacks) := by
  induction callbacks using List.reverseRecOn with
  | nil => rfl
  | append_singleton callbacks callback ih =>
    -- from the back: a failure looks at the count of those before it
    obtain ⟨hcount, hmax⟩ := retries_foldl env job callbacks
    have hfailures : failures (callbacks ++ [callback]) =
        failures callbacks + if callback.statusWrite = some .failed then 1 else 0 := by
      simp [failures, callback.isFailure_eq]
    rw [afterCallbacks_append, lastSome_append, hfailures]
    show (callback.apply env (job.afterCallbacks env callbacks)).status =
      statusAfter _ _ _ (callback.statusWrite <|> lastSome Callback.statusWrite callbacks)
    rw [callback.status_apply, callback.target_eq]
    cases callback.statusWrite with
    | none => exact ih
    | some write =>
      cases write with
      | «to» status => rfl
      | failed =>
        show Job.failureStatus env.settings (job.afterCallbacks env callbacks) = failedStatus ..
        unfold Job.failureStatus Job.exhausted Job.attempts failedStatus
        rw [hcount, hmax]
        simp [add_assoc]

end Foldl

/-! ## Callbacks that are missed -/

/-- Two jobs that have come to the same. -/
structure SameOutcome (job job' : Job) : Prop where
  status : job.status = job'.status
  result : job.result = job'.result
  progress : job.progress = job'.progress

/-- A job as it is inserted. -/
structure Job.IsNew (job : Job) : Prop where
  status : job.status = .pending
  result : job.result = none
  progress : job.progress = 0
  retryCount : job.retryCount = 0
  maxRetries : job.maxRetries = 3

/-- What the callbacks that come first have written is written again by those after them, or is no
change of a new job. -/
structure FoundEnough (missed found : List Callback) : Prop where
  status (h : lastSome Callback.statusWrite found = none) :
    lastSome Callback.statusWrite missed = none
  failures (h : lastSome Callback.statusWrite found = some .failed) :
    3 ≤ failures found ↔ 3 ≤ failures missed + failures found
  result (h : lastSome Callback.resultWrite found = none) :
    lastSome Callback.resultWrite missed = none
  progress (h : lastSome Callback.progressWrite found = none) :
    (lastSome Callback.progressWrite missed).getD 0 = 0

section Missed

variable (env : JobEnv) {job : Job} (missed found : List Callback)

theorem failedStatus_ne_pending (settings : JobSettings) (maxRetries attempts : Int) :
    failedStatus settings maxRetries attempts ≠ .pending := by
  unfold failedStatus
  split
  · split <;> decide
  · decide

theorem failedStatus_eq_iff (settings : JobSettings) (maxRetries m n : Int) :
    failedStatus settings maxRetries m = failedStatus settings maxRetries n ↔
      (max maxRetries 0 ≤ m ↔ max maxRetries 0 ≤ n) := by
  unfold failedStatus
  by_cases hm : max maxRetries 0 ≤ m
  · by_cases hn : max maxRetries 0 ≤ n
    · simp only [hm, hn]
    · simp only [hm, hn]
      cases settings.retryDeadLetterEnabled <;> simp
  · by_cases hn : max maxRetries 0 ≤ n
    · simp only [hm, hn]
      cases settings.retryDeadLetterEnabled <;> simp
    · simp only [hm, hn]

theorem statusAfter_ne_pending (settings : JobSettings) (job : Job) (attempts : Int)
    {write : StatusWrite} {callbacks : List Callback}
    (h : lastSome Callback.statusWrite callbacks = some write) :
    statusAfter settings job attempts (some write) ≠ .pending := by
  obtain ⟨callback, -, hwrite⟩ := mem_of_lastSome h
  cases write with
  | «to» status =>
    have htarget : callback.target settings job = some status := by
      rw [callback.target_eq, hwrite]
      rfl
    exact callback.target_ne_pending job htarget
  | failed => exact failedStatus_ne_pending settings job.maxRetries attempts

theorem sameStatus_iff (hnew : job.IsNew) :
    (job.afterCallbacks env found).status = (job.afterCallbacks env (missed ++ found)).status ↔
      (lastSome Callback.statusWrite found = none → lastSome Callback.statusWrite missed = none) ∧
        (lastSome Callback.statusWrite found = some .failed →
          (3 ≤ failures found ↔ 3 ≤ failures missed + failures found)) := by
  have hfailures : failures (missed ++ found) = failures missed + failures found :=
    List.countP_append
  rw [status_foldl, status_foldl, lastSome_append, hfailures]
  cases hfound : lastSome Callback.statusWrite found with
  | none =>
    show job.status = statusAfter _ _ _ (lastSome Callback.statusWrite missed) ↔ _
    cases hmissed : lastSome Callback.statusWrite missed with
    | none => simp [statusAfter]
    | some write =>
      -- a new job is pending, and no callback makes it so again
      have hne := statusAfter_ne_pending env.settings job
        (job.retryCount + (failures missed + failures found : Nat)) hmissed
      rw [hnew.status]
      exact iff_of_false hne.symm (by simp)
  | some write =>
    cases write with
    | «to» status => exact iff_of_true rfl (by simp)
    | failed =>
      show failedStatus _ _ _ = failedStatus _ _ _ ↔ _
      rw [failedStatus_eq_iff, hnew.retryCount, hnew.maxRetries]
      simp
      omega

theorem sameResult_iff (hnew : job.IsNew) :
    (job.afterCallbacks env found).result = (job.afterCallbacks env (missed ++ found)).result ↔
      (lastSome Callback.resultWrite found = none →
        lastSome Callback.resultWrite missed = none) := by
  rw [result_foldl, result_foldl, lastSome_append, hnew.result]
  cases lastSome Callback.resultWrite found with
  | none =>
    cases lastSome Callback.resultWrite missed with
    | none => simp
    | some result => simp
  | some result => simp

theorem sameProgress_iff (hnew : job.IsNew) :
    (job.afterCallbacks env found).progress = (job.afterCallbacks env (missed ++ found)).progress ↔
      (lastSome Callback.progressWrite found = none →
        (lastSome Callback.progressWrite missed).getD 0 = 0) := by
  rw [progress_foldl, progress_foldl, lastSome_append, hnew.progress]
  cases lastSome Callback.progressWrite found with
  | none =>
    show (0 : ℚ) = (lastSome Callback.progressWrite missed).getD 0 ↔ _
    rw [eq_comm]
    simp
  | some progress => simp

/-- **Callbacks that are missed.** A new job comes to the same without them exactly if enough is
found. -/
theorem sameOutcome_missed_iff (hnew : job.IsNew) :
    SameOutcome (job.afterCallbacks env found) (job.afterCallbacks env (missed ++ found)) ↔
      FoundEnough missed found := by
  have hstatus := sameStatus_iff env missed found hnew
  have hresult := sameResult_iff env missed found hnew
  have hprogress := sameProgress_iff env missed found hnew
  constructor
  · intro h
    obtain ⟨hwrite, hfailures⟩ := hstatus.mp h.status
    exact ⟨hwrite, hfailures, hresult.mp h.result, hprogress.mp h.progress⟩
  · intro h
    exact ⟨hstatus.mpr ⟨h.status, h.failures⟩, hresult.mpr h.result, hprogress.mpr h.progress⟩

end Missed

/-! ## Reports of progress that are missed -/

/-- What `recover_webhooks_in_window` writes into the job of its id. -/
def Callback.isRecovery : Callback → Bool
  | .recoverStarted _ | .recoverSuccess .. | .recoverFailure .. => true
  | _ => false

/-- What `recover_webhooks_in_window` writes at all. -/
def Callback.ofRecovery : Callback → Bool
  | .updateProgress .. => true
  | callback => callback.isRecovery

theorem Callback.eq_report {callback : Callback} (hof : callback.ofRecovery = true)
    (hreport : callback.isRecovery = false) :
    ∃ progress details, callback = .updateProgress progress details := by
  cases callback with
  | updateProgress progress details => exact ⟨progress, details, rfl⟩
  | recoverStarted | recoverSuccess | recoverFailure => cases hreport
  | markStarted | heartbeat | markSuccess | markFailure | exhaustDelivery => cases hof

theorem Callback.isFailure_of_ofRecovery {callback : Callback} (hof : callback.ofRecovery = true) :
    callback.isFailure = false := by
  cases callback with
  | updateProgress | recoverStarted | recoverSuccess | recoverFailure => rfl
  | markStarted | heartbeat | markSuccess | markFailure | exhaustDelivery => cases hof

/-- The last progress is that of a success, or no progress. -/
structure NoProgressLost (callbacks : List Callback) : Prop where
  last : lastSome Callback.progressWrite callbacks ∈ [none, some 0, some 100]
  zero (h : lastSome Callback.progressWrite callbacks = some 0) :
    lastSome Callback.resultWrite callbacks = none

theorem progress_filter_isRecovery {callbacks : List Callback}
    (hof : ∀ callback ∈ callbacks, callback.ofRecovery) :
    lastSome Callback.progressWrite (callbacks.filter Callback.isRecovery) =
      (lastSome Callback.resultWrite callbacks).map fun _ => 100 := by
  induction callbacks with
  | nil => rfl
  | cons callback callbacks ih =>
    have hrest := ih fun c hc => hof c (List.mem_cons_of_mem callback hc)
    have hfirst := hof callback List.mem_cons_self
    show _ = (lastSome Callback.resultWrite callbacks <|> callback.resultWrite).map _
    rw [List.filter_cons]
    cases callback with
    | updateProgress progress details =>
      rw [if_neg (by simp [Callback.isRecovery]), hrest]
      cases lastSome Callback.resultWrite callbacks <;> rfl
    | recoverStarted | recoverSuccess | recoverFailure =>
      show (lastSome Callback.progressWrite (callbacks.filter Callback.isRecovery) <|> _) = _
      rw [hrest]
      cases lastSome Callback.resultWrite callbacks <;> rfl
    | markStarted | heartbeat | markSuccess | markFailure | exhaustDelivery => cases hfirst

theorem progressWrite_ne_none {callbacks : List Callback} {result : String}
    (h : lastSome Callback.resultWrite callbacks = some result) :
    lastSome Callback.progressWrite callbacks ≠ none := by
  obtain ⟨callback, hmem, hresult⟩ := mem_of_lastSome h
  have hprogress : callback.progressWrite = some 100 := by
    rw [Callback.progressWrite_eq_some_hundred_iff, hresult]
    rfl
  intro hnone
  rw [(lastSome_eq_none_iff _ _).mp hnone callback hmem] at hprogress
  cases hprogress

theorem progressWrite_ne_hundred {callbacks : List Callback}
    (h : lastSome Callback.resultWrite callbacks = none) :
    lastSome Callback.progressWrite callbacks ≠ some 100 := by
  intro hprogress
  obtain ⟨callback, hmem, hcallback⟩ := mem_of_lastSome hprogress
  have hresult := Callback.progressWrite_eq_some_hundred_iff callback |>.mp hcallback
  rw [(lastSome_eq_none_iff _ _).mp h callback hmem] at hresult
  cases hresult

theorem noProgressLost_iff (callbacks : List Callback) :
    ((lastSome Callback.resultWrite callbacks).map fun _ => (100 : ℚ)).getD 0 =
      (lastSome Callback.progressWrite callbacks).getD 0 ↔ NoProgressLost callbacks := by
  cases hresult : lastSome Callback.resultWrite callbacks with
  | none =>
    -- no success: the progress is to be none or 0
    have hhundred := progressWrite_ne_hundred hresult
    show 0 = (lastSome Callback.progressWrite callbacks).getD 0 ↔ _
    constructor
    · intro h
      refine ⟨?_, fun _ => hresult⟩
      cases hprogress : lastSome Callback.progressWrite callbacks with
      | none => simp
      | some progress =>
        rw [hprogress] at h
        simp [← show 0 = progress from h]
    · intro h
      have hlast := h.last
      cases hprogress : lastSome Callback.progressWrite callbacks with
      | none => rfl
      | some progress =>
        rw [hprogress] at hlast hhundred
        simp only [List.mem_cons, reduceCtorEq, List.not_mem_nil, or_false, false_or, hhundred]
          at hlast
        exact (Option.some.inj hlast).symm
  | some result =>
    -- a success: its progress is to be the last one
    have hnone := progressWrite_ne_none hresult
    show 100 = (lastSome Callback.progressWrite callbacks).getD 0 ↔ _
    constructor
    · intro h
      cases hprogress : lastSome Callback.progressWrite callbacks with
      | none => exact absurd hprogress hnone
      | some progress =>
        rw [hprogress] at h
        obtain rfl : 100 = progress := h
        refine ⟨by simp [hprogress], ?_⟩
        intro hzero
        rw [hprogress] at hzero
        exact absurd (Option.some.inj hzero) (by norm_num)
    · intro h
      have hlast := h.last
      have hzero : lastSome Callback.progressWrite callbacks ≠ some 0 := by
        intro hzero
        rw [h.zero hzero] at hresult
        cases hresult
      simp only [List.mem_cons, List.not_mem_nil, or_false, hnone, hzero, false_or] at hlast
      rw [hlast]
      rfl

/-- **Reports that are missed.** -/
theorem sameOutcome_filter_iff (env : JobEnv) {job : Job} (hnew : job.IsNew)
    {callbacks : List Callback} (hof : ∀ callback ∈ callbacks, callback.ofRecovery) :
    SameOutcome (job.afterCallbacks env (callbacks.filter Callback.isRecovery))
        (job.afterCallbacks env callbacks) ↔ NoProgressLost callbacks := by
  have hstatus : lastSome Callback.statusWrite (callbacks.filter Callback.isRecovery) =
      lastSome Callback.statusWrite callbacks := by
    refine lastSome_filter fun callback hmem hkeep => ?_
    obtain ⟨progress, details, rfl⟩ := Callback.eq_report (hof callback hmem) hkeep
    rfl
  have hresult : lastSome Callback.resultWrite (callbacks.filter Callback.isRecovery) =
      lastSome Callback.resultWrite callbacks := by
    refine lastSome_filter fun callback hmem hkeep => ?_
    obtain ⟨progress, details, rfl⟩ := Callback.eq_report (hof callback hmem) hkeep
    rfl
  have hfailures : failures callbacks = 0 := by
    refine List.countP_eq_zero.mpr fun callback hmem => ?_
    rw [Callback.isFailure_of_ofRecovery (hof callback hmem)]
    exact Bool.false_ne_true
  have hfailures' : failures (callbacks.filter Callback.isRecovery) = 0 :=
    Nat.le_zero.mp (hfailures ▸ List.filter_sublist.countP_le)
  have hprogress : (job.afterCallbacks env (callbacks.filter Callback.isRecovery)).progress =
      (job.afterCallbacks env callbacks).progress ↔ NoProgressLost callbacks := by
    rw [progress_foldl, progress_foldl, progress_filter_isRecovery hof, hnew.progress,
      noProgressLost_iff]
  rw [← hprogress]
  constructor
  · exact SameOutcome.progress
  · intro h
    refine ⟨?_, ?_, h⟩
    · rw [status_foldl, status_foldl, hstatus, hfailures, hfailures']
    · rw [result_foldl, result_foldl, hresult]

end NocIq
