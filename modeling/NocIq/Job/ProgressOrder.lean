import NocIq.Job.BulkResults
import NocIq.Job.Callbacks

/-!
# NocIq — the progress of one execution

The two SLA tasks of `app/tasks/sla_tasks.py` as what they commit to the row of their job, one
commit after the other. A bulk computation sets fixed marks at its start and at its end, and after
each device the share of the devices that are done.

* **`foldl_writes`** — the writes of a bulk computation make the row at its end.
* **`map_progress_commits`** — the values of progress do not depend on the row.
* **`monotone_progress_iff`** — the executions whose progress never falls.
-/

namespace NocIq

/-! ## What a task commits -/

/-- A write to the row of a bulk job, which is committed at once. -/
inductive TaskWrite where
  | callback (callback : Callback)
  | addPartialResult (itemId : String) (result : Json.Value)
  | addItemError (itemId error : String)

namespace TaskWrite

def apply (env : JobEnv) : TaskWrite → BulkJob → BulkJob
  | .callback write, row => row.onJob (write.apply env)
  | .addPartialResult itemId result, row => row.addPartialResult itemId result
  | .addItemError itemId error, row => row.addItemError itemId error

/-- The value that a write gives to `progress`, if it assigns the column. -/
def progress : TaskWrite → Option ℚ
  | .callback (.updateProgress progress _) => some (min progress 99)
  | .callback (.markSuccess ..) | .callback (.recoverSuccess ..) => some 100
  | _ => none

@[simp] theorem progress_markStarted (now : Time) :
    progress (.callback (.markStarted now)) = none :=
  rfl

@[simp] theorem progress_updateProgress (value : ℚ) (details : List (String × Json.Value)) :
    progress (.callback (.updateProgress value details)) = some (min value 99) :=
  rfl

@[simp] theorem progress_markSuccess (now : Time) (result : String) :
    progress (.callback (.markSuccess now result)) = some 100 :=
  rfl

@[simp] theorem progress_markFailure (now : Time) (error : String) (errorCode : Option String)
    (errorRetryable : Option Bool) :
    progress (.callback (.markFailure now error errorCode errorRetryable)) = none :=
  rfl

end TaskWrite

/-- The writes that an execution makes, each with the job that is committed. -/
def commits (env : JobEnv) : List TaskWrite → BulkJob → List (TaskWrite × Job)
  | [], _ => []
  | write :: writes, row =>
    (write, (write.apply env row).job) :: commits env writes (write.apply env row)

def progressCommits (env : JobEnv) (writes : List TaskWrite) (row : BulkJob) : List Job :=
  ((commits env writes row).filter fun commit => commit.1.progress.isSome).map Prod.snd

/-- The progress of the jobs never falls, stays from 0 to 100, and is 100 only in a job that has
succeeded. -/
structure MonotoneProgress (jobs : List Job) : Prop where
  sorted : jobs.Pairwise fun job later => job.progress ≤ later.progress
  bounds : ∀ job ∈ jobs, 0 ≤ job.progress ∧ job.progress ≤ 100
  full : ∀ job ∈ jobs, job.progress = 100 → job.status = .success

/-! ## The tasks -/

section Bulk

variable (services : BulkServices) (period : String)

/-- What the `try` of a device and its `except` commit. -/
def itemWrites (deviceId : String) : List TaskWrite :=
  (services.partialItem period deviceId).toList.map (fun item => .addPartialResult item.1 item.2) ++
    (services.errorItem period deviceId).toList.map fun item => .addItemError item.1 item.2

def BulkState.reportWrite (total idx : Nat) (deviceId : String) (s : BulkState) : TaskWrite :=
  let progress : ℚ := idx / total * 100
  .callback (.updateProgress progress
    [("stage", .str "processing_devices"), ("current_device", .str deviceId),
      ("processed_count", .int s.processedCount), ("error_count", .int s.errorCount),
      ("total_devices", .int total), ("violations_found", .int s.violations.length),
      ("progress_percentage", .float (Rounding.roundTo 2 progress))])

def loopWrites (total : Nat) : (idx : Nat) → List String → BulkState → List TaskWrite
  | _, [], _ => []
  | idx, deviceId :: deviceIds, s =>
    let s' := processDevice services period deviceId s
    itemWrites services period deviceId ++ s'.reportWrite total idx deviceId ::
      loopWrites total (idx + 1) deviceIds (s'.reportDevice total idx deviceId)

end Bulk

/-- The commits of `compute_bulk_sla`. -/
def BulkCall.writes (env : JobEnv) (services : BulkServices) (call : BulkCall) (row : BulkJob) :
    List TaskWrite :=
  let total := call.deviceIds.length
  let started : List TaskWrite := [.callback (.markStarted call.startedAt),
    .callback (.updateProgress 5
      [("stage", .str "initialization"), ("total_devices", .int total),
        ("period", .str call.period)])]
  let s₀ : BulkState := { row := started.foldl (fun row write => write.apply env row) row }
  let s := processDevices services call.period total 1 call.deviceIds s₀
  let summary : BulkSummary := {
    total
    violatedDevices := s.violations
    processedCount := s.processedCount
    errorCount := s.errorCount
    results := s.results }
  started ++ loopWrites services call.period total 1 call.deviceIds s₀ ++
    [.callback (.updateProgress 95
      [("stage", .str "finalizing"), ("total_devices", .int total),
        ("processed_count", .int s.processedCount), ("error_count", .int s.errorCount),
        ("violations_found", .int s.violations.length)]),
    .callback (.markSuccess call.finishedAt (Json.dumps env.float summary.toJson))]

/-- A run of `compute_sla_for_device`. -/
structure DeviceCall where
  deviceId : String
  period : String
  /-- `self.request.retries`. -/
  retries : Nat
  startedAt : Time
  finishedAt : Time

/-- The `max_retries` of `compute_sla_for_device`. -/
def deviceMaxRetries : Nat := 3

namespace DeviceCall

variable (call : DeviceCall)

def reportWrite (progress : ℚ) (stage : String) (more : List (String × Json.Value)) : TaskWrite :=
  .callback (.updateProgress progress
    ([("stage", .str stage), ("device_id", .str call.deviceId), ("period", .str call.period)] ++
      more))

/-- The `except` of the task. -/
def failedWrite (error : String) : TaskWrite :=
  .callback (.markFailure call.finishedAt error (some "SLA_COMPUTATION_ERROR")
    (some (decide (call.retries < deviceMaxRetries))))

/-- `result.get("is_violated", False)`. -/
def violatedValue (result : Json.Value) : Json.Value :=
  ((result.dict?.getD []).lookup "is_violated").getD (.bool false)

/-- The end of the `try`. -/
def finishedWrites (env : JobEnv) (result : Json.Value) : List TaskWrite :=
  [call.reportWrite 95 "finalizing" [],
    .callback (.markSuccess call.finishedAt (Json.dumps env.float result))]

def resultWrites (env : JobEnv) (services : BulkServices) (result : Json.Value) :
    List TaskWrite :=
  match isViolated result with
  | .error error => [call.failedWrite error]
  | .ok violated =>
    call.reportWrite 70 "sla_computation_complete" [("is_violated", violatedValue result)] ::
      if violated then
        call.reportWrite 85 "triggering_webhooks" [("violation_detected", .bool true)] ::
          match services.triggerSlaViolationWebhooks
              (violationData call.deviceId call.period result) with
          | .error error => [call.failedWrite error]
          | .ok () => call.finishedWrites env result
      else call.finishedWrites env result

/-- The commits of `compute_sla_for_device`. `imported` is what the import of `compute_device_sla`
raises, which stands in front of the first mark. -/
def writes (env : JobEnv) (imported : Except String Unit) (services : BulkServices) :
    List TaskWrite :=
  .callback (.markStarted call.startedAt) ::
    match imported with
    | .error error => [call.failedWrite error]
    | .ok () =>
      call.reportWrite 30 "data_collection" [] ::
        match services.computeDeviceSla call.deviceId call.period with
        | .error error => [call.failedWrite error]
        | .ok result => call.resultWrites env services result

end DeviceCall

/-! ## The writes and the row -/

section Row

variable (env : JobEnv) (services : BulkServices) (period : String)

/-- The commits of a device. Its `try` ends in one of five ways. -/
theorem foldl_itemWrites (deviceId : String) (s : BulkState) :
    (itemWrites services period deviceId).foldl (fun row write => write.apply env row) s.row =
      (processDevice services period deviceId s).row := by
  unfold itemWrites processDevice BulkServices.partialItem BulkServices.errorItem
    BulkServices.raised
  cases services.computeDeviceSla deviceId period with
  | error error => rfl
  | ok result =>
    dsimp only
    cases isViolated result with
    | error error => rfl
    | ok violated =>
      cases violated with
      | false => rfl
      | true =>
        dsimp only
        cases services.triggerSlaViolationWebhooks (violationData deviceId period result) with
        | error error => rfl
        | ok _ => rfl

/-- Induction on the devices. -/
theorem foldl_loopWrites (total idx : Nat) (deviceIds : List String) (s : BulkState) :
    (loopWrites services period total idx deviceIds s).foldl
        (fun row write => write.apply env row) s.row =
      (processDevices services period total idx deviceIds s).row := by
  induction deviceIds generalizing idx s with
  | nil => rfl
  | cons deviceId deviceIds ih =>
    rw [loopWrites, List.foldl_append, foldl_itemWrites env, List.foldl_cons]
    exact ih (idx + 1) ((processDevice services period deviceId s).reportDevice total idx deviceId)

/-- **The writes of a bulk computation make the row that it leaves.** -/
theorem foldl_writes (call : BulkCall) (row : BulkJob) :
    (call.writes env services row).foldl (fun row write => write.apply env row) row =
      (call.computeBulkSla env services row).1 := by
  unfold BulkCall.writes BulkCall.computeBulkSla
  dsimp only
  rw [List.foldl_append, List.foldl_append]
  rw [foldl_loopWrites env services call.period call.deviceIds.length 1 call.deviceIds
    { row := _ }]
  rfl

end Row

/-! ## The values of progress -/

section Values

variable {env : JobEnv} {writes : List TaskWrite} {row : BulkJob}

theorem TaskWrite.progress_apply {write : TaskWrite} {value : ℚ}
    (h : write.progress = some value) (env : JobEnv) (row : BulkJob) :
    (write.apply env row).job.progress = value ∧ value ≤ 100 ∧
      (value = 100 → (write.apply env row).job.status = .success) := by
  cases write with
  | addPartialResult | addItemError => cases h
  | callback callback =>
    cases callback with
    | updateProgress progress details =>
      have hvalue : min progress 99 = value := Option.some.inj h
      -- `update_progress` stops at 99, so 100 is left to the end of a job
      have hle : min progress 99 ≤ 99 := min_le_right _ _
      refine ⟨hvalue, by linarith, ?_⟩
      intro hfull
      linarith
    | markSuccess | recoverSuccess =>
      have hvalue : 100 = value := Option.some.inj h
      refine ⟨hvalue, hvalue.ge, ?_⟩
      intro _
      rfl
    | markStarted | heartbeat | markFailure | exhaustDelivery | recoverStarted | recoverFailure =>
      cases h

/-- **The values that an execution commits are those of its writes.** Induction on the writes. -/
theorem map_progress_commits (env : JobEnv) (writes : List TaskWrite) (row : BulkJob) :
    (progressCommits env writes row).map Job.progress = writes.filterMap TaskWrite.progress := by
  unfold progressCommits
  induction writes generalizing row with
  | nil => rfl
  | cons write writes ih =>
    rw [commits, List.filter_cons]
    cases h : write.progress with
    | none =>
      simp only [h, Option.isSome_none, Bool.false_eq_true, if_false, List.filterMap_cons]
      exact ih _
    | some value =>
      simp only [h, Option.isSome_some, if_true, List.filterMap_cons, List.map_cons]
      rw [(TaskWrite.progress_apply h env row).1, ih]

theorem mem_commits {commit : TaskWrite × Job} (h : commit ∈ commits env writes row) :
    ∃ row', commit.2 = (commit.1.apply env row').job := by
  induction writes generalizing row with
  | nil => cases h
  | cons write writes ih =>
    rcases List.mem_cons.mp h with rfl | h
    · exact ⟨row, rfl⟩
    · exact ih h

theorem of_mem_progressCommits {job : Job} (h : job ∈ progressCommits env writes row) :
    job.progress ≤ 100 ∧ (job.progress = 100 → job.status = .success) := by
  obtain ⟨commit, hcommit, rfl⟩ := List.mem_map.mp h
  rw [List.mem_filter] at hcommit
  obtain ⟨value, hvalue⟩ := Option.isSome_iff_exists.mp hcommit.2
  obtain ⟨row', hrow⟩ := mem_commits hcommit.1
  obtain ⟨hprogress, hle, hfull⟩ := TaskWrite.progress_apply hvalue env row'
  rw [hrow, hprogress]
  exact ⟨hle, hfull⟩

/-- What is asked of the values of progress: the other bounds hold of every execution. -/
theorem monotoneProgress_iff (env : JobEnv) (writes : List TaskWrite) (row : BulkJob) :
    MonotoneProgress (progressCommits env writes row) ↔
      (writes.filterMap TaskWrite.progress).Pairwise (· ≤ ·) ∧
        ∀ value ∈ writes.filterMap TaskWrite.progress, 0 ≤ value := by
  rw [← map_progress_commits env writes row, List.pairwise_map, List.forall_mem_map]
  constructor
  · intro h
    exact ⟨h.sorted, fun job hjob => (h.bounds job hjob).1⟩
  · intro h
    refine ⟨h.1, ?_, ?_⟩
    · intro job hjob
      exact ⟨h.2 job hjob, (of_mem_progressCommits hjob).1⟩
    · intro job hjob
      exact (of_mem_progressCommits hjob).2

/-! ### The bulk computation -/

variable {services : BulkServices} {period : String}

theorem filterMap_itemWrites (deviceId : String) :
    (itemWrites services period deviceId).filterMap TaskWrite.progress = [] := by
  unfold itemWrites
  rw [List.filterMap_append, List.filterMap_map, List.filterMap_map]
  have hnone {α : Type} (l : List α) : l.filterMap (fun _ => (none : Option ℚ)) = [] := by simp
  exact (congrArg₂ (· ++ ·) (hnone _) (hnone _)).trans rfl

/-- The values of the loop: the shares of the devices, up to 99. Induction on the devices. -/
theorem filterMap_loopWrites (total idx : Nat) (deviceIds : List String) (s : BulkState) :
    (loopWrites services period total idx deviceIds s).filterMap TaskWrite.progress =
      (List.range' idx deviceIds.length).map fun (i : Nat) => min ((i : ℚ) / total * 100) 99 := by
  induction deviceIds generalizing idx s with
  | nil => rfl
  | cons deviceId deviceIds ih =>
    rw [loopWrites, List.filterMap_append, filterMap_itemWrites, List.length_cons,
      List.range'_succ, List.map_cons, ← ih]
    rfl

theorem BulkCall.filterMap_writes (env : JobEnv) (services : BulkServices) (call : BulkCall)
    (row : BulkJob) :
    (call.writes env services row).filterMap TaskWrite.progress =
      5 :: (((List.range' 1 call.deviceIds.length).map fun (i : Nat) =>
        min ((i : ℚ) / call.deviceIds.length * 100) 99) ++ [95, 100]) := by
  unfold BulkCall.writes
  dsimp only
  rw [List.filterMap_append, List.filterMap_append, filterMap_loopWrites]
  have hinit : min (5 : ℚ) 99 = 5 := by norm_num
  have hfinal : min (95 : ℚ) 99 = 95 := by norm_num
  simp [List.filterMap_cons, hinit, hfinal]

theorem mem_shares {total : Nat} (h : total ≠ 0) :
    (99 : ℚ) ∈ (List.range' 1 total).map fun (i : Nat) => min ((i : ℚ) / total * 100) 99 := by
  refine List.mem_map.mpr ⟨total, ?_, ?_⟩
  · rw [List.mem_range'_1]
    omega
  · have htotal : (total : ℚ) ≠ 0 := Nat.cast_ne_zero.mpr h
    rw [div_self htotal]
    norm_num

theorem BulkCall.monotone_iff (env : JobEnv) (services : BulkServices) (call : BulkCall)
    (row : BulkJob) :
    MonotoneProgress (progressCommits env (call.writes env services row) row) ↔
      call.deviceIds = [] := by
  rw [monotoneProgress_iff, call.filterMap_writes]
  constructor
  · intro h
    by_contra hne
    have hshares := mem_shares (mt List.length_eq_zero_iff.mp hne)
    -- the share of the last device stands before the mark of the final stage
    have hpairs := (List.pairwise_append.mp (List.pairwise_cons.mp h.1).2).2.2
    have hle : (99 : ℚ) ≤ 95 := hpairs 99 hshares 95 List.mem_cons_self
    norm_num at hle
  · intro hnil
    rw [hnil]
    norm_num

/-! ### The computation of one device -/

theorem DeviceCall.filterMap_writes (env : JobEnv) (imported : Except String Unit)
    (services : BulkServices) (call : DeviceCall) :
    ((call.writes env imported services).filterMap TaskWrite.progress).Sublist
      [30, 70, 85, 95, 100] := by
  have h30 : min (30 : ℚ) 99 = 30 := by norm_num
  have h70 : min (70 : ℚ) 99 = 70 := by norm_num
  have h85 : min (85 : ℚ) 99 = 85 := by norm_num
  have h95 : min (95 : ℚ) 99 = 95 := by norm_num
  unfold DeviceCall.writes
  -- an exception ends the marks where it is raised
  cases imported with
  | error error => exact List.nil_sublist _
  | ok _ =>
    dsimp only
    cases services.computeDeviceSla call.deviceId call.period with
    | error error => simp [reportWrite, failedWrite, List.filterMap_cons, h30]
    | ok result =>
      dsimp only
      unfold DeviceCall.resultWrites
      cases isViolated result with
      | error error => simp [reportWrite, failedWrite, List.filterMap_cons, h30]
      | ok violated =>
        cases violated with
        | false => simp [reportWrite, finishedWrites, List.filterMap_cons, h30, h70, h95]
        | true =>
          cases services.triggerSlaViolationWebhooks
              (violationData call.deviceId call.period result) with
          | error error => simp [reportWrite, failedWrite, List.filterMap_cons, h30, h70, h85]
          | ok _ => simp [reportWrite, finishedWrites, List.filterMap_cons, h30, h70, h85, h95]

theorem DeviceCall.monotone (env : JobEnv) (imported : Except String Unit)
    (services : BulkServices) (call : DeviceCall) (row : BulkJob) :
    MonotoneProgress (progressCommits env (call.writes env imported services) row) := by
  rw [monotoneProgress_iff]
  have hmarks := call.filterMap_writes env imported services
  constructor
  · refine List.Pairwise.sublist hmarks ?_
    norm_num
  · intro value hvalue
    have hmem := hmarks.subset hvalue
    revert hmem
    norm_num
    rintro (rfl | rfl | rfl | rfl | rfl) <;> norm_num

end Values

/-! ## Both tasks -/

/-- **Monotone progress.** A bulk computation has it exactly if it has no devices: the last device
takes the progress to 99, and the mark of the final stage back to 95. The computation of one device
has it always. -/
theorem monotone_progress_iff (env : JobEnv) (imported : Except String Unit)
    (services : BulkServices) (bulk : BulkCall) (device : DeviceCall) (row deviceRow : BulkJob) :
    (MonotoneProgress (progressCommits env (bulk.writes env services row) row) ↔
        bulk.deviceIds = []) ∧
      MonotoneProgress
        (progressCommits env (device.writes env imported services) deviceRow) := by
  constructor
  · exact bulk.monotone_iff env services row
  · exact device.monotone env imported services deviceRow

/-- **Of two devices**, one of which fails. -/
theorem progress_falls_back :
    (progressCommits JobStore.jobEnv
        (twoDevices.writes JobStore.jobEnv (reaching ["router-1"]) enqueuedBulk)
        enqueuedBulk).map Job.progress = [5, 50, 99, 95, 100] ∧
      ¬ MonotoneProgress (progressCommits JobStore.jobEnv
        (twoDevices.writes JobStore.jobEnv (reaching ["router-1"]) enqueuedBulk)
        enqueuedBulk) := by
  constructor
  · rw [map_progress_commits, twoDevices.filterMap_writes]
    have hdevices : twoDevices.deviceIds.length = 2 := rfl
    have hnumbers : List.range' 1 2 = [1, 2] := by decide
    rw [hdevices, hnumbers]
    norm_num
  · intro h
    have hnil := (twoDevices.monotone_iff _ _ _).mp h
    cases hnil

end NocIq
