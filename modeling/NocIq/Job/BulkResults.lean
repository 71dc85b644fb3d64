import NocIq.Job.Operations
import NocIq.Lib.ChangeTracking
import NocIq.Lib.Rounding

/-!
# NocIq — the results of a bulk computation

`compute_bulk_sla` of `app/tasks/sla_tasks.py` with the two JSON columns in which it keeps what each
device has given. Each of its callbacks loads the job and commits. `_add_partial_result` and
`_add_item_error` change the dictionary of their column in place, which a commit does not see.

The job of the task is there all along, nobody else writes it, and the commits succeed.

* **`processDevices_spec`** — what the loop over the devices has written and counted.
* **`bulk_complete_iff`** — the runs whose results are complete.
-/

namespace NocIq

open ChangeTracking

/-! ## The task -/

/-- What `if value:` asks. -/
def Json.Value.truthy : Json.Value → Bool
  | .null => false
  | .bool b => b
  | .int n => decide (n ≠ 0)
  | .float q => decide (q ≠ 0)
  | .str s => decide (s ≠ "")
  | .arr items => !items.isEmpty
  | .obj members => !members.isEmpty
  | .nonFinite _ | .loneStr _ | .loneObj _ => true

/-- What the task calls for a device, or the text of the exception that is raised. -/
structure BulkServices where
  computeDeviceSla : (deviceId period : String) → Except String Json.Value
  triggerSlaViolationWebhooks : (slaData : List (String × Json.Value)) → Except String Unit

/-- A job with the columns that only a bulk computation writes. -/
structure BulkJob where
  job : Job
  partialResults : Option (List (String × Json.Value)) := none
  perItemErrors : Option (List (String × String)) := none

namespace BulkJob

def onJob (callback : Job → Job) (row : BulkJob) : BulkJob := { row with job := callback row.job }

/-- `_add_partial_result`. -/
def addPartialResult (itemId : String) (result : Json.Value) (row : BulkJob) : BulkJob :=
  { row with partialResults := addItem row.partialResults (itemId, result) }

/-- `_add_item_error`. -/
def addItemError (itemId error : String) (row : BulkJob) : BulkJob :=
  { row with perItemErrors := addItem row.perItemErrors (itemId, error) }

end BulkJob

/-- An entry of `results`. -/
inductive BulkEntry where
  | result (deviceId : String) (result : Json.Value)
  | error (deviceId error : String)

def BulkEntry.toJson : BulkEntry → Json.Value
  | .result deviceId value => .obj [("device_id", .str deviceId), ("result", value)]
  | .error deviceId text => .obj [("device_id", .str deviceId), ("error", .str text)]

/-- The row, and the local variables of the loop. -/
structure BulkState where
  row : BulkJob
  results : List BulkEntry := []
  violations : List String := []
  processedCount : Nat := 0
  errorCount : Nat := 0

structure BulkSummary where
  total : Nat
  violatedDevices : List String
  processedCount : Nat
  errorCount : Nat
  results : List BulkEntry

def BulkSummary.toJson (summary : BulkSummary) : Json.Value :=
  .obj [("total", .int summary.total), ("violations", .int summary.violatedDevices.length),
    ("violated_devices", .arr (summary.violatedDevices.map .str)),
    ("processed_count", .int summary.processedCount), ("error_count", .int summary.errorCount),
    ("results", .arr (summary.results.map BulkEntry.toJson))]

/-- `result.get("is_violated")`, of a result that may be no `dict`. -/
def isViolated (result : Json.Value) : Except String Bool :=
  match result.dict? with
  | some members => .ok ((members.lookup "is_violated").any Json.Value.truthy)
  | none => .error ("'" ++ result.typeName ++ "' object has no attribute 'get'")

/-- `{"device_id": device_id, "period": period, **result}`. -/
def violationData (deviceId period : String) (result : Json.Value) : List (String × Json.Value) :=
  (result.dict?.getD []).foldl (fun data member => setItem member.1 member.2 data)
    [("device_id", .str deviceId), ("period", .str period)]

/-- A run of the task, with its clock readings. -/
structure BulkCall where
  deviceIds : List String
  period : String
  startedAt : Time
  finishedAt : Time

section Task

variable (services : BulkServices) (period : String)

/-- The `except` of a device. -/
def BulkState.deviceFailed (deviceId error : String) (s : BulkState) : BulkState :=
  { s with
    results := s.results ++ [.error deviceId error]
    row := s.row.addItemError deviceId error
    errorCount := s.errorCount + 1 }

/-- The `try` of a device. -/
def processDevice (deviceId : String) (s : BulkState) : BulkState :=
  match services.computeDeviceSla deviceId period with
  | .error error => s.deviceFailed deviceId error
  | .ok result =>
    -- from here on the device may fail with a result that is stored
    let stored : BulkState :=
      { s with
        results := s.results ++ [.result deviceId result]
        row := s.row.addPartialResult deviceId result }
    match isViolated result with
    | .error error => stored.deviceFailed deviceId error
    | .ok false => { stored with processedCount := s.processedCount + 1 }
    | .ok true =>
      let violated : BulkState := { stored with violations := s.violations ++ [deviceId] }
      match services.triggerSlaViolationWebhooks (violationData deviceId period result) with
      | .error error => violated.deviceFailed deviceId error
      | .ok () => { violated with processedCount := s.processedCount + 1 }

def BulkState.reportDevice (total idx : Nat) (deviceId : String) (s : BulkState) : BulkState :=
  let progress : ℚ := idx / total * 100
  { s with
    row := s.row.onJob (Job.updateProgress progress
      [("stage", .str "processing_devices"), ("current_device", .str deviceId),
        ("processed_count", .int s.processedCount), ("error_count", .int s.errorCount),
        ("total_devices", .int total), ("violations_found", .int s.violations.length),
        ("progress_percentage", .float (Rounding.roundTo 2 progress))]) }

/-- The loop over the devices, the next of which has the number `idx`. -/
def processDevices (total : Nat) : (idx : Nat) → List String → BulkState → BulkState
  | _, [], s => s
  | idx, deviceId :: deviceIds, s =>
    processDevices total (idx + 1) deviceIds
      ((processDevice services period deviceId s).reportDevice total idx deviceId)

end Task

/-- `compute_bulk_sla`: the row at its end, and what it returns. -/
def BulkCall.computeBulkSla (env : JobEnv) (services : BulkServices) (call : BulkCall)
    (row : BulkJob) : BulkJob × BulkSummary :=
  let total := call.deviceIds.length
  let started := row.onJob (Job.markStarted env call.startedAt)
  let initialized := started.onJob (Job.updateProgress 5
    [("stage", .str "initialization"), ("total_devices", .int total),
      ("period", .str call.period)])
  let s := processDevices services call.period total 1 call.deviceIds { row := initialized }
  let finalizing := s.row.onJob (Job.updateProgress 95
    [("stage", .str "finalizing"), ("total_devices", .int total),
      ("processed_count", .int s.processedCount), ("error_count", .int s.errorCount),
      ("violations_found", .int s.violations.length)])
  let summary : BulkSummary := {
    total
    violatedDevices := s.violations
    processedCount := s.processedCount
    errorCount := s.errorCount
    results := s.results }
  (finalizing.onJob (Job.markSuccess call.finishedAt (Json.dumps env.float summary.toJson)),
    summary)

/-! ## Success and failure -/

namespace BulkServices

variable (services : BulkServices) (period deviceId : String)

/-- What is raised in the `try` of a device. -/
def raised : Option String :=
  match services.computeDeviceSla deviceId period with
  | .error error => some error
  | .ok result =>
    match isViolated result with
    | .error error => some error
    | .ok false => none
    | .ok true =>
      match services.triggerSlaViolationWebhooks (violationData deviceId period result) with
      | .error error => some error
      | .ok () => none

def succeeds : Bool := (services.raised period deviceId).isNone

def computes : Bool := (services.computeDeviceSla deviceId period).toOption.isSome

/-- What is added to the partial results, and to the errors. -/
def partialItem : Option (String × Json.Value) :=
  (services.computeDeviceSla deviceId period).toOption.map fun result => (deviceId, result)

def errorItem : Option (String × String) :=
  (services.raised period deviceId).map fun error => (deviceId, error)

end BulkServices

/-! ## The loop -/

variable {services : BulkServices} {period : String} {deviceIds : List String} {call : BulkCall}

/-- What has become of the columns and the counts when some devices have been processed. -/
structure BulkState.Processed (services : BulkServices) (period : String)
    (deviceIds : List String) (s s' : BulkState) : Prop where
  partialResults : s'.row.partialResults =
    addItems (deviceIds.filterMap (services.partialItem period)) s.row.partialResults
  perItemErrors : s'.row.perItemErrors =
    addItems (deviceIds.filterMap (services.errorItem period)) s.row.perItemErrors
  processedCount : s'.processedCount =
    s.processedCount + (deviceIds.filter (services.succeeds period)).length
  errorCount : s'.errorCount =
    s.errorCount + (deviceIds.filter fun deviceId => !services.succeeds period deviceId).length

theorem BulkState.Processed.nil (s : BulkState) : s.Processed services period [] s :=
  ⟨rfl, rfl, rfl, rfl⟩

theorem BulkState.Processed.append {s s' s'' : BulkState} {deviceIds' : List String}
    (h : s.Processed services period deviceIds s')
    (h' : s'.Processed services period deviceIds' s'') :
    s.Processed services period (deviceIds ++ deviceIds') s'' where
  partialResults := by
    rw [h'.partialResults, h.partialResults, List.filterMap_append, addItems_append]
  perItemErrors := by
    rw [h'.perItemErrors, h.perItemErrors, List.filterMap_append, addItems_append]
  processedCount := by
    rw [h'.processedCount, h.processedCount, List.filter_append, List.length_append, Nat.add_assoc]
  errorCount := by
    rw [h'.errorCount, h.errorCount, List.filter_append, List.length_append, Nat.add_assoc]

/-- The `try` of a device has come to where it ends or raises. -/
structure BulkState.Tried (services : BulkServices) (period deviceId : String)
    (s s' : BulkState) : Prop where
  partialResults : s'.row.partialResults =
    addItems (services.partialItem period deviceId).toList s.row.partialResults
  perItemErrors : s'.row.perItemErrors = s.row.perItemErrors
  processedCount : s'.processedCount = s.processedCount
  errorCount : s'.errorCount = s.errorCount

theorem filterMap_singleton {α β : Type} (f : α → Option β) (a : α) :
    [a].filterMap f = (f a).toList := by
  cases h : f a <;> simp [h]

theorem BulkState.Tried.failed {deviceId error : String} {s s' : BulkState}
    (h : s.Tried services period deviceId s')
    (hraised : services.raised period deviceId = some error) :
    s.Processed services period [deviceId] (s'.deviceFailed deviceId error) := by
  have hfails : services.succeeds period deviceId = false := by
    rw [BulkServices.succeeds, hraised]
    rfl
  refine ⟨?_, ?_, ?_, ?_⟩
  · rw [filterMap_singleton]
    exact h.partialResults
  · rw [filterMap_singleton, BulkServices.errorItem, hraised, ← h.perItemErrors]
    rfl
  · rw [List.filter_singleton, hfails]
    exact h.processedCount
  · rw [List.filter_singleton, hfails, ← h.errorCount]
    rfl

theorem BulkState.Tried.succeeded {deviceId : String} {s s' : BulkState}
    (h : s.Tried services period deviceId s') (hraised : services.raised period deviceId = none) :
    s.Processed services period [deviceId]
      { s' with processedCount := s.processedCount + 1 } := by
  have hsucceeds : services.succeeds period deviceId = true := by
    rw [BulkServices.succeeds, hraised]
    rfl
  refine ⟨?_, ?_, ?_, ?_⟩
  · rw [filterMap_singleton]
    exact h.partialResults
  · rw [filterMap_singleton, BulkServices.errorItem, hraised]
    exact h.perItemErrors
  · rw [List.filter_singleton, hsucceeds]
    rfl
  · rw [List.filter_singleton, hsucceeds]
    exact h.errorCount

theorem processDevice_processed (services : BulkServices) (period deviceId : String)
    (s : BulkState) :
    s.Processed services period [deviceId] (processDevice services period deviceId s) := by
  unfold processDevice
  cases hresult : services.computeDeviceSla deviceId period with
  | error error =>
    have hitem : services.partialItem period deviceId = none := by
      simp [BulkServices.partialItem, hresult, Except.toOption]
    have htried : s.Tried services period deviceId s := ⟨by rw [hitem]; rfl, rfl, rfl, rfl⟩
    exact htried.failed (by simp [BulkServices.raised, hresult])
  | ok result =>
    have hitem : services.partialItem period deviceId = some (deviceId, result) := by
      simp [BulkServices.partialItem, hresult, Except.toOption]
    have htried (violations : List String) : s.Tried services period deviceId
        { s with
          results := s.results ++ [.result deviceId result]
          row := s.row.addPartialResult deviceId result
          violations } :=
      ⟨by rw [hitem]; rfl, rfl, rfl, rfl⟩
    dsimp only
    cases hviolated : isViolated result with
    | error error => exact (htried _).failed (by simp [BulkServices.raised, hresult, hviolated])
    | ok violated =>
      cases violated with
      | false => exact (htried _).succeeded (by simp [BulkServices.raised, hresult, hviolated])
      | true =>
        dsimp only
        cases htrigger :
            services.triggerSlaViolationWebhooks (violationData deviceId period result) with
        | error error =>
          exact (htried _).failed (by simp [BulkServices.raised, hresult, hviolated, htrigger])
        | ok _ =>
          exact (htried _).succeeded (by simp [BulkServices.raised, hresult, hviolated, htrigger])

/-- **The loop.** Induction on the devices. -/
theorem processDevices_spec (services : BulkServices) (period : String) (total idx : Nat)
    (deviceIds : List String) (s : BulkState) :
    s.Processed services period deviceIds
      (processDevices services period total idx deviceIds s) := by
  induction deviceIds generalizing idx s with
  | nil => exact .nil s
  | cons deviceId deviceIds ih =>
    have hdevice := processDevice_processed services period deviceId s
    -- the report of progress writes other columns
    have hreported : s.Processed services period [deviceId]
        ((processDevice services period deviceId s).reportDevice total idx deviceId) :=
      ⟨hdevice.partialResults, hdevice.perItemErrors, hdevice.processedCount, hdevice.errorCount⟩
    exact hreported.append (ih _ _)

/-! ## Complete results -/

def columnKeys {ν : Type} (column : Option (List (String × ν))) : List String :=
  (items column).map Prod.fst

theorem columnKeys_addItems {ν : Type} (added : List (String × ν))
    (column : Option (List (String × ν))) :
    columnKeys (addItems added column) =
      if (items column).isEmpty then (added.map Prod.fst).take 1 else columnKeys column := by
  unfold columnKeys
  rw [items_addItems]
  split
  · exact List.map_take
  · rfl

namespace BulkServices

/-- The devices that a result has been computed for, those that succeed, and those that fail. -/
def computed (services : BulkServices) (call : BulkCall) : List String :=
  call.deviceIds.filter (services.computes call.period)

def succeeded (services : BulkServices) (call : BulkCall) : List String :=
  call.deviceIds.filter (services.succeeds call.period)

def failed (services : BulkServices) (call : BulkCall) : List String :=
  call.deviceIds.filter fun deviceId => !services.succeeds call.period deviceId

theorem keys_filterMap {ν : Type} (value : String → Option ν) (deviceIds : List String) :
    (deviceIds.filterMap fun deviceId => (value deviceId).map fun v => (deviceId, v)).map Prod.fst =
      deviceIds.filter fun deviceId => (value deviceId).isSome := by
  induction deviceIds with
  | nil => rfl
  | cons deviceId deviceIds ih =>
    cases hvalue : value deviceId with
    | none => simpa [hvalue] using ih
    | some v => simpa [hvalue] using ih

theorem keys_partialItems (services : BulkServices) (call : BulkCall) :
    (call.deviceIds.filterMap (services.partialItem call.period)).map Prod.fst =
      services.computed call :=
  keys_filterMap (fun deviceId => (services.computeDeviceSla deviceId call.period).toOption) _

theorem keys_errorItems (services : BulkServices) (call : BulkCall) :
    (call.deviceIds.filterMap (services.errorItem call.period)).map Prod.fst =
      services.failed call := by
  refine (keys_filterMap (services.raised call.period) _).trans ?_
  refine List.filter_congr fun deviceId _ => ?_
  rw [BulkServices.succeeds, Option.not_isNone]

end BulkServices

/-- The columns have exactly the devices that succeed and those that fail, and the summary counts
what they have. -/
structure BulkComplete (services : BulkServices) (call : BulkCall)
    (run : BulkJob × BulkSummary) : Prop where
  partialResults : ∀ deviceId, deviceId ∈ columnKeys run.1.partialResults ↔
    deviceId ∈ call.deviceIds ∧ services.succeeds call.period deviceId = true
  perItemErrors : ∀ deviceId, deviceId ∈ columnKeys run.1.perItemErrors ↔
    deviceId ∈ call.deviceIds ∧ services.succeeds call.period deviceId = false
  processedCount : (columnKeys run.1.partialResults).length = run.2.processedCount
  errorCount : (columnKeys run.1.perItemErrors).length = run.2.errorCount

/-- Only the first item of an empty column is to be stored, and none of one that has items: it has
to have its devices already. -/
structure ResultsFit (services : BulkServices) (call : BulkCall) (row : BulkJob) : Prop where
  partialResults :
    if (items row.partialResults).isEmpty then
      services.succeeded call = (services.computed call).take 1
    else (columnKeys row.partialResults).Perm (services.succeeded call)
  perItemErrors :
    if (items row.perItemErrors).isEmpty then (services.failed call).length ≤ 1
    else (columnKeys row.perItemErrors).Perm (services.failed call)

theorem perm_iff_mem_and_length {keys expected : List String} (h : expected.Nodup) :
    keys.Perm expected ↔
      (∀ key, key ∈ keys ↔ key ∈ expected) ∧ keys.length = expected.length := by
  constructor
  · exact fun hperm => ⟨fun _ => hperm.mem_iff, hperm.length_eq⟩
  · intro ⟨hmem, hlength⟩
    -- `keys` might have a key twice if it were longer
    have hsub := h.subperm fun key hkey => (hmem key).mpr hkey
    exact (hsub.perm_of_length_le hlength.le).symm

theorem take_one_perm_iff {l l' : List String} : (l.take 1).Perm l' ↔ l' = l.take 1 := by
  cases l with
  | nil => exact List.nil_perm
  | cons a l => exact List.perm_comm.trans List.perm_singleton

theorem take_one_perm_self_iff {l : List String} : (l.take 1).Perm l ↔ l.length ≤ 1 := by
  rw [take_one_perm_iff, eq_comm, List.take_eq_self_iff]

theorem computeBulkSla_processed (env : JobEnv) (services : BulkServices) (call : BulkCall)
    (row : BulkJob) :
    BulkState.Processed services call.period call.deviceIds { row }
      { row := (call.computeBulkSla env services row).1
        processedCount := (call.computeBulkSla env services row).2.processedCount
        errorCount := (call.computeBulkSla env services row).2.errorCount } := by
  have hloop := processDevices_spec services call.period call.deviceIds.length 1 call.deviceIds
  exact ⟨(hloop _).partialResults, (hloop _).perItemErrors, (hloop _).processedCount,
    (hloop _).errorCount⟩

theorem bulkComplete_iff_perm (hdistinct : call.deviceIds.Nodup) {run : BulkJob × BulkSummary}
    (hprocessed : run.2.processedCount = (services.succeeded call).length)
    (hfailed : run.2.errorCount = (services.failed call).length) :
    BulkComplete services call run ↔
      (columnKeys run.1.partialResults).Perm (services.succeeded call) ∧
        (columnKeys run.1.perItemErrors).Perm (services.failed call) := by
  have hmem (deviceId : String) : deviceId ∈ services.succeeded call ↔
      deviceId ∈ call.deviceIds ∧ services.succeeds call.period deviceId = true :=
    List.mem_filter
  have hmemFailed (deviceId : String) : deviceId ∈ services.failed call ↔
      deviceId ∈ call.deviceIds ∧ services.succeeds call.period deviceId = false := by
    rw [← Bool.not_eq_true']
    exact List.mem_filter
  have hnodup : (services.succeeded call).Nodup := hdistinct.filter _
  have hnodupFailed : (services.failed call).Nodup := hdistinct.filter _
  rw [perm_iff_mem_and_length hnodup, perm_iff_mem_and_length hnodupFailed]
  constructor
  · intro h
    refine ⟨⟨fun deviceId => ?_, h.processedCount.trans hprocessed⟩,
      fun deviceId => ?_, h.errorCount.trans hfailed⟩
    · exact (h.partialResults deviceId).trans (hmem deviceId).symm
    · exact (h.perItemErrors deviceId).trans (hmemFailed deviceId).symm
  · intro ⟨⟨hpartials, hlength⟩, herrors, hlengthFailed⟩
    exact {
      partialResults := fun deviceId => (hpartials deviceId).trans (hmem deviceId)
      perItemErrors := fun deviceId => (herrors deviceId).trans (hmemFailed deviceId)
      processedCount := hlength.trans hprocessed.symm
      errorCount := hlengthFailed.trans hfailed.symm }

/-- **The runs whose results are complete.** -/
theorem bulk_complete_iff (env : JobEnv) (services : BulkServices) (call : BulkCall) (row : BulkJob)
    (hdistinct : call.deviceIds.Nodup) :
    BulkComplete services call (call.computeBulkSla env services row) ↔
      ResultsFit services call row := by
  have hrun := computeBulkSla_processed env services call row
  have hpartials : columnKeys (call.computeBulkSla env services row).1.partialResults =
      if (items row.partialResults).isEmpty then (services.computed call).take 1
      else columnKeys row.partialResults := by
    rw [hrun.partialResults, columnKeys_addItems, services.keys_partialItems]
  have herrors : columnKeys (call.computeBulkSla env services row).1.perItemErrors =
      if (items row.perItemErrors).isEmpty then (services.failed call).take 1
      else columnKeys row.perItemErrors := by
    rw [hrun.perItemErrors, columnKeys_addItems, services.keys_errorItems]
  rw [bulkComplete_iff_perm hdistinct (hrun.processedCount.trans (Nat.zero_add _))
    (hrun.errorCount.trans (Nat.zero_add _)), hpartials, herrors]
  have hfirst : (if (items row.partialResults).isEmpty then (services.computed call).take 1
        else columnKeys row.partialResults).Perm (services.succeeded call) ↔
      if (items row.partialResults).isEmpty then
        services.succeeded call = (services.computed call).take 1
      else (columnKeys row.partialResults).Perm (services.succeeded call) := by
    split
    · exact take_one_perm_iff
    · exact Iff.rfl
  have hsecond : (if (items row.perItemErrors).isEmpty then (services.failed call).take 1
        else columnKeys row.perItemErrors).Perm (services.failed call) ↔
      if (items row.perItemErrors).isEmpty then (services.failed call).length ≤ 1
      else (columnKeys row.perItemErrors).Perm (services.failed call) := by
    split
    · exact take_one_perm_self_iff
    · exact Iff.rfl
  rw [hfirst, hsecond]
  exact ⟨fun h => ⟨h.1, h.2⟩, fun h => ⟨h.1, h.2⟩⟩

/-! ### Two devices -/

def enqueuedBulk : BulkJob where
  job := { id := 1, celeryTaskId := "task-1", jobType := .bulkSlaComputation }

def twoDevices : BulkCall where
  deviceIds := ["router-1", "switch-2"]
  period := "2024-01"
  startedAt := 0
  finishedAt := 60000000

/-- The devices that are reached violate no SLA. -/
def reaching (reached : List String) : BulkServices where
  computeDeviceSla deviceId _ :=
    if deviceId ∈ reached then .ok (.obj [("is_violated", .bool false)]) else .error "unreachable"
  triggerSlaViolationWebhooks _ := .ok ()

/-- One device succeeds and one fails. -/
theorem bulk_complete_one_of_two :
    BulkComplete (reaching ["router-1"]) twoDevices
      (twoDevices.computeBulkSla JobStore.jobEnv (reaching ["router-1"]) enqueuedBulk) := by
  refine (bulk_complete_iff _ _ twoDevices enqueuedBulk (by decide)).mpr ⟨?_, ?_⟩
  · show _ = _
    decide
  · show _ ≤ 1
    decide

/-- **Of two devices that fail, only the first is stored.** -/
theorem second_error_is_lost :
    ¬ ∀ (env : JobEnv) (services : BulkServices) (call : BulkCall) (row : BulkJob),
      row.partialResults = none → row.perItemErrors = none → call.deviceIds ≠ [] →
        call.deviceIds.Nodup →
          BulkComplete services call (call.computeBulkSla env services row) := by
  intro hall
  have hcomplete := hall JobStore.jobEnv (reaching []) twoDevices enqueuedBulk rfl rfl (by decide)
    (by decide)
  have hcount : 1 = 2 := hcomplete.errorCount
  omega

end NocIq
