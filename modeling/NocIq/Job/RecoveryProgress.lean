import NocIq.Job.EnqueueRace
import NocIq.Lib.Binary64
import NocIq.Webhook.Recovery

/-!
# NocIq — the progress of a recovery

`recover_webhooks_in_window` of `app/tasks/webhook_tasks.py` with its reports of progress. It loads
its job by the id it is given, and hands the same id to `_update_progress`, which looks for a job
with that text as its `celery_task_id` and does nothing if there is none. A report has the quotient
of two integers, times 100, each rounded to a double.

* **`map_job_reports`** — the row of the job after each report.
* **`recovery_visible_iff`** — the runs whose progress is visible.
-/

namespace NocIq

open Binary64 (nearest nearest_mono)

/-! ## The task -/

/-- A run of the task, with the times that its arguments stand for and what happens meanwhile. -/
structure RecoveryCall where
  jobId : UUID
  startIso : String
  endIso : String
  startTime : Time
  endTime : Time
  startedAt : Time
  now : Time
  finishedAt : Time
  attempts : UUID → Attempt
  errorText : String

namespace RecoveryCall

variable (call : RecoveryCall)

def details (replayed total : Nat) : List (String × Json.Value) :=
  [("stage", .str "replaying"), ("replayed", .int replayed), ("total", .int total),
    ("start", .str call.startIso), ("end", .str call.endIso)]

/-- The lambda of the task: `_update_progress` with the id of the job. -/
def onProgress (replayed total : Nat) (s : JobStore) : JobStore :=
  s.onTask (Uuid.text call.jobId)
    (Job.updateProgress (if total = 0 then 0 else nearest (nearest ((replayed : ℚ) / total) * 100))
      (call.details replayed total))

/-- The query of `recover_deliveries_in_window`. -/
def candidates (w : WebhookStore) : List WebhookDelivery :=
  deliveriesInWindow call.startTime call.endTime w

def total (w : WebhookStore) : Nat := (call.candidates w).length

/-- The loop of `recover_deliveries_in_window`, an exception ends it: the jobs after each report. -/
def reports (env : WebhookEnv) (w : WebhookStore) (total : Nat) :
    Nat → List WebhookDelivery → JobStore → List JobStore
  | _, [], _ => []
  | idx, d :: candidates, s =>
    if (recoverRow env (w.webhook d.webhookId) call.now (call.attempts d.id) d).goesOn then
      call.onProgress idx total s ::
        reports env w total (idx + 1) candidates (call.onProgress idx total s)
    else []

end RecoveryCall

def RecoveryResult.toJson (result : RecoveryResult) : Json.Value :=
  .obj [("total", .int result.total), ("replayed", .int result.replayed),
    ("skipped", .int result.skipped)]

/-- The jobs after the commits of a run. -/
structure RecoveryTrace where
  started : JobStore
  reported : List JobStore
  ended : JobStore

/-- `none`: there is no such job. -/
def RecoveryCall.recoverWebhooksInWindow (jobEnv : JobEnv) (env : WebhookEnv) (call : RecoveryCall)
    (w : WebhookStore) (s : JobStore) : Option RecoveryTrace :=
  match s.job call.jobId with
  | none => none
  | some _ =>
    let started := s.onKey (.id call.jobId) (Job.recoverStarted call.startedAt)
    let reported := call.reports env w (call.total w) 1 (call.candidates w) started
    let last := reported.getLastD started
    let ended :=
      match (recoverDeliveriesInWindow env call.startTime call.endTime call.now call.attempts
          w).1 with
      | .ok (some result) =>
        last.onKey (.id call.jobId)
          (Job.recoverSuccess call.finishedAt (Json.dumps jobEnv.float result.toJson))
      | _ => last.onKey (.id call.jobId) (Job.recoverFailure call.finishedAt call.errorText)
    some { started, reported, ended }

/-! ## The row of the job -/

variable {s s' : JobStore} {row : Job} {call : RecoveryCall}

/-- The two unique columns of `jobs`. -/
structure JobStore.UniqueColumns (s : JobStore) : Prop where
  ids : (s.jobs.map Job.id).Nodup
  tasks : (s.jobs.map Job.celeryTaskId).Nodup

/-- Columns that a callback writes, other than the two. -/
structure KeepsKeys (callback : Job → Job) : Prop where
  id : ∀ job, (callback job).id = job.id
  task : ∀ job, (callback job).celeryTaskId = job.celeryTaskId

variable {callback : Job → Job}

theorem JobStore.UniqueColumns.put (h : s.UniqueColumns) (hkeeps : KeepsKeys callback)
    (hrow : row ∈ s.jobs) : (s.put (callback row)).UniqueColumns := by
  have htasks : (s.put (callback row)).jobs.map Job.celeryTaskId =
      s.jobs.map Job.celeryTaskId := by
    show (s.jobs.map _).map Job.celeryTaskId = _
    rw [List.map_map]
    apply List.map_congr_left
    intro r hr
    show (if r.id = (callback row).id then callback row else r).celeryTaskId = r.celeryTaskId
    split
    · rename_i heq
      rw [hkeeps.id] at heq
      rw [hkeeps.task, List.inj_on_of_nodup_map h.ids hr hrow heq]
    · rfl
  refine ⟨?_, htasks ▸ h.tasks⟩
  show ((Batch.put Job.id (callback row) s.jobs).map Job.id).Nodup
  rw [Batch.keys_put]
  exact h.ids

theorem job_onKey_id (hkeeps : KeepsKeys callback) {id : UUID} (hrow : s.job id = some row) :
    (s.onKey (.id id) callback).job id = some (callback row) := by
  have hput : s.onKey (.id id) callback = s.put (callback row) := by
    unfold JobStore.onKey
    rw [show s.find (.id id) = some row from hrow]
  rw [hput]
  have hid := (JobStore.mem_of_job hrow).2
  show Batch.lookup Job.id (Batch.put Job.id (callback row) s.jobs) id = _
  rw [Batch.lookup_put, if_pos (by rw [hkeeps.id, hid])]
  exact congrArg (Option.map fun _ => callback row) hrow

theorem unique_onKey_id (h : s.UniqueColumns) (hkeeps : KeepsKeys callback) {id : UUID}
    (hrow : s.job id = some row) : (s.onKey (.id id) callback).UniqueColumns := by
  unfold JobStore.onKey
  rw [show s.find (.id id) = some row from hrow]
  exact h.put hkeeps (JobStore.mem_of_job hrow).1

theorem unique_onTask (h : s.UniqueColumns) (hkeeps : KeepsKeys callback) (celeryTaskId : String) :
    (s.onTask celeryTaskId callback).UniqueColumns := by
  unfold JobStore.onTask
  cases hfound : s.byTask celeryTaskId with
  | none => exact h
  | some found => exact h.put hkeeps (JobStore.mem_of_byTask hfound).1

theorem job_onTask (h : s.UniqueColumns) (hkeeps : KeepsKeys callback) {id : UUID}
    (hrow : s.job id = some row) (celeryTaskId : String) :
    (s.onTask celeryTaskId callback).job id =
      some (if row.celeryTaskId = celeryTaskId then callback row else row) := by
  obtain ⟨hmem, hid⟩ := JobStore.mem_of_job hrow
  unfold JobStore.onTask
  by_cases htask : row.celeryTaskId = celeryTaskId
  · have hfound : s.byTask celeryTaskId = some row := htask ▸ Batch.lookup_of_mem h.tasks hmem
    rw [hfound, if_pos htask]
    show Batch.lookup Job.id (Batch.put Job.id (callback row) s.jobs) id = _
    rw [Batch.lookup_put, if_pos (by rw [hkeeps.id, hid])]
    exact congrArg (Option.map fun _ => callback row) hrow
  · rw [if_neg htask]
    cases hfound : s.byTask celeryTaskId with
    | none => exact hrow
    | some found =>
      -- another job has the text as its task
      obtain ⟨hfoundMem, hfoundTask⟩ := JobStore.mem_of_byTask hfound
      have hne : id ≠ (callback found).id := by
        rw [hkeeps.id, ← hid]
        intro heq
        have hsame := List.inj_on_of_nodup_map h.ids hmem hfoundMem heq
        exact htask (hsame ▸ hfoundTask)
      show Batch.lookup Job.id (Batch.put Job.id (callback found) s.jobs) id = _
      rw [Batch.lookup_put, if_neg hne]
      exact hrow

/-! ## The reports -/

theorem keepsKeys_updateProgress (progress : ℚ) (details : List (String × Json.Value)) :
    KeepsKeys (Job.updateProgress progress details) := ⟨fun _ => rfl, fun _ => rfl⟩

/-- The report is seen. -/
def RecoveryCall.Reaches (call : RecoveryCall) (row : Job) : Prop :=
  row.celeryTaskId = Uuid.text call.jobId

instance (call : RecoveryCall) (row : Job) : Decidable (call.Reaches row) :=
  inferInstanceAs (Decidable (_ = _))

def writtenProgress (total replayed : Nat) : ℚ :=
  min (nearest (nearest ((replayed : ℚ) / total) * 100)) 99

def Job.reported (call : RecoveryCall) (total replayed : Nat) (row : Job) : Job :=
  if call.Reaches row then
    { row with
      progress := writtenProgress total replayed
      progressDetails := some (.obj (call.details replayed total)) }
  else row

theorem reported_reported (call : RecoveryCall) (total k k' : Nat) (row : Job) :
    (row.reported call total k).reported call total k' = row.reported call total k' := by
  unfold Job.reported
  by_cases h : call.Reaches row
  · have h' : call.Reaches { row with
        progress := writtenProgress total k
        progressDetails := some (.obj (call.details k total)) } := h
    rw [if_pos h, if_pos h', if_pos h]
  · rw [if_neg h, if_neg h]

theorem reported_progress (call : RecoveryCall) (total k : Nat) (row : Job) :
    (row.reported call total k).progress =
      if call.Reaches row then writtenProgress total k else row.progress := by
  unfold Job.reported
  split
  · rfl
  · rfl

theorem reported_status (call : RecoveryCall) (total k : Nat) (row : Job) :
    (row.reported call total k).status = row.status := by
  unfold Job.reported
  split
  · rfl
  · rfl

theorem job_onProgress (h : s.UniqueColumns) (hrow : s.job call.jobId = some row)
    (replayed : Nat) {total : Nat} (htotal : total ≠ 0) :
    (call.onProgress replayed total s).job call.jobId =
      some (row.reported call total replayed) := by
  have hprogress :
      min (if total = 0 then 0 else nearest (nearest ((replayed : ℚ) / total) * 100)) 99 =
        writtenProgress total replayed := by
    rw [if_neg htotal]
    rfl
  refine (job_onTask h (keepsKeys_updateProgress _ _) hrow _).trans ?_
  unfold Job.updateProgress
  rw [hprogress]
  rfl

/-- The candidates whose turn has come to a report. -/
def RecoveryCall.passed (env : WebhookEnv) (call : RecoveryCall) (w : WebhookStore)
    (candidates : List WebhookDelivery) : List WebhookDelivery :=
  candidates.takeWhile fun d =>
    (recoverRow env (w.webhook d.webhookId) call.now (call.attempts d.id) d).goesOn

def RecoveryCall.reportCount (env : WebhookEnv) (call : RecoveryCall) (w : WebhookStore) : Nat :=
  (call.passed env w (call.candidates w)).length

/-- **The row of the job after each report.** Induction on the candidates. -/
theorem map_job_reports (env : WebhookEnv) (w : WebhookStore) {total : Nat} (htotal : total ≠ 0)
    (candidates : List WebhookDelivery) (idx : Nat) (h : s.UniqueColumns)
    (hrow : s.job call.jobId = some row) :
    (call.reports env w total idx candidates s).map (fun s => s.job call.jobId) =
      (List.range' idx (call.passed env w candidates).length).map fun k =>
        some (row.reported call total k) := by
  induction candidates generalizing idx s row with
  | nil => rfl
  | cons d candidates ih =>
    unfold RecoveryCall.reports RecoveryCall.passed
    rw [List.takeWhile_cons]
    split
    · have hreported := job_onProgress h hrow idx htotal
      have hunique : (call.onProgress idx total s).UniqueColumns :=
        unique_onTask h (keepsKeys_updateProgress _ _) _
      have hrest := ih (idx + 1) hunique hreported
      rw [List.length_cons, List.range'_succ, List.map_cons, List.map_cons, hreported, hrest]
      simp only [reported_reported]
      rfl
    · rfl

/-! ## A run -/

/-- All candidates have their turn. -/
def RecoveryCall.Finishes (env : WebhookEnv) (call : RecoveryCall) (w : WebhookStore) : Prop :=
  call.startTime ≤ call.endTime ∧
    ∀ d ∈ call.candidates w,
      (recoverRow env (w.webhook d.webhookId) call.now (call.attempts d.id) d).goesOn = true

variable {w : WebhookStore} {env : WebhookEnv}

theorem reportCount_of_finishes (h : call.Finishes env w) :
    call.reportCount env w = call.total w :=
  congrArg List.length (List.takeWhile_eq_self_iff.mpr h.2)

theorem recover_returns_iff (env : WebhookEnv) (hw : w.WellFormed) (call : RecoveryCall) :
    (∃ result, (recoverDeliveriesInWindow env call.startTime call.endTime call.now call.attempts
        w).1 = .ok (some result)) ↔ call.Finishes env w := by
  unfold RecoveryCall.Finishes
  by_cases htimes : call.startTime ≤ call.endTime
  · rw [recoverDeliveriesInWindow_eq htimes, and_iff_right htimes]
    have hgoes : (recovery env call.startTime call.endTime call.now call.attempts w).goesOn = true ↔
        ∀ d ∈ call.candidates w,
          (recoverRow env (w.webhook d.webhookId) call.now (call.attempts d.id) d).goesOn =
            true := by
      rw [recovery_goesOn_iff hw]
      constructor
      · intro hall d hd
        obtain ⟨hmem, hwithin⟩ := mem_deliveriesInWindow.mp hd
        exact (recoverRow_goesOn env _ _ _ d).mpr (hall d hmem hwithin)
      · intro hall d hmem hwithin
        have hcandidate := mem_deliveriesInWindow.mpr ⟨hmem, hwithin⟩
        exact (recoverRow_goesOn env _ _ _ d).mp (hall d hcandidate)
    rw [← hgoes]
    dsimp only
    split
    · rename_i h
      exact iff_of_true ⟨_, rfl⟩ h
    · rename_i h
      refine iff_of_false ?_ h
      rintro ⟨result, hresult⟩
      cases hresult
  · refine iff_of_false ?_ fun h => htimes h.1
    rintro ⟨result, hresult⟩
    unfold recoverDeliveriesInWindow at hresult
    rw [if_pos (not_le.mp htimes)] at hresult
    cases hresult

def Job.lastReported (env : WebhookEnv) (call : RecoveryCall) (w : WebhookStore) (row : Job) :
    Job :=
  if call.reportCount env w = 0 then row
  else row.reported call (call.total w) (call.reportCount env w)

def Job.reportedRows (env : WebhookEnv) (call : RecoveryCall) (w : WebhookStore) (row : Job) :
    List Job :=
  (List.range' 1 (call.reportCount env w)).map (row.reported call (call.total w))

/-- What a run leaves of the row that it has marked as started. -/
structure RecoveryTrace.Leaves (env : WebhookEnv) (call : RecoveryCall) (w : WebhookStore)
    (row : Job) (t : RecoveryTrace) : Prop where
  started : t.started.job call.jobId = some row
  reported : t.reported.map (fun s => s.job call.jobId) = (row.reportedRows env call w).map some
  success (h : call.Finishes env w) : ∃ ended, t.ended.job call.jobId = some ended ∧
    ended.progress = 100 ∧ ended.status = .success
  failure (h : ¬ call.Finishes env w) : ∃ ended, t.ended.job call.jobId = some ended ∧
    ended.progress = (row.lastReported env call w).progress ∧ ended.status = .failure

theorem getLastD_map {α β : Type} (f : α → β) (l : List α) (a : α) :
    f (l.getLastD a) = (l.map f).getLastD (f a) := by
  cases l with
  | nil => rfl
  | cons b l =>
    rw [List.map_cons, List.getLastD_cons, List.getLastD_cons]
    exact getLastD_map f l b

theorem leaves_run (jobEnv : JobEnv) (env : WebhookEnv) (hw : w.WellFormed) (h : s.UniqueColumns)
    (hrow : s.job call.jobId = some row) :
    ∃ t, call.recoverWebhooksInWindow jobEnv env w s = some t ∧
      t.Leaves env call w (row.recoverStarted call.startedAt) := by
  have hkeeps : KeepsKeys (Job.recoverStarted call.startedAt) := ⟨fun _ => rfl, fun _ => rfl⟩
  have hstarted := job_onKey_id hkeeps hrow
  have hunique := unique_onKey_id h hkeeps hrow
  have hreported : (call.reports env w (call.total w) 1 (call.candidates w)
      (s.onKey (.id call.jobId) (Job.recoverStarted call.startedAt))).map
        (fun s => s.job call.jobId) =
      ((row.recoverStarted call.startedAt).reportedRows env call w).map some := by
    unfold Job.reportedRows RecoveryCall.reportCount
    rw [List.map_map]
    by_cases hempty : call.total w = 0
    · rw [List.length_eq_zero_iff.mp hempty]
      rfl
    · exact map_job_reports env w hempty (call.candidates w) 1 hunique hstarted
  have hlast : ((call.reports env w (call.total w) 1 (call.candidates w)
      (s.onKey (.id call.jobId) (Job.recoverStarted call.startedAt))).getLastD
        (s.onKey (.id call.jobId) (Job.recoverStarted call.startedAt))).job call.jobId =
      some ((row.recoverStarted call.startedAt).lastReported env call w) := by
    refine (getLastD_map (fun s : JobStore => s.job call.jobId) _ _).trans ?_
    rw [hreported, hstarted]
    unfold Job.reportedRows Job.lastReported
    cases call.reportCount env w with
    | zero => rfl
    | succ m =>
      rw [List.range'_concat, List.map_append, List.map_append, List.map_singleton,
        List.map_singleton, List.getLastD_concat, if_neg (Nat.succ_ne_zero m), Nat.one_mul,
        Nat.add_comm 1 m]
  have hreturns := recover_returns_iff env hw call
  unfold RecoveryCall.recoverWebhooksInWindow
  rw [hrow]
  refine ⟨_, rfl, hstarted, hreported, ?_, ?_⟩
  · intro hfinishes
    obtain ⟨result, hresult⟩ := hreturns.mpr hfinishes
    have hkeepsSuccess : KeepsKeys (Job.recoverSuccess call.finishedAt
        (Json.dumps jobEnv.float result.toJson)) := ⟨fun _ => rfl, fun _ => rfl⟩
    dsimp only
    rw [hresult]
    exact ⟨_, job_onKey_id hkeepsSuccess hlast, rfl, rfl⟩
  · intro hraises
    have hkeepsFailure : KeepsKeys (Job.recoverFailure call.finishedAt call.errorText) :=
      ⟨fun _ => rfl, fun _ => rfl⟩
    dsimp only
    split
    · rename_i result hresult
      exact absurd (hreturns.mp ⟨result, hresult⟩) hraises
    · exact ⟨_, job_onKey_id hkeepsFailure hlast, rfl, rfl⟩

/-! ## Visible progress -/

/-- The double nearest to `min(100 * replayed / total, 99)`. -/
def reportedProgress (total replayed : Nat) : ℚ := nearest (min (100 * replayed / total) 99)

/-- For each of so many reports, rounding twice comes to the same as rounding once. -/
def RoundsOnce (total reports : Nat) : Prop :=
  ∀ k < reports, writtenProgress total (k + 1) = reportedProgress total (k + 1)

instance (total reports : Nat) : Decidable (RoundsOnce total reports) :=
  inferInstanceAs (Decidable (∀ k < reports, _))

/-- It does for a half, and not for the seventh of 25 deliveries: 28.000000000000004 is written. -/
example : RoundsOnce 2 2 ∧ ¬ RoundsOnce 25 7 := by decide +kernel

/-- The row reports `replayed` of `total`. -/
def Job.Shows (call : RecoveryCall) (total replayed : Nat) (row : Job) : Prop :=
  row.progress = reportedProgress total replayed ∧
    row.progressDetails = some (.obj (call.details replayed total))

def RecoveryTrace.rows (t : RecoveryTrace) (jobId : UUID) : List Job :=
  (t.started :: t.reported ++ [t.ended]).filterMap fun s => s.job jobId

/-- After each report the row has it, the progress never decreases, and it is 100 with SUCCESS. -/
structure RecoveryTrace.Visible (call : RecoveryCall) (total : Nat) (row : Job)
    (t : RecoveryTrace) : Prop where
  shown : ∀ (i : Nat) (s : JobStore), t.reported[i]? = some s →
    ∃ reported : Job, s.job call.jobId = some reported ∧ reported.Shows call total (i + 1)
  monotone : ((row :: t.rows call.jobId).map Job.progress).Pairwise (· ≤ ·)
  hundred : ∀ r ∈ row :: t.rows call.jobId, r.progress = 100 ↔ r.status = .success

/-- What makes the progress visible: the job is not done, its progress is not above what is
reported first, and the reports reach it, with the progress that rounding once has, unless they have
nothing to tell. -/
structure ReportsSeen (env : WebhookEnv) (call : RecoveryCall) (w : WebhookStore) (row : Job) :
    Prop where
  status : row.status ≠ .success
  progress : row.progress ≠ 100
  empty : call.total w = 0 → call.startTime ≤ call.endTime → row.progress ≤ 100
  reported : 0 < call.reportCount env w →
    row.progress ≤ reportedProgress (call.total w) 1 ∧
      (call.Reaches row ∧ RoundsOnce (call.total w) (call.reportCount env w) ∨
        ¬ call.Reaches row ∧ call.reportCount env w = 1 ∧ row.Shows call (call.total w) 1)

variable {t : RecoveryTrace}

theorem rows_of_leaves (h : t.Leaves env call w row) :
    ∃ ended, t.ended.job call.jobId = some ended ∧
      t.rows call.jobId = row :: row.reportedRows env call w ++ [ended] := by
  obtain ⟨ended, hended⟩ : ∃ ended, t.ended.job call.jobId = some ended := by
    by_cases hfinishes : call.Finishes env w
    · obtain ⟨ended, hended, -⟩ := h.success hfinishes
      exact ⟨ended, hended⟩
    · obtain ⟨ended, hended, -⟩ := h.failure hfinishes
      exact ⟨ended, hended⟩
  refine ⟨ended, hended, ?_⟩
  have hreported : t.reported.filterMap (fun s => s.job call.jobId) =
      row.reportedRows env call w := by
    have hid : t.reported.filterMap (fun s => s.job call.jobId) =
        (t.reported.map fun s => s.job call.jobId).filterMap id := by
      rw [List.filterMap_map]
      rfl
    rw [hid, h.reported, List.filterMap_map]
    exact List.filterMap_some
  unfold RecoveryTrace.rows
  rw [List.cons_append, List.filterMap_cons, h.started, List.filterMap_append, hreported]
  dsimp only
  rw [List.filterMap_cons, hended]
  rfl

theorem reported_shows_iff (call : RecoveryCall) (total k : Nat) (row : Job) :
    (row.reported call total k).Shows call total k ↔
      call.Reaches row ∧ writtenProgress total k = reportedProgress total k ∨
        ¬ call.Reaches row ∧ row.Shows call total k := by
  unfold Job.reported
  by_cases h : call.Reaches row
  · simp [h, Job.Shows]
  · simp [h]

theorem shown_iff (h : t.Leaves env call w row) :
    (∀ (i : Nat) (s : JobStore), t.reported[i]? = some s → ∃ reported : Job,
        s.job call.jobId = some reported ∧ reported.Shows call (call.total w) (i + 1)) ↔
      ∀ i < call.reportCount env w,
        call.Reaches row ∧ writtenProgress (call.total w) (i + 1) =
            reportedProgress (call.total w) (i + 1) ∨
          ¬ call.Reaches row ∧ row.Shows call (call.total w) (i + 1) := by
  have hlength : t.reported.length = call.reportCount env w := by
    have hlengths := congrArg List.length h.reported
    unfold Job.reportedRows at hlengths
    simpa using hlengths
  have hjob : ∀ (i : Nat) (s : JobStore), t.reported[i]? = some s →
      s.job call.jobId = some (row.reported call (call.total w) (i + 1)) := by
    intro i s hs
    have hi : i < call.reportCount env w := hlength ▸ (List.getElem?_eq_some_iff.mp hs).1
    have hget := congrArg (fun l => l[i]?) h.reported
    unfold Job.reportedRows at hget
    rw [List.getElem?_map, List.getElem?_map, List.getElem?_map, hs, List.getElem?_range' hi,
      Nat.one_mul, Nat.add_comm] at hget
    exact Option.some.inj hget
  constructor
  · intro hshown i hi
    have hi' : i < t.reported.length := hlength ▸ hi
    have hs : t.reported[i]? = some t.reported[i] := List.getElem?_eq_getElem hi'
    obtain ⟨reported, hreported, hshows⟩ := hshown i _ hs
    rw [hjob i _ hs] at hreported
    obtain rfl := Option.some.inj hreported
    exact (reported_shows_iff call (call.total w) (i + 1) row).mp hshows
  · intro hall i s hs
    have hi : i < call.reportCount env w := hlength ▸ (List.getElem?_eq_some_iff.mp hs).1
    exact ⟨_, hjob i s hs, (reported_shows_iff call (call.total w) (i + 1) row).mpr (hall i hi)⟩

/-! ### The progress of the rows -/

theorem writtenProgress_mono (total : Nat) {k k' : Nat} (h : k ≤ k') :
    writtenProgress total k ≤ writtenProgress total k' := by
  have hk : (k : ℚ) / total ≤ k' / total :=
    div_le_div_of_nonneg_right (Nat.cast_le.mpr h) (Nat.cast_nonneg total)
  have htimes : nearest ((k : ℚ) / total) * 100 ≤ nearest ((k' : ℚ) / total) * 100 :=
    mul_le_mul_of_nonneg_right (nearest_mono hk) (by norm_num)
  exact min_le_min_right 99 (nearest_mono htimes)

theorem writtenProgress_le (total k : Nat) : writtenProgress total k ≤ 99 := min_le_right _ _

theorem reportedProgress_le (total k : Nat) : reportedProgress total k ≤ 99 := by
  have h99 : nearest 99 = 99 := by decide +kernel
  unfold reportedProgress
  exact (nearest_mono (min_le_right _ 99)).trans h99.le

theorem reported_progress_mono {total k k' : Nat} (h : k ≤ k') :
    (row.reported call total k).progress ≤ (row.reported call total k').progress := by
  rw [reported_progress, reported_progress]
  split
  · exact writtenProgress_mono total h
  · exact le_refl _

theorem reportedRows_bounds
    (hfirst : 0 < call.reportCount env w → row.progress ≤ 99 ∧
      (call.Reaches row → row.progress ≤ writtenProgress (call.total w) 1))
    {r : Job} (hr : r ∈ row.reportedRows env call w) :
    row.progress ≤ r.progress ∧ r.progress ≤ 99 ∧ r.status = row.status ∧
      r.progress ≤ (row.lastReported env call w).progress := by
  obtain ⟨k, hk, rfl⟩ := List.mem_map.mp hr
  rw [List.mem_range'_1] at hk
  obtain ⟨hrow99, hle⟩ := hfirst (by omega)
  have hlast : (row.reported call (call.total w) k).progress ≤
      (row.lastReported env call w).progress := by
    unfold Job.lastReported
    rw [if_neg (by omega)]
    exact reported_progress_mono (by omega)
  refine ⟨?_, ?_, reported_status call (call.total w) k row, hlast⟩
  · rw [reported_progress]
    split
    · rename_i hreaches
      exact (hle hreaches).trans (writtenProgress_mono (call.total w) hk.1)
    · exact le_refl _
  · rw [reported_progress]
    split
    · exact writtenProgress_le (call.total w) k
    · exact hrow99

theorem lastReported_cases (env : WebhookEnv) (call : RecoveryCall) (w : WebhookStore) (row : Job) :
    row.lastReported env call w = row ∨
      row.lastReported env call w ∈ row.reportedRows env call w := by
  unfold Job.lastReported Job.reportedRows
  split
  · exact .inl rfl
  · refine .inr (List.mem_map_of_mem ?_)
    rw [List.mem_range'_1]
    omega

theorem pairwise_reportedRows (env : WebhookEnv) (call : RecoveryCall) (w : WebhookStore)
    (row : Job) :
    (row.reportedRows env call w).Pairwise fun r r' => r.progress ≤ r'.progress := by
  unfold Job.reportedRows
  rw [List.pairwise_map]
  refine List.Pairwise.imp ?_ List.pairwise_lt_range'
  intro k k' hk
  exact reported_progress_mono hk.le

/-! ### The runs with visible progress -/

theorem ReportsSeen.of_visible {startedAt : Time}
    (h : t.Leaves env call w (row.recoverStarted startedAt))
    (hvisible : t.Visible call (call.total w) row) : ReportsSeen env call w row := by
  obtain ⟨ended, hended, hrows⟩ := rows_of_leaves h
  have hshown := (shown_iff h).mp hvisible.shown
  have hmonotone := hvisible.monotone
  rw [List.map_cons, List.pairwise_cons] at hmonotone
  have hle : ∀ r ∈ t.rows call.jobId, row.progress ≤ r.progress := fun r hr =>
    hmonotone.1 _ (List.mem_map_of_mem hr)
  have hprogress : row.progress ≠ 100 := by
    have hstarted := hvisible.hundred (row.recoverStarted startedAt) (by rw [hrows]; simp)
    intro h100
    cases hstarted.mp h100
  refine ⟨?_, hprogress, ?_, ?_⟩
  · intro hstatus
    exact hprogress ((hvisible.hundred row List.mem_cons_self).mpr hstatus)
  · intro hempty htimes
    have hfinishes : call.Finishes env w := by
      refine ⟨htimes, ?_⟩
      rw [List.length_eq_zero_iff.mp hempty]
      simp
    obtain ⟨ended', hended', h100, -⟩ := h.success hfinishes
    obtain rfl := Option.some.inj (hended.symm.trans hended')
    rw [← h100]
    exact hle ended (by rw [hrows]; simp)
  · intro hpos
    rcases hshown 0 hpos with ⟨hreaches, hrounds⟩ | ⟨hmisses, hshows⟩
    · refine ⟨?_, .inl ⟨hreaches, ?_⟩⟩
      swap
      · intro k hk
        exact ((hshown k hk).resolve_right fun hnot => hnot.1 hreaches).2
      have hreported := hle ((row.recoverStarted startedAt).reported call (call.total w) 1) <| by
        rw [hrows]
        refine List.mem_append_left _ (List.mem_cons_of_mem _ (List.mem_map_of_mem ?_))
        rw [List.mem_range'_1]
        omega
      have hreaches' : call.Reaches (row.recoverStarted startedAt) := hreaches
      rw [reported_progress, if_pos hreaches'] at hreported
      exact hreported.trans_eq hrounds
    · refine ⟨le_of_eq hshows.1, .inr ⟨hmisses, ?_, hshows⟩⟩
      -- a second report would have to be there as well
      by_contra hnot
      have hsecond := (hshown 1 (by omega)).resolve_left fun hseen => hmisses hseen.1
      have hdetails := hsecond.2.2
      rw [hshows.2] at hdetails
      simp [RecoveryCall.details] at hdetails

theorem ReportsSeen.first (h : ReportsSeen env call w row) (startedAt : Time) :
    0 < call.reportCount env w →
      (row.recoverStarted startedAt).progress ≤ 99 ∧
        (call.Reaches (row.recoverStarted startedAt) →
          (row.recoverStarted startedAt).progress ≤ writtenProgress (call.total w) 1) := by
  intro hpos
  obtain ⟨hle, hseen⟩ := h.reported hpos
  refine ⟨hle.trans (reportedProgress_le (call.total w) 1), fun hreaches => ?_⟩
  have hrounds := (hseen.resolve_right fun hnot => hnot.1 hreaches).2
  exact hle.trans_eq (hrounds 0 hpos).symm

theorem ReportsSeen.lastReported (h : ReportsSeen env call w row) (startedAt : Time) :
    row.progress ≤ ((row.recoverStarted startedAt).lastReported env call w).progress ∧
      ((row.recoverStarted startedAt).lastReported env call w).progress ≠ 100 := by
  rcases lastReported_cases env call w (row.recoverStarted startedAt) with hsame | hmem
  · rw [hsame]
    exact ⟨le_refl _, h.progress⟩
  · obtain ⟨hle, h99, -, -⟩ := reportedRows_bounds (h.first startedAt) hmem
    refine ⟨hle, ?_⟩
    intro h100
    rw [h100] at h99
    norm_num at h99

theorem ReportsSeen.le_hundred (h : ReportsSeen env call w row) (hfinishes : call.Finishes env w) :
    row.progress ≤ 100 := by
  by_cases hempty : call.total w = 0
  · exact h.empty hempty hfinishes.1
  · have hall := reportCount_of_finishes hfinishes
    have hle := (h.reported (by omega)).1
    have h99 := reportedProgress_le (call.total w) 1
    linarith

theorem ReportsSeen.ended {startedAt : Time} (hseen : ReportsSeen env call w row)
    (h : t.Leaves env call w (row.recoverStarted startedAt)) {ended : Job}
    (hended : t.ended.job call.jobId = some ended) :
    row.progress ≤ ended.progress ∧
      (∀ r ∈ (row.recoverStarted startedAt).reportedRows env call w,
        r.progress ≤ ended.progress) ∧
      (ended.progress = 100 ↔ ended.status = .success) := by
  have hfirst := hseen.first startedAt
  by_cases hfinishes : call.Finishes env w
  · obtain ⟨ended', hended', h100, hstatus⟩ := h.success hfinishes
    obtain rfl := Option.some.inj (hended.symm.trans hended')
    rw [h100, hstatus]
    refine ⟨hseen.le_hundred hfinishes, ?_, iff_of_true rfl rfl⟩
    intro r hr
    obtain ⟨-, h99, -, -⟩ := reportedRows_bounds hfirst hr
    linarith
  · obtain ⟨ended', hended', hlast, hstatus⟩ := h.failure hfinishes
    obtain rfl := Option.some.inj (hended.symm.trans hended')
    obtain ⟨hle, hne⟩ := hseen.lastReported startedAt
    rw [hlast, hstatus]
    refine ⟨hle, ?_, iff_of_false hne nofun⟩
    intro r hr
    exact (reportedRows_bounds hfirst hr).2.2.2

theorem ReportsSeen.visible {startedAt : Time} (hseen : ReportsSeen env call w row)
    (h : t.Leaves env call w (row.recoverStarted startedAt)) :
    t.Visible call (call.total w) row := by
  obtain ⟨ended, hended, hrows⟩ := rows_of_leaves h
  obtain ⟨hrowEnded, hreportedEnded, hhundred⟩ := hseen.ended h hended
  have hbounds : ∀ r ∈ (row.recoverStarted startedAt).reportedRows env call w,
      row.progress ≤ r.progress ∧ r.progress ≤ 99 ∧ r.status = .started ∧ _ :=
    fun r hr => reportedRows_bounds (hseen.first startedAt) hr
  refine ⟨?_, ?_, ?_⟩
  · refine (shown_iff h).mpr ?_
    intro i hi
    obtain ⟨-, ⟨hreaches, hrounds⟩ | ⟨hmisses, hone, hshows⟩⟩ := hseen.reported (by omega)
    · exact .inl ⟨hreaches, hrounds i hi⟩
    · obtain rfl : i = 0 := by omega
      exact .inr ⟨hmisses, hshows⟩
  · rw [hrows, List.pairwise_map, List.cons_append, List.pairwise_cons, List.pairwise_cons,
      List.pairwise_append]
    have hrest : ∀ r ∈ (row.recoverStarted startedAt).reportedRows env call w ++ [ended],
        row.progress ≤ r.progress := by
      intro r hr
      rcases List.mem_append.mp hr with hreported | hlast
      · exact (hbounds r hreported).1
      · rw [List.mem_singleton.mp hlast]
        exact hrowEnded
    refine ⟨?_, hrest, pairwise_reportedRows env call w _, List.pairwise_singleton _ _, ?_⟩
    · intro r hr
      rcases List.mem_cons.mp hr with rfl | hr
      · exact le_refl _
      · exact hrest r hr
    · intro r hr r' hr'
      rw [List.mem_singleton.mp hr']
      exact hreportedEnded r hr
  · intro r hr
    rw [hrows] at hr
    simp only [List.cons_append, List.mem_cons, List.mem_append, List.not_mem_nil, or_false] at hr
    rcases hr with rfl | rfl | hreported | rfl
    · exact iff_of_false hseen.progress hseen.status
    · exact iff_of_false hseen.progress nofun
    · obtain ⟨-, h99, hstatus, -⟩ := hbounds r hreported
      rw [hstatus]
      refine iff_of_false ?_ nofun
      intro h100
      rw [h100] at h99
      norm_num at h99
    · exact hhundred

/-- **The progress of a recovery is visible** exactly if its reports reach the job, with the
progress that rounding once has. -/
theorem recovery_visible_iff (jobEnv : JobEnv) (env : WebhookEnv) {w : WebhookStore}
    (hw : w.WellFormed) (hs : s.UniqueColumns) (hrow : s.job call.jobId = some row) :
    (∃ t, call.recoverWebhooksInWindow jobEnv env w s = some t ∧
        t.Visible call (call.total w) row) ↔
      ReportsSeen env call w row := by
  obtain ⟨t, hrun, hleaves⟩ := leaves_run jobEnv env hw hs hrow
  constructor
  · rintro ⟨t', hrun', hvisible⟩
    obtain rfl := Option.some.inj (hrun.symm.trans hrun')
    exact .of_visible hleaves hvisible
  · intro hseen
    exact ⟨t, hrun, hseen.visible hleaves⟩

/-! ### A recovery that nobody sees -/

def twoDeliveries : WebhookStore :=
  { oneWebhook with
    deliveries := [storedDelivery 7 5 .deadLetter, storedDelivery 8 10 .success] }

def recoveryOfFive : RecoveryCall where
  jobId := 5
  startIso := "2026-01-01T00:00:00"
  endIso := "2026-01-02T00:00:00"
  startTime := 0
  endTime := 100
  startedAt := 200
  now := 201
  finishedAt := 300
  attempts _ := answered 200
  errorText := ""

def waitingReplay (celeryTaskId : String) : Job where
  id := 5
  celeryTaskId
  jobType := .webhookDrReplay

theorem twoDeliveries_wellFormed : twoDeliveries.WellFormed := by
  unfold WebhookStore.WellFormed
  decide

theorem total_twoDeliveries : recoveryOfFive.total twoDeliveries = 2 := by
  unfold RecoveryCall.total RecoveryCall.candidates deliveriesInWindow
  rw [List.length_mergeSort]
  decide

theorem finishes_twoDeliveries : recoveryOfFive.Finishes unsignedEnv twoDeliveries := by
  refine ⟨by decide, ?_⟩
  intro d hd
  have hgoes : ∀ d ∈ twoDeliveries.deliveries,
      (recoverRow unsignedEnv (twoDeliveries.webhook d.webhookId) recoveryOfFive.now
        (recoveryOfFive.attempts d.id) d).goesOn = true := by decide +kernel
  exact hgoes d (mem_deliveriesInWindow.mp hd).1

/-- The job has the id that Celery has given its task, and no progress before it is done. -/
theorem reports_miss_enqueued_job :
    ¬ ∀ (jobEnv : JobEnv) (env : WebhookEnv) (call : RecoveryCall) (w : WebhookStore)
        (s : JobStore) (row : Job),
      w.WellFormed → s.UniqueColumns → s.job call.jobId = some row → row.status = .pending →
        row.progress = 0 → row.progressDetails = none →
          ∃ t, call.recoverWebhooksInWindow jobEnv env w s = some t ∧
            t.Visible call (call.total w) row := by
  intro hall
  let row := waitingReplay "8d3c1e1c-8fb9-4a7e-9d59-5b1d5c1f0a77"
  let s : JobStore := { jobs := [row] }
  have hs : s.UniqueColumns := ⟨List.nodup_singleton _, List.nodup_singleton _⟩
  have hrow : s.job recoveryOfFive.jobId = some row := rfl
  have hvisible := hall JobStore.jobEnv unsignedEnv recoveryOfFive twoDeliveries s row
    twoDeliveries_wellFormed hs hrow rfl rfl rfl
  have hseen := (recovery_visible_iff _ _ twoDeliveries_wellFormed hs hrow).mp hvisible
  have hpos : 0 < recoveryOfFive.reportCount unsignedEnv twoDeliveries := by
    rw [reportCount_of_finishes finishes_twoDeliveries, total_twoDeliveries]
    decide
  obtain ⟨-, ⟨hreaches, -⟩ | ⟨-, -, -, hdetails⟩⟩ := hseen.reported hpos
  · have hmisses : ¬ recoveryOfFive.Reaches row := by decide +kernel
    exact hmisses hreaches
  · cases hdetails

/-- A job whose task has its own id. -/
theorem reports_reach_job_of_own_id :
    ∃ t, recoveryOfFive.recoverWebhooksInWindow JobStore.jobEnv unsignedEnv twoDeliveries
        { jobs := [waitingReplay (Uuid.text 5)] } = some t ∧
      t.Visible recoveryOfFive (recoveryOfFive.total twoDeliveries)
        (waitingReplay (Uuid.text 5)) := by
  have hs : ({ jobs := [waitingReplay (Uuid.text 5)] } : JobStore).UniqueColumns :=
    ⟨List.nodup_singleton _, List.nodup_singleton _⟩
  have hfirst : (0 : ℚ) ≤ reportedProgress 2 1 := by decide +kernel
  have hrounds : RoundsOnce 2 2 := by decide +kernel
  refine (recovery_visible_iff JobStore.jobEnv unsignedEnv twoDeliveries_wellFormed hs rfl).mpr
    ⟨nofun, ?_, ?_, ?_⟩
  · show (0 : ℚ) ≠ 100
    norm_num
  · intro hempty
    rw [total_twoDeliveries] at hempty
    cases hempty
  · intro _
    rw [reportCount_of_finishes finishes_twoDeliveries, total_twoDeliveries]
    exact ⟨hfirst, .inl ⟨rfl, hrounds⟩⟩

end NocIq
