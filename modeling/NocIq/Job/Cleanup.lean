import NocIq.Isoformat
import NocIq.Job.Retention

/-!
# NocIq — what a retention cleanup deletes

`cleanup_old_jobs` and `_delete_eligible` of `app/services/job_cleanup.py`, while nobody else
writes. A query for a batch has a limit and no order, so the database is free in its choice of the
rows.

* **`deleteEligible_spec`** — the batches of a window.
* **`cleanupWindows_spec`** — one window after another.
* **`cleanupWindows_of_unknown`** — a status that does not exist ends the loop.
* **`cleanup_exact`** — the jobs that are deleted, and the report.
-/

namespace NocIq

namespace JobCleanupService

/-! ## The cleanup -/

/-- How the database chooses the rows of a query with a limit. -/
structure BatchQuery where
  ids : (Job → Bool) → Nat → List Job → List UUID
  isBatch : ∀ due size jobs, (jobs.map Job.id).Nodup →
    Draining.IsBatch Job.id due size jobs (ids due size jobs)

structure CleanupStats where
  dryRun : Bool
  deletedByStatus : List (String × Nat)
  totalDeleted : Nat
  cutoffs : List (String × String)
  deriving DecidableEq

inductive CleanupFault where
  | overflowError
  /-- the logger takes no arguments but its message -/
  | typeError
  /-- the fuel did not suffice -/
  | unfinished
  deriving DecidableEq

/-- What is raised, and the jobs that are left then. -/
structure CleanupInterrupt where
  fault : CleanupFault
  jobs : List Job

/-- The table, and what the loop over the windows has counted. -/
structure CleanupState where
  jobs : List Job
  deletedByStatus : List (String × Nat) := []
  totalDeleted : Nat := 0

/-- `_delete_eligible`. -/
def deleteEligible (db : BatchQuery) (status : JobStatus) (cutoff : Time) (batchSize : Nat) :
    (fuel total : Nat) → List Job → Except CleanupInterrupt (Nat × List Job)
  | 0, _, jobs => .error ⟨.unfinished, jobs⟩
  | fuel + 1, total, jobs =>
    let ids := db.ids (Job.isEligible status cutoff) batchSize jobs
    if ids = [] then .ok (total, jobs)
    else
      let jobs := Draining.remove Job.id ids jobs
      let total := total + ids.length
      if ids.length < batchSize then .ok (total, jobs)
      else deleteEligible db status cutoff batchSize fuel total jobs

section Cleanup

variable (db : BatchQuery) (settings : RetentionSettings) (now : Time) (dryRun : Bool)
  (batchSize fuel : Nat)

/-- The body of the loop over the windows. -/
def cleanupWindow (s : CleanupState) (window : String × Int) :
    Except CleanupInterrupt CleanupState :=
  match JobStatus.ofValue window.1 with
  -- the warning has an argument too many
  | none => .error ⟨.typeError, s.jobs⟩
  | some status =>
    match cutoff? now window.2 with
    | none => .error ⟨.overflowError, s.jobs⟩
    | some cutoff => do
      -- the count that is reported unless something is deleted
      let count := s.jobs.countP (Job.isEligible status cutoff)
      if dryRun = false ∧ 0 < count then
        let (deleted, jobs) ← deleteEligible db status cutoff batchSize fuel 0 s.jobs
        return {
          jobs
          deletedByStatus := s.deletedByStatus ++ [(window.1, deleted)]
          totalDeleted := s.totalDeleted + deleted }
      else
        return { s with deletedByStatus := s.deletedByStatus ++ [(window.1, count)] }

/-- The texts of the `cutoffs`. -/
def cutoffTexts (windows : List (String × Int)) : Option (List (String × String)) :=
  windows.mapM fun window =>
    (cutoff? now window.2).map fun cutoff => (window.1, (Datetime.naive cutoff).isoformat)

def cleanupOldJobs (retentionDays : Option (List (String × Int))) (jobs : List Job) :
    Except CleanupInterrupt (CleanupStats × List Job) := do
  let windows := retentionWindows settings retentionDays
  let s ← windows.foldlM (cleanupWindow db now dryRun batchSize fuel) { jobs }
  match cutoffTexts now windows with
  | none => throw ⟨.overflowError, s.jobs⟩
  | some cutoffs =>
    let { jobs, deletedByStatus, totalDeleted } := s
    return ({ dryRun, deletedByStatus, totalDeleted, cutoffs }, jobs)

end Cleanup

/-! ## What should be deleted -/

/-- The job has the status of the window and finished before it, and nothing protects it. -/
def expiresBy (now : Time) (window : String × Int) (job : Job) : Bool :=
  decide (job.status.value = window.1) &&
    (job.finishedAt.any fun t => decide (t < now - days window.2)) &&
    !job.underInvestigation && !job.underDispute && !job.auditCritical

def expired (now : Time) (windows : List (String × Int)) (job : Job) : Bool :=
  windows.any fun window => expiresBy now window job

/-- The report of a cleanup: of each status in the mapping, how many jobs have expired. -/
def report (now : Time) (windows : List (String × Int)) (dryRun : Bool) (jobs : List Job) :
    CleanupStats where
  dryRun
  deletedByStatus := windows.filterMap fun window =>
    (JobStatus.ofValue window.1).map fun status =>
      (window.1, (jobs.filter (expired now windows)).countP fun job => decide (job.status = status))
  totalDeleted := if dryRun then 0 else (jobs.filter (expired now windows)).length
  cutoffs := windows.map fun window =>
    (window.1, (Datetime.naive (now - days window.2)).isoformat)

variable {db : BatchQuery} {now cutoff : Time} {dryRun : Bool} {batchSize fuel : Nat}
  {status : JobStatus} {jobs : List Job} {window : String × Int} {windows : List (String × Int)}

/-! ## One window -/

theorem value_of_expiresBy {job : Job} (h : expiresBy now window job = true) :
    job.status.value = window.1 := by
  unfold expiresBy at h
  simp only [Bool.and_eq_true, decide_eq_true_eq] at h
  exact h.1.1.1.1

theorem expiresBy_of_status (now : Time) (h : JobStatus.ofValue window.1 = some status) :
    expiresBy now window = Job.isEligible status (now - days window.2) := by
  funext job
  unfold expiresBy Job.isEligible
  have hvalue : job.status.value = window.1 ↔ job.status = status := by
    rw [JobStatus.ofValue_eq_some.mp h]
    exact JobStatus.value_injective.eq_iff
  rw [decide_eq_decide.mpr hvalue]

theorem cutoff?_of_valid {retentionDays : Int}
    (h : (Datetime.naive (now - days retentionDays)).Valid) :
    cutoff? now retentionDays = some (now - days retentionDays) :=
  if_pos h

/-- **The batches of a window.** Induction on the fuel; a batch that is not full is the last. -/
theorem deleteEligible_spec (hsize : 1 ≤ batchSize) (total : Nat) (hids : (jobs.map Job.id).Nodup)
    (hfuel : jobs.countP (Job.isEligible status cutoff) < fuel) :
    deleteEligible db status cutoff batchSize fuel total jobs =
      .ok (total + jobs.countP (Job.isEligible status cutoff),
        jobs.filter fun job => !Job.isEligible status cutoff job) := by
  induction fuel generalizing total jobs with
  | zero => omega
  | succ fuel ih =>
    have hbatch := db.isBatch (Job.isEligible status cutoff) batchSize jobs hids
    have hcount := Draining.countP_remove hids hbatch
    have hrest := Draining.filter_not_due_remove hids hbatch
    have hfull := hbatch.full
    unfold deleteEligible
    dsimp only
    split
    · rename_i hnone
      have hzero : jobs.countP (Job.isEligible status cutoff) = 0 := by
        rw [hnone, List.length_nil] at hfull
        omega
      rw [hzero, Draining.filter_not_due_eq_self hzero, Nat.add_zero]
    · rename_i hsome
      have hpos := List.length_pos_of_ne_nil hsome
      split
      · -- the batch was not full, so nothing is left behind it
        have hzero : (Draining.remove Job.id (db.ids (Job.isEligible status cutoff) batchSize jobs)
            jobs).countP (Job.isEligible status cutoff) = 0 := by
          omega
        rw [Draining.filter_not_due_eq_self hzero] at hrest
        rw [hzero, Nat.add_zero] at hcount
        rw [hrest, hcount]
      · rw [ih _ (Draining.keys_remove hids) (by omega), hrest, Nat.add_assoc, hcount]

/-- How many jobs expire by each window of a known status. -/
def counted (now : Time) (windows : List (String × Int)) (jobs : List Job) : List (String × Nat) :=
  windows.filterMap fun window =>
    (JobStatus.ofValue window.1).map fun _ => (window.1, jobs.countP (expiresBy now window))

def CleanupState.passed (now : Time) (dryRun : Bool) (windows : List (String × Int))
    (s : CleanupState) : CleanupState where
  jobs := if dryRun then s.jobs else s.jobs.filter fun job => !expired now windows job
  deletedByStatus := s.deletedByStatus ++ counted now windows s.jobs
  totalDeleted := s.totalDeleted + if dryRun then 0 else s.jobs.countP (expired now windows)

theorem expired_singleton : expired now [window] = expiresBy now window := by
  funext job
  exact Bool.or_false _

/-- The loop passes over the window without raising: its status exists, and its cutoff is a
`datetime`. -/
structure Passable (now : Time) (window : String × Int) : Prop where
  known : (JobStatus.ofValue window.1).isSome = true
  cutoff : (Datetime.naive (now - days window.2)).Valid

theorem cleanupWindow_spec {s : CleanupState} (hsize : 1 ≤ batchSize)
    (hids : (s.jobs.map Job.id).Nodup) (hfuel : s.jobs.length < fuel)
    (hwindow : Passable now window) :
    cleanupWindow db now dryRun batchSize fuel s window = .ok (s.passed now dryRun [window]) := by
  obtain ⟨status, hstatus⟩ := Option.isSome_iff_exists.mp hwindow.known
  have hdue := expiresBy_of_status now hstatus
  unfold cleanupWindow CleanupState.passed counted
  rw [expired_singleton, cutoff?_of_valid hwindow.cutoff]
  simp only [List.filterMap_cons, List.filterMap_nil, hstatus, Option.map_some, hdue]
  cases dryRun with
  | true => rfl
  | false =>
    have hlength := s.jobs.countP_le_length (p := Job.isEligible status (now - days window.2))
    by_cases hcount : 0 < s.jobs.countP (Job.isEligible status (now - days window.2))
    · rw [if_pos ⟨rfl, hcount⟩, deleteEligible_spec hsize 0 hids (by omega), Nat.zero_add]
      rfl
    · rw [if_neg fun h => hcount h.2]
      have hzero := Nat.eq_zero_of_not_pos hcount
      rw [Draining.filter_not_due_eq_self hzero, hzero]
      rfl

/-! ## The loop -/

theorem countP_expiresBy_of_ne {other : String × Int} (h : other.1 ≠ window.1) :
    (jobs.filter fun job => !expiresBy now window job).countP (expiresBy now other) =
      jobs.countP (expiresBy now other) := by
  rw [List.countP_filter]
  refine List.countP_congr fun job _ => ?_
  rw [Bool.and_eq_true, Bool.not_eq_true']
  refine and_iff_left_of_imp fun hother => ?_
  rw [Bool.eq_false_iff]
  intro hwindow
  exact h ((value_of_expiresBy hother).symm.trans (value_of_expiresBy hwindow))

theorem expired_cons (window : String × Int) (windows : List (String × Int)) (job : Job) :
    expired now (window :: windows) job = (expiresBy now window job || expired now windows job) :=
  List.any_cons

theorem countP_expired_cons :
    jobs.countP (expired now (window :: windows)) =
      jobs.countP (expiresBy now window) +
        (jobs.filter fun job => !expiresBy now window job).countP (expired now windows) := by
  have hsplit := List.countP_eq_countP_filter_add jobs (expired now (window :: windows))
    (expiresBy now window)
  -- the jobs that expire by the first window, and the rest
  have hfirst : (jobs.filter (expiresBy now window)).countP (expired now (window :: windows)) =
      jobs.countP (expiresBy now window) := by
    rw [List.countP_filter]
    refine List.countP_congr fun job _ => ?_
    rw [expired_cons]
    cases expiresBy now window job <;> simp
  have hrest : (jobs.filter fun job => !expiresBy now window job).countP
        (expired now (window :: windows)) =
      (jobs.filter fun job => !expiresBy now window job).countP (expired now windows) := by
    refine List.countP_congr fun job hjob => ?_
    have hother := (List.mem_filter.mp hjob).2
    rw [Bool.not_eq_true'] at hother
    rw [expired_cons, hother, Bool.false_or]
  omega

theorem counted_filter (hstatus : ∀ other ∈ windows, other.1 ≠ window.1) :
    counted now windows (jobs.filter fun job => !expiresBy now window job) =
      counted now windows jobs := by
  unfold counted
  refine List.filterMap_congr fun other hother => ?_
  rw [countP_expiresBy_of_ne (hstatus other hother)]

theorem counted_cons (window : String × Int) (windows : List (String × Int)) (jobs : List Job) :
    counted now (window :: windows) jobs =
      counted now [window] jobs ++ counted now windows jobs := by
  unfold counted
  rw [← List.filterMap_append]
  rfl

theorem CleanupState.passed_cons (s : CleanupState)
    (hstatus : ∀ other ∈ windows, other.1 ≠ window.1) :
    (s.passed now dryRun [window]).passed now dryRun windows =
      s.passed now dryRun (window :: windows) := by
  unfold passed
  rw [expired_singleton, counted_cons window windows s.jobs, ← List.append_assoc]
  cases dryRun with
  | true => rfl
  | false =>
    simp only [Bool.false_eq_true, if_false]
    -- the other windows find the jobs of their own statuses all there
    rw [counted_filter hstatus, countP_expired_cons, Nat.add_assoc, List.filter_filter]
    congr 2
    funext job
    rw [expired_cons, Bool.not_or, Bool.and_comm]

/-- **One window after another.** Induction on the windows. -/
theorem cleanupWindows_spec {s : CleanupState} (hsize : 1 ≤ batchSize)
    (hstatus : (windows.map Prod.fst).Nodup) (hids : (s.jobs.map Job.id).Nodup)
    (hfuel : s.jobs.length < fuel) (hwindows : ∀ window ∈ windows, Passable now window) :
    windows.foldlM (cleanupWindow db now dryRun batchSize fuel) s =
      .ok (s.passed now dryRun windows) := by
  induction windows generalizing s with
  | nil =>
    have hnone : expired now [] = fun _ => false := rfl
    unfold CleanupState.passed
    rw [hnone]
    cases dryRun <;> simp [counted] <;> rfl
  | cons window windows ih =>
    obtain ⟨hwindow, hrest⟩ := List.forall_mem_cons.mp hwindows
    rw [List.map_cons, List.nodup_cons] at hstatus
    have hsub : (s.passed now dryRun [window]).jobs.Sublist s.jobs := by
      unfold CleanupState.passed
      dsimp only
      split
      · exact .refl _
      · exact List.filter_sublist
    have hlength := hsub.length_le
    rw [List.foldlM_cons, cleanupWindow_spec hsize hids hfuel hwindow]
    show windows.foldlM _ (s.passed now dryRun [window]) = _
    rw [ih hstatus.2 (hids.sublist (hsub.map _)) (by omega) hrest]
    congr 1
    refine s.passed_cons fun other hother heq => hstatus.1 ?_
    exact List.mem_map.mpr ⟨other, hother, heq⟩

/-- **A status that does not exist** ends the loop, with the table as the windows before have left
it. -/
theorem cleanupWindows_of_unknown {s : CleanupState} (hsize : 1 ≤ batchSize)
    (hstatus : (windows.map Prod.fst).Nodup) (hids : (s.jobs.map Job.id).Nodup)
    (hfuel : s.jobs.length < fuel) (hwindows : ∀ window ∈ windows, Passable now window)
    (hunknown : JobStatus.ofValue window.1 = none) (later : List (String × Int)) :
    (windows ++ window :: later).foldlM (cleanupWindow db now dryRun batchSize fuel) s =
      .error ⟨.typeError, (s.passed now dryRun windows).jobs⟩ := by
  have hraises : cleanupWindow db now dryRun batchSize fuel (s.passed now dryRun windows) window =
      .error ⟨.typeError, (s.passed now dryRun windows).jobs⟩ := by
    unfold cleanupWindow
    rw [hunknown]
  rw [List.foldlM_append, cleanupWindows_spec hsize hstatus hids hfuel hwindows]
  show (window :: later).foldlM (cleanupWindow db now dryRun batchSize fuel)
    (s.passed now dryRun windows) = _
  rw [List.foldlM_cons, hraises]
  rfl

/-! ## The whole cleanup -/

theorem cutoffTexts_of_valid
    (hcutoffs : ∀ window ∈ windows, (Datetime.naive (now - days window.2)).Valid) :
    cutoffTexts now windows = some (windows.map fun window =>
      (window.1, (Datetime.naive (now - days window.2)).isoformat)) := by
  unfold cutoffTexts
  induction windows with
  | nil => rfl
  | cons window windows ih =>
    obtain ⟨hwindow, hrest⟩ := List.forall_mem_cons.mp hcutoffs
    rw [List.mapM_cons, cutoff?_of_valid hwindow, ih hrest]
    rfl

theorem expiresBy_iff_expired (hstatus : (windows.map Prod.fst).Nodup) (hwindow : window ∈ windows)
    (hknown : JobStatus.ofValue window.1 = some status) (job : Job) :
    expiresBy now window job = true ↔ job.status = status ∧ expired now windows job = true := by
  have hvalue := JobStatus.ofValue_eq_some.mp hknown
  constructor
  · intro h
    refine ⟨JobStatus.value_injective ((value_of_expiresBy h).trans hvalue), ?_⟩
    exact List.any_eq_true.mpr ⟨window, hwindow, h⟩
  · intro ⟨hjob, hexpired⟩
    obtain ⟨other, hother, h⟩ := List.any_eq_true.mp hexpired
    -- the status of the job names the window
    have hkey : other.1 = window.1 := by
      rw [← value_of_expiresBy h, hjob, hvalue]
    rwa [← List.inj_on_of_nodup_map hstatus hother hwindow hkey]

theorem counted_eq (now : Time) (dryRun : Bool) (jobs : List Job)
    (hstatus : (windows.map Prod.fst).Nodup) :
    counted now windows jobs = (report now windows dryRun jobs).deletedByStatus := by
  unfold counted report
  refine List.filterMap_congr fun window hwindow => ?_
  cases hknown : JobStatus.ofValue window.1 with
  | none => rfl
  | some status =>
    show some (window.1, _) = some (window.1, _)
    rw [List.countP_filter]
    congr 2
    refine List.countP_congr fun job _ => ?_
    rw [Bool.and_eq_true, decide_eq_true_iff]
    exact expiresBy_iff_expired hstatus hwindow hknown job

/-- **What a cleanup deletes.** The mapping is a `dict` from statuses, its cutoffs are datetimes, and
the ids of jobs are unique. Whatever the batches are, the jobs that go are those that have expired,
and the report counts them; a dry run has the same report, and nothing goes. -/
theorem cleanup_exact (settings : RetentionSettings) (hwindows : windows ≠ [])
    (hstatus : (windows.map Prod.fst).Nodup)
    (hknown : ∀ window ∈ windows, (JobStatus.ofValue window.1).isSome = true)
    (hcutoffs : ∀ window ∈ windows, (Datetime.naive (now - days window.2)).Valid)
    (hids : (jobs.map Job.id).Nodup) (hsize : 1 ≤ batchSize) (hfuel : jobs.length < fuel) :
    cleanupOldJobs db settings now dryRun batchSize fuel (some windows) jobs =
      .ok (report now windows dryRun jobs,
        if dryRun then jobs else jobs.filter fun job => !expired now windows job) := by
  have hgiven : retentionWindows settings (some windows) = windows := by
    cases windows with
    | nil => exact absurd rfl hwindows
    | cons window windows => rfl
  have hloop : windows.foldlM (cleanupWindow db now dryRun batchSize fuel) { jobs } =
      .ok (CleanupState.passed now dryRun windows { jobs }) :=
    cleanupWindows_spec hsize hstatus hids hfuel fun window hwindow =>
      ⟨hknown window hwindow, hcutoffs window hwindow⟩
  unfold cleanupOldJobs
  dsimp only
  rw [hgiven, hloop, cutoffTexts_of_valid hcutoffs]
  have hcounted := counted_eq now dryRun jobs hstatus
  show Except.ok (({
      dryRun
      deletedByStatus := [] ++ counted now windows jobs
      totalDeleted := 0 + if dryRun then 0 else jobs.countP (expired now windows)
      cutoffs := _ } : CleanupStats), _) = _
  rw [List.nil_append, hcounted, Nat.zero_add, List.countP_eq_length_filter]
  rfl

def firstRows : BatchQuery where
  ids due size jobs := ((jobs.filter due).take size).map Job.id
  isBatch _ _ _ h := Draining.isBatch_take h

def oldJobs : List Job :=
  [oldJob, { oldJob with id := 2, celeryTaskId := "task-2", underDispute := true },
    { oldJob with id := 3, celeryTaskId := "task-3" }]

/-- In batches of one job; the job under dispute stays. -/
theorem cleanup_exact_disputed :
    cleanupOldJobs firstRows {} (days 20000) false 1 4 (some [("success", 30)]) oldJobs =
      .ok (report (days 20000) [("success", 30)] false oldJobs,
        oldJobs.filter (·.underDispute)) := by
  have hnonempty : [("success", (30 : Int))] ≠ [] := by decide
  exact cleanup_exact {} hnonempty (by decide) (by decide) (by decide) (by decide) le_rfl
    (by decide)

/-- **A million days before today there is no datetime.** The cleanup raises an `OverflowError`. -/
theorem cutoff_may_overflow :
    ¬ ∀ (db : BatchQuery) (settings : RetentionSettings) (now : Time)
      (windows : List (String × Int)) (jobs : List Job) (batchSize : Nat),
      (Datetime.naive now).Valid → windows ≠ [] → (windows.map Prod.fst).Nodup →
        (jobs.map Job.id).Nodup → 1 ≤ batchSize →
          ∃ fuel, cleanupOldJobs db settings now false batchSize fuel (some windows) jobs =
            .ok (report now windows false jobs,
              jobs.filter fun job => !expired now windows job) := by
  intro hall
  obtain ⟨fuel, h⟩ := hall firstRows {} (days 20000) [("success", 1000000)] [oldJob] 1
    (by decide) (by decide) (by decide) (by decide) le_rfl
  have hraised : cleanupOldJobs firstRows {} (days 20000) false 1 fuel
      (some [("success", 1000000)]) [oldJob] = .error ⟨.overflowError, [oldJob]⟩ := rfl
  rw [hraised] at h
  cases h

end JobCleanupService

end NocIq
