import NocIq.Isoformat
import NocIq.Job.Operations
import NocIq.Lib.Draining

/-!
# NocIq — the retention of jobs

`JobCleanupService` of `app/services/job_cleanup.py`. A sweep selects the ids of a batch of eligible
jobs, deletes the jobs of these ids, commits, and goes on until a batch is not full. Meanwhile a job
may be put under investigation or under dispute, which the deletion does not look at.

`flagged` records the flags that have been committed since a sweep has selected its batch. It is
read by no step.

* **`Tracks.step`** — the record says which jobs of a batch are protected by now.
* **`protected_never_deleted_iff`** — the runs that delete no protected job.
-/

namespace NocIq

/-! ## Flags -/

inductive ProtectionFlag where
  | underInvestigation
  | underDispute
  deriving DecidableEq, Repr

namespace Job

def flag (job : Job) : ProtectionFlag → Bool
  | .underInvestigation => job.underInvestigation
  | .underDispute => job.underDispute

def withFlag (job : Job) (flag : ProtectionFlag) (value : Bool) : Job :=
  match flag with
  | .underInvestigation => { job with underInvestigation := value }
  | .underDispute => { job with underDispute := value }

def isProtected (job : Job) : Bool := job.underInvestigation || job.underDispute

theorem isProtected_iff (job : Job) : job.isProtected = true ↔ ∃ flag, job.flag flag = true := by
  unfold isProtected
  rw [Bool.or_eq_true]
  constructor
  · rintro (h | h)
    · exact ⟨.underInvestigation, h⟩
    · exact ⟨.underDispute, h⟩
  · rintro ⟨flag, h⟩
    cases flag with
    | underInvestigation => exact .inl h
    | underDispute => exact .inr h

theorem flag_withFlag (job : Job) (set flag : ProtectionFlag) (value : Bool) :
    (job.withFlag set value).flag flag = if flag = set then value else job.flag flag := by
  cases set <;> cases flag <;> rfl

theorem id_withFlag (job : Job) (flag : ProtectionFlag) (value : Bool) :
    (job.withFlag flag value).id = job.id := by
  cases flag <;> rfl

end Job

/-- A flag that is committed. -/
structure FlagWrite where
  jobId : UUID
  flag : ProtectionFlag
  value : Bool

/-- The commits of `PATCH /jobs/{job_id}/protection-flags`; each audit event is one. -/
def updateJobProtectionFlags (jobId : UUID) (underInvestigation underDispute : Option Bool) :
    List FlagWrite :=
  (underInvestigation.map fun value => ⟨jobId, .underInvestigation, value⟩).toList ++
    (underDispute.map fun value => ⟨jobId, .underDispute, value⟩).toList

def setInvestigationFlag (jobId : UUID) (underInvestigation : Bool) : FlagWrite :=
  ⟨jobId, .underInvestigation, underInvestigation⟩

def setDisputeFlag (jobId : UUID) (underDispute : Bool) : FlagWrite :=
  ⟨jobId, .underDispute, underDispute⟩

/-! ## Sweeps -/

/-- A query for jobs that may be deleted, which leaves protected jobs out. -/
structure Window where
  eligible : Job → Bool
  skips : ∀ job, eligible job = true → job.isProtected = false

def days (n : Int) : Int := n * 86400 * 1000000

/-- `now - timedelta(days=retention_days)`, an `OverflowError` when that is no `datetime`. -/
def cutoff? (now : Time) (retentionDays : Int) : Option Time :=
  let t := now - days retentionDays
  if (Datetime.naive t).Valid then some t else none

/-- `_build_base_query`. -/
def statusWindow (now : Time) (status : JobStatus) (retentionDays : Int) : Window where
  eligible := Job.isEligible status (now - days retentionDays)
  skips := by
    intro job h
    unfold Job.isEligible at h
    unfold Job.isProtected
    simp only [Bool.and_eq_true, Bool.not_eq_true'] at h
    rw [h.1.1.2, h.1.2]
    rfl

/-- The query of `cleanup_audit_critical`. -/
def auditCriticalWindow (now : Time) (retentionDays : Int) : Window where
  eligible job := job.auditCritical &&
    (job.finishedAt.any fun t => decide (t < now - days retentionDays)) &&
    !job.underInvestigation && !job.underDispute
  skips := by
    intro job h
    unfold Job.isProtected
    simp only [Bool.and_eq_true, Bool.not_eq_true'] at h
    rw [h.1.2, h.2]
    rfl

inductive SweepPhase where
  | count
  | select
  /-- the batch has been selected -/
  | delete (ids : List UUID)

structure Sweep where
  windows : List Window
  batchSize : Nat
  phase : SweepPhase := .count
  /-- the flags of jobs that have been committed as true since the selection, and not as false -/
  flagged : List (UUID × ProtectionFlag) := []

/-- `JobStatus(value)`. -/
def JobStatus.ofValue (value : String) : Option JobStatus :=
  [JobStatus.pending, .started, .success, .failure, .revoked, .quarantined, .deadLetter].find?
    fun status => status.value == value

theorem JobStatus.value_injective : Function.Injective JobStatus.value := by
  intro a b h
  cases a <;> cases b <;> first | rfl | exact absurd h (by decide)

theorem JobStatus.ofValue_eq_some {value : String} {status : JobStatus} :
    JobStatus.ofValue value = some status ↔ value = status.value := by
  constructor
  · intro h
    have hfound := List.find?_some h
    exact (beq_iff_eq.mp hfound).symm
  · intro h
    rw [h]
    cases status <;> decide

structure RetentionSettings where
  successDays : Int := 30
  failureDays : Int := 90
  revokedDays : Int := 30
  quarantinedDays : Int := 180
  deadLetterDays : Int := 180
  auditCriticalDays : Int := 365

/-- `_default_retention`. -/
def defaultRetention (settings : RetentionSettings) : List (String × Int) :=
  [(JobStatus.success.value, settings.successDays), (JobStatus.failure.value, settings.failureDays),
    (JobStatus.revoked.value, settings.revokedDays),
    (JobStatus.quarantined.value, settings.quarantinedDays),
    (JobStatus.deadLetter.value, settings.deadLetterDays)]

/-- `retention_days or self._default_retention()`. -/
def retentionWindows (settings : RetentionSettings) :
    Option (List (String × Int)) → List (String × Int)
  | none | some [] => defaultRetention settings
  | some windows => windows

/-- The query of an entry of the mapping; none if the status is unknown or there is no cutoff. -/
def windowOf (now : Time) (x : String × Int) : Option Window := do
  let status ← JobStatus.ofValue x.1
  let _ ← cutoff? now x.2
  return statusWindow now status x.2

/-- `cleanup_old_jobs`, which ends at the first entry without a query; a dry run only counts. -/
def cleanupOldJobs (settings : RetentionSettings) (now : Time)
    (retentionDays : Option (List (String × Int))) (dryRun : Bool) (batchSize : Nat) : Sweep where
  windows :=
    if dryRun then []
    else
      (((retentionWindows settings retentionDays).map (windowOf now)).takeWhile
        Option.isSome).reduceOption
  batchSize

def cleanupAuditCritical (settings : RetentionSettings) (now : Time) (retentionDays : Int)
    (dryRun : Bool) (batchSize : Nat) : Sweep where
  windows :=
    if dryRun then []
    else
      [auditCriticalWindow now
        (if retentionDays = 0 then settings.auditCriticalDays else retentionDays)]
  batchSize

/-! ## The system -/

/-- The table, the sweeps in progress, and the jobs that have been deleted, as they were then. -/
structure Retention where
  jobs : List Job
  sweeps : List Sweep := []
  deleted : List Job := []

inductive RetentionEvent where
  | start (sweep : Sweep)
  | count (i : Nat)
  | select (i : Nat) (ids : List UUID)
  | delete (i : Nat)
  | flag (write : FlagWrite)

def FlagWrite.record (write : FlagWrite) (flagged : List (UUID × ProtectionFlag)) :
    List (UUID × ProtectionFlag) :=
  if write.value then (write.jobId, write.flag) :: flagged
  else flagged.filter fun x => decide (x ≠ (write.jobId, write.flag))

def FlagWrite.onRows (write : FlagWrite) (rows : List Job) : List Job :=
  rows.map fun job => if job.id = write.jobId then job.withFlag write.flag write.value else job

/-- The sweep is done with its first window. -/
def Sweep.next (sweep : Sweep) : Sweep :=
  { sweep with windows := sweep.windows.tail, phase := .count, flagged := [] }

/-- One statement. -/
inductive RetentionStep : Retention → RetentionEvent → Retention → Prop where
  | start (s : Retention) {sweep : Sweep} (hphase : sweep.phase = .count) :
      RetentionStep s (.start sweep) { s with sweeps := s.sweeps ++ [sweep] }
  | count {s : Retention} {i : Nat} {sweep : Sweep} {window : Window} (h : s.sweeps[i]? = some sweep)
      (hphase : sweep.phase = .count) (hwindow : sweep.windows.head? = some window) :
      RetentionStep s (.count i)
        { s with
          sweeps := s.sweeps.set i
            (if s.jobs.countP window.eligible = 0 then sweep.next
              else { sweep with phase := .select }) }
  | select {s : Retention} {i : Nat} {sweep : Sweep} {window : Window} {ids : List UUID}
      (h : s.sweeps[i]? = some sweep) (hphase : sweep.phase = .select)
      (hwindow : sweep.windows.head? = some window)
      (hbatch : Draining.IsBatch Job.id window.eligible sweep.batchSize s.jobs ids) :
      RetentionStep s (.select i ids)
        { s with
          sweeps := s.sweeps.set i
            (if ids = [] then sweep.next else { sweep with phase := .delete ids, flagged := [] }) }
  | delete {s : Retention} {i : Nat} {sweep : Sweep} {ids : List UUID}
      (h : s.sweeps[i]? = some sweep) (hphase : sweep.phase = .delete ids) :
      RetentionStep s (.delete i)
        { jobs := s.jobs.filter fun job => decide (job.id ∉ ids)
          sweeps := s.sweeps.set i
            (if ids.length < sweep.batchSize then sweep.next
              else { sweep with phase := .select, flagged := [] })
          deleted := s.deleted ++ s.jobs.filter fun job => decide (job.id ∈ ids) }
  | flag (s : Retention) (write : FlagWrite) :
      RetentionStep s (.flag write)
        { s with
          jobs := write.onRows s.jobs
          sweeps := s.sweeps.map fun sweep =>
            { sweep with flagged := write.record sweep.flagged } }

abbrev RetentionRun := Runs.Run RetentionStep

variable {s s' : Retention} {event : RetentionEvent} {sweep : Sweep} {jobs : List Job}

/-! ## What the record says -/

/-- The jobs of the batch that are protected are those that the record lists. -/
def Sweep.Tracks (jobs : List Job) (sweep : Sweep) : Prop :=
  ∀ ids, sweep.phase = .delete ids → ∀ job ∈ jobs, job.id ∈ ids →
    ∀ flag, job.flag flag = true ↔ (job.id, flag) ∈ sweep.flagged

structure Retention.Tracks (s : Retention) : Prop where
  keys : (s.jobs.map Job.id).Nodup
  sweeps : ∀ sweep ∈ s.sweeps, sweep.Tracks s.jobs

theorem Sweep.Tracks.of_phase (h : ∀ ids, sweep.phase ≠ .delete ids) : sweep.Tracks jobs :=
  fun ids hphase => absurd hphase (h ids)

theorem Sweep.next_tracks (sweep : Sweep) (jobs : List Job) : sweep.next.Tracks jobs :=
  .of_phase fun _ h => by cases h

theorem Sweep.selected_tracks {window : Window} {size : Nat} {ids : List UUID}
    (hkeys : (jobs.map Job.id).Nodup)
    (hbatch : Draining.IsBatch Job.id window.eligible size jobs ids) (sweep : Sweep) :
    ({ sweep with phase := .delete ids, flagged := [] } : Sweep).Tracks jobs := by
  intro ids' hphase job hjob hid flag
  obtain rfl : ids = ids' := SweepPhase.delete.inj hphase
  have hsafe := window.skips job (hbatch.due_of_mem hkeys hjob hid)
  refine iff_of_false (fun hflag => ?_) List.not_mem_nil
  rw [job.isProtected_iff.mpr ⟨flag, hflag⟩] at hsafe
  cases hsafe

theorem Sweep.Tracks.mono (h : sweep.Tracks jobs) {jobs' : List Job} (hsub : jobs' ⊆ jobs) :
    sweep.Tracks jobs' :=
  fun ids hphase job hjob => h ids hphase job (hsub hjob)

theorem FlagWrite.mem_record (write : FlagWrite) (flagged : List (UUID × ProtectionFlag))
    (x : UUID × ProtectionFlag) :
    x ∈ write.record flagged ↔
      if x = (write.jobId, write.flag) then write.value = true else x ∈ flagged := by
  unfold record
  by_cases hx : x = (write.jobId, write.flag)
  · cases hvalue : write.value <;> simp [hx]
  · cases hvalue : write.value <;> simp [hx]

theorem FlagWrite.keys_onRows (write : FlagWrite) (rows : List Job) :
    (write.onRows rows).map Job.id = rows.map Job.id := by
  unfold onRows
  rw [List.map_map]
  refine List.map_congr_left fun job _ => ?_
  show (if job.id = write.jobId then _ else job : Job).id = job.id
  split
  · exact job.id_withFlag _ _
  · rfl

theorem Sweep.Tracks.flag (h : sweep.Tracks jobs) (write : FlagWrite) :
    ({ sweep with flagged := write.record sweep.flagged } : Sweep).Tracks (write.onRows jobs) := by
  intro ids hphase job' hjob' hid flag
  obtain ⟨job, hjob, rfl⟩ := List.mem_map.mp hjob'
  show _ ↔ _ ∈ write.record sweep.flagged
  rw [write.mem_record]
  by_cases hjobId : job.id = write.jobId
  · rw [if_pos hjobId] at hid ⊢
    rw [job.id_withFlag] at hid ⊢
    rw [job.flag_withFlag]
    -- of the job itself only the flag that is written changes
    by_cases hflag : flag = write.flag
    · rw [if_pos hflag, if_pos (Prod.ext hjobId hflag)]
    · rw [if_neg hflag, if_neg fun heq => hflag (Prod.mk.inj heq).2]
      exact h ids hphase job hjob hid flag
  · rw [if_neg hjobId] at hid ⊢
    rw [if_neg fun heq => hjobId (Prod.mk.inj heq).1]
    exact h ids hphase job hjob hid flag

theorem forall_mem_set {P : Sweep → Prop} {sweeps : List Sweep} (h : ∀ sweep ∈ sweeps, P sweep)
    {i : Nat} (hsweep : P sweep) : ∀ sweep' ∈ sweeps.set i sweep, P sweep' := by
  intro sweep' hsweep'
  rcases List.mem_or_eq_of_mem_set hsweep' with hmem | rfl
  · exact h sweep' hmem
  · exact hsweep

/-- **What one statement does to the record**: it keeps saying which jobs are protected. -/
theorem Retention.Tracks.step (h : s.Tracks) (hstep : RetentionStep s event s') : s'.Tracks := by
  cases hstep with
  | start hphase =>
    refine ⟨h.keys, ?_⟩
    rw [List.forall_mem_append, List.forall_mem_singleton]
    refine ⟨h.sweeps, .of_phase fun ids hdelete => ?_⟩
    -- a sweep starts with a count
    rw [hphase] at hdelete
    cases hdelete
  | count _ _ _ =>
    refine ⟨h.keys, forall_mem_set h.sweeps ?_⟩
    split
    · exact Sweep.next_tracks _ _
    · exact .of_phase fun _ hdelete => by cases hdelete
  | select _ _ _ hbatch =>
    refine ⟨h.keys, forall_mem_set h.sweeps ?_⟩
    split
    · exact Sweep.next_tracks _ _
    · exact Sweep.selected_tracks h.keys hbatch _
  | delete hsweep hphase =>
    refine ⟨h.keys.sublist (List.filter_sublist.map _), forall_mem_set ?_ ?_⟩
    · exact fun sweep hmem => (h.sweeps sweep hmem).mono List.filter_sublist.subset
    · split
      · exact Sweep.next_tracks _ _
      · exact .of_phase fun _ hdelete => by cases hdelete
  | flag write =>
    refine ⟨?_, ?_⟩
    · show ((write.onRows s.jobs).map Job.id).Nodup
      rw [write.keys_onRows]
      exact h.keys
    · intro sweep hsweep
      obtain ⟨sweep, hmem, rfl⟩ := List.mem_map.mp hsweep
      exact (h.sweeps sweep hmem).flag write

/-! ## Runs -/

def Retention.SparesProtected (s : Retention) : Prop := ∀ job ∈ s.deleted, job.isProtected = false

/-- At the deletion of a batch, none of its jobs has got a flag since the batch was selected. -/
def Retention.DeletesUnflagged (s : Retention) : RetentionEvent → Prop
  | .delete i => ∀ sweep ids, s.sweeps[i]? = some sweep → sweep.phase = .delete ids →
      ∀ job ∈ s.jobs, job.id ∈ ids → ∀ flag, (job.id, flag) ∉ sweep.flagged
  | _ => True

theorem sparesProtected_step_iff (htracks : s.Tracks) (hspares : s.SparesProtected)
    (hstep : RetentionStep s event s') : s'.SparesProtected ↔ s.DeletesUnflagged event := by
  cases hstep with
  | start _ => exact iff_of_true hspares trivial
  | count _ _ _ => exact iff_of_true hspares trivial
  | select _ _ _ _ => exact iff_of_true hspares trivial
  | flag write => exact iff_of_true hspares trivial
  | delete hsweep hphase =>
    rename_i i sweep ids
    have hrecord := htracks.sweeps sweep (List.mem_of_getElem? hsweep) ids hphase
    show (∀ job ∈ s.deleted ++ _, _) ↔ _
    rw [List.forall_mem_append]
    constructor
    · rintro ⟨-, hsafe⟩ sweep' ids' hsweep' hphase' job hjob hid flag hflagged
      obtain rfl := Option.some.inj (hsweep.symm.trans hsweep')
      obtain rfl := SweepPhase.delete.inj (hphase.symm.trans hphase')
      -- a job of the batch is protected if the record lists one of its flags
      have hprotected := job.isProtected_iff.mpr ⟨flag, (hrecord job hjob hid flag).mpr hflagged⟩
      have := hsafe job (List.mem_filter.mpr ⟨hjob, decide_eq_true hid⟩)
      rw [hprotected] at this
      cases this
    · intro hunflagged
      refine ⟨hspares, fun job hmem => ?_⟩
      obtain ⟨hjob, hid⟩ := List.mem_filter.mp hmem
      have hid := of_decide_eq_true hid
      rw [Bool.eq_false_iff]
      intro hprotected
      obtain ⟨flag, hflag⟩ := job.isProtected_iff.mp hprotected
      exact hunflagged sweep ids hsweep hphase job hjob hid flag ((hrecord job hjob hid flag).mp hflag)

/-- **The runs that delete no protected job**, from a table at which nothing is going on: at every
deletion, no job of the batch has got a flag since the batch was selected. -/
theorem protected_never_deleted_iff (hkeys : (s.jobs.map Job.id).Nodup) (hsweeps : s.sweeps = [])
    (hdeleted : s.deleted = []) {steps : List (Retention × RetentionEvent)}
    (h : RetentionRun s steps s') :
    (∀ t ∈ Runs.visited steps s', t.SparesProtected) ↔
      ∀ x ∈ steps, x.1.DeletesUnflagged x.2 := by
  rw [Runs.forall_mem_visited]
  refine h.forall_iff (I := Retention.Tracks) (P := Retention.SparesProtected)
    (C := Retention.DeletesUnflagged) ⟨hkeys, ?_⟩ ?_ (fun _ _ _ ht hstep => ht.step hstep)
    (fun _ _ _ ht hP hstep => sparesProtected_step_iff ht hP hstep)
  · rw [hsweeps]
    exact List.forall_mem_nil _
  · unfold Retention.SparesProtected
    rw [hdeleted]
    exact List.forall_mem_nil _

/-! ### A flag between the two statements -/

/-- A job that succeeded before the retention window. -/
def oldJob : Job where
  id := 1
  celeryTaskId := "task-1"
  jobType := .slaComputation
  status := .success
  finishedAt := some 0

def dailySweep : Sweep := cleanupOldJobs {} (days 40) none false 500

def sweeping (phase : SweepPhase) : Retention where
  jobs := [oldJob]
  sweeps := [{ dailySweep with phase }]

/-- A flag has been committed before the deletion. -/
def sweepingFlagged (write : FlagWrite) : Retention where
  jobs := write.onRows [oldJob]
  sweeps := [{ dailySweep with phase := .delete [1], flagged := write.record [] }]

def sweptEnd (write : FlagWrite) : Retention where
  jobs := (write.onRows [oldJob]).filter fun job => decide (job.id ∉ [1])
  sweeps := [dailySweep.next]
  deleted := (write.onRows [oldJob]).filter fun job => decide (job.id ∈ [1])

def sweptSteps (write : FlagWrite) : List (Retention × RetentionEvent) :=
  [({ jobs := [oldJob] }, .start dailySweep), (sweeping .count, .count 0),
    (sweeping .select, .select 0 [1]), (sweeping (.delete [1]), .flag write),
    (sweepingFlagged write, .delete 0)]

theorem sweptRun (write : FlagWrite) :
    RetentionRun { jobs := [oldJob] } (sweptSteps write) (sweptEnd write) := by
  have hwindow : dailySweep.windows.head? = some (statusWindow (days 40) .success 30) := rfl
  have hbatch : Draining.IsBatch Job.id (statusWindow (days 40) .success 30).eligible 500 [oldJob]
      [1] :=
    Draining.isBatch_take (by decide)
  have hsweep (phase : SweepPhase) :
      (sweeping phase).sweeps[0]? = some { dailySweep with phase } := rfl
  have hstart : RetentionStep { jobs := [oldJob] } (.start dailySweep) (sweeping .count) :=
    .start _ rfl
  have hcount : RetentionStep (sweeping .count) (.count 0) (sweeping .select) :=
    .count (hsweep _) rfl hwindow
  have hselect := RetentionStep.select (hsweep .select) rfl hwindow hbatch
  have hflag : RetentionStep (sweeping (.delete [1])) (.flag write) (sweepingFlagged write) :=
    .flag _ write
  have hbatched : (sweepingFlagged write).sweeps[0]? =
      some { dailySweep with phase := .delete [1], flagged := write.record [] } := rfl
  have hdelete := RetentionStep.delete hbatched rfl
  exact ((((Runs.Run.nil.snoc hstart).snoc hcount).snoc hselect).snoc hflag).snoc hdelete

/-- **A job that is put under investigation after it has been selected is deleted.** -/
theorem job_under_investigation_is_deleted :
    ¬ ∀ (s s' : Retention) (steps : List (Retention × RetentionEvent)),
      (s.jobs.map Job.id).Nodup → s.sweeps = [] → s.deleted = [] → RetentionRun s steps s' →
        ∀ t ∈ Runs.visited steps s', t.SparesProtected := by
  intro hall
  have hspares := hall _ _ _ (by decide) rfl rfl (sweptRun (setInvestigationFlag 1 true))
  have hlast := (Runs.forall_mem_visited.mp hspares).2
  have := hlast _ List.mem_cons_self
  revert this
  decide

/-- The flag of another job does no harm. -/
theorem protected_never_deleted_otherJob :
    (sweptEnd (setDisputeFlag 2 true)).deleted = [oldJob] ∧
      ∀ t ∈ Runs.visited (sweptSteps (setDisputeFlag 2 true)) (sweptEnd (setDisputeFlag 2 true)),
        t.SparesProtected := by
  refine ⟨rfl, (protected_never_deleted_iff (by decide) rfl rfl (sweptRun _)).mpr ?_⟩
  have hdelete : (sweepingFlagged (setDisputeFlag 2 true)).DeletesUnflagged (.delete 0) := by
    intro sweep ids hsweep hphase job hjob _ flag hflagged
    obtain rfl := List.mem_singleton.mp hjob
    obtain rfl := Option.some.inj hsweep
    have hother := List.mem_singleton.mp hflagged
    cases hother
  simp only [sweptSteps, List.forall_mem_cons]
  exact ⟨trivial, trivial, trivial, trivial, hdelete, List.forall_mem_nil _⟩

end NocIq
