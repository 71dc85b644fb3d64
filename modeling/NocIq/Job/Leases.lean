import Mathlib.Data.Rat.Floor
import NocIq.Job.Lifecycle
import NocIq.Lib.Draining

/-!
# NocIq — reclaiming stale leases

`reclaim_stale_leases` takes a batch of stale jobs, in the order in which the database happens to
give them, and returns them to `PENDING`. A job is stale if it is started, its lease has expired
and it has a worker. A call raises, but only after its commit, and it is the table that matters here.

* **`reclaimSelected_jobs`** — what a call does with the jobs it has selected.
* **`staleLeases_reclaimed`** — enough calls reclaim all stale jobs, and touch no other.
-/

namespace NocIq

variable {env : JobEnv} {s s' : JobStore} {now : Time} {batchSize : Nat}

/-! ## Calls -/

/-- The table that `reclaim_stale_leases` commits, with the jobs that the query has given. -/
def reclaimSelected (env : JobEnv) (now : Time) (dryRun : Bool) (selected : List Job)
    (s : JobStore) : JobStore :=
  if dryRun then s else selected.foldl (fun s job => s.put (job.reclaim env now)) s

/-- The jobs of a query with a limit and no order. -/
structure IsStaleBatch (now : Time) (batchSize : Nat) (s : JobStore) (selected : List Job) :
    Prop where
  rows : ∀ job ∈ selected, job ∈ s.jobs
  batch : Draining.IsBatch Job.id (Job.isStale now) batchSize s.jobs (selected.map Job.id)

/-- Some calls, one after another. -/
inductive Reclaims (env : JobEnv) (now : Time) (batchSize : Nat) (dryRun : Bool) :
    Nat → JobStore → JobStore → Prop where
  | none (s : JobStore) : Reclaims env now batchSize dryRun 0 s s
  | more {calls : Nat} {s s' : JobStore} {selected : List Job}
      (hselected : IsStaleBatch now batchSize s selected)
      (hrest : Reclaims env now batchSize dryRun calls (reclaimSelected env now dryRun selected s)
        s') :
      Reclaims env now batchSize dryRun (calls + 1) s s'

/-! ## One call -/

theorem isStale_reclaim (env : JobEnv) (now : Time) (job : Job) :
    (job.reclaim env now).isStale now = false := by
  rfl

/-- Rows that are put in their places, one after another. Induction on the rows. -/
theorem jobs_foldl_put (work : Job → Job) (hid : ∀ job, (work job).id = job.id)
    {selected : List Job} (hrows : ∀ job ∈ selected, ∀ r ∈ s.jobs, r.id = job.id → r = job)
    (hselected : (selected.map Job.id).Nodup) :
    (selected.foldl (fun s job => s.put (work job)) s).jobs =
      Draining.workOn Job.id work (selected.map Job.id) s.jobs := by
  unfold Draining.workOn
  induction selected generalizing s with
  | nil => simp
  | cons job selected ih =>
    rw [List.map_cons, List.nodup_cons] at hselected
    -- the later jobs of the batch are still in their places
    have hnext : ∀ job' ∈ selected, ∀ r ∈ (s.put (work job)).jobs, r.id = job'.id → r = job' := by
      intro job' hjob' r hr hrid
      obtain ⟨r', hr', rfl⟩ := List.mem_map.mp hr
      have hne : job.id ≠ job'.id := fun h => hselected.1 (h ▸ List.mem_map_of_mem hjob')
      by_cases heq : r'.id = (work job).id
      · rw [if_pos heq, hid] at hrid
        exact absurd hrid hne
      · rw [if_neg heq] at hrid ⊢
        exact hrows job' (List.mem_cons_of_mem _ hjob') r' hr' hrid
    rw [List.foldl_cons, ih hnext hselected.2]
    show (s.jobs.map fun r => if r.id = (work job).id then work job else r).map _ = _
    rw [List.map_map]
    refine List.map_congr_left fun r hr => ?_
    show (if (if r.id = (work job).id then work job else r).id ∈ selected.map Job.id then
        work (if r.id = (work job).id then work job else r)
      else if r.id = (work job).id then work job else r) = _
    rw [hid, List.map_cons]
    by_cases heq : r.id = job.id
    · obtain rfl := hrows job List.mem_cons_self r hr heq
      rw [if_pos rfl, hid, if_neg hselected.1, if_pos List.mem_cons_self]
    · rw [if_neg heq]
      by_cases hmem : r.id ∈ selected.map Job.id
      · rw [if_pos hmem, if_pos (List.mem_cons_of_mem _ hmem)]
      · rw [if_neg hmem, if_neg (by rw [List.mem_cons]; exact not_or.mpr ⟨heq, hmem⟩)]

/-- **What a call does**: the jobs of the batch are reclaimed. -/
theorem reclaimSelected_jobs (env : JobEnv) (hkey : (s.jobs.map Job.id).Nodup) {selected : List Job}
    (hselected : IsStaleBatch now batchSize s selected) :
    (reclaimSelected env now false selected s).jobs =
      Draining.workOn Job.id (Job.reclaim env now) (selected.map Job.id) s.jobs := by
  refine jobs_foldl_put (Job.reclaim env now) (fun _ => rfl) ?_ hselected.batch.nodup
  intro job hjob r hr hid
  exact List.inj_on_of_nodup_map hkey hr (hselected.rows job hjob) hid

/-! ## All calls -/

theorem Reclaims.drains {calls : Nat} (h : Reclaims env now batchSize false calls s s')
    (hkey : (s.jobs.map Job.id).Nodup) :
    Draining.Drains Job.id (Job.isStale now) (Job.reclaim env now) batchSize calls s.jobs
      s'.jobs := by
  induction h with
  | none s => exact .none s.jobs
  | @more calls s s' selected hselected _ ih =>
    have hjobs := reclaimSelected_jobs env hkey hselected
    have hkeys : ((reclaimSelected env now false selected s).jobs.map Job.id).Nodup := by
      have hsame : ∀ job : Job, (job.reclaim env now).id = job.id := fun _ => rfl
      rw [hjobs, Draining.keys_workOn hsame]
      exact hkey
    exact .more hselected.batch (hjobs ▸ ih hkeys)

theorem Reclaims.dryRun {calls : Nat} (h : Reclaims env now batchSize true calls s s') : s' = s := by
  induction h with
  | none s => rfl
  | more _ _ ih => exact ih

def Job.leaseIsOver (now : Time) (job : Job) : Bool :=
  decide (job.status = .started) && job.leaseExpiresAt.any fun t => decide (t < now)

theorem isStale_iff (now : Time) (job : Job) :
    job.isStale now = true ↔ job.leaseIsOver now = true ∧ job.workerId.isSome = true := by
  unfold Job.isStale Job.leaseIsOver
  simp only [Bool.and_eq_true]
  tauto

def callsNeeded (jobs batchSize : Nat) : Nat := ⌈(jobs : ℚ) / batchSize⌉₊

theorem le_callsNeeded_mul (jobs : Nat) (hsize : 1 ≤ batchSize) :
    jobs ≤ callsNeeded jobs batchSize * batchSize := by
  have hpos : (0 : ℚ) < batchSize := by exact_mod_cast hsize
  have hceil : (jobs : ℚ) / batchSize ≤ callsNeeded jobs batchSize := Nat.le_ceil _
  rw [div_le_iff₀ hpos] at hceil
  exact_mod_cast hceil

/-- **Stale leases are reclaimed**: after `⌈n / batchSize⌉` calls on a table with `n` stale jobs,
these have been returned to `PENDING`, and the other jobs are what they were. A started job whose
lease is over and that is left has no worker. A dry run changes nothing. -/
theorem staleLeases_reclaimed (hkey : (s.jobs.map Job.id).Nodup) (hsize : 1 ≤ batchSize)
    {dryRun : Bool} (h : Reclaims env now batchSize dryRun
      (callsNeeded (s.jobs.countP (Job.isStale now)) batchSize) s s') :
    if dryRun then s' = s
    else
      (∀ job ∈ s'.jobs, job.leaseIsOver now = true → job.workerId = none) ∧
        ∀ job ∈ s.jobs, if job.isStale now then job.reclaim env now ∈ s'.jobs else job ∈ s'.jobs := by
  cases dryRun with
  | true => exact h.dryRun
  | false =>
    have hdrains := h.drains hkey
    have hnone := hdrains.countP_eq_zero hkey (fun _ => rfl) (isStale_reclaim env now)
      (le_callsNeeded_mul _ hsize)
    rw [List.countP_eq_zero] at hnone
    refine ⟨?_, ?_⟩
    · intro job hjob hover
      rw [← Option.not_isSome_iff_eq_none]
      intro hworker
      exact hnone job hjob ((isStale_iff now job).mpr ⟨hover, hworker⟩)
    · intro job hjob
      split
      · rename_i hstale
        -- it has been reclaimed, or is there as it was; and nothing stale is left
        rcases hdrains.mem_or_mem hkey (fun _ => rfl) (isStale_reclaim env now) hjob with hmem | hmem
        · exact absurd hstale (hnone job hmem)
        · exact hmem
      · rename_i hstale
        exact hdrains.mem_of_not_due hkey (fun _ => rfl) hjob (Bool.eq_false_iff.mpr hstale)

/-! ### A job without a worker -/

/-- The calls that are needed for all started jobs whose lease is over reclaim them, with a worker
or without. -/
def ReclaimsAll (env : JobEnv) (now : Time) (batchSize : Nat) (s : JobStore) : Prop :=
  ∀ s', Reclaims env now batchSize false
      (callsNeeded (s.jobs.countP (Job.leaseIsOver now)) batchSize) s s' →
    ∀ job ∈ s'.jobs, job.leaseIsOver now = false

def startedRun : List JobOperation :=
  [.submit "device-1" "2026-09" none ⟨.ok "task-1", 1⟩, .markStarted "task-1" 1000000]

/-- **A job whose worker has died before its first heartbeat stays started.** -/
theorem job_without_worker_stays_started :
    ¬ ∀ (env : JobEnv) (steps : List (JobStore × JobOperation)) (s : JobStore),
      JobRun env {} steps s → ∀ (now : Time) (batchSize : Nat), 1 ≤ batchSize →
        ReclaimsAll env now batchSize s := by
  intro hall
  have hrun := Runs.replay_run (serveJobs JobStore.jobEnv) {} startedRun
  generalize hs : startedRun.foldl (serveJobs JobStore.jobEnv) {} = s at hrun
  have hover : s.jobs.countP (Job.leaseIsOver 1000000000) = 1 := by
    rw [← hs]
    decide +kernel
  have hstale : s.jobs.countP (Job.isStale 1000000000) = 0 := by
    rw [← hs]
    decide +kernel
  have hbatch : IsStaleBatch 1000000000 50 s [] := by
    refine ⟨List.forall_mem_nil _, ⟨List.nodup_nil, List.forall_mem_nil _, ?_⟩⟩
    rw [hstale]
    rfl
  have hcalls : callsNeeded (s.jobs.countP (Job.leaseIsOver 1000000000)) 50 = 1 := by
    rw [hover]
    exact (Nat.ceil_eq_iff (by decide)).mpr (by norm_num)
  have hleft := hall JobStore.jobEnv _ s hrun 1000000000 50 (by decide) s
  rw [hcalls] at hleft
  have hnone := List.countP_eq_zero.mpr fun job hjob =>
    Bool.eq_false_iff.mp (hleft (.more hbatch (.none s)) job hjob)
  rw [hover] at hnone
  cases hnone

def startedJob (id : UUID) (workerId : Option String) : Job where
  id
  celeryTaskId := "task-" ++ toString id.toNat
  jobType := .slaComputation
  status := .started
  leaseExpiresAt := some 5000000
  workerId

def twoStarted : JobStore where
  jobs := [startedJob 1 (some "worker-1"), startedJob 2 none]

theorem staleLeases_reclaimed_twoStarted :
    (startedJob 1 (some "worker-1")).reclaim JobStore.jobEnv 1000000000 ∈
      (reclaimSelected JobStore.jobEnv 1000000000 false [startedJob 1 (some "worker-1")]
        twoStarted).jobs := by
  have hkey : (twoStarted.jobs.map Job.id).Nodup := by decide
  have hbatch : IsStaleBatch 1000000000 50 twoStarted [startedJob 1 (some "worker-1")] := by
    refine ⟨?_, ⟨by decide, ?_, by decide⟩⟩
    · intro job hjob
      rw [List.mem_singleton.mp hjob]
      exact List.mem_cons_self
    · intro id hid
      rw [List.mem_singleton.mp hid]
      exact ⟨_, List.mem_cons_self, rfl, by decide⟩
  have hcalls : callsNeeded (twoStarted.jobs.countP (Job.isStale 1000000000)) 50 = 1 := by
    have hcount : twoStarted.jobs.countP (Job.isStale 1000000000) = 1 := by decide
    rw [hcount]
    exact (Nat.ceil_eq_iff (by decide)).mpr (by norm_num)
  have hrun : Reclaims JobStore.jobEnv 1000000000 50 false
      (callsNeeded (twoStarted.jobs.countP (Job.isStale 1000000000)) 50) twoStarted
      (reclaimSelected JobStore.jobEnv 1000000000 false [startedJob 1 (some "worker-1")]
        twoStarted) := by
    rw [hcalls]
    exact .more hbatch (.none _)
  exact (staleLeases_reclaimed hkey (by decide) hrun).2 _ List.mem_cons_self

end NocIq
