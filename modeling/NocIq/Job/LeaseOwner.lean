import NocIq.Job.Sessions

/-!
# NocIq — the owner of a lease

A heartbeat writes its worker into the job without looking at the one that is there, and a worker
that has lost its job is not told.

* **`mem_reclaimed_iff`** — the record of reclamations is the history of the run.
* **`keepsLease_iff`** / **`leavesJob_iff`** — the commits that respect the owner.
* **`single_owner_iff`** — hence the runs in which a job has one owner at a time.
-/

namespace NocIq

variable {env : JobEnv}

/-- The lease runs at `now`. -/
def Job.HoldsLease (now : Time) (job : Job) : Prop := ∃ t ∈ job.leaseExpiresAt, now ≤ t

namespace JobSession

/-- The worker whose heartbeat or completion this is. -/
def owner (session : JobSession) : Option String :=
  match session.write with
  | .callback worker c => if c.IsEnd || c.IsHeartbeat then some worker else none
  | .heartbeat worker _ => some worker
  | _ => none

/-- The row has all that the session is to write. -/
def Repeats (env : JobEnv) (session : JobSession) (row : Job) : Prop :=
  match session.write with
  | .callback _ (.recoverSuccess now result) =>
    Job.Repeats row (row.recoverSuccess now result) row
  | write => Job.Repeats session.loaded (write.apply env session.loaded) row

theorem update_eq_iff (env : JobEnv) (session : JobSession) (row : Job) :
    session.update env row = row ↔ session.Repeats env row := by
  obtain ⟨write, loaded⟩ := session
  cases write with
  | callback worker callback =>
    cases callback with
    | recoverSuccess now result =>
      -- its columns are written as they are, that is, against the row itself
      have hself : Job.update row (row.recoverSuccess now result) row =
          row.recoverSuccess now result := Job.update_loaded rfl rfl
      have hrow := Job.update_eq_current_iff row (row.recoverSuccess now result) row
      rw [hself] at hrow
      exact hrow
    | _ => exact Job.update_eq_current_iff _ _ _
  | _ => exact Job.update_eq_current_iff _ _ _

end JobSession

namespace JobSystem

variable {s s' : JobSystem} {event : SessionEvent} {session : JobSession} {id : UUID}
  {worker : String}

/-! ## History -/

def Commits (s : JobSystem) (event : SessionEvent) (session : JobSession) : Prop :=
  ∃ i, event = .commit i ∧ s.sessions[i]? = some session

/-- The event reclaims the job of the id from the worker. -/
def TakesFrom (s : JobSystem) (event : SessionEvent) (id : UUID) (worker : String) : Prop :=
  ∃ session, s.Commits event session ∧
    (id, worker) ∈ losers session (s.store.job session.loaded.id)

theorem not_takesFrom_of_ne (h : ∀ i, event ≠ .commit i) : ¬ s.TakesFrom event id worker := by
  rintro ⟨session, ⟨i, hi, -⟩, -⟩
  exact h i hi

theorem mem_reclaimed_serve_iff (env : JobEnv) (s : JobSystem) (event : SessionEvent) :
    (id, worker) ∈ (serve env s event).reclaimed ↔
      (id, worker) ∈ s.reclaimed ∨ s.TakesFrom event id worker := by
  have hkept (h : (serve env s event).reclaimed = s.reclaimed) (hne : ∀ i, event ≠ .commit i) :
      (id, worker) ∈ (serve env s event).reclaimed ↔
        (id, worker) ∈ s.reclaimed ∨ s.TakesFrom event id worker := by
    rw [h]
    exact ⟨.inl, fun hor => hor.resolve_right (not_takesFrom_of_ne hne)⟩
  cases event with
  | commit i =>
    show _ ∈ (s.commit env i).reclaimed ↔ _
    unfold commit TakesFrom Commits
    cases hsession : s.sessions[i]? with
    | none => simp [hsession]
    | some session => simp [hsession]
  | requeue call => exact hkept rfl fun _ h => by cases h
  | callback | poll | cancel | heartbeatJob | recordHeartbeat | reclaim | reload =>
    refine hkept (Unwritten.reclaimed (serve_unwritten env s ?_ ?_)) fun _ h => by cases h
    · exact fun _ h => by cases h
    · exact fun _ h => by cases h

/-- **The record is the history**: a job has been reclaimed from the workers from which a step of
the run has taken it. Induction on the run. -/
theorem mem_reclaimed_iff (hreclaimed : s.reclaimed = []) {steps : List (JobSystem × SessionEvent)}
    (h : Run env s steps s') :
    (id, worker) ∈ s'.reclaimed ↔ ∃ x ∈ steps, x.1.TakesFrom x.2 id worker := by
  induction h with
  | nil =>
    rw [hreclaimed]
    simp
  | snoc hrun hstep ih =>
    rw [← hstep, mem_reclaimed_serve_iff, ih]
    simp [or_and_right, exists_or]

/-! ## Commits that respect the owner -/

/-- A heartbeat leaves the owner of a lease that runs. -/
def KeepsLease (env : JobEnv) (s : JobSystem) (event : SessionEvent) : Prop :=
  ∀ session, s.Commits event session → ∀ worker now, session.write = .heartbeat worker now →
    ∀ row ∈ s.store.job session.loaded.id, ∀ owner ∈ row.workerId, owner ≠ worker →
      row.HoldsLease now →
        ∀ row' ∈ (serve env s event).store.job session.loaded.id, row'.workerId = some owner

/-- After a job has been reclaimed from a worker, its heartbeats and completions leave the job. -/
def LeavesReclaimed (env : JobEnv) (steps : List (JobSystem × SessionEvent)) : Prop :=
  ∀ before x after, steps = before ++ x :: after → ∀ session worker, x.1.Commits x.2 session →
    session.owner = some worker → (∃ y ∈ before, y.1.TakesFrom y.2 session.loaded.id worker) →
      (serve env x.1 x.2).store.job session.loaded.id = x.1.store.job session.loaded.id

/-- What a commit has to find: a heartbeat no lease of another worker that runs, unless it has
loaded its own; and a heartbeat or completion a job that has not been reclaimed from its worker,
unless it repeats what is there. -/
structure RespectsOwner (env : JobEnv) (s : JobSystem) (event : SessionEvent) : Prop where
  lease : ∀ session, s.Commits event session → ∀ worker now,
    session.write = .heartbeat worker now → ∀ row ∈ s.store.job session.loaded.id,
      ∀ owner ∈ row.workerId, owner ≠ worker → row.HoldsLease now →
        session.loaded.workerId = some worker
  reclaimed : ∀ session worker, s.Commits event session → session.owner = some worker →
    (session.loaded.id, worker) ∈ s.reclaimed →
      ∀ row ∈ s.store.job session.loaded.id, session.Repeats env row

theorem job_serve_commits (env : JobEnv) (h : s.Commits event session) :
    (serve env s event).store.job session.loaded.id =
      (s.store.job session.loaded.id).map (session.update env) := by
  obtain ⟨i, rfl, hsession⟩ := h
  show (s.commit env i).store.job session.loaded.id = _
  unfold commit
  rw [hsession]
  show (s.store.commit env session).job session.loaded.id = _
  rw [JobStore.job_commit]
  simp only [if_true]

theorem keepsLease_iff (env : JobEnv) (s : JobSystem) (event : SessionEvent) :
    s.KeepsLease env event ↔ ∀ session, s.Commits event session → ∀ worker now,
      session.write = .heartbeat worker now → ∀ row ∈ s.store.job session.loaded.id,
        ∀ owner ∈ row.workerId, owner ≠ worker → row.HoldsLease now →
          session.loaded.workerId = some worker := by
  refine forall₂_congr fun session hcommits => forall₃_congr fun worker now hwrite =>
    forall₂_congr fun row hrow => forall₂_congr fun owner howner =>
      forall₂_congr fun hne _ => ?_
  -- of the row it is the column of the worker that matters
  have hworker : (session.update env row).workerId =
      column session.loaded.workerId (some worker) row.workerId := by
    obtain ⟨write, loaded⟩ := session
    cases hwrite
    rfl
  rw [job_serve_commits env hcommits, show s.store.job session.loaded.id = some row from hrow]
  simp only [Option.map_some, Option.mem_def, Option.some.injEq, forall_eq', hworker]
  rw [show row.workerId = some owner from howner, column_eq_current_iff]
  unfold HasColumn
  constructor
  · rintro (hloaded | hsame)
    · exact hloaded.symm
    · exact absurd (Option.some.inj hsame).symm hne
  · intro hloaded
    exact .inl hloaded.symm

theorem leavesJob_iff (env : JobEnv) (h : s.Commits event session) :
    (serve env s event).store.job session.loaded.id = s.store.job session.loaded.id ↔
      ∀ row ∈ s.store.job session.loaded.id, session.Repeats env row := by
  rw [job_serve_commits env h]
  cases s.store.job session.loaded.id with
  | none => simp
  | some row =>
    simp only [Option.map_some, Option.mem_def, Option.some.injEq, forall_eq']
    exact session.update_eq_iff env row

/-- **The runs in which a job has one owner at a time.** -/
theorem single_owner_iff (hreclaimed : s.reclaimed = []) {steps : List (JobSystem × SessionEvent)}
    (h : Run env s steps s') :
    ((∀ x ∈ steps, x.1.KeepsLease env x.2) ∧ LeavesReclaimed env steps) ↔
      ∀ x ∈ steps, x.1.RespectsOwner env x.2 := by
  have hhistory {before after : List (JobSystem × SessionEvent)} {x : JobSystem × SessionEvent}
      (hsplit : steps = before ++ x :: after) (id : UUID) (worker : String) :
      (id, worker) ∈ x.1.reclaimed ↔ ∃ y ∈ before, y.1.TakesFrom y.2 id worker := by
    -- the record before a step is the history of the steps before it
    rw [hsplit] at h
    obtain ⟨_, hbefore, -, -⟩ := h.split
    exact mem_reclaimed_iff hreclaimed hbefore
  constructor
  · rintro ⟨hlease, hleaves⟩ x hx
    refine ⟨(keepsLease_iff env x.1 x.2).mp (hlease x hx), ?_⟩
    intro session worker hcommits howner hmem
    obtain ⟨before, after, hsplit⟩ := List.append_of_mem hx
    have htaken := (hhistory hsplit session.loaded.id worker).mp hmem
    exact (leavesJob_iff env hcommits).mp
      (hleaves before x after hsplit session worker hcommits howner htaken)
  · intro hall
    refine ⟨fun x hx => (keepsLease_iff env x.1 x.2).mpr (hall x hx).lease, ?_⟩
    intro before x after hsplit session worker hcommits howner htaken
    have hx : x ∈ steps := hsplit ▸ List.mem_append_right before List.mem_cons_self
    have hmem := (hhistory hsplit session.loaded.id worker).mpr htaken
    exact (leavesJob_iff env hcommits).mpr
      ((hall x hx).reclaimed session worker hcommits howner hmem)

/-! ### A second worker -/

def leasedJob : Job where
  id := 1
  celeryTaskId := "task-1"
  jobType := .slaComputation
  status := .started
  workerId := some "worker-1"
  heartbeatAt := some 1000000
  leaseExpiresAt := some 121000000

def leased : JobSystem := { store := { jobs := [leasedJob] } }

def secondHeartbeat : List SessionEvent := [.heartbeatJob "task-1" "worker-2" 2000000, .commit 0]

/-- **A heartbeat takes the job from a worker whose lease runs.** -/
theorem heartbeat_takes_leased_job :
    ¬ ∀ (env : JobEnv) (s s' : JobSystem) (steps : List (JobSystem × SessionEvent)),
      s.reclaimed = [] → Run env s steps s' →
        (∀ x ∈ steps, x.1.KeepsLease env x.2) ∧ LeavesReclaimed env steps := by
  intro hall
  obtain ⟨hlease, -⟩ := hall JobStore.jobEnv leased _ _ rfl
    (Runs.replay_run (serve JobStore.jobEnv) leased secondHeartbeat)
  have hlast := hlease (_, .commit 0) (.tail _ (.head _))
  have howner := hlast _ ⟨0, rfl, rfl⟩ "worker-2" 2000000 rfl leasedJob rfl "worker-1" rfl
    (by decide) ⟨121000000, rfl, by decide⟩ _ rfl
  exact absurd howner (by decide)

theorem respectsOwner_of_ne (env : JobEnv) (s : JobSystem) (h : ∀ i, event ≠ .commit i) :
    s.RespectsOwner env event where
  lease := by
    rintro session ⟨i, hi, -⟩
    exact absurd hi (h i)
  reclaimed := by
    rintro session worker ⟨i, hi, -⟩
    exact absurd hi (h i)

/-- The lease is over, and the job goes to another worker. -/
def takeover : List SessionEvent :=
  [.reclaim 200000000 [1], .reload 0, .commit 0, .recordHeartbeat 1 "worker-2" 210000000, .commit 0]

theorem single_owner_takeover :
    (∀ x ∈ Runs.replay (serve JobStore.jobEnv) leased takeover,
      x.1.KeepsLease JobStore.jobEnv x.2) ∧
      LeavesReclaimed JobStore.jobEnv (Runs.replay (serve JobStore.jobEnv) leased takeover) := by
  refine (single_owner_iff rfl (Runs.replay_run _ leased takeover)).mpr ?_
  simp only [takeover, Runs.replay, List.forall_mem_cons]
  refine ⟨respectsOwner_of_ne _ _ (fun _ h => by cases h),
    respectsOwner_of_ne _ _ (fun _ h => by cases h), ⟨?_, ?_⟩,
    respectsOwner_of_ne _ _ (fun _ h => by cases h), ⟨?_, ?_⟩, List.forall_mem_nil _⟩
  · rintro session ⟨i, hi, hsession⟩ worker now hwrite
    cases hi
    obtain rfl := Option.some.inj hsession
    cases hwrite
  · rintro session worker ⟨i, hi, hsession⟩ howner
    cases hi
    obtain rfl := Option.some.inj hsession
    cases howner
  · rintro session ⟨i, hi, hsession⟩ worker now hwrite row hrow owner howner
    cases hi
    obtain rfl := Option.some.inj hsession
    obtain rfl := Option.some.inj hrow
    cases howner
  · rintro session worker ⟨i, hi, hsession⟩ howner hmem
    cases hi
    obtain rfl := Option.some.inj hsession
    obtain rfl := Option.some.inj howner
    exact absurd hmem (by decide)

end JobSystem

end NocIq
