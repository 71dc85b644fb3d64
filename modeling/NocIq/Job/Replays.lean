import NocIq.Job.EnqueueRace

/-!
# NocIq — enqueuings of recoveries

Any number of calls of `enqueue_webhook_dr_replay` take turns. Each inserts its job under the same
placeholder, in a column that is unique, and gives the job its task at the end.

* **`insert_ok_iff`** — a call inserts its job exactly if no other call holds the placeholder.
* **`allInserted_iff`** — hence the runs in which all calls insert theirs.
* **`enqueue_outcome_iff`** — what this and the race with the task come to.
-/

namespace NocIq

/-! ## Calls -/

/-- A call of `enqueue_webhook_dr_replay`, and where it has got. -/
structure ReplayCall where
  startTime : Time
  endTime : Time
  answer : Dispatch
  phase : RequestPhase := .ready
  handed : Option String := none
  inserted : Bool := false

namespace ReplayCall

def enqueuing (call : ReplayCall) : Enqueuing :=
  ⟨.replay call.startTime call.endTime, call.answer⟩

def race (call : ReplayCall) (store : JobStore) : Race :=
  { store
    phase := call.phase
    handed := call.handed
    inserted := call.inserted
    todo := [] }

/-- The call after a step. -/
def next (call : ReplayCall) (r : Race) : ReplayCall :=
  { call with phase := r.phase, handed := r.handed, inserted := r.inserted }

/-- The job of the call has the placeholder as its task: the call has not come to its end yet, or
has failed after the insertion. -/
def Holds (call : ReplayCall) : Prop := call.inserted = true ∧ call.phase ≠ .ended

/-- The window does not end before it starts. -/
def IsValid (call : ReplayCall) : Prop := call.startTime ≤ call.endTime

instance (call : ReplayCall) : Decidable call.Holds := inferInstanceAs (Decidable (_ ∧ _))

instance (call : ReplayCall) : Decidable call.IsValid :=
  inferInstanceAs (Decidable (call.startTime ≤ call.endTime))

/-- The call has inserted its job, if it has begun. -/
def HasInserted (call : ReplayCall) : Prop :=
  call.IsValid → call.phase ≠ .ready → call.inserted = true

end ReplayCall

structure Replays where
  store : JobStore
  calls : List ReplayCall

namespace Replays

/-- The next step of a call. -/
def serve (env : JobEnv) (r : Replays) (i : Nat) : Replays :=
  match r.calls[i]? with
  | none => r
  | some call =>
    let race := (call.race r.store).request env call.enqueuing
    { store := race.store, calls := r.calls.set i (call.next race) }

abbrev Run (env : JobEnv) := Runs.Run fun (r : Replays) i r' => serve env r i = r'

def AllInserted (r : Replays) : Prop := ∀ call ∈ r.calls, call.HasInserted

/-- If the step is an insertion, no call holds the placeholder. -/
def FindsFree (r : Replays) (i : Nat) : Prop :=
  ∀ call ∈ r.calls[i]?, call.phase = .ready → call.IsValid → ∀ other ∈ r.calls, ¬ other.Holds

instance (r : Replays) (i : Nat) : Decidable (r.FindsFree i) :=
  inferInstanceAs (Decidable (∀ call ∈ r.calls[i]?, call.phase = .ready → call.IsValid →
    ∀ other ∈ r.calls, ¬ other.Holds))

/-- Calls that have not begun, with ids that are new, on a table without the placeholder. -/
structure IsFresh (r : Replays) : Prop where
  calls : ∀ call ∈ r.calls, call.phase = .ready ∧ call.handed = none ∧ call.inserted = false
  ids : (r.calls.map fun call => call.answer.jobId).Nodup
  rows : ∀ row ∈ r.store.jobs, row.celeryTaskId ≠ "pending" ∧
    ∀ call ∈ r.calls, row.id ≠ call.answer.jobId
  tasks : ∀ call ∈ r.calls, call.answer.task ≠ .ok "pending"

/-! ## What holds between the steps -/

/-- The placeholder stands in the rows of the calls that hold it. -/
structure Inv (r : Replays) : Prop where
  ids : (r.calls.map fun call => call.answer.jobId).Nodup
  tasks : ∀ call ∈ r.calls, call.answer.task ≠ .ok "pending"
  handed : ∀ call ∈ r.calls, ∀ taskId, call.handed = some taskId → call.answer.task = .ok taskId
  phase : ∀ call ∈ r.calls, Race.HasRow true call.inserted call.phase
  /-- the job of a call that has not inserted it is not there -/
  absent : ∀ call ∈ r.calls, call.inserted = false → ∀ row ∈ r.store.jobs,
    row.id ≠ call.answer.jobId
  /-- a row under the placeholder belongs to a call that holds it -/
  holder : ∀ row ∈ r.store.jobs, row.celeryTaskId = "pending" →
    ∃ call ∈ r.calls, call.Holds ∧ row.id = call.answer.jobId
  /-- a call that holds the placeholder has its row under it -/
  held : ∀ call ∈ r.calls, call.Holds → ∃ row ∈ r.store.jobs,
    row.id = call.answer.jobId ∧ row.celeryTaskId = "pending"

variable {env : JobEnv} {r : Replays} {i : Nat} {call : ReplayCall}

theorem IsFresh.inv (h : r.IsFresh) : r.Inv where
  ids := h.ids
  tasks := h.tasks
  handed call hcall taskId hhanded := by
    rw [(h.calls call hcall).2.1] at hhanded
    cases hhanded
  phase call hcall := by
    rw [(h.calls call hcall).1]
    exact (h.calls call hcall).2.2
  absent call hcall _ row hrow := (h.rows row hrow).2 call hcall
  holder row hrow hpending := absurd hpending (h.rows row hrow).1
  held call hcall hholds := by
    rw [ReplayCall.Holds, (h.calls call hcall).2.2] at hholds
    cases hholds.1

/-- **An insertion** succeeds exactly if no call holds the placeholder. -/
theorem insert_ok_iff (env : JobEnv) (hinv : r.Inv) (hcall : call ∈ r.calls)
    (hinserted : call.inserted = false) :
    (∃ store, r.store.insert (call.enqueuing.request.newJob env call.answer.jobId "pending") =
      .ok store) ↔ ∀ other ∈ r.calls, ¬ other.Holds := by
  have hid : ¬ (r.store.jobs.any fun j => decide (j.id = call.answer.jobId)) = true := by
    intro hany
    obtain ⟨row, hrow, hid⟩ := List.any_eq_true.mp hany
    exact hinv.absent call hcall hinserted row hrow (of_decide_eq_true hid)
  show (∃ store, (if (r.store.jobs.any fun j => decide (j.id = call.answer.jobId)) = true then _
    else if (r.store.jobs.any fun j => decide (j.celeryTaskId = "pending")) = true then _
    else _) = Except.ok store) ↔ _
  rw [if_neg hid]
  split
  · rename_i htask
    refine iff_of_false ?_ ?_
    · rintro ⟨store, h⟩
      cases h
    · intro hfree
      obtain ⟨row, hrow, hpending⟩ := List.any_eq_true.mp htask
      obtain ⟨other, hother, hholds, -⟩ := hinv.holder row hrow (of_decide_eq_true hpending)
      exact hfree other hother hholds
  · rename_i htask
    refine iff_of_true ⟨_, rfl⟩ ?_
    intro other hother hholds
    obtain ⟨row, hrow, -, hpending⟩ := hinv.held other hother hholds
    exact htask (List.any_eq_true.mpr ⟨row, hrow, decide_eq_true hpending⟩)

/-! ## What a step does -/

section Step

variable {store : JobStore} {r' : Race}

/-- A step that leaves the table alone, and the placeholder where it is. -/
structure Quiet (env : JobEnv) (call : ReplayCall) (store : JobStore) (r' : Race) : Prop where
  jobs : r'.store.jobs = store.jobs
  inserted : r'.inserted = call.inserted
  ended : r'.phase = .ended ↔ call.phase = .ended
  phase : Race.HasRow true r'.inserted r'.phase
  handed : ∀ taskId, r'.handed = some taskId → call.answer.task = .ok taskId
  begun : r'.phase ≠ .ready
  /-- a call begins with its insertion -/
  ready (h : call.phase = .ready) (hvalid : call.IsValid) (store' : JobStore) :
    store.insert (call.enqueuing.request.newJob env call.answer.jobId "pending") ≠ .ok store'

theorem request_cases (env : JobEnv) (store : JobStore)
    (hphase : Race.HasRow true call.inserted call.phase)
    (hhanded : ∀ taskId, call.handed = some taskId → call.answer.task = .ok taskId)
    (hrequest : (call.race store).request env call.enqueuing = r') :
    Quiet env call store r' ∨
      (call.phase = .ready ∧ call.IsValid ∧ ∃ store',
        store.insert (call.enqueuing.request.newJob env call.answer.jobId "pending") = .ok store' ∧
          r' = { store := store', phase := .inserted, handed := call.handed, inserted := true,
                 todo := [] }) ∨
      ∃ taskId, call.phase = .dispatched ∧ call.handed = some taskId ∧
        r' = { store := store.updateRow call.answer.jobId fun row =>
                 { row with celeryTaskId := taskId }
               phase := .ended
               handed := call.handed
               inserted := call.inserted
               todo := [] } := by
  obtain ⟨startTime, endTime, ⟨task, jobId⟩, phase, handed, inserted⟩ := call
  cases phase with
  | ready =>
    change (if decide (endTime < startTime) then _ else _) = r' at hrequest
    split at hrequest
    · rename_i hinvalid
      rw [← hrequest]
      refine .inl ⟨rfl, rfl, ⟨nofun, nofun⟩, trivial, hhanded, nofun, ?_⟩
      intro _ hvalid
      exact absurd (of_decide_eq_true hinvalid) (not_lt.mpr hvalid)
    · rename_i hvalid
      unfold Race.insert at hrequest
      split at hrequest
      · rename_i fault hinsert
        rw [← hrequest]
        refine .inl ⟨rfl, rfl, ⟨nofun, nofun⟩, trivial, hhanded, nofun, ?_⟩
        intro _ _ store' hok
        cases hinsert.symm.trans hok
      · rename_i store' hinsert
        exact .inr (.inl ⟨rfl, not_lt.mp (by simpa using hvalid), store', hinsert, hrequest.symm⟩)
  | dispatched =>
    cases handed with
    | none =>
      rw [← hrequest]
      exact .inl ⟨rfl, rfl, Iff.rfl, hphase, hhanded, nofun, nofun⟩
    | some taskId =>
      change Race.assign _ _ _ = r' at hrequest
      unfold Race.assign at hrequest
      split at hrequest
      · rw [← hrequest]
        exact .inl ⟨rfl, rfl, ⟨nofun, nofun⟩, trivial, hhanded, nofun, nofun⟩
      · exact .inr (.inr ⟨taskId, rfl, rfl, hrequest.symm⟩)
  | inserted =>
    cases task with
    | error message =>
      change Race.mk .. = r' at hrequest
      rw [← hrequest]
      exact .inl ⟨rfl, rfl, ⟨nofun, nofun⟩, trivial, hhanded, nofun, nofun⟩
    | ok taskId =>
      change Race.mk .. = r' at hrequest
      rw [← hrequest]
      refine .inl ⟨rfl, rfl, ⟨nofun, nofun⟩, hphase, ?_, nofun, nofun⟩
      intro taskId' h
      exact congrArg Except.ok (Option.some.inj h)
  | ended | failed =>
    rw [← hrequest]
    exact .inl ⟨rfl, rfl, Iff.rfl, hphase, hhanded, nofun, nofun⟩

end Step

/-! ## The other calls -/

section Set

variable {new other : ReplayCall}

theorem mem_set (hids : (r.calls.map fun call => call.answer.jobId).Nodup)
    (hget : r.calls[i]? = some call) (hother : other ∈ r.calls.set i new) :
    other = new ∨ other ∈ r.calls ∧ other.answer.jobId ≠ call.answer.jobId := by
  obtain ⟨j, hj⟩ := List.mem_iff_getElem?.mp hother
  rw [List.getElem?_set] at hj
  split at hj
  · split at hj
    · exact .inl (Option.some.inj hj).symm
    · cases hj
  · rename_i hne
    refine .inr ⟨List.mem_of_getElem? hj, ?_⟩
    intro heq
    have hsame : (r.calls.map fun call => call.answer.jobId)[i]? =
        (r.calls.map fun call => call.answer.jobId)[j]? := by
      rw [List.getElem?_map, List.getElem?_map, hget, hj, Option.map_some, Option.map_some, heq]
    have hlength : i < (r.calls.map fun call => call.answer.jobId).length := by
      rw [List.length_map]
      exact (List.getElem?_eq_some_iff.mp hget).1
    exact hne ((List.getElem?_inj hlength hids).mp hsame)

theorem mem_set_self (hget : r.calls[i]? = some call) : new ∈ r.calls.set i new :=
  List.mem_set (List.getElem?_eq_some_iff.mp hget).1 new

theorem mem_set_other (hget : r.calls[i]? = some call) (hother : other ∈ r.calls)
    (hne : other.answer.jobId ≠ call.answer.jobId) : other ∈ r.calls.set i new := by
  obtain ⟨j, hj⟩ := List.mem_iff_getElem?.mp hother
  refine List.mem_iff_getElem?.mpr ⟨j, ?_⟩
  rw [List.getElem?_set, if_neg]
  · exact hj
  · rintro rfl
    rw [hget] at hj
    exact hne (congrArg (fun call => call.answer.jobId) (Option.some.inj hj).symm)

theorem ids_set (hget : r.calls[i]? = some call) (hanswer : new.answer = call.answer) :
    (r.calls.set i new).map (fun call => call.answer.jobId) =
      r.calls.map fun call => call.answer.jobId := by
  obtain ⟨hlength, rfl⟩ := List.getElem?_eq_some_iff.mp hget
  have hmap : i < (r.calls.map fun call => call.answer.jobId).length := by
    rw [List.length_map]
    exact hlength
  rw [List.map_set, hanswer]
  exact (congrArg _ (List.getElem_map _).symm).trans (List.set_getElem_self hmap)

theorem forall_set {P : ReplayCall → Prop} (hall : ∀ other ∈ r.calls, P other) (hnew : P new) :
    ∀ other ∈ r.calls.set i new, P other := by
  intro other hother
  rcases List.mem_or_eq_of_mem_set hother with hother | rfl
  · exact hall other hother
  · exact hnew

end Set

/-! ## The invariant -/

section Invariant

variable {store : JobStore} {new : ReplayCall}

/-- A step of a call: what concerns the calls alone is left to the call that takes it. -/
theorem inv_set (hinv : r.Inv) (hget : r.calls[i]? = some call) (hanswer : new.answer = call.answer)
    (hhanded : ∀ taskId, new.handed = some taskId → call.answer.task = .ok taskId)
    (hphase : Race.HasRow true new.inserted new.phase)
    (habsent : ∀ other ∈ r.calls.set i new, other.inserted = false → ∀ row ∈ store.jobs,
      row.id ≠ other.answer.jobId)
    (hholder : ∀ row ∈ store.jobs, row.celeryTaskId = "pending" →
      ∃ other ∈ r.calls.set i new, other.Holds ∧ row.id = other.answer.jobId)
    (hheld : ∀ other ∈ r.calls.set i new, other.Holds → ∃ row ∈ store.jobs,
      row.id = other.answer.jobId ∧ row.celeryTaskId = "pending") :
    Inv { store, calls := r.calls.set i new } where
  ids := (ids_set hget hanswer).symm ▸ hinv.ids
  tasks := forall_set hinv.tasks (hanswer ▸ hinv.tasks call (List.mem_of_getElem? hget))
  handed := forall_set hinv.handed (hanswer ▸ hhanded)
  phase := forall_set hinv.phase hphase
  absent := habsent
  holder := hholder
  held := hheld

theorem inv_quiet (hinv : r.Inv) (hget : r.calls[i]? = some call) {race : Race}
    (hquiet : Quiet env call r.store race) :
    Inv { store := race.store, calls := r.calls.set i (call.next race) } := by
  have hcall := List.mem_of_getElem? hget
  have hholds : (call.next race).Holds ↔ call.Holds :=
    and_congr (by rw [← hquiet.inserted]; rfl) (not_congr hquiet.ended)
  refine inv_set hinv hget rfl hquiet.handed hquiet.phase ?_ ?_ ?_
  · show ∀ other ∈ r.calls.set i _, other.inserted = false → ∀ row ∈ race.store.jobs, _
    rw [hquiet.jobs]
    refine forall_set hinv.absent fun hinserted => hinv.absent call hcall ?_
    rw [← hquiet.inserted]
    exact hinserted
  · show ∀ row ∈ race.store.jobs, _
    rw [hquiet.jobs]
    intro row hrow hpending
    obtain ⟨other, hother, hother', hid⟩ := hinv.holder row hrow hpending
    by_cases hsame : other.answer.jobId = call.answer.jobId
    -- the holder is the call itself, which goes on holding, or another one
    · obtain rfl := List.inj_on_of_nodup_map hinv.ids hother hcall hsame
      exact ⟨_, mem_set_self hget, hholds.mpr hother', hid⟩
    · exact ⟨other, mem_set_other hget hother hsame, hother', hid⟩
  · show ∀ other ∈ r.calls.set i _, other.Holds → ∃ row ∈ race.store.jobs, _
    rw [hquiet.jobs]
    exact forall_set hinv.held fun hnew => hinv.held call hcall (hholds.mp hnew)

theorem inv_insert (hinv : r.Inv) (hget : r.calls[i]? = some call)
    (hbefore : call.inserted = false) {new : ReplayCall} (hanswer : new.answer = call.answer)
    (hhanded : new.handed = call.handed) (hinserted : new.inserted = true)
    (hphase : new.phase = .inserted) {job : Job} (hid : job.id = call.answer.jobId)
    (hpending : job.celeryTaskId = "pending") (hjobs : store.jobs = r.store.jobs ++ [job]) :
    Inv { store, calls := r.calls.set i new } := by
  have hcall := List.mem_of_getElem? hget
  refine inv_set hinv hget hanswer (hhanded ▸ hinv.handed call hcall) ?_ ?_ ?_ ?_
  · rw [hphase]
    exact hinserted
  · intro other hother habsent
    show ∀ row ∈ store.jobs, _
    rw [hjobs, List.forall_mem_append, List.forall_mem_singleton]
    rcases mem_set hinv.ids hget hother with rfl | ⟨hother, hne⟩
    · rw [hinserted] at habsent
      cases habsent
    · refine ⟨hinv.absent other hother habsent, ?_⟩
      rw [hid]
      exact hne.symm
  · show ∀ row ∈ store.jobs, _
    rw [hjobs, List.forall_mem_append, List.forall_mem_singleton]
    constructor
    · intro row hrow htask
      obtain ⟨other, hother, hholds, hrowid⟩ := hinv.holder row hrow htask
      refine ⟨other, mem_set_other hget hother ?_, hholds, hrowid⟩
      intro hsame
      obtain rfl := List.inj_on_of_nodup_map hinv.ids hother hcall hsame
      -- the call has held nothing before
      rw [ReplayCall.Holds, hbefore] at hholds
      cases hholds.1
    · intro _
      refine ⟨new, mem_set_self hget, ⟨hinserted, by rw [hphase]; decide⟩, ?_⟩
      rw [hid, hanswer]
  · show ∀ other ∈ r.calls.set i _, other.Holds → ∃ row ∈ store.jobs, _
    rw [hjobs]
    refine forall_set ?_ ?_
    · intro other hother hholds
      obtain ⟨row, hrow, htask⟩ := hinv.held other hother hholds
      exact ⟨row, List.mem_append_left _ hrow, htask⟩
    · intro _
      exact ⟨job, List.mem_append_right _ (List.mem_singleton_self job), by rw [hid, hanswer],
        hpending⟩

theorem inv_assign (hinv : r.Inv) (hget : r.calls[i]? = some call) {taskId : String}
    (htask : taskId ≠ "pending") (hbefore : call.inserted = true) {new : ReplayCall}
    (hanswer : new.answer = call.answer) (hhanded : new.handed = call.handed)
    (hinserted : new.inserted = call.inserted) (hphase : new.phase = .ended) :
    Inv
      { store := r.store.updateRow call.answer.jobId fun row => { row with celeryTaskId := taskId }
        calls := r.calls.set i new } := by
  have hcall := List.mem_of_getElem? hget
  have hnew : ¬ new.Holds := fun hholds => hholds.2 hphase
  refine inv_set hinv hget hanswer (hhanded ▸ hinv.handed call hcall) ?_ ?_ ?_ ?_
  · rw [hphase, hinserted]
    exact hbefore
  · intro other hother habsent
    show ∀ row ∈ r.store.jobs.map _, _
    rw [List.forall_mem_map]
    intro row hrow
    have hid : (if row.id = call.answer.jobId then { row with celeryTaskId := taskId }
        else row).id = row.id := by
      split <;> rfl
    rw [hid]
    rcases mem_set hinv.ids hget hother with rfl | ⟨hother, -⟩
    · rw [hinserted, hbefore] at habsent
      cases habsent
    · exact hinv.absent other hother habsent row hrow
  · show ∀ row ∈ r.store.jobs.map _, _
    rw [List.forall_mem_map]
    intro row hrow
    split
    · intro hpending
      -- the row has its task now
      exact absurd hpending htask
    · rename_i hne
      intro hpending
      obtain ⟨other, hother, hholds, hid⟩ := hinv.holder row hrow hpending
      exact ⟨other, mem_set_other hget hother (hid ▸ hne), hholds, hid⟩
  · intro other hother hholds
    rcases mem_set hinv.ids hget hother with rfl | ⟨hother, hne⟩
    · exact absurd hholds hnew
    · obtain ⟨row, hrow, hid, hpending⟩ := hinv.held other hother hholds
      refine ⟨row, List.mem_map.mpr ⟨row, hrow, if_neg ?_⟩, hid, hpending⟩
      rw [hid]
      exact hne

end Invariant

theorem inv_serve (hinv : r.Inv) (i : Nat) : (serve env r i).Inv := by
  unfold serve
  cases hget : r.calls[i]? with
  | none => exact hinv
  | some call =>
    have hcall := List.mem_of_getElem? hget
    have hphase := hinv.phase call hcall
    have hhanded := hinv.handed call hcall
    dsimp only
    rcases request_cases env r.store hphase hhanded rfl with
      hquiet | ⟨hready, -, store', hinsert, hrace⟩ | ⟨taskId, hdispatched, htaskId, hrace⟩
    · exact inv_quiet hinv hget hquiet
    · rw [hready] at hphase
      rw [hrace]
      exact inv_insert hinv hget hphase rfl rfl rfl rfl rfl rfl (by rw [(insert_ok hinsert).2.2])
    · rw [hdispatched] at hphase
      rw [hrace]
      refine inv_assign hinv hget ?_ hphase rfl rfl rfl rfl
      rintro rfl
      exact hinv.tasks call hcall (hhanded _ htaskId)

/-! ## Runs -/

/-- **A step** leaves all calls that have begun with their jobs exactly if it finds the placeholder
free, should it be an insertion. -/
theorem allInserted_serve_iff (hinv : r.Inv) (hall : r.AllInserted) (i : Nat) :
    (serve env r i).AllInserted ↔ r.FindsFree i := by
  unfold serve FindsFree
  cases hget : r.calls[i]? with
  | none => exact iff_of_true hall fun call h => by cases h
  | some call =>
    have hcall := List.mem_of_getElem? hget
    have hphase := hinv.phase call hcall
    have hset (new : ReplayCall) : (∀ other ∈ r.calls.set i new, other.HasInserted) ↔
        new.HasInserted :=
      ⟨fun h => h new (mem_set_self hget), forall_set hall⟩
    simp only [Option.mem_def, Option.some.injEq, forall_eq']
    refine (hset _).trans ?_
    rcases request_cases env r.store hphase (hinv.handed call hcall) rfl with
      hquiet | ⟨hready, hvalid, store', hinsert, hrace⟩ | ⟨taskId, hdispatched, htaskId, hrace⟩
    · have hinserted : (call.next ((call.race r.store).request env call.enqueuing)).inserted =
          call.inserted := hquiet.inserted
      by_cases hready : call.phase = .ready
      · rw [hready] at hphase
        by_cases hvalid : call.IsValid
        · refine iff_of_false ?_ ?_
          · -- it has begun, without its job
            intro hhas
            have hnew := hhas hvalid hquiet.begun
            rw [hinserted, show call.inserted = false from hphase] at hnew
            cases hnew
          · intro hfree
            obtain ⟨store', hinsert⟩ := (insert_ok_iff env hinv hcall hphase).mpr
              (hfree hready hvalid)
            exact hquiet.ready hready hvalid store' hinsert
        · exact iff_of_true (fun h => absurd h hvalid) fun _ h => absurd h hvalid
      · refine iff_of_true ?_ fun h => absurd h hready
        intro hvalid _
        rw [hinserted]
        exact hall call hcall hvalid hready
    · rw [hready] at hphase
      rw [hrace]
      refine iff_of_true (fun _ _ => rfl) fun _ _ => ?_
      exact (insert_ok_iff env hinv hcall hphase).mp ⟨store', hinsert⟩
    · rw [hdispatched] at hphase
      rw [hrace]
      refine iff_of_true (fun _ _ => hphase) fun hready => ?_
      rw [hdispatched] at hready
      cases hready

theorem allInserted_iff {start last : Replays} {steps : List (Replays × Nat)}
    (hfresh : start.IsFresh) (h : Run env start steps last) :
    (∀ r ∈ Runs.visited steps last, r.AllInserted) ↔ ∀ x ∈ steps, x.1.FindsFree x.2 := by
  have hstart : start.AllInserted := by
    intro call hcall _ hbegun
    exact absurd (hfresh.calls call hcall).1 hbegun
  rw [Runs.forall_mem_visited]
  refine h.forall_iff hfresh.inv hstart ?_ ?_
  · intro r i r' hinv hstep
    rw [← hstep]
    exact inv_serve hinv i
  · intro r i r' hinv hall hstep
    rw [← hstep]
    exact allInserted_serve_iff hinv hall i

end Replays

/-! ## The race and the recoveries -/

/-- **Enqueuing does not race with the worker**, as far as it does not: when the request and its
task have ended, the job has come to what its task has exactly if what is missed does not matter;
and all calls for recoveries insert their jobs exactly if each of them finds the placeholder
free. -/
theorem enqueue_outcome_iff {env : JobEnv} {call : Enqueuing} {s : JobStore}
    {script : List Callback} (turns : List RaceTurn) (hfresh : call.IsFresh s)
    (hmakes : ∀ callback ∈ script, call.request.makes callback)
    (hended : (Race.after env call s script turns).phase = .ended)
    (htodo : (Race.after env call s script turns).todo = []) {start last : Replays}
    {steps : List (Replays × Nat)} (hstart : start.IsFresh)
    (hrun : Replays.Run env start steps last) :
    ((Race.after env call s script turns).HasOutcome env call script ↔
        (Race.after env call s script turns).Harmless call) ∧
      ((∀ r ∈ Runs.visited steps last, r.AllInserted) ↔ ∀ x ∈ steps, x.1.FindsFree x.2) := by
  constructor
  · exact Race.hasOutcome_iff hfresh hmakes turns hended htodo
  · exact Replays.allInserted_iff hstart hrun

def Enqueuing.oneDevice : Enqueuing := ⟨.sla "device-1" "2026-09" none, ⟨.ok "task-1", 1⟩⟩

theorem Enqueuing.oneDevice_isFresh : oneDevice.IsFresh {} where
  jobId job hjob := by cases hjob
  taskId h := by
    refine ⟨(fun job hjob => by cases hjob), ?_⟩
    rw [← Except.ok.inj h]
    intro htext
    have hparse : Uuid.parse "task-1" = some 1 := htext ▸ Uuid.parse_text 1
    have hnone : Uuid.parse "task-1" = none := by decide
    rw [hnone] at hparse
    cases hparse
  text job hjob := by cases hjob

def Replays.two : Replays where
  store := {}
  calls :=
    [{ startTime := 0, endTime := 1, answer := ⟨.ok "task-1", 1⟩ },
      { startTime := 0, endTime := 1, answer := ⟨.ok "task-2", 2⟩ }]

theorem Replays.two_isFresh : two.IsFresh where
  calls := by decide
  ids := by decide
  rows row hrow := by cases hrow
  tasks := by
    unfold two
    simp

/-- The request gets ahead of its task, and the calls of recoveries follow one another. -/
theorem enqueue_outcome_inOrder :
    (Race.after JobStore.jobEnv Enqueuing.oneDevice {} [.markStarted 0, .markSuccess 1 "null"]
        [.request, .request, .request, .worker, .worker]).HasOutcome JobStore.jobEnv
        Enqueuing.oneDevice [.markStarted 0, .markSuccess 1 "null"] ∧
      ∀ r ∈ Runs.visited (Runs.replay (Replays.serve JobStore.jobEnv) Replays.two [0, 0, 0, 1])
        ([0, 0, 0, 1].foldl (Replays.serve JobStore.jobEnv) Replays.two), r.AllInserted := by
  obtain ⟨houtcome, hinserted⟩ :=
    @enqueue_outcome_iff JobStore.jobEnv _ _ [.markStarted 0, .markSuccess 1 "null"]
      [.request, .request, .request, .worker, .worker] Enqueuing.oneDevice_isFresh
      (fun _ _ => rfl) rfl rfl _ _ _ Replays.two_isFresh
      (Runs.replay_run (Replays.serve JobStore.jobEnv) Replays.two [0, 0, 0, 1])
  exact ⟨houtcome.mpr ⟨nofun, nofun, nofun, nofun⟩, hinserted.mpr (by decide)⟩

/-- **An eager task** runs before its job is there, and the job stays pending; and the second of two
calls for recoveries finds the placeholder of the first. -/
theorem eager_task_is_missed :
    (¬ ∀ (env : JobEnv) (call : Enqueuing) (s : JobStore) (script : List Callback)
      (turns : List RaceTurn), call.IsFresh s →
      (∀ callback ∈ script, call.request.makes callback) →
      (Race.after env call s script turns).phase = .ended →
      (Race.after env call s script turns).todo = [] →
      (Race.after env call s script turns).HasOutcome env call script) ∧
    ¬ ∀ (env : JobEnv) (start last : Replays) (steps : List (Replays × Nat)), start.IsFresh →
      Replays.Run env start steps last → ∀ r ∈ Runs.visited steps last, r.AllInserted := by
  constructor
  · intro hall
    have houtcome := hall JobStore.jobEnv Enqueuing.oneDevice {}
      [.markStarted 0, .markSuccess 1 "null"] [.request, .worker, .worker, .request, .request]
      Enqueuing.oneDevice_isFresh (fun _ _ => rfl) rfl rfl
    have hharmless := (Race.hasOutcome_iff Enqueuing.oneDevice_isFresh (fun _ _ => rfl) _ rfl
      rfl).mp houtcome
    cases FoundEnough.status hharmless rfl
  · intro hall
    have hinserted := hall JobStore.jobEnv Replays.two _ _ Replays.two_isFresh
      (Runs.replay_run _ _ [0, 1])
    have hfree := (Replays.allInserted_iff Replays.two_isFresh (Runs.replay_run _ _ _)).mp hinserted
    exact absurd hfree (by decide)

end NocIq
