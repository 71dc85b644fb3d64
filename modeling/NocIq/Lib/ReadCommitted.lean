import Mathlib.Logic.Hydra
import NocIq.Lib.Runs

/-!
# ReadCommitted — concurrent transactions on one table

Any finite number of sessions run one transaction each on a table with unique indexes, at isolation
level READ COMMITTED. A transaction is a program of statements (`Prog`); a session takes one
statement, or one step of a waiting one, at a time (`step`), in any interleaving.

* A statement sees the committed rows and the session's own changes.
* `SELECT … FOR UPDATE` takes its candidates from what it sees when it is issued, waits for a
  candidate another transaction has locked, and re-checks the predicate on the current version.
* `INSERT` waits for an uncommitted row with one of its keys, and fails on any other such row.
* A failed statement rolls its transaction back.

**`step_effect`** — what a step can do to the state.
-/

namespace ReadCommitted

/-! ## Programs -/

/-- A table: the primary key of a row, and whether two rows share a key of some unique index, the
primary key being one of them. -/
structure Table (ρ κ : Type) where
  id : ρ → κ
  conflict : ρ → ρ → Bool
  pkey : ∀ a b, id a = id b → conflict a b = true

variable {ρ κ α τ : Type} {tbl : Table ρ κ}

/-- A transaction, statement by statement. `commit` and `close` end it and return; closing a
session rolls back. The UPDATEs keep primary keys and take no key of another row, so they need no
uniqueness check. -/
inductive Prog (tbl : Table ρ κ) (α : Type) where
  | selectForUpdate (pred : ρ → Bool) (next : Option ρ → Prog tbl α)
  | update (pred : ρ → Bool) (f : ρ → ρ) (hid : ∀ r, tbl.id (f r) = tbl.id r) (next : Prog tbl α)
  | nextval (next : Nat → Prog tbl α)
  | insert (row : ρ) (next : Prog tbl α)
  | commit (result : α)
  | close (result : α)
  | raise

/-- The sequential meaning of a program that sees `view`, over the committed rows and a sequence:
its result (`none` if it raises), the rows it leaves committed, and the sequence. -/
def exec : Prog tbl α → List ρ → List ρ → Nat → Option α × List ρ × Nat
  | .selectForUpdate pred next, committed, view, seq =>
    exec (next (view.find? pred)) committed view seq
  | .update pred f _ next, committed, view, seq =>
    exec next committed (view.map fun r => if pred r then f r else r) seq
  | .nextval next, committed, view, seq => exec (next (seq + 1)) committed view (seq + 1)
  | .insert row next, committed, view, seq =>
    if view.any (tbl.conflict row) then (none, committed, seq)
    else exec next committed (view ++ [row]) seq
  | .commit result, _, view, seq => (some result, view, seq)
  | .close result, committed, _, seq => (some result, committed, seq)
  | .raise, committed, _, seq => (none, committed, seq)

/-! ## Sessions -/

/-- What a session does next. A `SELECT … FOR UPDATE` in progress has the candidates it has not
looked at yet. -/
inductive Control (tbl : Table ρ κ) (α : Type) where
  | running (p : Prog tbl α)
  | locking (pred : ρ → Bool) (candidates : List ρ) (next : Option ρ → Prog tbl α)
  | ended (result : Option α)

/-- A session: its transaction, once the first statement has opened it, holds row locks and
uncommitted new versions and new rows. -/
structure Session (tbl : Table ρ κ) (α : Type) where
  control : Control tbl α
  isOpen : Bool := false
  locked : Finset κ := ∅
  updated : List ρ := []
  inserted : List ρ := []

@[ext] structure State (τ : Type) (tbl : Table ρ κ) (α : Type) where
  committed : List ρ
  seq : Nat
  session : τ → Session tbl α

set_option linter.unusedSectionVars false

variable [DecidableEq κ] [DecidableEq τ] [Fintype τ]

def Session.version (x : Session tbl α) (r : ρ) : ρ :=
  (x.updated.find? fun r' => decide (tbl.id r' = tbl.id r)).getD r

def State.view (s : State τ tbl α) (t : τ) : List ρ :=
  s.committed.map (s.session t).version ++ (s.session t).inserted

def State.set (s : State τ tbl α) (t : τ) (x : Session tbl α) : State τ tbl α :=
  { s with session := Function.update s.session t x }

/-- Another transaction has locked the row. -/
def State.lockedByOther (s : State τ tbl α) (t : τ) (k : κ) : Bool :=
  decide (∃ u, u ≠ t ∧ k ∈ (s.session u).locked)

/-- Whether a key of the row is free depends on a transaction that has not ended: it has written a
row with that key, or a new version of a committed one. -/
def State.mustWait (s : State τ tbl α) (t : τ) (row : ρ) : Bool :=
  decide (∃ u, u ≠ t ∧
    ((∃ x ∈ (s.session u).inserted ++ (s.session u).updated, tbl.conflict row x = true) ∨
      ∃ r ∈ s.committed, tbl.conflict row r = true ∧
        ∃ x ∈ (s.session u).updated, tbl.id x = tbl.id r))

/-! ## One step of a session -/

/-- One step of session `t`; `none` if it has ended or has to wait. -/
def step (s : State τ tbl α) (t : τ) : Option (State τ tbl α) :=
  let x := s.session t
  match x.control with
  | .running (.selectForUpdate pred next) =>
    some (s.set t
      { x with control := .locking pred ((s.view t).filter pred) next, isOpen := true })
  | .locking _ [] next =>
    some (s.set t { x with control := .running (next none), isOpen := true })
  | .locking pred (c :: cs) next =>
    -- the row may have changed since it was a candidate, so its current version is tested again
    if s.lockedByOther t (tbl.id c) then none
    else
      match (s.view t).find? fun r => decide (tbl.id r = tbl.id c) && pred r with
      | some r =>
        some (s.set t
          { x with
            control := .running (next (some r))
            isOpen := true
            locked := insert (tbl.id c) x.locked })
      | none => some (s.set t { x with control := .locking pred cs next, isOpen := true })
  | .running (.update pred f _ next) =>
    -- rows it has inserted itself need no lock
    let matched := (s.committed.map x.version).filter pred
    if matched.any fun r => s.lockedByOther t (tbl.id r) then none
    else
      some (s.set t
        { control := .running next
          isOpen := true
          locked := x.locked ∪ (matched.map tbl.id).toFinset
          updated := matched.map f ++ x.updated
          inserted := x.inserted.map fun r => if pred r then f r else r })
  | .running (.nextval next) =>
    some ({ s with seq := s.seq + 1 }.set t
      { x with control := .running (next (s.seq + 1)), isOpen := true })
  | .running (.insert row next) =>
    if s.mustWait t row then none
    -- a violated key aborts the transaction: what it has written is gone
    else if (s.view t).any (tbl.conflict row) then some (s.set t { control := .ended none })
    else
      some (s.set t
        { x with
          control := .running next
          isOpen := true
          inserted := x.inserted ++ [row] })
  | .running (.commit result) =>
    some ({ s with committed := s.view t }.set t { control := .ended (some result) })
  | .running (.close result) => some (s.set t { control := .ended (some result) })
  | .running .raise => some (s.set t { control := .ended none })
  | .ended _ => none

/-- A run: the sessions step in any order. -/
abbrev Run (τ : Type) [DecidableEq τ] [Fintype τ] (tbl : Table ρ κ) (α : Type) :=
  Runs.Run fun (s : State τ tbl α) t s' => step s t = some s'

/-- No session can step. -/
def Stuck (s : State τ tbl α) : Prop := ∀ t, step s t = none

def NoneOpen (s : State τ tbl α) : Prop := ∀ t, (s.session t).isOpen = false

/-- The step opens a transaction. -/
def Begins (x : State τ tbl α × τ) : Prop := (x.1.session x.2).isOpen = false

variable {s s' : State τ tbl α} {t u : τ}

@[simp] theorem set_session_self (x : Session tbl α) : (s.set t x).session t = x := by
  simp [State.set]

@[simp] theorem set_session_other (x : Session tbl α) (hne : u ≠ t) :
    (s.set t x).session u = s.session u := by
  unfold State.set
  exact Function.update_of_ne hne x s.session

@[simp] theorem set_committed (x : Session tbl α) : (s.set t x).committed = s.committed := rfl

@[simp] theorem set_view (x : Session tbl α) :
    (s.set t x).view t = s.committed.map x.version ++ x.inserted := by
  unfold State.view
  rw [set_session_self, set_committed]

@[simp] theorem id_version (x : Session tbl α) (r : ρ) : tbl.id (x.version r) = tbl.id r := by
  unfold Session.version
  cases hfind : x.updated.find? fun r' => decide (tbl.id r' = tbl.id r) with
  | none => rfl
  | some r' => simpa using List.find?_some hfind

theorem view_eq_append (hupdated : (s.session t).updated = []) :
    s.view t = s.committed ++ (s.session t).inserted := by
  have hversion : (s.session t).version = id := by
    funext r
    unfold Session.version
    rw [hupdated]
    rfl
  unfold State.view
  rw [hversion, List.map_id]

theorem view_eq_committed (hupdated : (s.session t).updated = [])
    (hinserted : (s.session t).inserted = []) : s.view t = s.committed := by
  rw [view_eq_append hupdated, hinserted, List.append_nil]

/-! ## What a step does, statement by statement -/

section Statements

variable {pred : ρ → Bool} {next : Option ρ → Prog tbl α}

theorem step_select (hc : (s.session t).control = .running (.selectForUpdate pred next)) :
    step s t = some (s.set t { s.session t with
      control := .locking pred ((s.view t).filter pred) next, isOpen := true }) := by
  simp only [step, hc]

theorem step_locking_nil (hc : (s.session t).control = .locking pred [] next) :
    step s t = some (s.set t { s.session t with
      control := .running (next none), isOpen := true }) := by
  simp only [step, hc]

theorem step_locking_cons {c : ρ} {cs : List ρ}
    (hc : (s.session t).control = .locking pred (c :: cs) next)
    (hfree : s.lockedByOther t (tbl.id c) = false) :
    step s t =
      match (s.view t).find? fun r => decide (tbl.id r = tbl.id c) && pred r with
      | some r => some (s.set t { s.session t with
          control := .running (next (some r)), isOpen := true,
          locked := insert (tbl.id c) (s.session t).locked })
      | none => some (s.set t { s.session t with
          control := .locking pred cs next, isOpen := true }) := by
  simp only [step, hc, hfree]
  rfl

theorem step_locking_blocked {c : ρ} {cs : List ρ}
    (hc : (s.session t).control = .locking pred (c :: cs) next)
    (hlocked : s.lockedByOther t (tbl.id c) = true) : step s t = none := by
  simp only [step, hc, hlocked]
  rfl

theorem step_update {f : ρ → ρ} {hid : ∀ r, tbl.id (f r) = tbl.id r} {next : Prog tbl α}
    (hc : (s.session t).control = .running (.update pred f hid next)) :
    step s t =
      let matched := (s.committed.map (s.session t).version).filter pred
      if matched.any fun r => s.lockedByOther t (tbl.id r) then none
      else
        some (s.set t
          { control := .running next
            isOpen := true
            locked := (s.session t).locked ∪ (matched.map tbl.id).toFinset
            updated := matched.map f ++ (s.session t).updated
            inserted := (s.session t).inserted.map fun r => if pred r then f r else r }) := by
  simp only [step, hc]

theorem step_nextval {next : Nat → Prog tbl α}
    (hc : (s.session t).control = .running (.nextval next)) :
    step s t = some ({ s with seq := s.seq + 1 }.set t { s.session t with
      control := .running (next (s.seq + 1)), isOpen := true }) := by
  simp only [step, hc]

theorem step_insert {row : ρ} {next : Prog tbl α}
    (hc : (s.session t).control = .running (.insert row next)) :
    step s t =
      if s.mustWait t row then none
      else if (s.view t).any (tbl.conflict row) then some (s.set t { control := .ended none })
      else some (s.set t { s.session t with
        control := .running next, isOpen := true, inserted := (s.session t).inserted ++ [row] }) := by
  simp only [step, hc]

theorem step_commit {result : α} (hc : (s.session t).control = .running (.commit result)) :
    step s t =
      some ({ s with committed := s.view t }.set t { control := .ended (some result) }) := by
  simp only [step, hc]

theorem step_close {result : α} (hc : (s.session t).control = .running (.close result)) :
    step s t = some (s.set t { control := .ended (some result) }) := by
  simp only [step, hc]

theorem step_raise (hc : (s.session t).control = .running .raise) :
    step s t = some (s.set t { control := .ended none }) := by
  simp only [step, hc]

theorem step_ended {result : Option α} (hc : (s.session t).control = .ended result) :
    step s t = none := by
  simp only [step, hc]

/-- The step of a session at a candidate: it takes the current version, which still matches, or
passes on to the next candidate. -/
theorem locking_inv {c : ρ} {cs : List ρ}
    (hc : (s.session t).control = .locking pred (c :: cs) next) (hstep : step s t = some s') :
    s.lockedByOther t (tbl.id c) = false ∧
      ((∃ r ∈ s.view t, tbl.id r = tbl.id c ∧ pred r = true ∧
          s' = s.set t { s.session t with
            control := .running (next (some r)), isOpen := true,
            locked := insert (tbl.id c) (s.session t).locked }) ∨
        ((∀ r ∈ s.view t, tbl.id r = tbl.id c → pred r = false) ∧
          s' = s.set t { s.session t with control := .locking pred cs next, isOpen := true })) := by
  cases hlocked : s.lockedByOther t (tbl.id c) with
  | true =>
    rw [step_locking_blocked hc hlocked] at hstep
    cases hstep
  | false =>
    refine ⟨rfl, ?_⟩
    -- the two outcomes of the re-check
    rw [step_locking_cons hc hlocked] at hstep
    split at hstep
    · rename_i r hfind
      have hboth := List.find?_some hfind
      rw [Bool.and_eq_true, decide_eq_true_eq] at hboth
      exact .inl ⟨r, List.mem_of_find?_eq_some hfind, hboth.1, hboth.2,
        (Option.some.inj hstep).symm⟩
    · rename_i hfind
      refine .inr ⟨?_, (Option.some.inj hstep).symm⟩
      intro r hr hid
      have hnot := List.find?_eq_none.mp hfind r hr
      rw [Bool.and_eq_true, decide_eq_true_eq, not_and] at hnot
      exact Bool.eq_false_iff.mpr (hnot hid)

/-- The step of an INSERT: it fails exactly on a row it sees with one of its keys. -/
theorem insert_inv {row : ρ} {next : Prog tbl α}
    (hc : (s.session t).control = .running (.insert row next)) (hstep : step s t = some s') :
    s.mustWait t row = false ∧
      (((s.view t).any (tbl.conflict row) = true ∧ s' = s.set t { control := .ended none }) ∨
        ((s.view t).any (tbl.conflict row) = false ∧
          s' = s.set t { s.session t with
            control := .running next, isOpen := true,
            inserted := (s.session t).inserted ++ [row] })) := by
  rw [step_insert hc] at hstep
  split at hstep
  · cases hstep
  · rename_i hwait
    refine ⟨Bool.eq_false_iff.mpr hwait, ?_⟩
    split at hstep
    · rename_i hany
      exact .inl ⟨hany, (Option.some.inj hstep).symm⟩
    · rename_i hany
      exact .inr ⟨Bool.eq_false_iff.mpr hany, (Option.some.inj hstep).symm⟩

end Statements

/-! ## Closed sessions -/

/-- The session has no transaction, so no locks and no changes. -/
structure Session.Released (x : Session tbl α) : Prop where
  locked : x.locked = ∅
  updated : x.updated = []
  inserted : x.inserted = []

/-- The transaction is open and not at its end. -/
structure Session.InProgress (x : Session tbl α) : Prop where
  isOpen : x.isOpen = true
  control : ∀ result, x.control ≠ .ended result

/-- **What a step can do.** It changes its own session, which goes on, fails, commits or closes;
only a commit changes the committed rows. -/
inductive StepEffect (s : State τ tbl α) (t : τ) : State τ tbl α → Prop where
  | goesOn (s₀ : State τ tbl α) (x : Session tbl α) (hsession : s₀.session = s.session)
      (hcommitted : s₀.committed = s.committed) (hx : x.InProgress) : StepEffect s t (s₀.set t x)
  | fails : StepEffect s t (s.set t { control := .ended none })
  | commits (result : α) (hc : (s.session t).control = .running (.commit result)) :
      StepEffect s t
        (State.set { s with committed := s.view t } t { control := .ended (some result) })
  | closes (result : α) (hc : (s.session t).control = .running (.close result)) :
      StepEffect s t (s.set t { control := .ended (some result) })

theorem step_effect (h : step s t = some s') : StepEffect s t s' := by
  unfold step at h
  dsimp only at h
  split at h
  all_goals try split at h
  all_goals try split at h
  all_goals
    first
    | cases h; done
    | obtain rfl := Option.some.inj h
      first
      | exact .commits _ ‹_›
      | exact .closes _ ‹_›
      | exact .fails
      | exact .goesOn _ _ rfl rfl ⟨rfl, fun _ hc => nomatch hc⟩

theorem step_other (h : step s t = some s') (hne : u ≠ t) : s'.session u = s.session u := by
  cases step_effect h with
  | goesOn s₀ x hsession => rw [set_session_other x hne, hsession]
  | fails => exact set_session_other _ hne
  | commits => exact set_session_other _ hne
  | closes => exact set_session_other _ hne

theorem step_self (h : step s t = some s') :
    (s'.session t).InProgress ∨ ∃ result, s'.session t = { control := .ended result } := by
  cases step_effect h with
  | goesOn s₀ x _ _ hx =>
    rw [set_session_self]
    exact .inl hx
  | fails => exact .inr ⟨_, set_session_self _⟩
  | commits => exact .inr ⟨_, set_session_self _⟩
  | closes => exact .inr ⟨_, set_session_self _⟩

/-- At most one session has the property. -/
def AtMostOne (P : Session tbl α → Prop) (s : State τ tbl α) : Prop :=
  ∀ t u, P (s.session t) → P (s.session u) → t = u

/-- A step of `t` keeps it, if `t` gets the property only while no other session has it. -/
theorem AtMostOne.set {P : Session tbl α → Prop} (h : AtMostOne P s) {s₀ : State τ tbl α}
    (hsame : s₀.session = s.session) {x : Session tbl α}
    (hx : P x → ∀ u, u ≠ t → ¬ P (s.session u)) : AtMostOne P (s₀.set t x) := by
  have hother : ∀ u, u ≠ t → (s₀.set t x).session u = s.session u := by
    intro u hu
    rw [set_session_other x hu, hsame]
  intro u v hu hv
  by_cases hut : u = t
  · by_cases hvt : v = t
    · rw [hut, hvt]
    · rw [hut, set_session_self] at hu
      rw [hother v hvt] at hv
      exact absurd hv (hx hu v hvt)
  · rw [hother u hut] at hu
    by_cases hvt : v = t
    · rw [hvt, set_session_self] at hv
      exact absurd hu (hx hv u hut)
    · rw [hother v hvt] at hv
      exact h u v hu hv

theorem AtMostOne.others {P : Session tbl α → Prop} (h : AtMostOne P s) (ht : P (s.session t)) :
    ∀ u, u ≠ t → ¬ P (s.session u) := fun u hu hPu => hu (h u t hPu ht)

/-! ## Following a schedule -/

/-- The steps and the last state of a schedule of sessions, if none of them has to wait. -/
def follow (s : State τ tbl α) : List τ → Option (List (State τ tbl α × τ) × State τ tbl α)
  | [] => some ([], s)
  | t :: ts =>
    match step s t with
    | none => none
    | some s' => (follow s' ts).map fun rest => ((s, t) :: rest.1, rest.2)

theorem follow_run {ts : List τ} {rest : List (State τ tbl α × τ) × State τ tbl α}
    (h : follow s ts = some rest) : Run τ tbl α s rest.1 rest.2 := by
  induction ts generalizing s rest with
  | nil =>
    rw [← Option.some.inj h]
    exact .nil
  | cons t ts ih =>
    unfold follow at h
    split at h
    · cases h
    · rename_i s' hstep
      obtain ⟨rest', hrest, rfl⟩ := Option.map_eq_some_iff.mp h
      have hfirst : Run τ tbl α s [(s, t)] s' := .snoc .nil hstep
      exact hfirst.trans (ih hrest)

instance (s : State τ tbl α) : Decidable (Stuck s) :=
  decidable_of_iff (∀ t, (step s t).isNone = true) (by simp [Stuck])

/-- The call has raised. -/
def Session.failed (x : Session tbl α) : Bool :=
  match x.control with
  | .ended none => true
  | _ => false

end ReadCommitted
