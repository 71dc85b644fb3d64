import NocIq.Lib.Runs

/-!
# BufferedSessions — requests that read what is committed, and write when they commit

Any number of requests share a database and take turns, statement by statement. A read sees what is
committed. The writes of a request are kept back until its commit, which makes all of them or is
refused and makes none; no request reads its own. A number that is drawn from a sequence stays
drawn.

* **`step_committed`** — what a step can do to what is committed.
* **`endsAlone`** — a request that takes all turns ends as its program does alone.
* **`step_follow` / `mayCommit_of_follows`** — what a request commits is what its program may
  commit.
* **`unchanged_of_failed`** — a request that fails has changed nothing.
-/

namespace BufferedSessions

open Runs

variable {σ ω ε α ι : Type}

/-- A request, statement by statement. -/
inductive Prog (σ ω ε α : Type) where
  | read (next : σ → Prog σ ω ε α)
  | draw (next : Nat → Prog σ ω ε α)
  | write (w : ω) (next : Prog σ ω ε α)
  | commit (result : α)
  | fail (e : ε)

structure Engine (σ ω ε : Type) where
  commit : List ω → σ → Except ε σ
  draw : σ → Nat × σ

namespace Prog

def writes (ws : List ω) (next : Prog σ ω ε α) : Prog σ ω ε α := ws.foldr write next

/-- The program from its start to its end, with no other in between. -/
def alone (engine : Engine σ ω ε) : Prog σ ω ε α → List ω → σ → Except ε α × σ
  | .read next, pending, s => (next s).alone engine pending s
  | .draw next, pending, s => (next (engine.draw s).1).alone engine pending (engine.draw s).2
  | .write w next, pending, s => next.alone engine (pending ++ [w]) s
  | .commit result, pending, s =>
    match engine.commit pending s with
    | .ok s' => (.ok result, s')
    | .error e => (.error e, s)
  | .fail e, _, s => (.error e, s)

/-- Whatever the program reads and draws, these are the writes and the result of its commit. -/
def MayCommit : Prog σ ω ε α → List ω → α → Prop
  | .read next, ws, r => ∃ s, (next s).MayCommit ws r
  | .draw next, ws, r => ∃ n, (next n).MayCommit ws r
  | .write w next, ws, r => ∃ rest, ws = w :: rest ∧ next.MayCommit rest r
  | .commit result, ws, r => ws = [] ∧ r = result
  | .fail _, _, _ => False

theorem alone_writes (engine : Engine σ ω ε) (ws : List ω) (next : Prog σ ω ε α)
    (pending : List ω) (s : σ) :
    (writes ws next).alone engine pending s = next.alone engine (pending ++ ws) s := by
  induction ws generalizing pending with
  | nil => rw [List.append_nil]; rfl
  | cons w ws ih =>
    show (writes ws next).alone engine (pending ++ [w]) s = _
    rw [ih, List.append_assoc]
    rfl

theorem mayCommit_writes {ws ws' : List ω} {next : Prog σ ω ε α} {r : α} :
    (writes ws next).MayCommit ws' r ↔ ∃ rest, ws' = ws ++ rest ∧ next.MayCommit rest r := by
  induction ws generalizing ws' with
  | nil => simp [writes]
  | cons w ws ih =>
    show (∃ rest, ws' = w :: rest ∧ (writes ws next).MayCommit rest r) ↔ _
    constructor
    · rintro ⟨rest, rfl, hrest⟩
      obtain ⟨last, rfl, hlast⟩ := ih.mp hrest
      exact ⟨last, rfl, hlast⟩
    · rintro ⟨last, rfl, hlast⟩
      exact ⟨ws ++ last, rfl, ih.mpr ⟨last, rfl, hlast⟩⟩

end Prog

/-! ## Turns -/

/-- Where a request is: what is left of it with its writes so far, or how it has ended. -/
inductive Session (σ ω ε α : Type) where
  | running (p : Prog σ ω ε α) (pending : List ω)
  | ended (result : Except ε α)

structure State (σ ω ε α ι : Type) where
  committed : σ
  session : ι → Session σ ω ε α

def State.start (programs : ι → Prog σ ω ε α) (s : σ) : State σ ω ε α ι where
  committed := s
  session i := .running (programs i) []

/-- One statement: where the request is after it, and what is committed. -/
def advance (engine : Engine σ ω ε) (s : σ) : Session σ ω ε α → Session σ ω ε α × σ
  | .running (.read next) pending => (.running (next s) pending, s)
  | .running (.draw next) pending => (.running (next (engine.draw s).1) pending, (engine.draw s).2)
  | .running (.write w next) pending => (.running next (pending ++ [w]), s)
  | .running (.commit result) pending =>
    match engine.commit pending s with
    | .ok s' => (.ended (.ok result), s')
    | .error e => (.ended (.error e), s)
  | .running (.fail e) _ => (.ended (.error e), s)
  | .ended result => (.ended result, s)

variable [DecidableEq ι]

/-- One statement of a request. -/
def step (engine : Engine σ ω ε) (s : State σ ω ε α ι) (i : ι) : State σ ω ε α ι where
  committed := (advance engine s.committed (s.session i)).2
  session := Function.update s.session i (advance engine s.committed (s.session i)).1

/-- The requests take turns in any order. -/
abbrev Turns (engine : Engine σ ω ε) (s : State σ ω ε α ι) :=
  Run (fun s i s' => step engine s i = s') s

variable {engine : Engine σ ω ε} {s t : State σ ω ε α ι} {i j : ι}
  {steps : List (State σ ω ε α ι × ι)}

theorem step_session_self (engine : Engine σ ω ε) (s : State σ ω ε α ι) (i : ι) :
    (step engine s i).session i = (advance engine s.committed (s.session i)).1 :=
  Function.update_self ..

theorem step_session_of_ne (engine : Engine σ ω ε) (s : State σ ω ε α ι) (h : j ≠ i) :
    (step engine s i).session j = s.session j :=
  Function.update_of_ne h ..

/-- The step is a commit that is accepted, with the writes and the result. -/
structure Commits (engine : Engine σ ω ε) (s : State σ ω ε α ι) (i : ι) (pending : List ω) (r : α) :
    Prop where
  session : s.session i = .running (.commit r) pending
  accepted : engine.commit pending s.committed = .ok (step engine s i).committed
  ended : (step engine s i).session i = .ended (.ok r)

/-- **A step** commits, or draws a number, or leaves what is committed as it is. -/
theorem step_committed (engine : Engine σ ω ε) (s : State σ ω ε α ι) (i : ι) :
    (∃ pending r, Commits engine s i pending r) ∨
      (step engine s i).committed = (engine.draw s.committed).2 ∨
      (step engine s i).committed = s.committed := by
  have hself := step_session_self engine s i
  have hcommitted :
      (step engine s i).committed = (advance engine s.committed (s.session i)).2 := rfl
  cases hsession : s.session i with
  | ended result =>
    rw [hsession] at hcommitted
    exact .inr (.inr hcommitted)
  | running p pending =>
    rw [hsession] at hself hcommitted
    cases p with
    | commit r =>
      rw [advance] at hself hcommitted
      cases hcommit : engine.commit pending s.committed with
      | error e =>
        rw [hcommit] at hcommitted
        exact .inr (.inr hcommitted)
      | ok committed =>
        rw [hcommit] at hself hcommitted
        exact .inl ⟨pending, r, hsession, by rw [hcommit, hcommitted], hself⟩
    | draw next => exact .inr (.inl hcommitted)
    | read next => exact .inr (.inr hcommitted)
    | write w next => exact .inr (.inr hcommitted)
    | fail e => exact .inr (.inr hcommitted)

theorem step_session_of_ended (engine : Engine σ ω ε) {result : Except ε α}
    (h : s.session j = .ended result) (i : ι) :
    (step engine s i).session j = .ended result := by
  by_cases hne : j = i
  · subst hne
    rw [step_session_self, h]
    rfl
  · rw [step_session_of_ne engine s hne, h]

theorem ended_of_turns {result : Except ε α} (h : s.session j = .ended result)
    (hrun : Turns engine s steps t) : t.session j = .ended result :=
  hrun.invariant (I := fun t => t.session j = .ended result) h
    fun _ i _ ht hstep => hstep ▸ step_session_of_ended engine ht i

/-! ## A request that takes all turns -/

/-- Turns of one request lead to its end, with the outcome. -/
def EndsAlone (engine : Engine σ ω ε) (s : State σ ω ε α ι) (i : ι) (outcome : Except ε α × σ) :
    Prop :=
  ∃ steps t, Turns engine s steps t ∧ (∀ x ∈ steps, x.2 = i) ∧
    t.session i = .ended outcome.1 ∧ t.committed = outcome.2

theorem EndsAlone.of_step {outcome : Except ε α × σ}
    (h : EndsAlone engine (step engine s i) i outcome) : EndsAlone engine s i outcome := by
  obtain ⟨steps, t, hrun, hall, hended⟩ := h
  have hfirst : Turns engine s [(s, i)] (step engine s i) := .snoc .nil rfl
  exact ⟨_, t, hfirst.trans hrun, by simpa using hall, hended⟩

theorem endsAlone_of_ended {outcome : Except ε α × σ} (hended : s.session i = .ended outcome.1)
    (hcommitted : s.committed = outcome.2) : EndsAlone engine s i outcome :=
  ⟨[], s, .nil, by simp, hended, hcommitted⟩

theorem step_of_advance {x : Session σ ω ε α} {d : σ}
    (h : advance engine s.committed (s.session i) = (x, d)) :
    (step engine s i).session i = x ∧ (step engine s i).committed = d := by
  constructor
  · rw [step_session_self, h]
  · show (advance engine s.committed (s.session i)).2 = d
    rw [h]

/-- **It ends as its program does alone.** Induction on the program. -/
theorem endsAlone (engine : Engine σ ω ε) {p : Prog σ ω ε α} {pending : List ω}
    (h : s.session i = .running p pending) :
    EndsAlone engine s i (p.alone engine pending s.committed) := by
  apply EndsAlone.of_step
  induction p generalizing s pending with
  | read next ih =>
    obtain ⟨hself, hcommitted⟩ := step_of_advance (show advance engine s.committed (s.session i) =
      (.running (next s.committed) pending, s.committed) by rw [h]; rfl)
    have hrest := (ih s.committed hself).of_step
    rwa [hcommitted] at hrest
  | draw next ih =>
    obtain ⟨hself, hcommitted⟩ := step_of_advance (show advance engine s.committed (s.session i) =
      (.running (next (engine.draw s.committed).1) pending, (engine.draw s.committed).2) by
        rw [h]; rfl)
    have hrest := (ih _ hself).of_step
    rwa [hcommitted] at hrest
  | write w next ih =>
    obtain ⟨hself, hcommitted⟩ := step_of_advance (show advance engine s.committed (s.session i) =
      (.running next (pending ++ [w]), s.committed) by rw [h]; rfl)
    have hrest := (ih hself).of_step
    rwa [hcommitted] at hrest
  | commit result =>
    have hadvance : advance engine s.committed (s.session i) =
        advance engine s.committed (.running (.commit result) pending) := by rw [h]
    rw [advance] at hadvance
    rw [Prog.alone]
    -- refused or made, the commit is the last step
    cases hcommit : engine.commit pending s.committed with
    | ok d =>
      rw [hcommit] at hadvance
      obtain ⟨hself, hcommitted⟩ := step_of_advance hadvance
      exact endsAlone_of_ended hself hcommitted
    | error e =>
      rw [hcommit] at hadvance
      obtain ⟨hself, hcommitted⟩ := step_of_advance hadvance
      exact endsAlone_of_ended hself hcommitted
  | fail e =>
    obtain ⟨hself, hcommitted⟩ := step_of_advance (show advance engine s.committed (s.session i) =
      (.ended (.error e), s.committed) by rw [h]; rfl)
    exact endsAlone_of_ended hself hcommitted

/-! ## What a request may commit -/

/-- The request may still commit only what its program may. -/
def Session.Follows (program : Prog σ ω ε α) : Session σ ω ε α → Prop
  | .running p pending => ∀ ws r, p.MayCommit ws r → program.MayCommit (pending ++ ws) r
  | .ended _ => True

theorem advance_follows {program : Prog σ ω ε α} {x : Session σ ω ε α} (h : x.Follows program)
    (d : σ) : (advance engine d x).1.Follows program := by
  cases x with
  | ended result => trivial
  | running p pending =>
    cases p with
    | read next => exact fun ws r hmay => h ws r ⟨d, hmay⟩
    | draw next => exact fun ws r hmay => h ws r ⟨_, hmay⟩
    | write w next =>
      intro ws r hmay
      rw [List.append_assoc]
      exact h (w :: ws) r ⟨ws, rfl, hmay⟩
    | commit result =>
      rw [advance]
      split <;> trivial
    | fail e => trivial

/-- Every request is on its way through its program. -/
def Follow (programs : ι → Prog σ ω ε α) (s : State σ ω ε α ι) : Prop :=
  ∀ i, (s.session i).Follows (programs i)

omit [DecidableEq ι] in
theorem follow_start (programs : ι → Prog σ ω ε α) (d : σ) :
    Follow programs (.start programs d) := fun _ _ _ hmay => hmay

/-- **A step** of a request goes on with its program. -/
theorem step_follow {programs : ι → Prog σ ω ε α} (h : Follow programs s) (i : ι) :
    Follow programs (step engine s i) := by
  intro j
  by_cases hne : j = i
  · subst hne
    rw [step_session_self]
    exact advance_follows (h j) s.committed
  · rw [step_session_of_ne engine s hne]
    exact h j

omit [DecidableEq ι] in
/-- **What is committed** is what the program may commit. -/
theorem mayCommit_of_follows {program : Prog σ ω ε α} {pending : List ω} {r : α}
    (h : (Session.running (.commit r) pending : Session σ ω ε α).Follows program) :
    program.MayCommit pending r := by
  have hmay := h [] r ⟨rfl, rfl⟩
  rwa [List.append_nil] at hmay

/-! ## Requests that fail -/

/-- **A request that fails** has changed nothing but sequences: what a draw does not change, none of
its steps has. -/
theorem unchanged_of_failed {τ : Type} {f : σ → τ}
    (hdraw : ∀ d, f (engine.draw d).2 = f d) (hrun : Turns engine s steps t) {e : ε}
    (hfailed : t.session i = .ended (.error e)) :
    ∀ x ∈ steps, x.2 = i → f (step engine x.1 i).committed = f x.1.committed := by
  intro x hx heq
  obtain ⟨pending, r, hcommits⟩ | hdrawn | hsame := step_committed engine x.1 i
  · -- then the request has ended, with a result
    exfalso
    obtain ⟨before, after, rfl⟩ := List.append_of_mem hx
    obtain ⟨u, -, hstep, hafter⟩ := Run.split hrun
    rw [heq] at hstep
    subst hstep
    have hended := ended_of_turns hcommits.ended hafter
    rw [hfailed] at hended
    cases hended
  · rw [hdrawn, hdraw]
  · rw [hsame]

end BufferedSessions
