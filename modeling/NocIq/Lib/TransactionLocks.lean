import NocIq.Lib.Interleaving

/-!
# TransactionLocks — sections guarded by a lock of the transaction

Sessions run a program each, statement by statement and in any interleaving, on shared state. A
program may try for a lock, which never waits, or wait for one. A lock belongs to the transaction
of its session: the session's next commit gives it back, and so does the close that ends it.

The section of a session begins when it gets the lock that guards the section and lasts until the
session has its result. A commit inside the section leaves the rest of it unguarded (`Zone`).

* **`move_of_step`** — what a step can do to the zones and to the guarding locks.
* **`Stands.step`** — an invariant of the positions, from one obligation for each statement.
* **`excludes_iff`** — the sections exclude each other in a run exactly if no session tries for
  the lock while another one is in the unguarded part.
* **`tryLock_refused`** — and then a session that tries for it too early is refused at once.
-/

namespace TransactionLocks

open Interleaving (Control)

variable {τ ρ σ π α : Type}

/-! ## Programs -/

/-- What a statement leads to. -/
inductive Turn (π α : Type) where
  | goesOn (pc : π)
  | commits (pc : π)
  | ends (result : α)

inductive Statement (ρ σ π α : Type) where
  /-- takes the lock `r`, or returns `refused` if another session has it -/
  | tryLock (r : ρ) (taken : π) (refused : α)
  /-- waits until no other session has the lock `r` -/
  | lock (r : ρ) (taken : π)
  | run (effect : σ → Turn π α × σ)

structure Program (ρ σ π α : Type) where
  statement : π → Statement ρ σ π α
  /-- the result when a statement raises -/
  raised : α

structure State (τ ρ σ π α : Type) where
  shared : σ
  holder : ρ → Option τ
  control : τ → Control π α

/-- A session's next statement runs, or raises; or a session with a result is closed. -/
inductive Event (τ : Type) where
  | statement (t : τ)
  | raise (t : τ)
  | close (t : τ)
  deriving DecidableEq

section

set_option linter.unusedSectionVars false

variable [DecidableEq τ] [DecidableEq ρ]

def State.goTo (s : State τ ρ σ π α) (t : τ) (control : Control π α) : State τ ρ σ π α :=
  { s with control := Function.update s.control t control }

def State.take (s : State τ ρ σ π α) (r : ρ) (t : τ) : State τ ρ σ π α :=
  { s with holder := Function.update s.holder r (some t) }

/-- The transaction of the session ends. -/
def State.release (s : State τ ρ σ π α) (t : τ) : State τ ρ σ π α :=
  { s with holder := fun r => if s.holder r = some t then none else s.holder r }

/-- No other session has the lock. -/
def State.Free (s : State τ ρ σ π α) (r : ρ) (t : τ) : Prop :=
  s.holder r = none ∨ s.holder r = some t

instance (s : State τ ρ σ π α) (r : ρ) (t : τ) : Decidable (s.Free r t) :=
  inferInstanceAs (Decidable (_ ∨ _))

/-- The statement of a session, if it does not have to wait. -/
def execute (s : State τ ρ σ π α) (t : τ) : Statement ρ σ π α → Option (State τ ρ σ π α)
  | .tryLock r taken refused =>
    if s.Free r t then some ((s.take r t).goTo t (.running taken))
    else some (s.goTo t (.ended refused))
  | .lock r taken => if s.Free r t then some ((s.take r t).goTo t (.running taken)) else none
  | .run effect =>
    let s' := { s with shared := (effect s.shared).2 }
    match (effect s.shared).1 with
    | .goesOn pc => some (s'.goTo t (.running pc))
    | .commits pc => some ((s'.release t).goTo t (.running pc))
    | .ends result => some (s'.goTo t (.ended result))

def next (program : τ → Program ρ σ π α) (s : State τ ρ σ π α) :
    Event τ → Option (State τ ρ σ π α)
  | .statement t =>
    match s.control t with
    | .running pc => execute s t ((program t).statement pc)
    | .ended _ => none
  | .raise t =>
    match s.control t with
    | .running _ => some (s.goTo t (.ended (program t).raised))
    | .ended _ => none
  | .close t =>
    match s.control t with
    | .running _ => none
    | .ended _ => some (s.release t)

/-- A run: the sessions step in any order. -/
abbrev Run (program : τ → Program ρ σ π α) :=
  Runs.Run fun (s : State τ ρ σ π α) e s' => next program s e = some s'

/-- The steps of a schedule and where it leads; an event that cannot happen is passed over. -/
def play (program : τ → Program ρ σ π α) (s : State τ ρ σ π α) :
    List (Event τ) → List (State τ ρ σ π α × Event τ) × State τ ρ σ π α
  | [] => ([], s)
  | e :: es =>
    match next program s e with
    | some s' => ((s, e) :: (play program s' es).1, (play program s' es).2)
    | none => play program s es

theorem play_run (program : τ → Program ρ σ π α) (s : State τ ρ σ π α) (es : List (Event τ)) :
    Run program s (play program s es).1 (play program s es).2 := by
  induction es generalizing s with
  | nil => exact .nil
  | cons e es ih =>
    unfold play
    split
    · rename_i s' hnext
      have hfirst : Run program s [(s, e)] s' := .snoc .nil hnext
      exact hfirst.trans (ih s')
    · exact ih s

/-! ## Sections -/

/-- Where a position is: not in the section, in it with the lock, or in it after a commit. -/
inductive Zone where
  | outside
  | guarded
  | unguarded
  deriving DecidableEq

/-- A commit gives the lock back. -/
def Zone.afterCommit : Zone → Zone
  | .outside => .outside
  | .guarded => .unguarded
  | .unguarded => .unguarded

/-- The zones follow the statements: every `tryLock` is for the guarding lock of the session and
enters the section, the other locks guard no section, and only a commit changes the zone. -/
structure Guards (program : τ → Program ρ σ π α) (zone : π → Zone) (key : τ → ρ) : Prop where
  tryLock : ∀ t pc r taken refused, (program t).statement pc = .tryLock r taken refused →
    r = key t ∧ zone taken = .guarded
  lock : ∀ t pc r taken, (program t).statement pc = .lock r taken →
    (∀ u, r ≠ key u) ∧ zone taken = zone pc
  goesOn : ∀ t pc effect s pc', (program t).statement pc = .run effect →
    (effect s).1 = .goesOn pc' → zone pc' = zone pc
  commits : ∀ t pc effect s pc', (program t).statement pc = .run effect →
    (effect s).1 = .commits pc' → zone pc' = (zone pc).afterCommit

def controlZone (zone : π → Zone) : Control π α → Zone
  | .running pc => zone pc
  | .ended _ => .outside

def State.zone (zone : π → Zone) (s : State τ ρ σ π α) (t : τ) : Zone :=
  controlZone zone (s.control t)

def State.InSection (zone : π → Zone) (s : State τ ρ σ π α) (t : τ) : Prop :=
  s.zone zone t ≠ .outside

/-- No two sessions are in their sections. -/
def Exclusive (zone : π → Zone) (s : State τ ρ σ π α) : Prop :=
  ∀ t u, t ≠ u → s.InSection zone t → ¬ s.InSection zone u

/-- The next statement of the session tries for a lock. -/
def AtLock (program : τ → Program ρ σ π α) (s : State τ ρ σ π α) (t : τ) : Prop :=
  ∃ pc r taken refused, s.control t = .running pc ∧
    (program t).statement pc = .tryLock r taken refused

/-- If the step tries for the lock, no other session is in the unguarded part of its section. -/
def TriesInTime (program : τ → Program ρ σ π α) (zone : π → Zone) (s : State τ ρ σ π α)
    (e : Event τ) : Prop :=
  ∀ t, e = .statement t → AtLock program s t → ∀ u, u ≠ t → s.zone zone u ≠ .unguarded

/-! ## What a step does -/

variable {program : τ → Program ρ σ π α} {zone : π → Zone} {key : τ → ρ}
  {s s' : State τ ρ σ π α} {t u : τ}

theorem zone_goTo (s : State τ ρ σ π α) (t : τ) (control : Control π α) (u : τ) :
    (s.goTo t control).zone zone u =
      if u = t then controlZone zone control else s.zone zone u := by
  show controlZone zone (Function.update s.control t control u) = _
  by_cases h : u = t
  · rw [h, if_pos rfl, Function.update_self]
  · rw [if_neg h, Function.update_of_ne h]
    rfl

/-- A step is no attempt at a lock. -/
def Quiet (program : τ → Program ρ σ π α) (s : State τ ρ σ π α) (e : Event τ) : Prop :=
  ∀ t, e = .statement t → ¬ AtLock program s t

/-- Zones stay as they are or are left, and the guarding locks stay with their holders. -/
structure Fewer (zone : π → Zone) (key : τ → ρ) (s s' : State τ ρ σ π α) : Prop where
  zone : ∀ u, s'.zone zone u = s.zone zone u ∨ s'.zone zone u = .outside
  holder : ∀ u, s'.holder (key u) = s.holder (key u)

/-- The steps, by what they do to the zones and to the guarding locks. -/
inductive Move (program : τ → Program ρ σ π α) (zone : π → Zone) (key : τ → ρ)
    (s : State τ ρ σ π α) : Event τ → State τ ρ σ π α → Prop where
  | enters {s₁ : State τ ρ σ π α} (t : τ) (hat : AtLock program s t) (hfree : s.Free (key t) t)
      (hzone : ∀ u, s₁.zone zone u = if u = t then .guarded else s.zone zone u)
      (hholder : s₁.holder = Function.update s.holder (key t) (some t)) :
      Move program zone key s (.statement t) s₁
  | refused {s₁ : State τ ρ σ π α} (t : τ) (hat : AtLock program s t)
      (hheld : ¬ s.Free (key t) t) (hfewer : Fewer zone key s s₁) :
      Move program zone key s (.statement t) s₁
  | keeps {s₁ : State τ ρ σ π α} {e : Event τ} (hquiet : Quiet program s e)
      (hfewer : Fewer zone key s s₁) : Move program zone key s e s₁
  | commits {s₁ : State τ ρ σ π α} {e : Event τ} (hquiet : Quiet program s e) (t : τ)
      (hzone : ∀ u, s₁.zone zone u =
        if u = t then (s.zone zone u).afterCommit else s.zone zone u)
      (hholder : s₁.holder = (s.release t).holder) : Move program zone key s e s₁

theorem quiet_of_statement {pc : π} (hpc : s.control t = .running pc)
    (hst : ∀ r taken refused, (program t).statement pc ≠ .tryLock r taken refused) :
    Quiet program s (.statement t) := by
  intro t' ht' hat
  obtain rfl := Event.statement.inj ht'
  obtain ⟨pc', r, taken, refused, hpc', hst'⟩ := hat
  obtain rfl := Control.running.inj (hpc.symm.trans hpc')
  exact hst r taken refused hst'

/-- A session moves to another position of its zone, or ends; the others stay where they are. -/
theorem Fewer.goTo {control : Control π α}
    (hzone : controlZone zone control = s.zone zone t ∨ controlZone zone control = .outside)
    (hothers : s'.control = s.control) (hholder : ∀ u, s'.holder (key u) = s.holder (key u)) :
    Fewer zone key s (s'.goTo t control) := by
  refine ⟨?_, hholder⟩
  intro u
  rw [zone_goTo]
  split
  · rename_i heq
    rw [heq]
    exact hzone
  · left
    unfold State.zone
    rw [hothers]

theorem execute_move (hguards : Guards program zone key) {pc : π}
    (hpc : s.control t = .running pc) (h : execute s t ((program t).statement pc) = some s') :
    Move program zone key s (.statement t) s' := by
  have hz : s.zone zone t = zone pc := by rw [State.zone, hpc]; rfl
  cases hst : (program t).statement pc with
  | tryLock r taken refused =>
    obtain ⟨hr, htaken⟩ := hguards.tryLock t pc r taken refused hst
    have hat : AtLock program s t := ⟨pc, r, taken, refused, hpc, hst⟩
    rw [hst] at h
    simp only [execute] at h
    split at h
    · rename_i hfree
      obtain rfl := Option.some.inj h
      refine .enters t hat (hr ▸ hfree) ?_ ?_
      · intro u
        rw [zone_goTo]
        show (if u = t then zone taken else s.zone zone u) = _
        rw [htaken]
      · show Function.update s.holder r (some t) = _
        rw [hr]
    · rename_i hheld
      obtain rfl := Option.some.inj h
      exact .refused t hat (hr ▸ hheld) (.goTo (.inr rfl) rfl fun _ => rfl)
  | lock r taken =>
    obtain ⟨hr, htaken⟩ := hguards.lock t pc r taken hst
    have hquiet : Quiet program s (.statement t) :=
      quiet_of_statement hpc fun _ _ _ => by rw [hst]; exact nofun
    rw [hst] at h
    simp only [execute] at h
    split at h
    · obtain rfl := Option.some.inj h
      refine .keeps hquiet (.goTo (.inl (htaken.trans hz.symm)) rfl ?_)
      intro u
      show Function.update s.holder r (some t) (key u) = _
      rw [Function.update_of_ne (hr u).symm]
    · cases h
  | run effect =>
    have hquiet : Quiet program s (.statement t) :=
      quiet_of_statement hpc fun _ _ _ => by rw [hst]; exact nofun
    rw [hst] at h
    simp only [execute] at h
    cases hturn : (effect s.shared).1 with
    | goesOn pc' =>
      have hpc' := hguards.goesOn t pc effect s.shared pc' hst hturn
      rw [hturn] at h
      obtain rfl := Option.some.inj h
      exact .keeps hquiet (.goTo (.inl (hpc'.trans hz.symm)) rfl fun _ => rfl)
    | commits pc' =>
      have hpc' := hguards.commits t pc effect s.shared pc' hst hturn
      rw [hturn] at h
      obtain rfl := Option.some.inj h
      refine .commits hquiet t ?_ rfl
      intro u
      rw [zone_goTo]
      show (if u = t then zone pc' else s.zone zone u) = _
      rw [hpc', ← hz]
      split
      · rename_i heq
        rw [heq]
      · rfl
    | ends result =>
      rw [hturn] at h
      obtain rfl := Option.some.inj h
      exact .keeps hquiet (.goTo (.inr rfl) rfl fun _ => rfl)

variable {e : Event τ}

/-- **What a step does.** -/
theorem move_of_step (hguards : Guards program zone key) (h : next program s e = some s') :
    Move program zone key s e s' := by
  cases e with
  | statement t =>
    cases hpc : s.control t with
    | running pc =>
      simp only [next, hpc] at h
      exact execute_move hguards hpc h
    | ended result => simp only [next, hpc, reduceCtorEq] at h
  | raise t =>
    cases hpc : s.control t with
    | running pc =>
      simp only [next, hpc] at h
      obtain rfl := Option.some.inj h
      exact .keeps nofun (.goTo (.inr rfl) rfl fun _ => rfl)
    | ended result => simp only [next, hpc, reduceCtorEq] at h
  | close t =>
    cases hpc : s.control t with
    | running pc => simp only [next, hpc, reduceCtorEq] at h
    | ended result =>
      simp only [next, hpc] at h
      obtain rfl := Option.some.inj h
      have hout : s.zone zone t = .outside := by rw [State.zone, hpc]; rfl
      refine .commits nofun t ?_ rfl
      intro u
      show s.zone zone u = _
      split
      · rename_i heq
        rw [heq, hout]
        rfl
      · rfl

/-! ## Invariants of positions -/

/-- Where a turn leads, `P` holds. -/
def Turn.Reaches (P : π → Prop) : Turn π α → Prop
  | .goesOn pc => P pc
  | .commits pc => P pc
  | .ends _ => True

/-- The statement leads to positions of `P`, and keeps `J` of the shared state. -/
def Statement.Keeps (J : σ → Prop) (P : π → Prop) : Statement ρ σ π α → Prop
  | .tryLock _ taken _ => P taken
  | .lock _ taken => P taken
  | .run effect => ∀ s, J s → J (effect s).2 ∧ (effect s).1.Reaches P

/-- The shared state is in `J`, and every session before a statement is where `P` says. -/
structure Stands (J : σ → Prop) (P : τ → π → Prop) (s : State τ ρ σ π α) : Prop where
  shared : J s.shared
  position : ∀ t pc, s.control t = .running pc → P t pc

theorem forall_running {P : π → Prop} {pc : π} (h : P pc) :
    ∀ pc' : π, (Control.running pc : Control π α) = .running pc' → P pc' := by
  intro pc' hpc'
  rwa [← Control.running.inj hpc']

variable {P : τ → π → Prop} {J : σ → Prop}

theorem Stands.goTo (h : Stands J P s) (hshared : J s'.shared) (hothers : s'.control = s.control)
    {control : Control π α} (hcontrol : ∀ pc, control = .running pc → P t pc) :
    Stands J P (s'.goTo t control) := by
  refine ⟨hshared, ?_⟩
  intro u pc hu
  change Function.update s'.control t control u = _ at hu
  by_cases hut : u = t
  · rw [hut, Function.update_self] at hu
    rw [hut]
    exact hcontrol pc hu
  · rw [Function.update_of_ne hut, hothers] at hu
    exact h.position u pc hu

theorem Stands.goesOn (h : Stands J P s) (new : State τ ρ σ π α) (hshared : J new.shared)
    (hothers : new.control = s.control) {pc : π} (hpc : P t pc) :
    Stands J P (new.goTo t (.running pc)) :=
  h.goTo hshared hothers (forall_running hpc)

theorem Stands.ends (h : Stands J P s) (new : State τ ρ σ π α) (hshared : J new.shared)
    (hothers : new.control = s.control) (result : α) : Stands J P (new.goTo t (.ended result)) :=
  h.goTo hshared hothers nofun

theorem Stands.execute (h : Stands J P s) {statement : Statement ρ σ π α}
    (hkeeps : statement.Keeps J (P t)) (hstep : TransactionLocks.execute s t statement = some s') :
    Stands J P s' := by
  cases statement with
  | tryLock r taken refused =>
    simp only [TransactionLocks.execute] at hstep
    split at hstep
    · obtain rfl := Option.some.inj hstep
      exact h.goesOn (s.take r t) h.shared rfl hkeeps
    · obtain rfl := Option.some.inj hstep
      exact h.ends s h.shared rfl refused
  | lock r taken =>
    simp only [TransactionLocks.execute] at hstep
    split at hstep
    · obtain rfl := Option.some.inj hstep
      exact h.goesOn (s.take r t) h.shared rfl hkeeps
    · -- the session waits, and there is no step
      cases hstep
  | run effect =>
    obtain ⟨hJ, hreaches⟩ := hkeeps s.shared h.shared
    simp only [TransactionLocks.execute] at hstep
    let new : State τ ρ σ π α := { s with shared := (effect s.shared).2 }
    cases hturn : (effect s.shared).1 with
    | goesOn pc' =>
      rw [hturn] at hstep hreaches
      obtain rfl := Option.some.inj hstep
      exact h.goesOn new hJ rfl hreaches
    | commits pc' =>
      rw [hturn] at hstep hreaches
      obtain rfl := Option.some.inj hstep
      exact h.goesOn (new.release t) hJ rfl hreaches
    | ends result =>
      rw [hturn] at hstep
      obtain rfl := Option.some.inj hstep
      exact h.ends new hJ rfl result

/-- **The invariant rule for positions**: one obligation for each statement. -/
theorem Stands.step (hkeeps : ∀ t pc, P t pc → ((program t).statement pc).Keeps J (P t))
    (h : Stands J P s) (hstep : next program s e = some s') : Stands J P s' := by
  cases e with
  | statement t =>
    cases hpc : s.control t with
    | ended result => simp only [next, hpc, reduceCtorEq] at hstep
    | running pc =>
      simp only [next, hpc] at hstep
      exact h.execute (hkeeps t pc (h.position t pc hpc)) hstep
  | raise t =>
    cases hpc : s.control t with
    | ended result => simp only [next, hpc, reduceCtorEq] at hstep
    | running pc =>
      simp only [next, hpc] at hstep
      obtain rfl := Option.some.inj hstep
      exact h.ends s h.shared rfl _
  | close t =>
    cases hpc : s.control t with
    | running pc => simp only [next, hpc, reduceCtorEq] at hstep
    | ended result =>
      simp only [next, hpc] at hstep
      obtain rfl := Option.some.inj hstep
      exact ⟨h.shared, h.position⟩

/-! ## Exclusion -/

/-- A session that tries for its lock tries for that of every session in its section. -/
def SameKey (program : τ → Program ρ σ π α) (zone : π → Zone) (key : τ → ρ)
    (s : State τ ρ σ π α) : Prop :=
  ∀ t u, AtLock program s t → s.InSection zone u → key t = key u

/-- In the guarded part of its section a session has its lock. -/
def Guarded (zone : π → Zone) (key : τ → ρ) (s : State τ ρ σ π α) : Prop :=
  ∀ t, s.zone zone t = .guarded → s.holder (key t) = some t

/-- While a session is in the unguarded part, nobody has its lock. -/
def GivenBack (zone : π → Zone) (key : τ → ρ) (s : State τ ρ σ π α) : Prop :=
  ∀ t, s.zone zone t = .unguarded → s.holder (key t) = none

theorem release_holder (s : State τ ρ σ π α) (t : τ) (r : ρ) :
    (s.release t).holder r = if s.holder r = some t then none else s.holder r := rfl

theorem afterCommit_ne_guarded (z : Zone) : z.afterCommit ≠ .guarded := by
  cases z <;> exact nofun

theorem not_free {r : ρ} (h : s.holder r = some u) (hne : u ≠ t) : ¬ s.Free r t := by
  intro hfree
  rcases hfree with hnone | hself
  · rw [h] at hnone
    cases hnone
  · rw [h] at hself
    exact hne (Option.some.inj hself)

theorem Fewer.zone_eq (h : Fewer zone key s s') (hin : s'.zone zone u ≠ .outside) :
    s'.zone zone u = s.zone zone u :=
  (h.zone u).resolve_right hin

theorem Fewer.inSection (h : Fewer zone key s s') (hin : s'.InSection zone u) :
    s.InSection zone u := by
  unfold State.InSection at hin ⊢
  rwa [h.zone_eq hin] at hin

theorem Guarded.move (h : Guarded zone key s) (hmove : Move program zone key s e s') :
    Guarded zone key s' := by
  intro u hu
  cases hmove with
  | enters t hat hfree hzone hholder =>
    rw [hholder]
    by_cases hut : u = t
    · rw [hut, Function.update_self]
    · rw [hzone, if_neg hut] at hu
      have hheld := h u hu
      -- the lock was free for `t`, so it is another one
      have hkey : key u ≠ key t := by
        intro heq
        exact not_free (heq ▸ hheld) hut hfree
      rw [Function.update_of_ne hkey, hheld]
  | refused t hat hheld hfewer =>
    rw [hfewer.holder]
    exact h u (hfewer.zone_eq (by rw [hu]; exact nofun) ▸ hu)
  | keeps hquiet hfewer =>
    rw [hfewer.holder]
    exact h u (hfewer.zone_eq (by rw [hu]; exact nofun) ▸ hu)
  | commits hquiet t hzone hholder =>
    rw [hzone] at hu
    rw [hholder, release_holder]
    split at hu
    · exact absurd hu (afterCommit_ne_guarded _)
    · rename_i hut
      have hheld := h u hu
      rw [if_neg, hheld]
      rw [hheld]
      intro heq
      exact hut (Option.some.inj heq)

theorem Exclusive.of_inSection (h : Exclusive zone s)
    (hsub : ∀ u, s'.InSection zone u → s.InSection zone u) : Exclusive zone s' := by
  intro t u hne ht hu
  exact h t u hne (hsub t ht) (hsub u hu)

/-- **A step keeps the sections apart exactly if it tries in time.** -/
theorem exclusive_move_iff (hsame : SameKey program zone key s) (hguarded : Guarded zone key s)
    (hexclusive : Exclusive zone s) (hback : GivenBack zone key s)
    (hmove : Move program zone key s e s') : Exclusive zone s' ↔ TriesInTime program zone s e := by
  cases hmove with
  | enters t hat hfree hzone hholder =>
    have ht : s'.InSection zone t := by
      unfold State.InSection
      rw [hzone, if_pos rfl]
      exact nofun
    constructor
    · intro h t' ht' hat' u hne hu
      obtain rfl := Event.statement.inj ht'
      refine h u t hne ?_ ht
      unfold State.InSection
      rw [hzone, if_neg hne, hu]
      exact nofun
    · intro h
      -- nobody else is in the section: the lock would be taken, or given back too early
      have hout : ∀ u, u ≠ t → s.zone zone u = .outside := by
        intro u hne
        have hnot := h t rfl hat u hne
        cases hu : s.zone zone u with
        | outside => rfl
        | unguarded => exact absurd hu hnot
        | guarded =>
          have hin : s.InSection zone u := by
            unfold State.InSection
            rw [hu]
            exact nofun
          have hheld := hguarded u hu
          rw [← hsame t u hat hin] at hheld
          exact absurd hfree (not_free hheld hne)
      have hother : ∀ u, u ≠ t → ¬ s'.InSection zone u := by
        intro u hne hu
        refine hu ?_
        rw [hzone, if_neg hne, hout u hne]
      intro t₁ t₂ hne h₁ h₂
      by_cases heq : t₁ = t
      · exact hother t₂ (fun heq₂ => hne (heq.trans heq₂.symm)) h₂
      · exact hother t₁ heq h₁
  | refused t hat hheld hfewer =>
    refine iff_of_true (hexclusive.of_inSection fun _ => hfewer.inSection) ?_
    · intro t' ht' hat' u hne hu
      obtain rfl := Event.statement.inj ht'
      have hin : s.InSection zone u := by
        unfold State.InSection
        rw [hu]
        exact nofun
      have hnone := hback u hu
      rw [← hsame t u hat hin] at hnone
      exact hheld (.inl hnone)
  | keeps hquiet hfewer =>
    exact iff_of_true (hexclusive.of_inSection fun _ => hfewer.inSection)
      fun t' ht' hat => absurd hat (hquiet t' ht')
  | commits hquiet t hzone hholder =>
    refine iff_of_true (hexclusive.of_inSection ?_) fun t' ht' hat => absurd hat (hquiet t' ht')
    intro u hu hout
    refine hu ?_
    rw [hzone, hout]
    split <;> rfl

theorem GivenBack.move (hguarded : Guarded zone key s) (hback : GivenBack zone key s)
    (hmove : Move program zone key s e s') (hexclusive : Exclusive zone s') :
    GivenBack zone key s' := by
  intro u hu
  cases hmove with
  | enters t hat hfree hzone hholder =>
    by_cases hut : u = t
    · rw [hzone, if_pos hut] at hu
      cases hu
    · -- the section of `u` excludes that of `t`
      have ht : s'.InSection zone t := by
        unfold State.InSection
        rw [hzone, if_pos rfl]
        exact nofun
      have hin : s'.InSection zone u := by
        unfold State.InSection
        rw [hu]
        exact nofun
      exact absurd ht (hexclusive u t hut hin)
  | refused t hat hheld hfewer =>
    rw [hfewer.holder]
    exact hback u (hfewer.zone_eq (by rw [hu]; exact nofun) ▸ hu)
  | keeps hquiet hfewer =>
    rw [hfewer.holder]
    exact hback u (hfewer.zone_eq (by rw [hu]; exact nofun) ▸ hu)
  | commits hquiet t hzone hholder =>
    rw [hzone] at hu
    rw [hholder, release_holder]
    by_cases hut : u = t
    · rw [if_pos hut] at hu
      -- the commit is the first one in the section, or a later one
      have hheld : s.holder (key u) = some t ∨ s.holder (key u) = none := by
        cases hz : s.zone zone u with
        | outside =>
          rw [hz] at hu
          cases hu
        | guarded => exact .inl (hut ▸ hguarded u hz)
        | unguarded => exact .inr (hback u hz)
      rcases hheld with hself | hnone
      · rw [if_pos hself]
      · rw [hnone, if_neg nofun]
    · rw [if_neg hut] at hu
      rw [hback u hu, if_neg nofun]

/-! ## Over runs -/

/-- No session is in its section. -/
def AllOutside (zone : π → Zone) (s : State τ ρ σ π α) : Prop := ∀ t, s.zone zone t = .outside

theorem guarded_of_allOutside (h : AllOutside zone s) : Guarded zone key s := by
  intro t ht
  rw [h] at ht
  cases ht

/-- The sections stay apart exactly if no session tries for its lock while another one is in the
unguarded part of its section. -/
theorem exclusive_run_iff (hguards : Guards program zone key) {I : State τ ρ σ π α → Prop} (hI : I s)
    (hinv : ∀ s e s', I s → next program s e = some s' → I s')
    (hsame : ∀ s, I s → SameKey program zone key s) (hout : AllOutside zone s)
    {steps : List (State τ ρ σ π α × Event τ)} (hrun : Run program s steps s') :
    ((∀ x ∈ steps, Exclusive zone x.1) ∧ Exclusive zone s') ↔
      ∀ x ∈ steps, TriesInTime program zone x.1 x.2 := by
  refine Runs.Run.forall_iff_with (I := fun s => I s ∧ Guarded zone key s)
    (Q := GivenBack zone key) ?_ ?_ ?_ ?_ ?_ ?_ hrun
  · exact ⟨hI, guarded_of_allOutside hout⟩
  · intro t u _ ht
    exact absurd (hout t) ht
  · intro t ht
    rw [hout] at ht
    cases ht
  · intro s e s' h hstep
    exact ⟨hinv s e s' h.1 hstep, h.2.move (move_of_step hguards hstep)⟩
  · intro s e s' h hexclusive hback hstep
    exact exclusive_move_iff (hsame s h.1) h.2 hexclusive hback (move_of_step hguards hstep)
  · intro s e s' h hback hstep hexclusive
    exact hback.move h.2 (move_of_step hguards hstep) hexclusive

/-- **A session that tries for its lock while another one is in its section** is refused by that
very step. -/
theorem tryLock_refused (hsame : SameKey program zone key s) (hguards : Guards program zone key)
    (hguarded : Guarded zone key s) (hintime : TriesInTime program zone s (.statement t))
    {pc taken : π} {r : ρ} {result : α} (hpc : s.control t = .running pc)
    (hst : (program t).statement pc = .tryLock r taken result) (hne : u ≠ t)
    (hin : s.InSection zone u) :
    next program s (.statement t) = some (s.goTo t (.ended result)) := by
  have hat : AtLock program s t := ⟨pc, r, taken, result, hpc, hst⟩
  have hr := (hguards.tryLock t pc r taken result hst).1
  have hu : s.zone zone u = .guarded := by
    cases hu : s.zone zone u with
    | outside => exact absurd hu hin
    | guarded => rfl
    | unguarded => exact absurd hu (hintime t rfl hat u hne)
  have hheld := hguarded u hu
  rw [← hsame t u hat hin, ← hr] at hheld
  simp only [next, hpc, hst, execute]
  exact if_neg (not_free hheld hne)

/-- The sections exclude each other in a run: no two sessions are in them at once, and one that
tries for its lock while another is in its section is refused by that step. -/
structure Excludes (program : τ → Program ρ σ π α) (zone : π → Zone)
    (steps : List (State τ ρ σ π α × Event τ)) (s' : State τ ρ σ π α) : Prop where
  visited : ∀ x ∈ steps, Exclusive zone x.1
  last : Exclusive zone s'
  refused : ∀ x ∈ steps, ∀ t u pc r taken result, x.2 = .statement t →
    x.1.control t = .running pc → (program t).statement pc = .tryLock r taken result → u ≠ t →
    x.1.InSection zone u → next program x.1 x.2 = some (x.1.goTo t (.ended result))

/-- **Exclusion over a run**: the sections exclude each other exactly if no session tries for its
lock while another one is in the unguarded part of its section. -/
theorem excludes_iff (hguards : Guards program zone key) {I : State τ ρ σ π α → Prop} (hI : I s)
    (hinv : ∀ s e s', I s → next program s e = some s' → I s')
    (hsame : ∀ s, I s → SameKey program zone key s) (hout : AllOutside zone s)
    {steps : List (State τ ρ σ π α × Event τ)} (hrun : Run program s steps s') :
    Excludes program zone steps s' ↔ ∀ x ∈ steps, TriesInTime program zone x.1 x.2 := by
  have hiff := exclusive_run_iff hguards hI hinv hsame hout hrun
  constructor
  · intro h
    exact hiff.mp ⟨h.visited, h.last⟩
  · intro h
    obtain ⟨hsteps, hlast⟩ := hiff.mpr h
    refine ⟨hsteps, hlast, ?_⟩
    intro x hx t u pc r taken result he hpc hst hne hin
    have hvisited := hrun.invariant_steps (I := fun s => I s ∧ Guarded zone key s)
      ⟨hI, guarded_of_allOutside hout⟩
      (fun s e s' h hstep => ⟨hinv s e s' h.1 hstep, h.2.move (move_of_step hguards hstep)⟩) x hx
    have hintime := h x hx
    rw [he] at hintime ⊢
    exact tryLock_refused (hsame x.1 hvisited.1) hguards hvisited.2 hintime hpc hst hne hin

end

end TransactionLocks
