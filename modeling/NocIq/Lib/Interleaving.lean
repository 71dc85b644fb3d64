import NocIq.Lib.Runs

/-!
# Interleaving — calls that take turns on shared state

A **call** is a machine with a private position: a step reads and changes the shared state
atomically and either moves on to another position or ends with a result. A rank that every step
lowers bounds its steps. A call runs alone (`Call.alone`), or two of them take turns in any order
(`step`), each from the state the other has left behind.

* **`Call.alone_running` / `Call.alone_ended`** — a call alone, step by step;
  **`Call.alone_invariant`** — and what its steps keep.
* **`ends_of_stuck` / `steps_length_add_le`** — a run of two calls can be no longer than their
  ranks, and where neither can step both have ended.
* **`play_run`** — a schedule, played, is a run.
* **`relyGuarantee`** — what each call asserts of its position and the shared state holds
  throughout, if the steps of the other cannot spoil it.
-/

namespace Interleaving

variable {σ π α π₁ α₁ π₂ α₂ : Type}

/-- Where a call is, or what it has returned. -/
inductive Control (π α : Type) where
  | running (pc : π)
  | ended (result : α)
  deriving DecidableEq

/-- A call, step by step. -/
structure Call (σ π α : Type) where
  step : π → σ → Control π α × σ
  rank : π → Nat
  rank_lt : ∀ pc s pc', (step pc s).1 = .running pc' → rank pc' < rank pc

/-! ## A call alone -/

/-- At most `n` steps of a call whose position has a rank below `n`. -/
def Call.aloneAux (c : Call σ π α) : (n : Nat) → (pc : π) → c.rank pc < n → σ → α × σ
  | 0, _, h, _ => absurd h (Nat.not_lt_zero _)
  | n + 1, pc, h, s =>
    match hstep : (c.step pc s).1 with
    | .ended result => (result, (c.step pc s).2)
    | .running pc' =>
      c.aloneAux n pc' (Nat.lt_of_lt_of_le (c.rank_lt pc s pc' hstep) (Nat.le_of_lt_succ h))
        (c.step pc s).2

/-- The call from `pc` to its end, no other call in between: its result and the state it leaves. -/
def Call.alone (c : Call σ π α) (pc : π) (s : σ) : α × σ :=
  c.aloneAux (c.rank pc + 1) pc (Nat.lt_succ_self _) s

/-- Steps to spare make no difference. Induction on the steps. -/
theorem Call.aloneAux_eq (c : Call σ π α) {m n : Nat} {pc : π} (hm : c.rank pc < m)
    (hn : c.rank pc < n) (s : σ) : c.aloneAux m pc hm s = c.aloneAux n pc hn s := by
  induction m generalizing n pc s with
  | zero => exact absurd hm (Nat.not_lt_zero _)
  | succ m ih =>
    cases n with
    | zero => exact absurd hn (Nat.not_lt_zero _)
    | succ n =>
      unfold aloneAux
      split
      · rfl
      · exact ih _ _ _

theorem Call.alone_running {c : Call σ π α} {pc pc' : π} {s s' : σ}
    (h : c.step pc s = (.running pc', s')) : c.alone pc s = c.alone pc' s' := by
  have hpc : (c.step pc s).1 = .running pc' := by rw [h]
  have hs : (c.step pc s).2 = s' := by rw [h]
  unfold alone
  rw [aloneAux]
  split
  · rename_i result hended
    rw [hpc] at hended
    cases hended
  · rename_i pc'' hrunning
    rw [hpc] at hrunning
    cases hrunning
    rw [hs]
    exact c.aloneAux_eq _ _ s'

theorem Call.alone_ended {c : Call σ π α} {pc : π} {s s' : σ} {result : α}
    (h : c.step pc s = (.ended result, s')) : c.alone pc s = (result, s') := by
  have hpc : (c.step pc s).1 = .ended result := by rw [h]
  have hs : (c.step pc s).2 = s' := by rw [h]
  unfold alone
  rw [aloneAux]
  split
  · rename_i result' hended
    rw [hpc] at hended
    cases hended
    rw [hs]
  · rename_i pc' hrunning
    rw [hpc] at hrunning
    cases hrunning

/-- What every step keeps holds when the call has ended. Induction on the steps it may take. -/
theorem Call.alone_invariant {c : Call σ π α} {I : Control π α → σ → Prop}
    (hstep : ∀ pc s, I (.running pc) s → I (c.step pc s).1 (c.step pc s).2) {pc : π} {s : σ}
    (h : I (.running pc) s) : I (.ended (c.alone pc s).1) (c.alone pc s).2 := by
  generalize hn : c.rank pc = n
  induction n using Nat.strongRecOn generalizing pc s with
  | _ n ih =>
    have hnext := hstep pc s h
    cases hc : (c.step pc s).1 with
    | ended result =>
      rw [hc] at hnext
      have hended : c.step pc s = (.ended result, (c.step pc s).2) := by rw [← hc]
      rw [Call.alone_ended hended]
      exact hnext
    | running pc' =>
      rw [hc] at hnext
      have hrunning : c.step pc s = (.running pc', (c.step pc s).2) := by rw [← hc]
      rw [Call.alone_running hrunning]
      exact ih (c.rank pc') (hn ▸ c.rank_lt pc s pc' hc) hnext rfl

/-! ## Two calls -/

/-- The shared state, and where the two calls are. -/
structure Config (σ π₁ α₁ π₂ α₂ : Type) where
  shared : σ
  left : Control π₁ α₁
  right : Control π₂ α₂

inductive Side where
  | left
  | right
  deriving DecidableEq

/-- One of the calls takes a step. -/
inductive Step (c₁ : Call σ π₁ α₁) (c₂ : Call σ π₂ α₂) :
    Config σ π₁ α₁ π₂ α₂ → Side → Config σ π₁ α₁ π₂ α₂ → Prop where
  | left (s : σ) (pc : π₁) (right : Control π₂ α₂) :
      Step c₁ c₂ ⟨s, .running pc, right⟩ .left ⟨(c₁.step pc s).2, (c₁.step pc s).1, right⟩
  | right (s : σ) (left : Control π₁ α₁) (pc : π₂) :
      Step c₁ c₂ ⟨s, left, .running pc⟩ .right ⟨(c₂.step pc s).2, left, (c₂.step pc s).1⟩

/-- A run: the calls step in any order. -/
abbrev Run (c₁ : Call σ π₁ α₁) (c₂ : Call σ π₂ α₂) := Runs.Run (Step c₁ c₂)

variable {c₁ : Call σ π₁ α₁} {c₂ : Call σ π₂ α₂} {k k' : Config σ π₁ α₁ π₂ α₂}
  {steps : List (Config σ π₁ α₁ π₂ α₂ × Side)}

/-- The steps a call may still take. -/
def Control.stepsLeft (c : Call σ π α) : Control π α → Nat
  | .running pc => c.rank pc + 1
  | .ended _ => 0

theorem stepsLeft_step (c : Call σ π α) (pc : π) (s : σ) :
    (c.step pc s).1.stepsLeft c < (Control.running pc : Control π α).stepsLeft c := by
  cases h : (c.step pc s).1 with
  | ended result => exact Nat.succ_pos _
  | running pc' => exact Nat.succ_lt_succ (c.rank_lt pc s pc' h)

theorem steps_length_add_le (h : Run c₁ c₂ k steps k') :
    steps.length + (k'.left.stepsLeft c₁ + k'.right.stepsLeft c₂) ≤
      k.left.stepsLeft c₁ + k.right.stepsLeft c₂ := by
  induction h with
  | nil => simp
  | snoc _ hstep ih =>
    rw [List.length_append, List.length_singleton]
    cases hstep with
    | left s pc right =>
      have hlt := stepsLeft_step c₁ pc s
      dsimp only at ih ⊢
      omega
    | right s left pc =>
      have hlt := stepsLeft_step c₂ pc s
      dsimp only at ih ⊢
      omega

theorem ends_of_stuck (h : ∀ side k', ¬ Step c₁ c₂ k side k') :
    ∃ result₁ result₂, k.left = .ended result₁ ∧ k.right = .ended result₂ := by
  obtain ⟨s, left, right⟩ := k
  cases left with
  | running pc => exact absurd (.left s pc right) (h .left _)
  | ended result₁ =>
    cases right with
    | running pc => exact absurd (.right s _ pc) (h .right _)
    | ended result₂ => exact ⟨result₁, result₂, rfl, rfl⟩

/-! ## Schedules -/

/-- The step of a side, if its call has not ended. -/
def next (c₁ : Call σ π₁ α₁) (c₂ : Call σ π₂ α₂) (k : Config σ π₁ α₁ π₂ α₂) :
    Side → Option (Config σ π₁ α₁ π₂ α₂)
  | .left =>
    match k.left with
    | .running pc => some ⟨(c₁.step pc k.shared).2, (c₁.step pc k.shared).1, k.right⟩
    | .ended _ => none
  | .right =>
    match k.right with
    | .running pc => some ⟨(c₂.step pc k.shared).2, k.left, (c₂.step pc k.shared).1⟩
    | .ended _ => none

theorem step_of_next {side : Side} (h : next c₁ c₂ k side = some k') : Step c₁ c₂ k side k' := by
  obtain ⟨s, left, right⟩ := k
  cases side with
  | left =>
    cases left with
    | running pc =>
      obtain rfl := Option.some.inj h
      exact .left s pc right
    | ended result => cases h
  | right =>
    cases right with
    | running pc =>
      obtain rfl := Option.some.inj h
      exact .right s left pc
    | ended result => cases h

/-- The steps of a schedule and where it leads; a side whose call has ended is passed over. -/
def play (c₁ : Call σ π₁ α₁) (c₂ : Call σ π₂ α₂) (k : Config σ π₁ α₁ π₂ α₂) :
    List Side → List (Config σ π₁ α₁ π₂ α₂ × Side) × Config σ π₁ α₁ π₂ α₂
  | [] => ([], k)
  | side :: sides =>
    match next c₁ c₂ k side with
    | some k' => ((k, side) :: (play c₁ c₂ k' sides).1, (play c₁ c₂ k' sides).2)
    | none => play c₁ c₂ k sides

theorem play_run (c₁ : Call σ π₁ α₁) (c₂ : Call σ π₂ α₂) (k : Config σ π₁ α₁ π₂ α₂)
    (sides : List Side) : Run c₁ c₂ k (play c₁ c₂ k sides).1 (play c₁ c₂ k sides).2 := by
  induction sides generalizing k with
  | nil => exact .nil
  | cons side sides ih =>
    unfold play
    split
    · rename_i k' hnext
      have hfirst : Run c₁ c₂ k [(k, side)] k' := .snoc .nil (step_of_next hnext)
      exact hfirst.trans (ih k')
    · exact ih k

/-! ## Rely and guarantee -/

/-- Every step of the call from a state of `J` where it asserts `A` keeps both and changes the
shared state by `G`. -/
def Guarantees (c : Call σ π α) (J : σ → Prop) (A : Control π α → σ → Prop)
    (G : σ → σ → Prop) : Prop :=
  ∀ pc s, J s → A (.running pc) s →
    J (c.step pc s).2 ∧ A (c.step pc s).1 (c.step pc s).2 ∧ G s (c.step pc s).2

/-- Changes by `G` do not spoil the assertion. -/
def StableUnder (A : Control π α → σ → Prop) (G : σ → σ → Prop) : Prop :=
  ∀ control s s', A control s → G s s' → A control s'

/-- The common invariant, and what the two calls assert. -/
structure Asserts (J : σ → Prop) (A₁ : Control π₁ α₁ → σ → Prop) (A₂ : Control π₂ α₂ → σ → Prop)
    (k : Config σ π₁ α₁ π₂ α₂) : Prop where
  shared : J k.shared
  left : A₁ k.left k.shared
  right : A₂ k.right k.shared

variable {J : σ → Prop} {A₁ : Control π₁ α₁ → σ → Prop} {A₂ : Control π₂ α₂ → σ → Prop}
  {G₁ G₂ : σ → σ → Prop}

/-- **The rely-guarantee rule**, for a step. -/
theorem Asserts.step (h₁ : Guarantees c₁ J A₁ G₁) (h₂ : Guarantees c₂ J A₂ G₂)
    (stable₁ : StableUnder A₁ G₂) (stable₂ : StableUnder A₂ G₁) {side : Side}
    (h : Asserts J A₁ A₂ k) (hstep : Step c₁ c₂ k side k') : Asserts J A₁ A₂ k' := by
  cases hstep with
  | left s pc right =>
    obtain ⟨hJ, hA, hG⟩ := h₁ pc s h.shared h.left
    exact ⟨hJ, hA, stable₂ _ _ _ h.right hG⟩
  | right s left pc =>
    obtain ⟨hJ, hA, hG⟩ := h₂ pc s h.shared h.right
    exact ⟨hJ, stable₁ _ _ _ h.left hG, hA⟩

/-- **The rely-guarantee rule**, for a run. -/
theorem relyGuarantee (h₁ : Guarantees c₁ J A₁ G₁) (h₂ : Guarantees c₂ J A₂ G₂)
    (stable₁ : StableUnder A₁ G₂) (stable₂ : StableUnder A₂ G₁) (h : Asserts J A₁ A₂ k)
    (hrun : Run c₁ c₂ k steps k') : Asserts J A₁ A₂ k' :=
  hrun.invariant h fun _ _ _ hk hstep => hk.step h₁ h₂ stable₁ stable₂ hstep

end Interleaving
