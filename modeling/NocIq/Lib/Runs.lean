import Mathlib.Data.List.Basic

/-!
# Runs — finite runs of a labelled transition system

A system is a step relation `step : σ → ε → σ → Prop` on states `σ` and events `ε`. A run
records, in order, the states it leaves together with the event taken there, so that a
statement can speak about every state a run visits and about every step it takes.

* **`Run.invariant`** — what holds initially and is kept by every step holds in the state a
  run ends in; `Run.invariant_steps` says the same of the states it leaves.
* **`Run.forall_iff`** — when a step keeps a property `P` exactly if it meets a condition `C`,
  a run stays inside `P` exactly if all of its steps meet `C`.
* **`Run.pairwise_iff`** — a transitive relation that every step keeps relates every later state
  to every earlier one.
* **`Run.split`** — a run that takes a given step is a run up to it, the step, and a run after.
* **`replay_run`** — a step *function* gives a run over every list of events.
-/

namespace Runs

variable {σ ε : Type*}

/-- `Run step s steps t`: a run from `s` to `t`. `steps` lists the states it leaves, oldest
first, each with the event taken there. -/
inductive Run (step : σ → ε → σ → Prop) (s : σ) : List (σ × ε) → σ → Prop where
  | nil : Run step s [] s
  | snoc {steps : List (σ × ε)} {t u : σ} {e : ε}
      (hrun : Run step s steps t) (hstep : step t e u) :
      Run step s (steps ++ [(t, e)]) u

variable {step : σ → ε → σ → Prop} {s t u : σ} {steps : List (σ × ε)}

/-! ## Invariants -/

variable {I : σ → Prop}

/-- **The invariant rule.** A property of the initial state that every step keeps holds in the
state the run ends in. -/
theorem Run.invariant (hinit : I s) (hstep : ∀ t e u, I t → step t e u → I u)
    (h : Run step s steps t) : I t := by
  induction h with
  | nil => exact hinit
  | snoc _ hs ih => exact hstep _ _ _ ih hs

theorem Run.invariant_steps (hinit : I s) (hstep : ∀ t e u, I t → step t e u → I u)
    (h : Run step s steps t) : ∀ x ∈ steps, I x.1 := by
  induction h with
  | nil => simp
  | snoc hrun _ ih =>
    intro x hx
    rcases List.mem_append.mp hx with hx | hx
    · exact ih x hx
    · rw [List.mem_singleton.mp hx]
      exact hrun.invariant hinit hstep

/-- The invariant rule over one given run: only the steps it takes have to keep the property. -/
theorem Run.invariant_of_steps (hinit : I s) (h : Run step s steps t)
    (hstep : ∀ x ∈ steps, ∀ u, I x.1 → step x.1 x.2 u → I u) : I t := by
  induction h with
  | nil => exact hinit
  | snoc _ hs ih =>
    have hprefix := ih fun x hx => hstep x (List.mem_append_left _ hx)
    exact hstep _ (List.mem_append_right _ (List.mem_singleton_self _)) _ hprefix hs

/-- A property that steps keep as long as `P` holds. Induction on the run. -/
theorem Run.invariant_within {P Q : σ → Prop} (hQ : Q s)
    (hkeep : ∀ t e u, P t → Q t → step t e u → P u → Q u) (h : Run step s steps t)
    (hsteps : ∀ x ∈ steps, P x.1) (hlast : P t) : Q t := by
  induction h with
  | nil => exact hQ
  | snoc _ hs ih =>
    have hP := hsteps _ (List.mem_append_right _ (List.mem_singleton_self _))
    exact hkeep _ _ _ hP (ih (fun x hx => hsteps x (List.mem_append_left _ hx)) hP) hs hlast

/-- `Run.forall_iff` with a second property `Q`, which holds as long as `P` does. -/
theorem Run.forall_iff_with {P Q : σ → Prop} {C : σ → ε → Prop} (hI : I s) (hP : P s) (hQ : Q s)
    (hinv : ∀ t e u, I t → step t e u → I u)
    (hiff : ∀ t e u, I t → P t → Q t → step t e u → (P u ↔ C t e))
    (hkeep : ∀ t e u, I t → Q t → step t e u → P u → Q u) (h : Run step s steps t) :
    ((∀ x ∈ steps, P x.1) ∧ P t) ↔ ∀ x ∈ steps, C x.1 x.2 := by
  have hwithin : ∀ {steps t}, Run step s steps t → (∀ x ∈ steps, P x.1) → P t → I t ∧ Q t := by
    intro steps t hrun hsteps hlast
    refine hrun.invariant_within (P := P) (Q := fun t => I t ∧ Q t) ⟨hI, hQ⟩ ?_ hsteps hlast
    intro t e u _ hIQ hs hPu
    exact ⟨hinv t e u hIQ.1 hs, hkeep t e u hIQ.1 hIQ.2 hs hPu⟩
  induction h with
  | nil => simp [hP]
  | snoc hrun hs ih =>
    simp only [List.mem_append, List.mem_singleton]
    constructor
    · rintro ⟨hall, hPu⟩ x (hx | rfl)
      · exact ih.mp ⟨fun y hy => hall y (Or.inl hy), hall _ (Or.inr rfl)⟩ x hx
      · have hsteps := fun y hy => hall y (Or.inl hy)
        have hPt := hall _ (Or.inr rfl)
        obtain ⟨hIt, hQt⟩ := hwithin hrun hsteps hPt
        exact (hiff _ _ _ hIt hPt hQt hs).mp hPu
    · intro hC
      obtain ⟨hall, hPt⟩ := ih.mpr fun x hx => hC x (Or.inl hx)
      obtain ⟨hIt, hQt⟩ := hwithin hrun hall hPt
      refine ⟨?_, (hiff _ _ _ hIt hPt hQt hs).mpr (hC _ (Or.inr rfl))⟩
      rintro x (hx | rfl)
      · exact hall x hx
      · exact hPt

/-- **Runs that stay inside `P`.** Let `I` be an invariant and let every step from a state of
`I` and `P` end in `P` exactly if it meets `C`. Then a run visits only states of `P` exactly if
all of its steps meet `C`. -/
theorem Run.forall_iff {P : σ → Prop} {C : σ → ε → Prop} (hI : I s) (hP : P s)
    (hinv : ∀ t e u, I t → step t e u → I u)
    (hiff : ∀ t e u, I t → P t → step t e u → (P u ↔ C t e)) (h : Run step s steps t) :
    ((∀ x ∈ steps, P x.1) ∧ P t) ↔ ∀ x ∈ steps, C x.1 x.2 :=
  h.forall_iff_with (Q := fun _ => True) hI hP trivial hinv
    (fun t e u hIt hPt _ hs => hiff t e u hIt hPt hs) fun _ _ _ _ _ _ _ => trivial

/-! ## The states of a run -/

/-- The states a run visits, in order. -/
def visited (steps : List (σ × ε)) (t : σ) : List σ := steps.map Prod.fst ++ [t]

theorem forall_mem_visited {P : σ → Prop} :
    (∀ u ∈ visited steps t, P u) ↔ (∀ x ∈ steps, P x.1) ∧ P t := by
  unfold visited
  rw [List.forall_mem_append, List.forall_mem_singleton, List.forall_mem_map]

theorem Run.invariant_visited (hinit : I s) (hstep : ∀ t e u, I t → step t e u → I u)
    (h : Run step s steps t) : ∀ u ∈ visited steps t, I u :=
  forall_mem_visited.mpr ⟨h.invariant_steps hinit hstep, h.invariant hinit hstep⟩

/-- **Later states.** For a step function and a transitive relation: every later state of a run is
related to every earlier one exactly if each step relates its two ends. -/
theorem Run.pairwise_iff {f : σ → ε → σ} {R : σ → σ → Prop}
    (htrans : ∀ s t u, R s t → R t u → R s u)
    (h : Run (fun t e u => f t e = u) s steps t) :
    (visited steps t).Pairwise R ↔ ∀ x ∈ steps, R x.1 (f x.1 x.2) := by
  induction h with
  | nil => simp [visited]
  | @snoc steps t u e _ hs ih =>
    have hvisited : visited (steps ++ [(t, e)]) u = visited steps t ++ [u] := by
      simp [visited]
    have hlast : (∀ a ∈ visited steps t, R a u) → R t u := by
      intro hall
      exact hall t (by simp [visited])
    rw [hvisited, List.pairwise_append, ih, List.forall_mem_append, List.forall_mem_singleton]
    simp only [List.pairwise_singleton, List.mem_singleton, forall_eq, true_and, hs]
    constructor
    · intro hall
      exact ⟨hall.1, hlast hall.2⟩
    · intro hall
      refine ⟨hall.1, ?_⟩
      intro a ha
      have hbefore := ih.mpr hall.1
      rcases List.mem_append.mp ha with ha' | ha'
      · -- an earlier state is related to `t`
        have htlast := (List.pairwise_append.mp hbefore).2.2 a ha' t (List.mem_singleton_self t)
        exact htrans _ _ _ htlast hall.2
      · rw [List.mem_singleton.mp ha']
        exact hall.2

/-! ## Composition -/

/-- Runs compose. Induction on the second one. -/
theorem Run.trans {steps' : List (σ × ε)} (h₁ : Run step s steps t) (h₂ : Run step t steps' u) :
    Run step s (steps ++ steps') u := by
  induction h₂ with
  | nil => simpa using h₁
  | snoc _ hs ih =>
    rw [← List.append_assoc]
    exact .snoc ih hs

/-- A run that takes the step `(m, e)` reaches `m`, takes the step, and goes on from there. -/
theorem Run.split {l₁ l₂ : List (σ × ε)} {m : σ} {e : ε}
    (h : Run step s (l₁ ++ (m, e) :: l₂) t) :
    ∃ u, Run step s l₁ m ∧ step m e u ∧ Run step u l₂ t := by
  generalize hl : l₁ ++ (m, e) :: l₂ = l at h
  induction h generalizing l₂ with
  | nil => simp at hl
  | @snoc steps t' u' e' hrun hs ih =>
    rcases List.eq_nil_or_concat l₂ with rfl | ⟨l₂', x, rfl⟩
    · obtain ⟨rfl, hx⟩ := List.append_inj' hl rfl
      obtain ⟨rfl, rfl⟩ := Prod.mk.inj (List.singleton_inj.mp hx)
      exact ⟨u', hrun, hs, .nil⟩
    · rw [List.concat_eq_append, ← List.cons_append, ← List.append_assoc] at hl
      obtain ⟨hl', hx⟩ := List.append_inj' hl rfl
      obtain rfl := List.singleton_inj.mp hx
      obtain ⟨u, hpre, hm, hpost⟩ := ih hl'
      exact ⟨u, hpre, hm, by rw [List.concat_eq_append]; exact .snoc hpost hs⟩

theorem Run.restrict {A : σ → ε → Prop} (h : Run step s steps t) (hA : ∀ x ∈ steps, A x.1 x.2) :
    Run (fun t e u => step t e u ∧ A t e) s steps t := by
  induction h with
  | nil => exact .nil
  | snoc _ hs ih =>
    have hbefore := ih fun x hx => hA x (List.mem_append_left _ hx)
    exact .snoc hbefore ⟨hs, hA _ (List.mem_append_right _ (List.mem_singleton_self _))⟩

/-! ## Runs of a step function -/

/-- The states a step function leaves, and the events it takes, over a list of events. -/
def replay (f : σ → ε → σ) : σ → List ε → List (σ × ε)
  | _, [] => []
  | s, e :: es => (s, e) :: replay f (f s e) es

theorem replay_run (f : σ → ε → σ) (s : σ) (es : List ε) :
    Run (fun t e u => f t e = u) s (replay f s es) (es.foldl f s) := by
  induction es generalizing s with
  | nil => exact .nil
  | cons e es ih =>
    have hfirst : Run (fun t e u => f t e = u) s [(s, e)] (f s e) := .snoc .nil rfl
    exact hfirst.trans (ih (f s e))

end Runs
