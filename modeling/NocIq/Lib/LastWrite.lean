import NocIq.Lib.Runs

/-!
# LastWrite — registers and the history of a run

A part of the state that some steps of a run write and all others leave is a **register**. What a
register holds is what the last of the steps that write has written, so that a statement about the
state becomes one about the history.

* **`since_concat_iff`** — what has been started and not ended, in a history one step longer.
* **`Run.register_iff`** — what a register holds after a run.
-/

namespace Runs

variable {σ ε α : Type*} {starts ends : σ × ε → Prop} {writes : σ × ε → α → Prop}
  {steps : List (σ × ε)} {x : σ × ε} {a b : α}

/-- One of the steps starts something, and none after it ends it. -/
def Since (starts ends : σ × ε → Prop) (steps : List (σ × ε)) : Prop :=
  ∃ before x after, steps = before ++ x :: after ∧ starts x ∧ ∀ y ∈ after, ¬ ends y

/-- `a` is what the last of the steps that write has written. -/
def LastWritten (writes : σ × ε → α → Prop) (steps : List (σ × ε)) (a : α) : Prop :=
  Since (writes · a) (fun y => ∃ b, writes y b) steps

theorem not_since_nil : ¬ Since starts ends [] := by
  rintro ⟨before, x, after, heq, -⟩
  simp at heq

/-- **One step more.** It starts it, or it does not end it and it has been started before. -/
theorem since_concat_iff :
    Since starts ends (steps ++ [x]) ↔ starts x ∨ ¬ ends x ∧ Since starts ends steps := by
  constructor
  · rintro ⟨before, y, after, heq, hy, hlast⟩
    rcases List.eq_nil_or_concat after with rfl | ⟨after, z, rfl⟩
    · obtain ⟨-, hxy⟩ := List.append_inj' heq rfl
      rw [List.singleton_inj.mp hxy]
      exact .inl hy
    · rw [List.concat_eq_append, ← List.cons_append, ← List.append_assoc] at heq
      obtain ⟨rfl, hxz⟩ := List.append_inj' heq rfl
      obtain rfl := List.singleton_inj.mp hxz
      rw [List.concat_eq_append, List.forall_mem_append, List.forall_mem_singleton] at hlast
      exact .inr ⟨hlast.2, before, y, after, rfl, hy, hlast.1⟩
  · rintro (hx | ⟨hnot, before, y, after, rfl, hy, hlast⟩)
    · exact ⟨steps, x, [], rfl, hx, by simp⟩
    · refine ⟨before, y, after ++ [x], by simp, hy, ?_⟩
      rw [List.forall_mem_append, List.forall_mem_singleton]
      exact ⟨hlast, hnot⟩

/-- **A register over a run.** It is empty at first, a step that writes leaves what it writes, and
the other steps leave it alone. Induction on the run. -/
theorem Run.register_iff {step : σ → ε → σ → Prop} {s t : σ} {r : σ → Option α}
    (hinit : r s = none) (hwrite : ∀ t e u, step t e u → ∀ a, writes (t, e) a → r u = some a)
    (hkeep : ∀ t e u, step t e u → (∀ a, ¬ writes (t, e) a) → r u = r t)
    (h : Run step s steps t) : r t = some a ↔ LastWritten writes steps a := by
  induction h with
  | nil =>
    rw [hinit]
    exact iff_of_false (fun heq => by cases heq) not_since_nil
  | @snoc steps t u e _ hstep ih =>
    rw [LastWritten, since_concat_iff]
    by_cases hwrites : ∃ b, writes (t, e) b
    · obtain ⟨b, hb⟩ := hwrites
      rw [hwrite t e u hstep b hb, Option.some_inj]
      constructor
      · rintro rfl
        exact .inl hb
      · rintro (ha | ⟨hnot, -⟩)
        · exact Option.some.inj ((hwrite t e u hstep b hb).symm.trans (hwrite t e u hstep a ha))
        · exact absurd ⟨b, hb⟩ hnot
    · rw [hkeep t e u hstep fun b hb => hwrites ⟨b, hb⟩, ih]
      exact ⟨fun ha => .inr ⟨hwrites, ha⟩,
        fun ha => ha.elim (fun ha => absurd ⟨a, ha⟩ hwrites) And.right⟩

end Runs
