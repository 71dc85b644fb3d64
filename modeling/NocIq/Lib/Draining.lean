import Mathlib.Data.List.Nodup
import Mathlib.Data.List.Perm.Subperm

/-!
# Draining — work that is due, taken in batches

Some rows of a table are due. A call selects a batch of them, in no particular order, and works on
the rows of the batch; what has been worked on is no longer due.

* **`countP_workOn`** — what a call leaves due.
* **`Drains.countP_eq_zero`** — enough calls leave nothing due.
* **`Drains.mem_of_not_due`** — and no row is touched that has not been due.
* **`countP_remove`** — what is due when the rows of a batch are deleted instead.
-/

namespace Draining

variable {κ ρ : Type} {key : ρ → κ} {due : ρ → Bool} {work : ρ → ρ}
  {rows rows' : List ρ} {batch : List κ} {size : Nat}

/-- The keys of at most `size` rows that are due, and of as many as there are below that. -/
structure IsBatch (key : ρ → κ) (due : ρ → Bool) (size : Nat) (rows : List ρ) (batch : List κ) :
    Prop where
  nodup : batch.Nodup
  selected : ∀ k ∈ batch, ∃ r ∈ rows, key r = k ∧ due r = true
  full : batch.length = min size (rows.countP due)

theorem isBatch_take (h : (rows.map key).Nodup) :
    IsBatch key due size rows (((rows.filter due).take size).map key) where
  nodup := by
    refine (h.sublist ?_)
    exact ((List.take_sublist _ _).trans List.filter_sublist).map key
  selected := by
    intro k hk
    obtain ⟨r, hr, rfl⟩ := List.mem_map.mp hk
    obtain ⟨hrow, hdue⟩ := List.mem_filter.mp (List.mem_of_mem_take hr)
    exact ⟨r, hrow, rfl, hdue⟩
  full := by
    rw [List.length_map, List.length_take, List.countP_eq_length_filter]

theorem IsBatch.due_of_mem (h : (rows.map key).Nodup) (hbatch : IsBatch key due size rows batch)
    {r : ρ} (hr : r ∈ rows) (hk : key r ∈ batch) : due r = true := by
  obtain ⟨r', hrow, hkey, hdue⟩ := hbatch.selected _ hk
  rwa [List.inj_on_of_nodup_map h hrow hr hkey] at hdue

variable [DecidableEq κ]

/-- The work on the rows of a batch. -/
def workOn (key : ρ → κ) (work : ρ → ρ) (batch : List κ) (rows : List ρ) : List ρ :=
  rows.map fun r => if key r ∈ batch then work r else r

theorem keys_workOn (hkey : ∀ r, key (work r) = key r) :
    (workOn key work batch rows).map key = rows.map key := by
  unfold workOn
  rw [List.map_map]
  refine List.map_congr_left fun r _ => ?_
  show key (if key r ∈ batch then work r else r) = key r
  split
  · exact hkey r
  · rfl

theorem length_filter_batch (h : (rows.map key).Nodup) (hbatch : IsBatch key due size rows batch) :
    (rows.filter fun r => decide (key r ∈ batch)).length = batch.length := by
  have hperm : ((rows.filter fun r => decide (key r ∈ batch)).map key).Perm batch := by
    refine (List.perm_ext_iff_of_nodup (h.sublist (List.filter_sublist.map key))
      hbatch.nodup).mpr fun k => ?_
    rw [List.mem_map]
    constructor
    · rintro ⟨r, hr, rfl⟩
      exact of_decide_eq_true (List.mem_filter.mp hr).2
    · intro hk
      obtain ⟨r, hrow, rfl, -⟩ := hbatch.selected k hk
      exact ⟨r, List.mem_filter.mpr ⟨hrow, decide_eq_true hk⟩, rfl⟩
  rw [← hperm.length_eq, List.length_map]

/-! ## Deletion -/

/-- The table without the rows of a batch. -/
def remove (key : ρ → κ) (batch : List κ) (rows : List ρ) : List ρ :=
  rows.filter fun r => decide (key r ∉ batch)

theorem keys_remove (h : (rows.map key).Nodup) : ((remove key batch rows).map key).Nodup :=
  h.sublist (List.filter_sublist.map key)

theorem countP_remove (h : (rows.map key).Nodup) (hbatch : IsBatch key due size rows batch) :
    batch.length + (remove key batch rows).countP due = rows.countP due := by
  have hsplit := List.countP_eq_countP_filter_add rows due fun r => decide (key r ∈ batch)
  have hgone : (rows.filter fun r => decide (key r ∈ batch)).countP due = batch.length := by
    rw [← length_filter_batch h hbatch, List.countP_eq_length]
    intro r hr
    obtain ⟨hrow, hk⟩ := List.mem_filter.mp hr
    exact hbatch.due_of_mem h hrow (of_decide_eq_true hk)
  have hkept : remove key batch rows = rows.filter fun r => !decide (key r ∈ batch) :=
    List.filter_congr fun r _ => decide_not
  rw [hkept]
  omega

theorem filter_not_due_remove (h : (rows.map key).Nodup)
    (hbatch : IsBatch key due size rows batch) :
    ((remove key batch rows).filter fun r => !due r) = rows.filter fun r => !due r := by
  unfold remove
  rw [List.filter_filter]
  refine List.filter_congr fun r hr => ?_
  cases hdue : due r with
  | true => rfl
  | false =>
    have hk : key r ∉ batch := by
      intro hk
      rw [hbatch.due_of_mem h hr hk] at hdue
      cases hdue
    simp [hk]

theorem filter_not_due_eq_self (h : rows.countP due = 0) :
    (rows.filter fun r => !due r) = rows := by
  rw [List.filter_eq_self]
  intro r hr
  simpa using List.countP_eq_zero.mp h r hr

/-! ## Work -/

/-- **What a call leaves due.** -/
theorem countP_workOn (h : (rows.map key).Nodup) (hdone : ∀ r, due (work r) = false)
    (hbatch : IsBatch key due size rows batch) :
    (workOn key work batch rows).countP due = rows.countP due - size := by
  have hsplit : rows.countP due =
      (workOn key work batch rows).countP due +
        (rows.filter fun r => decide (key r ∈ batch)).length := by
    have hmem := fun r hr => hbatch.due_of_mem h (r := r) hr
    clear hbatch h
    induction rows with
    | nil => rfl
    | cons r rows ih =>
      have hrest := ih fun r hr => hmem r (List.mem_cons_of_mem _ hr)
      unfold workOn at hrest ⊢
      rw [List.map_cons, List.countP_cons, List.countP_cons, List.filter_cons]
      by_cases hk : key r ∈ batch
      · have hdue := hmem r List.mem_cons_self hk
        simp only [hk, hdue, hdone, if_true, decide_true, List.length_cons, Bool.false_eq_true,
          if_false]
        omega
      · simp only [hk, if_false, decide_false, Bool.false_eq_true]
        omega
  have hlength := length_filter_batch h hbatch
  have hfull := hbatch.full
  omega

/-- Some calls, one after another, each with a batch of its own. -/
inductive Drains (key : ρ → κ) (due : ρ → Bool) (work : ρ → ρ) (size : Nat) :
    Nat → List ρ → List ρ → Prop where
  | none (rows : List ρ) : Drains key due work size 0 rows rows
  | more {calls : Nat} {rows rows' : List ρ} {batch : List κ}
      (hbatch : IsBatch key due size rows batch)
      (hrest : Drains key due work size calls (workOn key work batch rows) rows') :
      Drains key due work size (calls + 1) rows rows'

/-- **Enough calls leave nothing due.** Induction on the calls. -/
theorem Drains.countP_eq_zero {calls : Nat} (h : Drains key due work size calls rows rows')
    (hrows : (rows.map key).Nodup) (hkey : ∀ r, key (work r) = key r)
    (hdone : ∀ r, due (work r) = false) (henough : rows.countP due ≤ calls * size) :
    rows'.countP due = 0 := by
  induction h with
  | none rows => omega
  | @more calls rows rows' batch hbatch _ ih =>
    refine ih ((keys_workOn hkey).symm ▸ hrows) ?_
    rw [countP_workOn hrows hdone hbatch, Nat.succ_mul] at *
    omega

/-- A row that is not due stays in the table. Induction on the calls. -/
theorem Drains.mem_of_not_due {calls : Nat} (h : Drains key due work size calls rows rows')
    (hrows : (rows.map key).Nodup) (hkey : ∀ r, key (work r) = key r) {r : ρ} (hr : r ∈ rows)
    (hdue : due r = false) : r ∈ rows' := by
  induction h with
  | none rows => exact hr
  | @more calls rows rows' batch hbatch _ ih =>
    refine ih ((keys_workOn hkey).symm ▸ hrows) (List.mem_map.mpr ⟨r, hr, if_neg ?_⟩)
    intro hk
    rw [hbatch.due_of_mem hrows hr hk] at hdue
    cases hdue

/-- A row that has been worked on stays in the table, and so does one that is not due. Induction on
the calls. -/
theorem Drains.mem_or_mem {calls : Nat} (h : Drains key due work size calls rows rows')
    (hrows : (rows.map key).Nodup) (hkey : ∀ r, key (work r) = key r)
    (hdone : ∀ r, due (work r) = false) {r : ρ} (hr : r ∈ rows) : r ∈ rows' ∨ work r ∈ rows' := by
  induction h generalizing r with
  | none rows => exact .inl hr
  | @more calls rows rows' batch hbatch hrest ih =>
    have hunique : ((workOn key work batch rows).map key).Nodup := (keys_workOn hkey).symm ▸ hrows
    have hnext : (if key r ∈ batch then work r else r) ∈ workOn key work batch rows :=
      List.mem_map_of_mem (f := fun r => if key r ∈ batch then work r else r) hr
    by_cases hk : key r ∈ batch
    · rw [if_pos hk] at hnext
      exact .inr (hrest.mem_of_not_due hunique hkey hnext (hdone r))
    · rw [if_neg hk] at hnext
      exact ih hunique hnext

end Draining
