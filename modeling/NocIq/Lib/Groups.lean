import Mathlib.Data.List.Dedup
import Mathlib.Data.List.Sort

/-!
# Groups — the newest groups of a query

`GROUP BY part ORDER BY part DESC LIMIT n` on a list of rows: the `n` largest keys, and the rows of
each.

* **`limited_append`** — rows that fall into none of the selected groups do not change the result,
  and **`counts_append_iff`**: others do, even if it only counts.
* **`limited_map`** — neither does rewriting rows under their keys, but for the rewritten rows.
-/

namespace Groups

variable {ρ κ : Type} [LinearOrder κ] {n : Nat} {part : ρ → κ} {rows more : List ρ}

/-- The keys of the rows, each once, in descending order. -/
def keys (part : ρ → κ) (rows : List ρ) : List κ := (rows.map part).dedup.insertionSort (· ≥ ·)

def newest (n : Nat) (part : ρ → κ) (rows : List ρ) : List κ := (keys part rows).take n

def group (part : ρ → κ) (rows : List ρ) (k : κ) : List ρ :=
  rows.filter fun r => decide (part r = k)

def limited (n : Nat) (part : ρ → κ) (rows : List ρ) : List (κ × List ρ) :=
  (newest n part rows).map fun k => (k, group part rows k)

def selected (n : Nat) (part : ρ → κ) (rows : List ρ) : List ρ :=
  rows.filter fun r => decide (part r ∈ newest n part rows)

/-! ## Keys -/

theorem mem_keys {k : κ} : k ∈ keys part rows ↔ ∃ r ∈ rows, part r = k := by
  unfold keys
  rw [List.mem_insertionSort, List.mem_dedup, List.mem_map]

theorem keys_descending (part : ρ → κ) (rows : List ρ) : (keys part rows).Pairwise (· > ·) := by
  have hsorted : (keys part rows).Pairwise (· ≥ ·) := List.pairwise_insertionSort _ _
  have hnodup : (keys part rows).Nodup :=
    (List.perm_insertionSort _ _).symm.nodup (List.nodup_dedup _)
  apply (hsorted.and hnodup).imp
  intro a b hab
  exact lt_of_le_of_ne hab.1 (Ne.symm hab.2)

theorem keys_eq_filter (part : ρ → κ) (rows more : List ρ) :
    keys part rows = (keys part (rows ++ more)).filter fun k => decide (k ∈ rows.map part) := by
  refine List.Pairwise.eq_of_mem_iff (keys_descending part rows)
    ((keys_descending part (rows ++ more)).sublist List.filter_sublist) ?_
  intro k
  rw [List.mem_filter, mem_keys, mem_keys, decide_eq_true_iff, List.mem_map]
  constructor
  · rintro ⟨r, hr, hk⟩
    exact ⟨⟨r, List.mem_append_left _ hr, hk⟩, r, hr, hk⟩
  · rintro ⟨-, hk⟩
    exact hk

omit [LinearOrder κ] in
theorem take_filter {p : κ → Bool} {l : List κ} (h : ∀ k ∈ l.take n, p k = true) :
    (l.filter p).take n = l.take n := by
  induction l generalizing n with
  | nil => simp
  | cons k l ih =>
    cases n with
    | zero => rfl
    | succ n =>
      have hk : p k = true := h k (by simp)
      rw [List.filter_cons_of_pos hk, List.take_succ_cons, List.take_succ_cons, ih]
      intro k' hk'
      exact h k' (by simp [hk'])

/-! ## The selected groups -/

theorem newest_append (h : ∀ r ∈ more, part r ∉ newest n part (rows ++ more)) :
    newest n part (rows ++ more) = newest n part rows := by
  unfold newest
  rw [keys_eq_filter part rows more, take_filter]
  intro k hk
  rw [decide_eq_true_iff, List.mem_map]
  obtain ⟨r, hr, rfl⟩ := mem_keys.mp (List.mem_of_mem_take hk)
  rcases List.mem_append.mp hr with hr | hr
  · exact ⟨r, hr, rfl⟩
  · exact absurd hk (h r hr)

theorem group_append (k : κ) :
    group part (rows ++ more) k = group part rows k ++ group part more k :=
  List.filter_append rows more

theorem group_eq_nil {k : κ} : group part more k = [] ↔ ∀ r ∈ more, part r ≠ k := by
  unfold group
  rw [List.filter_eq_nil_iff]
  simp only [decide_eq_true_eq, ne_eq]

/-- **Rows outside the selected groups** do not count. -/
theorem limited_append (h : ∀ r ∈ more, part r ∉ newest n part (rows ++ more)) :
    limited n part (rows ++ more) = limited n part rows := by
  unfold limited
  rw [newest_append h]
  apply List.map_congr_left
  intro k hk
  rw [← newest_append h] at hk
  have hnone : group part more k = [] := by
    apply group_eq_nil.mpr
    intro r hr hpart
    apply h r hr
    rw [hpart]
    exact hk
  rw [group_append, hnone, List.append_nil]

/-- The selected keys, each with the number of its rows. -/
def counts (n : Nat) (part : ρ → κ) (rows : List ρ) : List (κ × Nat) :=
  (limited n part rows).map fun g => (g.1, g.2.length)

theorem counts_eq : counts n part rows
    = (newest n part rows).map fun k => (k, (group part rows k).length) := by
  unfold counts limited
  rw [List.map_map]
  rfl

/-- **The counts** stay the same exactly if no row falls into a selected group. -/
theorem counts_append_iff : counts n part (rows ++ more) = counts n part rows ↔
    ∀ r ∈ more, part r ∉ newest n part (rows ++ more) := by
  constructor
  · intro h r hr hnewest
    rw [counts_eq, counts_eq] at h
    have hkeys : newest n part (rows ++ more) = newest n part rows := by
      have hfst := congrArg (List.map Prod.fst) h
      rw [List.map_map, List.map_map] at hfst
      simpa [Function.comp_def] using hfst
    -- the group of the row has grown by it
    rw [← hkeys] at h
    have hcount := List.map_inj_left.mp h (part r) hnewest
    have hlength := congrArg Prod.snd hcount
    rw [group_append, List.length_append] at hlength
    have hnil : group part more (part r) = [] := by
      apply List.eq_nil_of_length_eq_zero
      omega
    exact group_eq_nil.mp hnil r hr rfl
  · intro h
    unfold counts
    rw [limited_append h]

theorem newest_map {f : ρ → ρ} (h : ∀ r, part (f r) = part r) :
    newest n part (rows.map f) = newest n part rows := by
  unfold newest keys
  rw [List.map_map, show part ∘ f = part from funext h]

/-- **Rewriting rows** under their keys. -/
theorem limited_map {f : ρ → ρ} (h : ∀ r, part (f r) = part r) :
    limited n part (rows.map f) = (limited n part rows).map fun g => (g.1, g.2.map f) := by
  unfold limited
  rw [newest_map h, List.map_map]
  apply List.map_congr_left
  intro k _
  unfold group
  rw [List.filter_map]
  simp only [Function.comp_def, h]

end Groups
