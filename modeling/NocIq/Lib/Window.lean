import Mathlib.Data.List.Nodup

/-!
# Window — the first row of each partition

The window function `row_number() over (partition by part order by before)` on a list of rows,
and the rows it numbers 1. `before` is any Boolean relation; where a result needs the order to be
total on the rows, it says so pair by pair (`Comparable`), which is what a unique sort key gives.

* **`mem_firsts`** — a row is numbered 1 exactly if no row of its partition comes before it.
* **`firsts_partition_eq`** — with comparable rows a partition has at most one first row.
* **`length_firsts_eq_iff`** — every row is a first one exactly if each partition has one row.
-/

namespace Window

variable {ρ κ : Type} [DecidableEq κ] {part : ρ → κ} {before : ρ → ρ → Bool} {rows : List ρ}

/-- `row_number() over (partition by part order by before)`, for the row `r` of `rows`. -/
def rowNumber (part : ρ → κ) (before : ρ → ρ → Bool) (rows : List ρ) (r : ρ) : Nat :=
  (rows.filter fun x => decide (part x = part r) && before x r).length + 1

/-- The rows numbered 1. -/
def firsts (part : ρ → κ) (before : ρ → ρ → Bool) (rows : List ρ) : List ρ :=
  rows.filter fun r => decide (rowNumber part before rows r = 1)

/-- Of any two rows, one comes before the other, and no row comes before itself. -/
structure Comparable (before : ρ → ρ → Bool) (rows : List ρ) : Prop where
  pair : rows.Pairwise fun a b => before a b = true ∨ before b a = true
  irrefl : ∀ r ∈ rows, before r r = false

theorem mem_firsts {r : ρ} :
    r ∈ firsts part before rows ↔
      r ∈ rows ∧ ∀ x ∈ rows, part x = part r → before x r = false := by
  unfold firsts rowNumber
  rw [List.mem_filter]
  apply and_congr_right
  intro _
  simp

theorem firsts_partition_length_le_one (hc : Comparable before rows) (k : κ) :
    ((firsts part before rows).filter fun r => decide (part r = k)).length ≤ 1 := by
  have hsub : ((firsts part before rows).filter fun r => decide (part r = k)).Sublist rows :=
    List.filter_sublist.trans List.filter_sublist
  have hpair := hc.pair.sublist hsub
  have hfirst : ∀ r ∈ (firsts part before rows).filter (fun r => decide (part r = k)),
      part r = k ∧ ∀ x ∈ rows, part x = part r → before x r = false := by
    intro r hr
    obtain ⟨hr, hk⟩ := List.mem_filter.mp hr
    exact ⟨by simpa using hk, (mem_firsts.mp hr).2⟩
  match hl : (firsts part before rows).filter fun r => decide (part r = k) with
  | [] => simp
  | [a] => simp
  | a :: b :: rest =>
    -- of two first rows one would be before the other
    rw [hl] at hpair hfirst hsub
    obtain ⟨hak, ha⟩ := hfirst a (by simp)
    obtain ⟨hbk, hb⟩ := hfirst b (by simp)
    have hmem_a : a ∈ rows := hsub.subset (by simp)
    have hmem_b : b ∈ rows := hsub.subset (by simp)
    rcases (List.pairwise_cons.mp hpair).1 b (by simp) with hab | hba
    · rw [hb a hmem_a (by rw [hak, hbk])] at hab
      cases hab
    · rw [ha b hmem_b (by rw [hak, hbk])] at hba
      cases hba

theorem firsts_partition_eq (hc : Comparable before rows) {r : ρ}
    (hr : r ∈ firsts part before rows) :
    ((firsts part before rows).filter fun x => decide (part x = part r)) = [r] := by
  have hmem : r ∈ (firsts part before rows).filter fun x => decide (part x = part r) :=
    List.mem_filter.mpr ⟨hr, by simp⟩
  have hlen : ((firsts part before rows).filter fun x => decide (part x = part r)).length = 1 :=
    Nat.le_antisymm (firsts_partition_length_le_one hc (part r)) (List.length_pos_of_mem hmem)
  obtain ⟨a, ha⟩ := List.length_eq_one_iff.mp hlen
  rw [ha] at hmem ⊢
  rw [List.mem_singleton.mp hmem]

theorem length_firsts_eq_iff (hc : Comparable before rows) :
    (firsts part before rows).length = rows.length ↔ (rows.map part).Nodup := by
  constructor
  · intro hlen
    -- a filter that drops nothing keeps every row
    have hall : firsts part before rows = rows :=
      List.filter_sublist.eq_of_length hlen
    have hfirst : ∀ r ∈ rows, ∀ x ∈ rows, part x = part r → before x r = false := by
      intro r hr
      rw [← hall] at hr
      exact (mem_firsts.mp hr).2
    unfold List.Nodup
    rw [List.pairwise_map]
    refine hc.pair.imp_of_mem ?_
    intro a b ha hb hab heq
    rcases hab with hab | hba
    · rw [hfirst b hb a ha heq] at hab
      cases hab
    · rw [hfirst a ha b hb heq.symm] at hba
      cases hba
  · intro hnodup
    have hall : firsts part before rows = rows := by
      apply List.filter_eq_self.mpr
      intro r hr
      have hmem : r ∈ firsts part before rows := by
        refine mem_firsts.mpr ⟨hr, ?_⟩
        intro x hx hxr
        rw [List.inj_on_of_nodup_map hnodup hx hr hxr]
        exact hc.irrefl r hr
      exact (List.mem_filter.mp hmem).2
    rw [hall]

end Window
