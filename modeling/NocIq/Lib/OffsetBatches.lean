import Mathlib.Algebra.GroupWithZero.Nat
import Mathlib.Data.List.Perm.Basic
import NocIq.Lib.OffsetPages

/-!
# OffsetBatches — all windows of a table, each of an order of its own

A table is read batch by batch, with a query for each. Without `ORDER BY` the queries may have the
rows in different orders.

* **`batches_const`** — the batches of one order are that order.
* **`batches_perm_iff`** — they have every row once if and only if every row is in as many windows
  as it should be.
* **`batches_perm_forall_iff`** — they have for any orders only if one batch is enough, or if there
  is nothing to tell the rows apart.
-/

namespace OffsetBatches

open OffsetPages (window)

variable {α : Type*} {size : ℕ} {order : ℕ → List α} {rows : List α}

/-- The batches from number `first` on. -/
def batches (size : ℕ) (order : ℕ → List α) (first count : ℕ) : List α :=
  (List.range' first count).flatMap fun n => window (n * size) size (order n)

theorem batches_succ (first count : ℕ) :
    batches size order first (count + 1) =
      window (first * size) size (order first) ++ batches size order (first + 1) count := by
  unfold batches
  rw [List.range'_succ, List.flatMap_cons]

theorem window_eq_nil {offset limit : ℕ} (h : rows.length ≤ offset) :
    window offset limit rows = [] := by
  unfold window
  rw [List.drop_eq_nil_of_le h, List.take_nil]

theorem length_window (offset limit : ℕ) (rows : List α) :
    (window offset limit rows).length = min limit (rows.length - offset) := by
  unfold window
  rw [List.length_take, List.length_drop]

theorem batches_eq_nil {first : ℕ} (h : ∀ n, first ≤ n → (order n).length ≤ n * size) (count : ℕ) :
    batches size order first count = [] := by
  induction count generalizing first with
  | zero => rfl
  | succ count ih =>
    rw [batches_succ, window_eq_nil (h first le_rfl), List.nil_append]
    exact ih fun n hn => h n (Nat.le_of_succ_le hn)

/-! ## One order -/

/-- Induction on the number of batches. -/
theorem batches_const (rows : List α) (first count : ℕ) :
    batches size (fun _ => rows) first count =
      (rows.drop (first * size)).take (count * size) := by
  induction count generalizing first with
  | zero =>
    rw [Nat.zero_mul, List.take_zero]
    rfl
  | succ count ih =>
    have hnext : rows.drop ((first + 1) * size) = (rows.drop (first * size)).drop size := by
      rw [List.drop_drop, Nat.add_mul, Nat.one_mul]
    rw [batches_succ, ih, hnext, Nat.add_mul, Nat.one_mul, Nat.add_comm (count * size),
      List.take_add]
    rfl

/-- **The batches of one order** are that order. -/
theorem batches_const_all (hsize : 0 < size) (rows : List α) :
    batches size (fun _ => rows) 0 rows.length = rows := by
  rw [batches_const, Nat.zero_mul, List.drop_zero]
  exact List.take_of_length_le (Nat.le_mul_of_pos_right _ hsize)

/-! ## Different orders -/

theorem count_batches [DecidableEq α] (count : ℕ) (row : α) :
    (batches size order 0 count).count row =
      ((List.range count).map fun n => (window (n * size) size (order n)).count row).sum := by
  unfold batches
  rw [List.count_flatMap, List.range_eq_range']
  rfl

/-- **Every row once**, if the windows have it as often as the table. -/
theorem batches_perm_iff [DecidableEq α] (horder : ∀ n, (order n).Perm rows) (count : ℕ) :
    (batches size order 0 count).Perm rows ↔
      ∀ row ∈ rows,
        ((List.range count).map fun n => (window (n * size) size (order n)).count row).sum =
          rows.count row := by
  rw [List.perm_iff_count]
  constructor
  · intro hcount row _
    rw [← count_batches]
    exact hcount row
  · intro hcount row
    by_cases hrow : row ∈ rows
    · rw [count_batches]
      exact hcount row hrow
    · -- no window has a row that the table has not
      rw [List.count_eq_zero_of_not_mem hrow, List.count_eq_zero]
      intro hmem
      obtain ⟨n, -, hmem⟩ := List.mem_flatMap.mp hmem
      exact hrow ((horder n).mem_iff.mp (OffsetPages.mem_of_mem_window hmem))

theorem batches_perm_of_length_le (hlength : rows.length ≤ size)
    (horder : ∀ n, (order n).Perm rows) : (batches size order 0 rows.length).Perm rows := by
  cases hrows : rows.length with
  | zero =>
    rw [List.length_eq_zero_iff.mp hrows]
    exact .refl _
  | succ count =>
    have hrest : batches size order 1 count = [] := by
      refine batches_eq_nil ?_ count
      intro n hn
      rw [(horder n).length_eq]
      exact hlength.trans (Nat.le_mul_of_pos_left _ hn)
    have hfirst : window (0 * size) size (order 0) = order 0 := by
      unfold window
      rw [Nat.zero_mul, List.drop_zero]
      exact List.take_of_length_le ((horder 0).length_eq.trans_le hlength)
    rw [batches_succ, hrest, List.append_nil, hfirst]
    exact horder 0

theorem batches_perm_of_all_equal (hsize : 0 < size) (hequal : ∀ a ∈ rows, ∀ b ∈ rows, a = b)
    (horder : ∀ n, (order n).Perm rows) : (batches size order 0 rows.length).Perm rows := by
  have hsame : order = fun _ => rows := by
    funext n
    cases hrows : rows with
    | nil =>
      refine List.perm_nil.mp ?_
      rw [← hrows]
      exact horder n
    | cons a rest =>
      have hreplicate : rows = List.replicate rows.length a := by
        rw [List.eq_replicate_iff]
        refine ⟨rfl, ?_⟩
        intro b hb
        exact hequal b hb a (by rw [hrows]; exact List.mem_cons_self)
      rw [← hrows, hreplicate]
      refine List.perm_replicate.mp ?_
      rw [← hreplicate]
      exact horder n
  rw [hsame, batches_const_all hsize]

theorem not_batches_perm {first others : List α} (hsize : 0 < size) (hothers : others.Perm rows)
    (hrows : rows ≠ []) (hne : ¬ (first.take size).Perm (others.take size)) :
    ¬ (batches size (fun n => if n = 0 then first else others) 0 rows.length).Perm rows := by
  intro hperm
  cases hlength : rows.length with
  | zero => exact hrows (List.length_eq_zero_iff.mp hlength)
  | succ count =>
    have hrest : batches size (fun n => if n = 0 then first else others) 1 count =
        others.drop size := by
      have hsame : batches size (fun n => if n = 0 then first else others) 1 count =
          batches size (fun _ => others) 1 count := by
        unfold batches
        refine List.flatMap_congr fun n hn => ?_
        show window (n * size) size (if n = 0 then first else others) = _
        rw [if_neg (Nat.ne_of_gt (List.mem_range'_1.mp hn).1)]
      rw [hsame, batches_const, Nat.one_mul]
      refine List.take_of_length_le ?_
      rw [List.length_drop, hothers.length_eq, hlength]
      have hle : count ≤ count * size := Nat.le_mul_of_pos_right _ hsize
      omega
    rw [hlength, batches_succ, hrest, if_pos rfl] at hperm
    unfold window at hperm
    rw [Nat.zero_mul, List.drop_zero] at hperm
    -- what follows the first batch is what would follow it
    have hsplit := List.take_append_drop size others
    rw [← hsplit] at hothers
    exact hne ((List.perm_append_right_iff _).mp (hperm.trans hothers.symm))

theorem exists_perm_two {a b : α} (ha : a ∈ rows) (hb : b ∈ rows) (hab : a ≠ b) :
    ∃ rest, (a :: b :: rest).Perm rows := by
  obtain ⟨xs, ys, rfl⟩ := List.append_of_mem ha
  have hb' : b ∈ xs ++ ys := by
    rw [List.mem_append, List.mem_cons] at hb
    rw [List.mem_append]
    exact hb.imp_right fun h => h.resolve_left (Ne.symm hab)
  obtain ⟨zs, ws, hsplit⟩ := List.append_of_mem hb'
  refine ⟨zs ++ ws, ?_⟩
  have hinner : (b :: (zs ++ ws)).Perm (xs ++ ys) := by
    rw [hsplit]
    exact List.perm_middle.symm
  exact (hinner.cons a).trans List.perm_middle.symm

/-- With two different rows that do not fit in one batch, there are two orders with different first
batches. -/
theorem exists_different_batches (hsize : 0 < size) (hlength : size < rows.length) {a b : α}
    (ha : a ∈ rows) (hb : b ∈ rows) (hab : a ≠ b) :
    ∃ first others : List α, first.Perm rows ∧ others.Perm rows ∧
      ¬ (first.take size).Perm (others.take size) := by
  obtain ⟨rest, hrest⟩ := exists_perm_two ha hb hab
  have hsplit := List.take_append_drop (size - 1) rest
  have htake : (rest.take (size - 1)).length = size - 1 := by
    have hlen := hrest.length_eq
    rw [List.length_cons, List.length_cons] at hlen
    rw [List.length_take]
    omega
  generalize rest.take (size - 1) = batch at hsplit htake
  generalize rest.drop (size - 1) = later at hsplit
  have hfirst : ∀ c : α, ∀ l, ((c :: batch) ++ l).take size = c :: batch := by
    intro c l
    refine List.take_left' ?_
    rw [List.length_cons, htake]
    omega
  have hperm : ((a :: batch) ++ b :: later).Perm rows := by
    refine List.Perm.trans ?_ hrest
    rw [← hsplit]
    exact List.perm_middle.cons a
  refine ⟨(a :: batch) ++ b :: later, (b :: batch) ++ a :: later, hperm, ?_, ?_⟩
  · refine List.Perm.trans ?_ hperm
    -- the two rows change places
    have hmiddle : ∀ c e : α, ((c :: batch) ++ e :: later).Perm (e :: c :: (batch ++ later)) := by
      intro c e
      show ((c :: batch) ++ e :: later).Perm (e :: ((c :: batch) ++ later))
      exact List.perm_middle
    exact (hmiddle b a).trans ((List.Perm.swap b a _).trans (hmiddle a b).symm)
  · rw [hfirst, hfirst]
    intro hsame
    have hsingle : [a].Perm [b] := (List.perm_append_right_iff batch).mp hsame
    exact hab (List.singleton_perm_singleton.mp hsingle)

/-- **Any orders**: the batches have every row once exactly if one of them is enough, or all rows
are the same. -/
theorem batches_perm_forall_iff (hsize : 0 < size) (rows : List α) :
    (∀ order : ℕ → List α, (∀ n, (order n).Perm rows) →
        (batches size order 0 rows.length).Perm rows) ↔
      rows.length ≤ size ∨ ∀ a ∈ rows, ∀ b ∈ rows, a = b := by
  constructor
  · intro hall
    by_contra hno
    rw [not_or, Nat.not_le] at hno
    obtain ⟨hlength, hdifferent⟩ := hno
    push Not at hdifferent
    obtain ⟨a, ha, b, hb, hab⟩ := hdifferent
    obtain ⟨first, others, hfirst, hothers, hne⟩ := exists_different_batches hsize hlength ha hb hab
    refine not_batches_perm hsize hothers (List.ne_nil_of_mem ha) hne (hall _ ?_)
    intro n
    by_cases hn : n = 0
    · rw [if_pos hn]
      exact hfirst
    · rw [if_neg hn]
      exact hothers
  · rintro (hlength | hequal) order horder
    · exact batches_perm_of_length_le hlength horder
    · exact batches_perm_of_all_equal hsize hequal horder

end OffsetBatches
