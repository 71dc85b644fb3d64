import Mathlib.Algebra.BigOperators.Group.List.Lemmas
import Mathlib.Algebra.GroupWithZero.Nat

/-!
# Bins — values collected under keys

Numbers are divided into bins of a width, and what belongs to the numbers is collected bin by bin.
An item without a value gives its key an entry, but adds nothing to it.

* **`start_unique`** — a number is in one bin only.
* **`Collected.step`** — one more item, and **`collected_collect`** — all of them.
* **`sum_counts`** — counted key by key, every item counts once.
-/

namespace Bins

/-! ## Bins of a width -/

def start (width t : Int) : Int := t - t % width

section Width

variable {width : Int}

theorem start_le (hwidth : 0 < width) (t : Int) : start width t ≤ t := by
  have := Int.emod_nonneg t (Int.ne_of_gt hwidth)
  unfold start
  omega

theorem lt_start_add (hwidth : 0 < width) (t : Int) : t < start width t + width := by
  have := Int.emod_lt_of_pos t hwidth
  unfold start
  omega

theorem start_nonneg (hwidth : 0 < width) {t : Int} (ht : 0 ≤ t) : 0 ≤ start width t := by
  have hquotient : 0 ≤ width * (t / width) :=
    Int.mul_nonneg (Int.le_of_lt hwidth) (Int.ediv_nonneg ht (Int.le_of_lt hwidth))
  have hsplit := Int.mul_ediv_add_emod t width
  unfold start
  omega

theorem start_emod (t : Int) : start width t % width = 0 := by
  unfold start
  rw [Int.sub_emod, Int.emod_emod, Int.sub_self, Int.zero_emod]

/-- **A number is in one bin.** -/
theorem start_unique {s t : Int} (hs : s % width = 0) (hle : s ≤ t) (hlt : t < s + width) :
    s = start width t := by
  unfold start
  have hrest : (t - s) % width = t - s := Int.emod_eq_of_lt (by omega) (by omega)
  rw [Int.sub_emod, hs, Int.sub_zero, Int.emod_emod] at hrest
  omega

theorem mem_bin_iff (hwidth : 0 < width) {s t : Int} (hs : s % width = 0) :
    (s ≤ t ∧ t < s + width) ↔ start width t = s := by
  constructor
  · intro hin
    exact (start_unique hs hin.1 hin.2).symm
  · intro heq
    rw [← heq]
    exact ⟨start_le hwidth t, lt_start_add hwidth t⟩

end Width

/-! ## Collecting -/

section Collecting

variable {ρ κ β : Type} [DecidableEq κ]

/-- The entry of `k`, made if there is none, with one value more or with none. -/
def add (k : κ) (v : Option β) (entries : List (κ × List β)) : List (κ × List β) :=
  if k ∈ entries.map Prod.fst then
    entries.map fun e => if e.1 = k then (e.1, e.2 ++ v.toList) else e
  else entries ++ [(k, v.toList)]

/-- The entries are those of the items' keys, each with the values of its items. -/
structure Collected (key : ρ → κ) (value : ρ → Option β) (items : List ρ)
    (entries : List (κ × List β)) : Prop where
  nodup : (entries.map Prod.fst).Nodup
  keys : ∀ k, k ∈ entries.map Prod.fst ↔ ∃ item ∈ items, key item = k
  values : ∀ e ∈ entries, e.2 = (items.filter fun item => key item = e.1).filterMap value

theorem keys_add (k : κ) (v : Option β) (entries : List (κ × List β)) :
    (add k v entries).map Prod.fst =
      if k ∈ entries.map Prod.fst then entries.map Prod.fst else entries.map Prod.fst ++ [k] := by
  unfold add
  split
  · rw [List.map_map]
    apply List.map_congr_left
    intro e _
    rw [Function.comp_apply]
    split <;> rfl
  · rw [List.map_append]
    rfl

theorem mem_keys_add {k k' : κ} {v : Option β} {entries : List (κ × List β)} :
    k' ∈ (add k v entries).map Prod.fst ↔ k' ∈ entries.map Prod.fst ∨ k' = k := by
  rw [keys_add]
  split
  next hk =>
    constructor
    · exact .inl
    · intro hor
      rcases hor with hmem | rfl
      · exact hmem
      · exact hk
  next => rw [List.mem_append, List.mem_singleton]

variable {key : ρ → κ} {value : ρ → Option β} {items : List ρ} {entries : List (κ × List β)}

theorem collected_nil : Collected key value [] [] where
  nodup := List.nodup_nil
  keys k := by simp
  values e he := absurd he List.not_mem_nil

theorem filterMap_concat (item : ρ) (k : κ) :
    ((items ++ [item]).filter fun item => key item = k).filterMap value =
      (items.filter fun item => key item = k).filterMap value ++
        if key item = k then (value item).toList else [] := by
  rw [List.filter_append, List.filterMap_append]
  by_cases hk : key item = k
  · rw [if_pos hk, List.filter_cons_of_pos (by simpa using hk)]
    cases hv : value item with
    | none => simp [hv]
    | some v => simp [hv]
  · rw [if_neg hk, List.filter_cons_of_neg (by simpa using hk)]
    rfl

/-- **One more item.** -/
theorem Collected.step (h : Collected key value items entries) (item : ρ) :
    Collected key value (items ++ [item]) (add (key item) (value item) entries) where
  nodup := by
    rw [keys_add]
    split
    next => exact h.nodup
    next hnew => exact List.nodup_append.mpr ⟨h.nodup, List.nodup_singleton _, by
      intro k hk k' hk' heq
      rw [heq, List.mem_singleton.mp hk'] at hk
      exact hnew hk⟩
  keys k := by
    rw [mem_keys_add, h.keys]
    simp only [List.mem_append, List.mem_singleton]
    constructor
    · intro hor
      rcases hor with ⟨other, hother, hk⟩ | rfl
      · exact ⟨other, .inl hother, hk⟩
      · exact ⟨item, .inr rfl, rfl⟩
    · intro hexists
      obtain ⟨other, hother | rfl, hk⟩ := hexists
      · exact .inl ⟨other, hother, hk⟩
      · exact .inr hk.symm
  values e he := by
    rw [filterMap_concat]
    unfold add at he
    split at he
    next =>
      obtain ⟨e', he', rfl⟩ := List.mem_map.mp he
      by_cases hk : e'.1 = key item
      · rw [if_pos hk, if_pos hk.symm, ← h.values e' he']
      · rw [if_neg hk, if_neg (Ne.symm hk), List.append_nil, ← h.values e' he']
    -- the key is new: the old entries have other keys
    next hnew =>
      rcases List.mem_append.mp he with he | he
      · have hne : key item ≠ e.1 := by
          intro heq
          rw [heq] at hnew
          exact hnew (List.mem_map_of_mem he)
        rw [if_neg hne, List.append_nil]
        exact h.values e he
      · -- the first item of its key
        rw [List.mem_singleton.mp he, if_pos rfl]
        have hnone : (items.filter fun other => key other = key item) = [] := by
          rw [List.filter_eq_nil_iff]
          intro other hother heq
          exact hnew ((h.keys _).mpr ⟨other, hother, of_decide_eq_true heq⟩)
        rw [hnone]
        rfl

def collect (key : ρ → κ) (value : ρ → Option β) (items : List ρ) : List (κ × List β) :=
  items.foldl (fun entries item => add (key item) (value item) entries) []

/-- **All items.** Induction on them, from the last. -/
theorem collected_collect (key : ρ → κ) (value : ρ → Option β) (items : List ρ) :
    Collected key value items (collect key value items) := by
  unfold collect
  induction items using List.reverseRecOn with
  | nil => exact collected_nil
  | append_singleton items item ih =>
    rw [List.foldl_append]
    exact ih.step item

end Collecting

/-! ## Counting -/

/-- **Key by key** every item counts once. -/
theorem sum_counts {ρ κ : Type} [DecidableEq κ] {key : ρ → κ} {items : List ρ} {keys : List κ}
    (hnodup : keys.Nodup) (hkeys : ∀ k, k ∈ keys ↔ ∃ item ∈ items, key item = k) :
    (keys.map fun k => items.countP fun item => key item = k).sum = items.length := by
  have hperm : keys.Perm (items.map key).dedup := by
    rw [List.perm_ext_iff_of_nodup hnodup (List.nodup_dedup _)]
    intro k
    rw [hkeys, List.mem_dedup, List.mem_map]
  have hcount : ∀ k, (items.countP fun item => key item = k) = (items.map key).count k := by
    intro k
    rw [List.count, List.countP_map]
    apply List.countP_congr
    intro item _
    simp
  simp only [hcount]
  rw [(hperm.map _).sum_eq, List.sum_map_count_dedup_eq_length, List.length_map]

end Bins
