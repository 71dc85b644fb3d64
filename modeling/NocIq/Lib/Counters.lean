import Mathlib.Data.Finset.Card
import NocIq.Lib.Dictionary

/-!
# Counters — a dictionary that counts keys

* **`keys_increment`** — counting a key adds it if it is new.
* **`count_increment`** — and changes no other count.
-/

namespace Counters

open ChangeTracking (setItem)

variable {κ : Type} [DecidableEq κ] {key : κ} {table : List (κ × ℕ)}

def keys (table : List (κ × ℕ)) : List κ := table.map Prod.fst

/-- `table.get(key, 0)`. -/
def count (key : κ) (table : List (κ × ℕ)) : ℕ := (table.lookup key).getD 0

/-- `table[key] = table.get(key, 0) + 1`. -/
def increment (key : κ) (table : List (κ × ℕ)) : List (κ × ℕ) :=
  setItem key (count key table + 1) table

theorem count_of_notMem (h : key ∉ keys table) : count key table = 0 := by
  unfold count
  rw [Dictionary.lookup_eq_none_iff.mpr h]
  rfl

theorem keys_increment :
    keys (increment key table) =
      if key ∈ keys table then keys table else keys table ++ [key] :=
  Dictionary.keys_setItem _

theorem mem_keys_increment {k : κ} :
    k ∈ keys (increment key table) ↔ k ∈ keys table ∨ k = key := by
  rw [keys_increment]
  split
  · rename_i hmem
    constructor
    · exact .inl
    · rintro (h | rfl)
      · exact h
      · exact hmem
  · rw [List.mem_append, List.mem_singleton]

theorem nodup_keys_increment (h : (keys table).Nodup) : (keys (increment key table)).Nodup :=
  Dictionary.nodup_keys_setItem _ h

omit [DecidableEq κ] in
theorem length_keys : (keys table).length = table.length := List.length_map _

theorem length_increment :
    (increment key table).length = if key ∈ keys table then table.length else table.length + 1 := by
  rw [← length_keys, keys_increment]
  split
  · exact length_keys
  · rw [List.length_append, length_keys, List.length_singleton]

theorem count_increment (k : κ) :
    count k (increment key table) = if k = key then count key table + 1 else count k table := by
  unfold count increment
  rw [Dictionary.lookup_setItem]
  split
  · rfl
  · rfl

end Counters
