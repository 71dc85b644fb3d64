import Mathlib.Data.List.Induction
import Mathlib.Data.List.Nodup
import NocIq.Lib.ChangeTracking

/-!
# Dictionary — items that are combined with what comes in

A dictionary is a list of items in the order of insertion. `collect` makes one of calls that each
combine a value with what is there under a key.

* **`lookup_setItem` / `keys_setItem`** — an assignment to a key.
* **`lookup_collect`** — under a key there are the values of its calls, combined one after another.
* **`mem_keys_collect` / `nodup_keys_collect`** — each key that has a call is there once.
-/

namespace Dictionary

open ChangeTracking (setItem setItem_new)

variable {κ ν α : Type} [DecidableEq κ] {key : κ} {table : List (κ × ν)}

def keys (table : List (κ × ν)) : List κ := table.map Prod.fst

theorem lookup_eq_none_iff : table.lookup key = none ↔ key ∉ keys table := by
  rw [List.lookup_eq_none_iff]
  constructor
  · intro h hkey
    obtain ⟨item, hitem, rfl⟩ := List.mem_map.mp hkey
    exact absurd rfl (bne_iff_ne.mp (h item hitem))
  · intro hkey item hitem
    refine bne_iff_ne.mpr ?_
    rintro rfl
    exact hkey (List.mem_map_of_mem hitem)

theorem keys_setItem (value : ν) :
    keys (setItem key value table) =
      if key ∈ keys table then keys table else keys table ++ [key] := by
  by_cases hmem : key ∈ keys table
  · rw [if_pos hmem]
    induction table with
    | nil => cases hmem
    | cons item rest ih =>
      unfold setItem
      by_cases heq : item.1 = key
      · rw [if_pos heq]
        show key :: keys rest = item.1 :: keys rest
        rw [heq]
      · rw [if_neg heq]
        show item.1 :: keys (setItem key value rest) = item.1 :: keys rest
        rw [ih ((List.mem_cons.mp hmem).resolve_left (Ne.symm heq))]
  · rw [if_neg hmem, setItem_new value hmem]
    exact List.map_append

theorem nodup_keys_setItem (value : ν) (h : (keys table).Nodup) :
    (keys (setItem key value table)).Nodup := by
  rw [keys_setItem]
  split_ifs with hmem
  · exact h
  · exact h.append (List.nodup_singleton key) (List.disjoint_singleton.mpr hmem)

theorem lookup_setItem (value : ν) (k : κ) :
    (setItem key value table).lookup k = if k = key then some value else table.lookup k := by
  induction table with
  | nil =>
    unfold setItem
    by_cases hk : k = key
    · rw [if_pos hk, hk, List.lookup_cons_self]
    · have hne : (k == key) = false := beq_eq_false_iff_ne.mpr hk
      rw [if_neg hk, List.lookup_cons, hne]
  | cons item rest ih =>
    unfold setItem
    by_cases heq : item.1 = key
    · rw [if_pos heq]
      by_cases hk : k = key
      · rw [if_pos hk, hk, List.lookup_cons_self]
      · have hne : (k == key) = false := beq_eq_false_iff_ne.mpr hk
        have hne' : (k == item.1) = false := by rw [heq]; exact hne
        rw [if_neg hk, List.lookup_cons, List.lookup_cons, hne, hne']
    · rw [if_neg heq, List.lookup_cons, List.lookup_cons, ih]
      by_cases hk : k = key
      · have hne : (k == item.1) = false := by
          rw [hk]
          exact beq_eq_false_iff_ne.mpr (Ne.symm heq)
        rw [hne, if_pos hk]
      · rw [if_neg hk, if_neg hk]

theorem mem_iff_lookup (hnodup : (keys table).Nodup) {value : ν} :
    (key, value) ∈ table ↔ table.lookup key = some value := by
  constructor
  · intro hmem
    obtain ⟨before, after, rfl⟩ := List.append_of_mem hmem
    refine List.lookup_eq_some_iff.mpr ⟨before, after, rfl, fun item hitem => bne_iff_ne.mpr ?_⟩
    rintro rfl
    rw [keys, List.map_append, List.map_cons, List.nodup_middle, List.nodup_cons] at hnodup
    exact hnodup.1 (List.mem_append_left _ (List.mem_map.mpr ⟨item, hitem, rfl⟩))
  · intro hlookup
    obtain ⟨before, after, rfl, -⟩ := List.lookup_eq_some_iff.mp hlookup
    exact List.mem_append_right _ List.mem_cons_self

/-! ## Calls -/

/-- `table[key] = combine(table.get(key), value)`. -/
def update (combine : Option ν → α → ν) (table : List (κ × ν)) (call : κ × α) : List (κ × ν) :=
  setItem call.1 (combine (table.lookup call.1) call.2) table

def collect (combine : Option ν → α → ν) (calls : List (κ × α)) : List (κ × ν) :=
  calls.foldl (update combine) []

/-- The values of the calls for a key. -/
def valuesAt (key : κ) (calls : List (κ × α)) : List α :=
  (calls.filter fun call => call.1 = key).map Prod.snd

variable {combine : Option ν → α → ν} {calls : List (κ × α)}

theorem collect_concat (call : κ × α) :
    collect combine (calls ++ [call]) = update combine (collect combine calls) call := by
  rw [collect, List.foldl_append]
  rfl

theorem valuesAt_concat (call : κ × α) :
    valuesAt key (calls ++ [call]) =
      if call.1 = key then valuesAt key calls ++ [call.2] else valuesAt key calls := by
  unfold valuesAt
  rw [List.filter_append, List.map_append]
  by_cases hkey : call.1 = key
  · simp [hkey]
  · simp [hkey]

/-- **Under a key** there are the values of its calls. By induction on the calls: the last one
changes nothing under other keys. -/
theorem lookup_collect (combine : Option ν → α → ν) (calls : List (κ × α)) (key : κ) :
    (collect combine calls).lookup key =
      (valuesAt key calls).foldl (fun old value => some (combine old value)) none := by
  induction calls using List.reverseRecOn with
  | nil => rfl
  | append_singleton calls call ih =>
    rw [collect_concat, update, lookup_setItem, valuesAt_concat]
    by_cases hkey : call.1 = key
    · rw [if_pos hkey.symm, if_pos hkey, List.foldl_append, ← ih, ← hkey]
      rfl
    · rw [if_neg (Ne.symm hkey), if_neg hkey, ih]

theorem exists_of_lookup_collect {value : ν}
    (h : (collect combine calls).lookup key = some value) :
    ∃ old a, value = combine old a := by
  rw [lookup_collect] at h
  rcases List.eq_nil_or_concat (valuesAt key calls) with hnil | ⟨values, a, hvalues⟩
  · rw [hnil] at h
    cases h
  · rw [hvalues, List.concat_eq_append, List.foldl_append] at h
    exact ⟨_, a, (Option.some.inj h).symm⟩

theorem mem_keys_collect (combine : Option ν → α → ν) :
    key ∈ keys (collect combine calls) ↔ key ∈ calls.map Prod.fst := by
  induction calls using List.reverseRecOn with
  | nil => exact Iff.rfl
  | append_singleton calls call ih =>
    rw [collect_concat, update, keys_setItem, List.map_append, List.mem_append, ← ih,
      List.map_singleton, List.mem_singleton]
    split_ifs with hmem
    · exact ⟨.inl, fun h => h.elim id fun hkey => hkey ▸ hmem⟩
    · rw [List.mem_append, List.mem_singleton]

theorem nodup_keys_collect (combine : Option ν → α → ν) (calls : List (κ × α)) :
    (keys (collect combine calls)).Nodup := by
  induction calls using List.reverseRecOn with
  | nil => exact List.nodup_nil
  | append_singleton calls call ih =>
    rw [collect_concat]
    exact nodup_keys_setItem _ ih

theorem mem_collect_iff {value : ν} :
    (key, value) ∈ collect combine calls ↔
      (valuesAt key calls).foldl (fun old value => some (combine old value)) none = some value := by
  rw [mem_iff_lookup (nodup_keys_collect combine calls), lookup_collect]

end Dictionary
