import Mathlib.Data.List.Basic

/-!
# ChangeTracking — what a commit writes of a loaded object

A session loads an attribute of a row. An assignment marks the attribute; a mutation of its value in
place does not. A commit writes the attributes that are marked. What has been done to the others is
lost, and the next session loads the row again.

* **`addItem_eq`** — a session that adds an item to a dictionary.
* **`items_addItems`** — the items that stay when one session after another adds one.
-/

namespace ChangeTracking

variable {α κ ν : Type}

/-! ## Attributes -/

structure Attribute (α : Type) where
  stored : α
  value : α
  assigned : Bool

namespace Attribute

variable (stored value : α) (f : α → α) (a : Attribute α)

def load : Attribute α := ⟨stored, stored, false⟩

def assign : Attribute α := { a with value, assigned := true }

/-- A change of the value in place. -/
def mutate : Attribute α := { a with value := f a.value }

def commit : α := if a.assigned then a.value else a.stored

@[simp] theorem commit_mutate_load : ((load stored).mutate f).commit = stored := rfl

@[simp] theorem commit_mutate_assign : ((a.assign value).mutate f).commit = f value := rfl

end Attribute

/-! ## Dictionaries -/

section Dictionaries

variable [DecidableEq κ]

/-- `dictionary[key] = value`. -/
def setItem (key : κ) (value : ν) : List (κ × ν) → List (κ × ν)
  | [] => [(key, value)]
  | item :: rest =>
    if item.1 = key then (key, value) :: rest else item :: setItem key value rest

theorem setItem_new {key : κ} (value : ν) {dictionary : List (κ × ν)}
    (hnew : key ∉ dictionary.map Prod.fst) :
    setItem key value dictionary = dictionary ++ [(key, value)] := by
  induction dictionary with
  | nil => rfl
  | cons item rest ih =>
    rw [List.map_cons, List.mem_cons, not_or] at hnew
    unfold setItem
    rw [if_neg (Ne.symm hnew.1), ih hnew.2]
    rfl

/-- The items of a column, which may be NULL. -/
def items (column : Option (List (κ × ν))) : List (κ × ν) := column.getD []

/-- A session that adds an item to a column. It assigns an empty dictionary to a column that has no
items, and changes the dictionary of one that has. -/
def addItem (column : Option (List (κ × ν))) (item : κ × ν) : Option (List (κ × ν)) :=
  let loaded := Attribute.load column
  let ready := if (items loaded.value).isEmpty then loaded.assign (some []) else loaded
  (ready.mutate (Option.map (setItem item.1 item.2))).commit

theorem addItem_eq (column : Option (List (κ × ν))) (item : κ × ν) :
    addItem column item = if (items column).isEmpty then some [item] else column := by
  show ((if (items column).isEmpty then (Attribute.load column).assign (some [])
    else Attribute.load column).mutate (Option.map (setItem item.1 item.2))).commit = _
  by_cases hempty : (items column).isEmpty = true
  · -- the mark of the assignment stays when the new dictionary is changed
    rw [if_pos hempty, if_pos hempty, Attribute.commit_mutate_assign]
    rfl
  · rw [if_neg hempty, if_neg hempty, Attribute.commit_mutate_load]

def addItems (added : List (κ × ν)) (column : Option (List (κ × ν))) : Option (List (κ × ν)) :=
  added.foldl addItem column

theorem addItems_append (added added' : List (κ × ν)) (column : Option (List (κ × ν))) :
    addItems (added ++ added') column = addItems added' (addItems added column) :=
  List.foldl_append

/-- **What stays**: the first item if there were none, else none of those that are added. Induction
on the sessions. -/
theorem items_addItems (added : List (κ × ν)) (column : Option (List (κ × ν))) :
    items (addItems added column) =
      if (items column).isEmpty then added.take 1 else items column := by
  induction added generalizing column with
  | nil =>
    show items column = _
    split
    · rename_i hempty
      exact List.isEmpty_iff.mp hempty
    · rfl
  | cons item added ih =>
    show items (addItems added (addItem column item)) = _
    rw [ih, addItem_eq]
    by_cases hempty : (items column).isEmpty = true
    · rw [if_pos hempty, if_pos hempty]
      rfl
    · rw [if_neg hempty, if_neg hempty, if_neg hempty]

end Dictionaries

end ChangeTracking
