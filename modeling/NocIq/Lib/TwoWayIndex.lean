import Mathlib.Logic.Function.Basic
import Mathlib.Logic.Relator

/-!
# TwoWayIndex — values under two keys

Two dictionaries hold the same values, one under one key of a value and one under another. Both are
filled from a relation between the keys that is one-to-one, so that a value put under its two keys
takes the place of the same pair, or of none.

* **`Agrees.put`** — both dictionaries still hold the same values.
-/

namespace TwoWayIndex

variable {α κ κ' : Type*}

/-- The two dictionaries. -/
structure Index (α κ κ' : Type*) where
  left : κ → Option α
  right : κ' → Option α

def Index.empty : Index α κ κ' where
  left _ := none
  right _ := none

/-- The value under both keys. -/
def Index.put [DecidableEq κ] [DecidableEq κ'] (k : κ) (k' : κ') (v : α) (index : Index α κ κ') :
    Index α κ κ' where
  left := Function.update index.left k (some v)
  right := Function.update index.right k' (some v)

/-- The dictionaries hold the same values, each under its keys, and the pairs are in `R`. -/
structure Agrees (key : α → κ) (key' : α → κ') (R : κ → κ' → Prop) (index : Index α κ κ') :
    Prop where
  left : ∀ k v, index.left k = some v → key v = k ∧ index.right (key' v) = some v
  right : ∀ k' v, index.right k' = some v → key' v = k' ∧ index.left (key v) = some v
  within : ∀ k v, index.left k = some v → R (key v) (key' v)

variable {key : α → κ} {key' : α → κ'} {R R' : κ → κ' → Prop} {index : Index α κ κ'}

theorem agrees_empty : Agrees key key' R (.empty : Index α κ κ') where
  left _ _ h := nomatch h
  right _ _ h := nomatch h
  within _ _ h := nomatch h

theorem Agrees.mono (h : Agrees key key' R index) (hR : ∀ k k', R k k' → R' k k') :
    Agrees key key' R' index where
  left := h.left
  right := h.right
  within k v hv := hR _ _ (h.within k v hv)

theorem Agrees.within_right (h : Agrees key key' R index) {k' : κ'} {v : α}
    (hv : index.right k' = some v) : R (key v) (key' v) :=
  h.within _ v (h.right k' v hv).2

/-- The dictionaries, the other way round. -/
def Index.swap (index : Index α κ κ') : Index α κ' κ where
  left := index.right
  right := index.left

theorem Agrees.swap (h : Agrees key key' R index) :
    Agrees key' key (fun k' k => R k k') index.swap where
  left := h.right
  right := h.left
  within _ _ hv := h.within_right hv

variable [DecidableEq κ] [DecidableEq κ'] {k l : κ} {k' l' : κ'} {v : α}

@[simp] theorem Index.put_left_self : (index.put k k' v).left k = some v :=
  Function.update_self ..

@[simp] theorem Index.put_right_self : (index.put k k' v).right k' = some v :=
  Function.update_self ..

theorem Index.put_left_of_ne (h : l ≠ k) : (index.put k k' v).left l = index.left l :=
  Function.update_of_ne h ..

theorem Index.put_right_of_ne (h : l' ≠ k') : (index.put k k' v).right l' = index.right l' :=
  Function.update_of_ne h ..

theorem Agrees.put_left (h : Agrees key key' R index) (hR : Relator.LeftUnique R)
    (hv : R (key v) (key' v)) {w : α} (hw : (index.put (key v) (key' v) v).left k = some w) :
    key w = k ∧ (index.put (key v) (key' v) v).right (key' w) = some w := by
  by_cases hk : k = key v
  · subst hk
    rw [Index.put_left_self] at hw
    obtain rfl := Option.some.inj hw
    exact ⟨rfl, Index.put_right_self⟩
  · rw [Index.put_left_of_ne hk] at hw
    obtain ⟨rfl, hright⟩ := h.left k w hw
    -- the other key of `w` is not that of `v`, or both had one first key
    have hother : key' w ≠ key' v := by
      intro heq
      have hpair := h.within _ w hw
      rw [heq] at hpair
      exact hk (hR hpair hv)
    refine ⟨rfl, ?_⟩
    rw [Index.put_right_of_ne hother]
    exact hright

/-- **A value put under its keys** takes the place of its own pair at most. -/
theorem Agrees.put (h : Agrees key key' R index) (hR : Relator.BiUnique R)
    (hv : R (key v) (key' v)) : Agrees key key' R (index.put (key v) (key' v) v) where
  left _ _ hw := h.put_left hR.1 hv hw
  right _ _ hw := h.swap.put_left (fun _ _ _ hab hac => hR.2 hab hac) hv hw
  within := by
    intro k w hw
    by_cases hk : k = key v
    · subst hk
      rw [Index.put_left_self] at hw
      obtain rfl := Option.some.inj hw
      exact hv
    · rw [Index.put_left_of_ne hk] at hw
      exact h.within k w hw

end TwoWayIndex
