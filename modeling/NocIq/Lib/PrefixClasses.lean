import Mathlib.Data.Set.Finite.Lemmas

/-!
# Prefix classes

Classes that are told apart by a prefix, where the prefix of one may start with that of another. A
scan credits an item to the first class that fits; meant is the longest.

* **`firstMatch_of_longest`** — an item whose longest class stands before the classes it refines is
  credited to it.
* **`firstMatch_not_shadowed`** — a class that stands after one of these is credited with nothing.
* **`counts_agree_iff`** — so the counts are those of the longest classes exactly if no item belongs
  to such a class.
-/

namespace PrefixClasses

variable {α κ : Type} [DecidableEq α] {pre : κ → List α} {classes : List κ} {item : List α}
  {c d : κ}

def fits (pre : κ → List α) (item : List α) (c : κ) : Bool := (pre c).isPrefixOf item

/-- The class the scan stops at. -/
def firstMatch (pre : κ → List α) (classes : List κ) (item : List α) : Option κ :=
  classes.find? (fits pre item)

/-- The class of the longest prefix. -/
structure Longest (pre : κ → List α) (classes : List κ) (item : List α) (c : κ) : Prop where
  mem : c ∈ classes
  fits : fits pre item c = true
  longest : ∀ d ∈ classes, PrefixClasses.fits pre item d = true → (pre d).length ≤ (pre c).length

/-- The classes that refine one that stands before them. -/
def shadowed (pre : κ → List α) : List κ → List κ
  | [] => []
  | d :: classes => classes.filter (fun c => fits pre (pre c) d) ++ shadowed pre classes

theorem fits_iff : fits pre item c = true ↔ pre c <+: item := List.isPrefixOf_iff_prefix

theorem mem_shadowed_cons {classes : List κ} :
    c ∈ shadowed pre (d :: classes) ↔
      (c ∈ classes ∧ fits pre (pre c) d = true) ∨ c ∈ shadowed pre classes := by
  unfold shadowed
  rw [List.mem_append, List.mem_filter]
  cases classes <;> rfl

theorem shadowed_subset {c : κ} (h : c ∈ shadowed pre classes) : c ∈ classes := by
  induction classes with
  | nil => cases h
  | cons d classes ih =>
    rcases mem_shadowed_cons.mp h with ⟨hc, -⟩ | hc
    · exact List.mem_cons_of_mem _ hc
    · exact List.mem_cons_of_mem _ (ih hc)

/-! ## The longest class -/

instance [DecidableEq κ] : Decidable (Longest pre classes item c) :=
  decidable_of_iff (c ∈ classes ∧ fits pre item c = true ∧
      ∀ d ∈ classes, fits pre item d = true → (pre d).length ≤ (pre c).length)
    ⟨fun h => ⟨h.1, h.2.1, h.2.2⟩, fun h => ⟨h.mem, h.fits, h.longest⟩⟩

theorem exists_longest (hc : c ∈ classes) (hfits : fits pre item c = true) :
    ∃ d, Longest pre classes item d := by
  have hfinite : {d | d ∈ classes ∧ fits pre item d = true}.Finite :=
    (List.finite_toSet classes).subset fun d hd => hd.1
  -- the longest of the finitely many that fit
  obtain ⟨d, hd, hmax⟩ := Set.exists_max_image _ (fun d => (pre d).length) hfinite ⟨c, hc, hfits⟩
  exact ⟨d, hd.1, hd.2, fun e he hefits => hmax e ⟨he, hefits⟩⟩

theorem longest_of_unrefined (hc : c ∈ classes) (hfits : fits pre item c = true)
    (hunrefined : ∀ d ∈ classes, fits pre (pre d) c = true → (pre d).length ≤ (pre c).length) :
    Longest pre classes item c := by
  refine ⟨hc, hfits, ?_⟩
  intro d hd hdfits
  by_contra hlt
  have hprefix := List.prefix_of_prefix_length_le (fits_iff.mp hfits) (fits_iff.mp hdfits)
    (by omega)
  exact hlt (hunrefined d hd (fits_iff.mpr hprefix))

/-! ## The scan -/

theorem firstMatch_not_shadowed (hnodup : classes.Nodup)
    (h : firstMatch pre classes item = some c) : c ∉ shadowed pre classes := by
  induction classes with
  | nil => cases h
  | cons d classes ih =>
    obtain ⟨hd, hnodup⟩ := List.nodup_cons.mp hnodup
    unfold firstMatch at h
    rw [mem_shadowed_cons]
    cases hfits : fits pre item d with
    | true =>
      rw [List.find?_cons_of_pos hfits, Option.some.injEq] at h
      subst h
      rintro (⟨hmem, -⟩ | hmem)
      · exact hd hmem
      · exact hd (shadowed_subset hmem)
    | false =>
      rw [List.find?_cons_of_neg (by simp [hfits])] at h
      rintro (⟨-, hrefines⟩ | hmem)
      · have hc : fits pre item c = true := List.find?_some h
        have hdc := (fits_iff.mp hrefines).trans (fits_iff.mp hc)
        rw [fits_iff.mpr hdc] at hfits
        cases hfits
      · exact ih hnodup h hmem

/-- **The longest class** is reached if it stands before those it refines. Induction on the
classes. -/
theorem firstMatch_of_longest (hc : Longest pre classes item c)
    (hreached : c ∉ shadowed pre classes) : firstMatch pre classes item = some c := by
  induction classes with
  | nil => exact absurd hc.mem List.not_mem_nil
  | cons d classes ih =>
    rw [mem_shadowed_cons, not_or, not_and] at hreached
    obtain ⟨hunshadowed, hreached⟩ := hreached
    unfold firstMatch
    cases hfits : fits pre item d with
    | true =>
      rw [List.find?_cons_of_pos hfits]
      rcases List.mem_cons.mp hc.mem with rfl | hmem
      · rfl
      · -- the longest class would refine `d`
        have hlen := hc.longest d List.mem_cons_self hfits
        have hprefix := List.prefix_of_prefix_length_le (fits_iff.mp hfits)
          (fits_iff.mp hc.fits) hlen
        exact absurd (fits_iff.mpr hprefix) (hunshadowed hmem)
    | false =>
      rw [List.find?_cons_of_neg (by simp [hfits])]
      have hmem : c ∈ classes := by
        rcases List.mem_cons.mp hc.mem with rfl | hmem
        · exact absurd hc.fits (by simp [hfits])
        · exact hmem
      exact ih ⟨hmem, hc.fits, fun e he => hc.longest e (List.mem_cons_of_mem _ he)⟩ hreached

/-! ## Counting -/

/-- **The counts agree** exactly if no item's longest class stands after one that it refines. -/
theorem counts_agree_iff [DecidableEq κ] (pre : κ → List α) (hnodup : classes.Nodup)
    (items : List (List α)) :
    (∀ c ∈ classes, (items.countP fun item => firstMatch pre classes item = some c) =
        items.countP fun item => Longest pre classes item c) ↔
      ∀ item ∈ items, ∀ c, Longest pre classes item c → c ∉ shadowed pre classes := by
  constructor
  · intro hall item hitem c hc hshadowed
    have hnone : (items.countP fun item => firstMatch pre classes item = some c) = 0 := by
      rw [List.countP_eq_zero]
      intro other _ hother
      exact firstMatch_not_shadowed hnodup (of_decide_eq_true hother) hshadowed
    rw [hall c hc.mem, List.countP_eq_zero] at hnone
    exact hnone item hitem (decide_eq_true hc)
  · intro hall c _
    apply List.countP_congr
    intro item hitem
    rw [decide_eq_true_iff, decide_eq_true_iff]
    constructor
    · intro hfirst
      -- the item has a longest class, and the scan stops there
      obtain ⟨d, hd⟩ := exists_longest (List.mem_of_find?_eq_some hfirst)
        (List.find?_some hfirst)
      have hstop := firstMatch_of_longest hd (hall item hitem d hd)
      rw [hfirst, Option.some.injEq] at hstop
      rw [hstop]
      exact hd
    · intro hc
      exact firstMatch_of_longest hc (hall item hitem c hc)

end PrefixClasses
