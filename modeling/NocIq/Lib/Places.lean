import Mathlib.Data.List.Infix

/-!
# Places — where a value sits in a tree, and trees with some of their places masked

A tree is reached into by steps: `child` is what a step leads to, `shape` is what a tree is apart
from its children. A place is the steps from the root.

* **`Redacts must may mask t u`** — `u` is `t` with the topmost places of `must` masked, and changed
  at and below places of `may` only.
* **`Descent`** — what one level of a redaction does: a marked child becomes the mask, another child
  is redacted in its turn.
* **`Descent.redacts`** — so the whole of a redaction does what it should.
-/

namespace Places

variable {T S K : Type}

structure Tree (T S K : Type) where
  child : T → S → Option T
  shape : T → K

/-- What is at a place. -/
def Tree.at (tree : Tree T S K) : T → List S → Option T
  | t, [] => some t
  | t, s :: place => (tree.child t s).bind fun u => tree.at u place

/-- Marked, and below no marked place. -/
def Topmost (marked : List S → Prop) (place : List S) : Prop :=
  marked place ∧ ∀ above, above <+: place → above ≠ place → ¬ marked above

/-- Neither marked nor below a marked place. -/
def Clear (marked : List S → Prop) (place : List S) : Prop :=
  ∀ above, above <+: place → ¬ marked above

structure Redacts (tree : Tree T S K) (must may : List S → Prop) (mask t u : T) : Prop where
  masked : ∀ place, Topmost must place → (tree.at t place).isSome = true →
    tree.at u place = some mask
  unchanged : ∀ place, Clear may place →
    (tree.at u place).map tree.shape = (tree.at t place).map tree.shape

/-! ## Places -/

section At

variable {tree : Tree T S K}

@[simp] theorem Tree.at_nil (t : T) : tree.at t [] = some t := rfl

@[simp] theorem Tree.at_cons (t : T) (s : S) (place : List S) :
    tree.at t (s :: place) = (tree.child t s).bind fun u => tree.at u place := rfl

theorem Tree.at_append (t : T) (above below : List S) :
    tree.at t (above ++ below) = (tree.at t above).bind fun u => tree.at u below := by
  induction above generalizing t with
  | nil => rfl
  | cons s above ih =>
    rw [List.cons_append, tree.at_cons, tree.at_cons, Option.bind_assoc]
    congr 1
    funext u
    exact ih u

end At

/-- To mask exactly the places of `marked` is to mask fewer, and to be allowed more. -/
theorem Redacts.weaken {tree : Tree T S K} {must marked may : List S → Prop} {mask t u : T}
    (h : Redacts tree marked marked mask t u) (hmust : ∀ place, must place ↔ marked place)
    (hmay : ∀ place, marked place → may place) : Redacts tree must may mask t u := by
  constructor
  · intro place htop
    refine h.masked place ⟨(hmust place).mp htop.1, fun q hq hne hmarked => ?_⟩
    exact htop.2 q hq hne ((hmust q).mpr hmarked)
  · exact fun place hclear => h.unchanged place fun q hq hmarked => hclear q hq (hmay q hmarked)

theorem topmost_concat {marked : List S → Prop} {above : List S} {s : S} :
    Topmost marked (above ++ [s]) ↔ marked (above ++ [s]) ∧ Clear marked above := by
  refine and_congr_right fun _ => ?_
  constructor
  · intro h q hq
    refine h q (hq.trans (List.prefix_append above [s])) ?_
    rintro rfl
    have hlength := hq.length_le
    rw [List.length_append, List.length_singleton] at hlength
    omega
  · intro h q hq hne
    obtain heq | hq := List.prefix_concat_iff.mp hq
    · exact absurd heq hne
    · exact h q hq

theorem topmost_cons {marked : List S → Prop} (hroot : ¬ marked [])
    (hlocal : ∀ s place, place ≠ [] → (marked (s :: place) ↔ marked place)) {s : S}
    {place : List S} (hne : place ≠ []) :
    Topmost marked (s :: place) ↔ ¬ marked [s] ∧ Topmost marked place := by
  unfold Topmost
  rw [hlocal s place hne]
  constructor
  · rintro ⟨hmarked, habove⟩
    refine ⟨habove [s] ?_ ?_, hmarked, ?_⟩
    · exact List.prefix_cons_iff.mpr (.inr ⟨[], rfl, List.nil_prefix⟩)
    · exact fun heq => hne (List.cons.inj heq).2.symm
    · intro q hq hqne hqmarked
      have hqroot : q ≠ [] := by
        rintro rfl
        exact hroot hqmarked
      refine habove (s :: q) (List.prefix_cons_iff.mpr (.inr ⟨q, rfl, hq⟩)) ?_ ?_
      · exact fun heq => hqne (List.cons.inj heq).2
      · exact (hlocal s q hqroot).mpr hqmarked
  · rintro ⟨hplain, hmarked, habove⟩
    refine ⟨hmarked, fun q hq hqne hqmarked => ?_⟩
    obtain rfl | ⟨rest, rfl, hrest⟩ := List.prefix_cons_iff.mp hq
    · exact hroot hqmarked
    · by_cases hnil : rest = []
      · rw [hnil] at hqmarked
        exact hplain hqmarked
      · refine habove rest hrest ?_ ((hlocal s rest hnil).mp hqmarked)
        rintro rfl
        exact hqne rfl

theorem redacts_self_iff {tree : Tree T S K} {marked : List S → Prop} {mask t : T} :
    Redacts tree marked marked mask t t ↔
      ∀ place, Topmost marked place → (tree.at t place).isSome = true →
        tree.at t place = some mask :=
  ⟨fun h => h.masked, fun h => ⟨h, fun _ _ => rfl⟩⟩

/-! ## Redactions -/

/-- `redact place` is what a redaction does with the tree at `place`. -/
structure Descent (tree : Tree T S K) (marked : List S → Prop) (mask : T)
    (redact : List S → T → T) : Prop where
  root : ¬ marked []
  shape : ∀ place t, tree.shape (redact place t) = tree.shape t
  masks : ∀ place s t, marked (place ++ [s]) →
    tree.child (redact place t) s = (tree.child t s).map fun _ => mask
  descends : ∀ place s t, ¬ marked (place ++ [s]) →
    tree.child (redact place t) s = (tree.child t s).map (redact (place ++ [s]))

namespace Descent

variable {tree : Tree T S K} {marked : List S → Prop} {mask : T} {redact : List S → T → T}

theorem at_clear (hd : Descent tree marked mask redact) (place below : List S) (t : T)
    (hclear : Clear marked (place ++ below)) :
    tree.at (redact place t) below = (tree.at t below).map (redact (place ++ below)) := by
  induction below generalizing place t with
  | nil => rw [List.append_nil, tree.at_nil, tree.at_nil, Option.map_some]
  | cons s below ih =>
    have hsplit : place ++ s :: below = (place ++ [s]) ++ below := by simp
    rw [hsplit] at hclear ⊢
    have hplain : ¬ marked (place ++ [s]) := hclear _ (List.prefix_append _ below)
    rw [tree.at_cons, tree.at_cons, hd.descends place s t hplain]
    cases tree.child t s with
    | none => rfl
    | some u => exact ih (place ++ [s]) u hclear

theorem redacts (hd : Descent tree marked mask redact) (t : T) :
    Redacts tree marked marked mask t (redact [] t) := by
  constructor
  · intro place htop hpresent
    obtain rfl | ⟨above, s, rfl⟩ := List.eq_nil_or_concat' place
    · exact absurd htop.1 hd.root
    · rw [tree.at_append] at hpresent ⊢
      rw [hd.at_clear [] above t (topmost_concat.mp htop).2, List.nil_append]
      cases hat : tree.at t above with
      | none =>
        rw [hat] at hpresent
        cases hpresent
      | some u =>
        rw [hat] at hpresent
        simp only [Option.bind_some, tree.at_cons, Option.map_some] at hpresent ⊢
        rw [hd.masks above s u htop.1]
        cases hchild : tree.child u s with
        | none =>
          rw [hchild] at hpresent
          cases hpresent
        | some _ => rfl
  · intro place hclear
    rw [hd.at_clear [] place t hclear, List.nil_append, Option.map_map]
    congr 1
    funext u
    exact hd.shape place u

end Descent

end Places
