import Mathlib.Algebra.Order.Floor.Semiring
import Mathlib.Tactic.Linarith

/-!
# Interpolation — the line through the values of a sequence

* **`between`** — at a position the line is between the values to its left and to its right.
* **`mono`** — so it does not fall if the sequence does not.
-/

namespace Interpolation

variable {K : Type*} [Field K] [LinearOrder K] [FloorSemiring K]

/-- The value at the position `x`, on the line from the value at the last whole position before it
to the one at the next. -/
def line (f : ℕ → K) (x : K) : K := f ⌊x⌋₊ + (f (⌊x⌋₊ + 1) - f ⌊x⌋₊) * (x - ⌊x⌋₊)

variable [IsStrictOrderedRing K] {f : ℕ → K} {x y : K}

theorem line_natCast (f : ℕ → K) (n : ℕ) : line f n = f n := by
  unfold line
  rw [Nat.floor_natCast, sub_self, mul_zero, add_zero]

/-- **Between the neighbours.** -/
theorem between (hmono : Monotone f) (hx : 0 ≤ x) :
    f ⌊x⌋₊ ≤ line f x ∧ line f x ≤ f (⌊x⌋₊ + 1) := by
  have hrise : 0 ≤ f (⌊x⌋₊ + 1) - f ⌊x⌋₊ := sub_nonneg.mpr (hmono (Nat.le_succ _))
  have hleft : 0 ≤ x - ⌊x⌋₊ := sub_nonneg.mpr (Nat.floor_le hx)
  have hright : x - ⌊x⌋₊ ≤ 1 := (sub_lt_iff_lt_add'.mpr (Nat.lt_floor_add_one x)).le
  unfold line
  constructor
  · exact le_add_of_nonneg_right (mul_nonneg hrise hleft)
  · have hpart := mul_le_of_le_one_right hrise hright
    linarith

/-- **The line of a sequence that does not fall** does not fall: inside a segment it rises, and from
one segment to a later one there is a value of the sequence between. -/
theorem mono (hmono : Monotone f) (hx : 0 ≤ x) (hxy : x ≤ y) : line f x ≤ line f y := by
  obtain heq | hlt := (Nat.floor_mono hxy).eq_or_lt
  · have hrise : 0 ≤ f (⌊y⌋₊ + 1) - f ⌊y⌋₊ := sub_nonneg.mpr (hmono (Nat.le_succ _))
    unfold line
    rw [heq]
    have hpart := mul_le_mul_of_nonneg_left (sub_le_sub_right hxy (⌊y⌋₊ : K)) hrise
    linarith
  · calc line f x ≤ f (⌊x⌋₊ + 1) := (between hmono hx).2
      _ ≤ f ⌊y⌋₊ := hmono hlt
      _ ≤ line f y := (between hmono (hx.trans hxy)).1

end Interpolation
