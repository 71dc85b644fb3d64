import Mathlib.Data.Rat.Floor
import Mathlib.Tactic.Positivity

/-!
# Rounding — decimal rounding

`roundHalfEven q` is the integer nearest to `q`, the even one of two, and `roundHalfAway q` the one
away from zero; `roundTo d q` and `roundAwayTo d q` round to `d` decimal places. All are computable
on rationals.

* **`le_roundHalfEven` / `roundHalfEven_le`** — rounding does not cross an integer.
* **`roundHalfEven_mono`** — it keeps the order.
* **`roundHalfEven_nonneg_iff`** — the result is negative exactly below `-1/2`.
* **`roundTo_intCast` / `roundTo_mem_Icc`** — the same facts at `d` places: integers are their own
  rounding, and integer bounds are kept.
* **`roundHalfAway_lt_iff`** — what is rounded away from zero to less than a positive integer.
* **`roundAwayTo_eq_iff`** — what is not changed at `d` places.
-/

namespace Rounding

/-- The nearest integer; of two nearest ones the even one. -/
def roundHalfEven (q : ℚ) : ℤ :=
  if q - ⌊q⌋ < 1 / 2 then ⌊q⌋
  else if 1 / 2 < q - ⌊q⌋ then ⌊q⌋ + 1
  else if ⌊q⌋ % 2 = 0 then ⌊q⌋ else ⌊q⌋ + 1

/-- Rounding to `d` decimal places. -/
def roundTo (d : Nat) (q : ℚ) : ℚ := roundHalfEven (q * 10 ^ d) / 10 ^ d

theorem roundHalfEven_eq_or (q : ℚ) :
    roundHalfEven q = ⌊q⌋ ∨ roundHalfEven q = ⌊q⌋ + 1 := by
  unfold roundHalfEven
  split_ifs <;> simp

variable {q : ℚ}

theorem le_roundHalfEven {n : ℤ} (h : (n : ℚ) ≤ q) : n ≤ roundHalfEven q := by
  have hfloor : n ≤ ⌊q⌋ := Int.le_floor.mpr h
  rcases roundHalfEven_eq_or q with heq | heq <;> omega

theorem roundHalfEven_le {n : ℤ} (h : q ≤ n) : roundHalfEven q ≤ n := by
  have hfloor : ⌊q⌋ ≤ n := by
    have hle : (⌊q⌋ : ℚ) ≤ n := (Int.floor_le q).trans h
    exact_mod_cast hle
  rcases lt_or_eq_of_le hfloor with hlt | heq
  · rcases roundHalfEven_eq_or q with hr | hr <;> omega
  · -- then `q` is the integer `n` itself
    have hq : q = n := le_antisymm h (by rw [← heq]; exact Int.floor_le q)
    have hfrac : q - ⌊q⌋ < 1 / 2 := by
      rw [heq, hq, sub_self]
      norm_num
    unfold roundHalfEven
    rw [if_pos hfrac]
    exact hfloor

@[simp] theorem roundHalfEven_intCast (n : ℤ) : roundHalfEven (n : ℚ) = n :=
  le_antisymm (roundHalfEven_le le_rfl) (le_roundHalfEven le_rfl)

/-- Rounding keeps the order: two numbers with one floor are on their sides of its middle. -/
theorem roundHalfEven_mono {r : ℚ} (h : q ≤ r) : roundHalfEven q ≤ roundHalfEven r := by
  rcases lt_or_eq_of_le (Int.floor_le_floor h) with hlt | heq
  · have hq := roundHalfEven_eq_or q
    have hr := roundHalfEven_eq_or r
    omega
  · unfold roundHalfEven
    rw [heq]
    have hfrac : q - ⌊r⌋ ≤ r - ⌊r⌋ := sub_le_sub_right h _
    split_ifs <;> first | omega | linarith

theorem roundHalfEven_neg (q : ℚ) : roundHalfEven (-q) = -roundHalfEven q := by
  by_cases hint : (⌊q⌋ : ℚ) = q
  · rw [← hint, ← Int.cast_neg, roundHalfEven_intCast, roundHalfEven_intCast]
  · -- then the floor of `-q` is one below the negative of that of `q`
    have hfloor : ⌊-q⌋ = -⌊q⌋ - 1 := by
      have hle := Int.floor_le q
      have hlt := Int.lt_floor_add_one q
      have hne : (⌊q⌋ : ℚ) < q := lt_of_le_of_ne hle hint
      rw [Int.floor_eq_iff]
      push_cast
      constructor <;> linarith
    unfold roundHalfEven
    rw [hfloor]
    push_cast
    split_ifs <;> first | omega | (exfalso; linarith)

theorem roundHalfEven_nonneg_iff : 0 ≤ roundHalfEven q ↔ -1 / 2 ≤ q := by
  have hle := Int.floor_le q
  have hlt := Int.lt_floor_add_one q
  constructor
  · intro h
    by_contra hq
    rw [not_le] at hq
    have hneg : ⌊q⌋ < 0 := Int.floor_lt.mpr (by push_cast; linarith)
    by_cases hfloor : ⌊q⌋ = -1
    · -- between -1 and -1/2 the floor is the nearest integer
      have hfrac : q - ⌊q⌋ < 1 / 2 := by
        rw [hfloor]
        push_cast
        linarith
      have hround : roundHalfEven q = ⌊q⌋ := if_pos hfrac
      omega
    · rcases roundHalfEven_eq_or q with hr | hr <;> omega
  · intro h
    by_cases hnonneg : 0 ≤ ⌊q⌋
    · rcases roundHalfEven_eq_or q with hr | hr <;> omega
    · have hfloor : ⌊q⌋ = -1 := by
        have hge : (-1 : ℤ) ≤ ⌊q⌋ := Int.le_floor.mpr (by push_cast; linarith)
        omega
      have hfrac : ¬ q - ⌊q⌋ < 1 / 2 := by
        rw [hfloor]
        push_cast
        linarith
      -- above -1/2 the result is 0, and so it is at the tie, where -1 is odd
      unfold roundHalfEven
      rw [if_neg hfrac, hfloor]
      split_ifs <;> omega

@[simp] theorem roundTo_intCast (d : Nat) (n : ℤ) : roundTo d (n : ℚ) = n := by
  have hscaled : (n : ℚ) * 10 ^ d = ((n * 10 ^ d : ℤ) : ℚ) := by push_cast; rfl
  have hpow : (10 : ℚ) ^ d ≠ 0 := by positivity
  unfold roundTo
  rw [hscaled, roundHalfEven_intCast]
  push_cast
  field_simp

variable {d : Nat}

theorem roundTo_mem_Icc {a b : ℤ} (ha : (a : ℚ) ≤ q) (hb : q ≤ b) :
    (a : ℚ) ≤ roundTo d q ∧ roundTo d q ≤ b := by
  have hpow : (0 : ℚ) < 10 ^ d := by positivity
  have hlow : a * 10 ^ d ≤ roundHalfEven (q * 10 ^ d) := by
    apply le_roundHalfEven
    push_cast
    exact mul_le_mul_of_nonneg_right ha hpow.le
  have hhigh : roundHalfEven (q * 10 ^ d) ≤ b * 10 ^ d := by
    apply roundHalfEven_le
    push_cast
    exact mul_le_mul_of_nonneg_right hb hpow.le
  unfold roundTo
  rw [le_div_iff₀ hpow, div_le_iff₀ hpow]
  exact ⟨by exact_mod_cast hlow, by exact_mod_cast hhigh⟩

theorem roundTo_nonneg_iff : 0 ≤ roundTo d q ↔ -1 / 2 ≤ q * 10 ^ d := by
  have hpow : (0 : ℚ) < 10 ^ d := by positivity
  unfold roundTo
  rw [← roundHalfEven_nonneg_iff, le_div_iff₀ hpow, zero_mul]
  exact_mod_cast Iff.rfl

/-! ## Ties away from zero -/

/-- The nearest integer; of two nearest ones the one away from zero. -/
def roundHalfAway (q : ℚ) : ℤ := if 0 ≤ q then ⌊q + 1 / 2⌋ else -⌊-q + 1 / 2⌋

/-- Rounding to `d` decimal places, ties away from zero. -/
def roundAwayTo (d : Nat) (q : ℚ) : ℚ := roundHalfAway (q * 10 ^ d) / 10 ^ d

theorem roundHalfAway_lt_iff {n : ℤ} (hn : 0 < n) : roundHalfAway q < n ↔ q < n - 1 / 2 := by
  unfold roundHalfAway
  split_ifs with hq
  · rw [Int.floor_lt, lt_sub_iff_add_lt]
  · -- a number below zero is rounded to at most zero
    have hfloor : 0 ≤ ⌊-q + 1 / 2⌋ := Int.floor_nonneg.mpr (by linarith)
    have hone : (1 : ℚ) ≤ n := by exact_mod_cast hn
    exact iff_of_true (by omega) (by linarith)

@[simp] theorem roundHalfAway_intCast (n : ℤ) : roundHalfAway (n : ℚ) = n := by
  have hhalf : ∀ m : ℤ, ⌊(m : ℚ) + 1 / 2⌋ = m := fun m => by
    rw [Int.floor_intCast_add]
    norm_num
  unfold roundHalfAway
  split_ifs with hn
  · exact hhalf n
  · rw [← Int.cast_neg, hhalf, neg_neg]

theorem roundHalfAway_nonneg (hq : 0 ≤ q) : 0 ≤ roundHalfAway q := by
  unfold roundHalfAway
  rw [if_pos hq]
  exact Int.floor_nonneg.mpr (by linarith)

theorem pow_pos_ten (d : Nat) : (0 : ℚ) < 10 ^ d := by positivity

/-- **What rounding does not change**: multiples of the last place. -/
theorem roundAwayTo_eq_iff : roundAwayTo d q = q ↔ ∃ n : ℤ, q * 10 ^ d = n := by
  unfold roundAwayTo
  rw [div_eq_iff (pow_pos_ten d).ne']
  constructor
  · exact fun h => ⟨_, h.symm⟩
  · rintro ⟨n, hn⟩
    rw [hn, roundHalfAway_intCast]

@[simp] theorem roundAwayTo_roundAwayTo (d : Nat) (q : ℚ) :
    roundAwayTo d (roundAwayTo d q) = roundAwayTo d q :=
  roundAwayTo_eq_iff.mpr ⟨_, div_mul_cancel₀ _ (pow_pos_ten d).ne'⟩

theorem roundAwayTo_lt_iff {n : ℤ} (hn : 0 < n) :
    roundAwayTo d q < n / 10 ^ d ↔ q * 10 ^ d < n - 1 / 2 := by
  rw [roundAwayTo, div_lt_div_iff_of_pos_right (pow_pos_ten d), Int.cast_lt,
    roundHalfAway_lt_iff hn]

theorem roundAwayTo_nonneg (hq : 0 ≤ q) : 0 ≤ roundAwayTo d q :=
  div_nonneg (Int.cast_nonneg (roundHalfAway_nonneg (mul_nonneg hq (pow_pos_ten d).le)))
    (pow_pos_ten d).le

theorem roundAwayTo_pos_iff : 0 < roundAwayTo d q ↔ 1 / 2 ≤ q * 10 ^ d := by
  have hone : ¬ roundHalfAway (q * 10 ^ d) < 1 ↔ 1 / 2 ≤ q * 10 ^ d := by
    rw [roundHalfAway_lt_iff one_pos, not_lt, Int.cast_one, sub_half]
  rw [roundAwayTo, div_pos_iff_of_pos_right (pow_pos_ten d), Int.cast_pos, ← hone, not_lt]
  exact Int.lt_iff_add_one_le

end Rounding
