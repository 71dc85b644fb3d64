import Mathlib.Data.Int.Log
import NocIq.Lib.Rounding

/-!
# Binary64 — rounding to doubles

`nearest q` is the double nearest to the rational `q`, the one with the even significand of two: a
multiple of the last of its 53 binary places, and no finer than `2 ^ (-1074)`. It is computable. The
overflow to an infinity is left out: from `2 ^ 1024` on there are 53 places, too.

* **`nearest_mono`** — rounding keeps the order.
* **`nearest_dyadic`** — a number of at most 53 places is its own rounding.
* **`nearest_nearest`** — what has been rounded is a double.
* **`Double.val_sub_exact`** — a difference of at most 53 of the places of both is not rounded.
-/

namespace Binary64

open Rounding (roundHalfEven roundHalfEven_mono roundHalfEven_neg le_roundHalfEven
  roundHalfEven_le)

/-! ## Places -/

def lastPlace (q : ℚ) : ℤ := max (Int.log 2 |q|) (-1022) - 52

/-- The unit in the last place. -/
def ulp (q : ℚ) : ℚ := 2 ^ lastPlace q

/-- The double nearest to a number. -/
def nearest (q : ℚ) : ℚ := roundHalfEven (q / ulp q) * ulp q

theorem ulp_pos (q : ℚ) : 0 < ulp q := zpow_pos two_pos _

theorem le_lastPlace (q : ℚ) : -1074 ≤ lastPlace q := by
  unfold lastPlace
  omega

theorem lastPlace_neg (q : ℚ) : lastPlace (-q) = lastPlace q := by
  unfold lastPlace
  rw [abs_neg]

theorem abs_lt_places (q : ℚ) : |q| < 2 ^ (lastPlace q + 53) := by
  have hlog : |q| < (2 : ℕ) ^ (Int.log 2 |q| + 1) := Int.lt_zpow_succ_log_self one_lt_two |q|
  refine hlog.trans_le (zpow_le_zpow_right₀ one_le_two ?_)
  unfold lastPlace
  omega

variable {q : ℚ}

/-- A number has its 53 places, unless the last one is the least. -/
theorem places_le (hq : 0 < q) (hplace : -1074 < lastPlace q) : 2 ^ (lastPlace q + 52) ≤ q := by
  have hlog : (2 : ℕ) ^ Int.log 2 q ≤ q := Int.zpow_log_le_self one_lt_two hq
  have hexponent : lastPlace q + 52 = Int.log 2 q := by
    unfold lastPlace at hplace ⊢
    rw [abs_of_pos hq] at hplace ⊢
    omega
  rw [hexponent]
  exact hlog

theorem lastPlace_mono {r : ℚ} (hq : 0 < q) (h : q ≤ r) : lastPlace q ≤ lastPlace r := by
  have hlog : Int.log 2 |q| ≤ Int.log 2 |r| := by
    rw [abs_of_pos hq, abs_of_pos (hq.trans_le h)]
    exact Int.log_mono_right hq h
  unfold lastPlace
  omega

theorem lastPlace_le {n : ℤ} (hq : q ≠ 0) (h : |q| < 2 ^ n) (hn : -1021 ≤ n) :
    lastPlace q ≤ n - 53 := by
  have hlog : Int.log 2 |q| < n := (Int.lt_zpow_iff_log_lt one_lt_two (abs_pos.mpr hq)).mp h
  unfold lastPlace
  omega

variable {k : ℤ}

theorem le_lastPlace_of_le (h : 2 ^ (k + 52) ≤ q) : k ≤ lastPlace q := by
  have hpos : 0 < q := (zpow_pos two_pos _).trans_le h
  have hlog : k + 52 ≤ Int.log 2 |q| := by
    rw [abs_of_pos hpos]
    exact (Int.zpow_le_iff_le_log one_lt_two hpos).mp h
  unfold lastPlace
  omega

/-! ## Rounding -/

theorem nearest_neg (q : ℚ) : nearest (-q) = -nearest q := by
  unfold nearest ulp
  rw [lastPlace_neg, neg_div, roundHalfEven_neg]
  push_cast
  ring

@[simp] theorem nearest_zero : nearest 0 = 0 := by
  have hround : roundHalfEven 0 = 0 := by decide +kernel
  unfold nearest
  rw [zero_div, hround, Int.cast_zero, zero_mul]

theorem exists_units {j : ℤ} (h : j ≤ k) (m : ℤ) : ∃ n : ℤ, (m : ℚ) * 2 ^ k = n * 2 ^ j := by
  obtain ⟨i, hi⟩ := Int.le.dest h
  refine ⟨m * 2 ^ i, ?_⟩
  rw [← hi, zpow_add₀ two_ne_zero, zpow_natCast]
  push_cast
  ring

/-- Rounding does not cross a multiple of a place that is no lower. -/
theorem le_nearest {m : ℤ} (hk : lastPlace q ≤ k) (h : (m : ℚ) * 2 ^ k ≤ q) :
    (m : ℚ) * 2 ^ k ≤ nearest q := by
  obtain ⟨n, hn⟩ := exists_units hk m
  rw [hn] at h ⊢
  have hround : n ≤ roundHalfEven (q / ulp q) := le_roundHalfEven ((le_div_iff₀ (ulp_pos q)).mpr h)
  exact mul_le_mul_of_nonneg_right (by exact_mod_cast hround) (ulp_pos q).le

@[inherit_doc le_nearest]
theorem nearest_le {m : ℤ} (hk : lastPlace q ≤ k)
    (h : q ≤ (m : ℚ) * 2 ^ k) : nearest q ≤ (m : ℚ) * 2 ^ k := by
  obtain ⟨n, hn⟩ := exists_units hk m
  rw [hn] at h ⊢
  have hround : roundHalfEven (q / ulp q) ≤ n := roundHalfEven_le ((div_le_iff₀ (ulp_pos q)).mpr h)
  exact mul_le_mul_of_nonneg_right (by exact_mod_cast hround) (ulp_pos q).le

theorem nearest_nonneg (h : 0 ≤ q) : 0 ≤ nearest q := by
  have hle := le_nearest (m := 0) (le_refl (lastPlace q)) (by simpa using h)
  simpa using hle

/-- Positive numbers. Between two of different places lies a power of two, which neither crosses. -/
theorem nearest_mono_of_pos {r : ℚ} (hq : 0 < q) (h : q ≤ r) : nearest q ≤ nearest r := by
  rcases lt_or_eq_of_le (lastPlace_mono hq h) with hlt | heq
  · have hbelow : q ≤ ((1 : ℤ) : ℚ) * 2 ^ (lastPlace r + 52) := by
      have hplaces := abs_lt_places q
      rw [abs_of_pos hq] at hplaces
      rw [Int.cast_one, one_mul]
      exact hplaces.le.trans (zpow_le_zpow_right₀ one_le_two (by omega))
    have habove : ((1 : ℤ) : ℚ) * 2 ^ (lastPlace r + 52) ≤ r := by
      rw [Int.cast_one, one_mul]
      exact places_le (hq.trans_le h) ((le_lastPlace q).trans_lt hlt)
    exact (nearest_le (by omega) hbelow).trans (le_nearest (by omega) habove)
  · have hulp : ulp q = ulp r := congrArg (fun k : ℤ => (2 : ℚ) ^ k) heq
    unfold nearest
    rw [hulp]
    have hround : roundHalfEven (q / ulp r) ≤ roundHalfEven (r / ulp r) :=
      roundHalfEven_mono (div_le_div_of_nonneg_right h (ulp_pos r).le)
    exact mul_le_mul_of_nonneg_right (by exact_mod_cast hround) (ulp_pos r).le

/-- **Rounding keeps the order.** -/
theorem nearest_mono : Monotone nearest := by
  intro q r h
  rcases lt_trichotomy q 0 with hneg | rfl | hpos
  · rcases lt_or_ge r 0 with hr | hr
    · have hflip := nearest_mono_of_pos (neg_pos.mpr hr) (neg_le_neg h)
      rw [nearest_neg, nearest_neg] at hflip
      exact neg_le_neg_iff.mp hflip
    · have hnonneg := nearest_nonneg (neg_nonneg.mpr hneg.le)
      rw [nearest_neg] at hnonneg
      exact (neg_nonneg.mp hnonneg).trans (nearest_nonneg hr)
  · rw [nearest_zero]
    exact nearest_nonneg h
  · exact nearest_mono_of_pos hpos h

/-! ## Doubles -/

theorem nearest_eq_self {m : ℤ} (h : lastPlace ((m : ℚ) * 2 ^ k) ≤ k) :
    nearest ((m : ℚ) * 2 ^ k) = m * 2 ^ k :=
  le_antisymm (nearest_le h le_rfl) (le_nearest h le_rfl)

/-- **A number of at most 53 places** is its own rounding. -/
theorem nearest_dyadic {m : ℤ} (hm : |m| ≤ 2 ^ 53) (hk : -1074 ≤ k) :
    nearest ((m : ℚ) * 2 ^ k) = m * 2 ^ k := by
  by_cases hzero : m = 0
  · rw [hzero, Int.cast_zero, zero_mul, nearest_zero]
  have hpow : (0 : ℚ) < 2 ^ k := zpow_pos two_pos k
  have habs : |(m : ℚ) * 2 ^ k| = |m| * 2 ^ k := by
    rw [abs_mul, abs_of_pos hpow, Int.cast_abs]
  have hne : (m : ℚ) * 2 ^ k ≠ 0 := mul_ne_zero (Int.cast_ne_zero.mpr hzero) hpow.ne'
  rcases lt_or_eq_of_le hm with hlt | heq
  · refine nearest_eq_self ((lastPlace_le hne ?_ (by omega : -1021 ≤ k + 53)).trans (by omega))
    rw [habs, zpow_add₀ two_ne_zero, mul_comm]
    exact mul_lt_mul_of_pos_left (by exact_mod_cast hlt) hpow
  · -- the power of two has one place, which is a higher one
    obtain ⟨s, hs⟩ : ∃ s : ℤ, (m : ℚ) * 2 ^ k = s * 2 ^ (k + 53) ∧ |s| = 1 := by
      rcases abs_eq (by positivity) |>.mp heq with rfl | rfl
      · exact ⟨1, by rw [zpow_add₀ two_ne_zero]; push_cast; ring, rfl⟩
      · exact ⟨-1, by rw [zpow_add₀ two_ne_zero]; push_cast; ring, rfl⟩
    rw [hs.1] at hne habs ⊢
    refine nearest_eq_self ((lastPlace_le hne ?_ (by omega : -1021 ≤ k + 54)).trans (by omega))
    have habs' : |(s : ℚ) * 2 ^ (k + 53)| = 2 ^ (k + 53) := by
      rw [abs_mul, ← Int.cast_abs, hs.2, Int.cast_one, one_mul,
        abs_of_pos (zpow_pos two_pos (k + 53))]
    rw [habs']
    exact zpow_lt_zpow_right₀ one_lt_two (by omega)

/-- **What has been rounded** is a double. -/
@[simp] theorem nearest_nearest (q : ℚ) : nearest (nearest q) = nearest q := by
  have hbound : |q / ulp q| ≤ ((2 ^ 53 : ℤ) : ℚ) := by
    have hplaces := (abs_lt_places q).le
    rw [abs_div, abs_of_pos (ulp_pos q), div_le_iff₀ (ulp_pos q)]
    refine hplaces.trans (le_of_eq ?_)
    unfold ulp
    rw [zpow_add₀ two_ne_zero]
    push_cast
    ring
  have hround : |roundHalfEven (q / ulp q)| ≤ 2 ^ 53 := by
    obtain ⟨hlow, hhigh⟩ := abs_le.mp hbound
    refine abs_le.mpr ⟨le_roundHalfEven ?_, roundHalfEven_le hhigh⟩
    push_cast at hlow ⊢
    exact hlow
  exact nearest_dyadic hround (le_lastPlace q)

/-- A double. -/
structure Double where
  val : ℚ
  nearest_val : nearest val = val
  deriving DecidableEq

namespace Double

theorem val_injective : Function.Injective val := by
  rintro ⟨x, hx⟩ ⟨y, hy⟩ rfl
  rfl

instance : LinearOrder Double := LinearOrder.lift' val val_injective

/-- The double nearest to a number. -/
def of (q : ℚ) : Double := ⟨nearest q, nearest_nearest q⟩

/-- The difference of two doubles, rounded. -/
instance : Sub Double := ⟨fun x y => of (x.val - y.val)⟩

theorem val_sub (x y : Double) : (x - y).val = nearest (x.val - y.val) := rfl

variable {x : Double}

theorem lt_iff {y : Double} : x < y ↔ x.val < y.val := Iff.rfl

theorem le_iff {y : Double} : x ≤ y ↔ x.val ≤ y.val := Iff.rfl

theorem le_of_le {q : ℚ} (h : x.val ≤ q) : x ≤ of q :=
  le_iff.mpr (x.nearest_val ▸ nearest_mono h)

theorem val_of_int {m : ℤ} (h : |m| ≤ 2 ^ 53) : (of m).val = m := by
  have hexact := nearest_dyadic h (by omega : -1074 ≤ 0)
  rwa [zpow_zero, mul_one] at hexact

theorem exists_multiple {k : ℤ} (hk : k ≤ lastPlace x.val) : ∃ m : ℤ, x.val = m * 2 ^ k := by
  obtain ⟨m, hm⟩ := exists_units hk (roundHalfEven (x.val / ulp x.val))
  exact ⟨m, x.nearest_val.symm.trans hm⟩

/-- **A difference of at most 53 of the places** of both is not rounded. -/
theorem val_sub_exact {y : Double} {m n k : ℤ} (hk : -1074 ≤ k) (hx : x.val = m * 2 ^ k)
    (hy : y.val = n * 2 ^ k) (h : |x.val - y.val| ≤ 2 ^ (k + 53)) :
    (x - y).val = x.val - y.val := by
  have hpow : (0 : ℚ) < 2 ^ k := zpow_pos two_pos k
  have hdiff : x.val - y.val = ((m - n : ℤ) : ℚ) * 2 ^ k := by
    rw [hx, hy, Int.cast_sub, sub_mul]
  rw [val_sub, hdiff]
  rw [hdiff, abs_mul, abs_of_pos hpow, zpow_add₀ two_ne_zero, mul_comm] at h
  refine nearest_dyadic ?_ hk
  have hplaces := le_of_mul_le_mul_left h hpow
  exact_mod_cast hplaces

end Double

end Binary64
