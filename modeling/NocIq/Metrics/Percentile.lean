import Mathlib.Data.List.GetD
import Mathlib.Data.List.Sort
import Mathlib.Data.Rat.Floor
import NocIq.Lib.Interpolation

/-!
# NocIq — percentiles of measurements

`MetricsRegistry._percentile` of `app/services/metrics.py`, in rational arithmetic. The list is read
by Python's indices, which may be negative or outside the list.

* **`percentile_eq`** — what is computed is on the line through the sorted values.
* **`percentile_law`** — so it is one of the values at the ends, rises, and depends on no order.
-/

namespace NocIq

namespace MetricsRegistry

/-! ## `_percentile` -/

/-- An `IndexError` is raised. -/
structure IndexError where
  deriving DecidableEq, Repr

/-- `values[i]`. -/
def getItem (values : List ℚ) (i : Int) : Except IndexError ℚ :=
  let i := if i < 0 then i + values.length else i
  if i < 0 then .error {}
  else
    match values[i.toNat]? with
    | some v => .ok v
    | none => .error {}

/-- `int(x)`: towards zero. -/
def toInt (x : ℚ) : Int := if 0 ≤ x then ⌊x⌋ else ⌈x⌉

/-- `sorted(values)`. -/
def sortedValues (values : List ℚ) : List ℚ := values.insertionSort (· ≤ ·)

def percentile (values : List ℚ) (percentile : ℚ) : Except IndexError ℚ :=
  if values = [] then .ok 0
  else
    let n := values.length
    if n = 1 then getItem values 0
    else
      let sortedValues := sortedValues values
      let k := percentile / 100 * ((n - 1 : Int) : ℚ)
      let f := toInt k
      let c := f + 1
      if (n : Int) ≤ c then getItem sortedValues (-1)
      else do
        let d0 ← getItem sortedValues f
        let d1 ← getItem sortedValues c
        return d0 + (d1 - d0) * (k - f)

/-! ## What a percentile is -/

/-- The sorted values, the last of them again and again. -/
def valueAt (values : List ℚ) (i : Nat) : ℚ :=
  (sortedValues values).getD (min i (values.length - 1)) 0

def position (values : List ℚ) (p : ℚ) : ℚ := p / 100 * (values.length - 1 : Nat)

/-- What is promised of the percentiles of a list. -/
structure PercentileLaw (values : List ℚ) : Prop where
  defined : ∀ p, 0 ≤ p → p ≤ 100 → ∃ v, percentile values p = .ok v
  unordered : ∀ values', values'.Perm values → percentile values' = percentile values
  monotone : ∀ p q v w, 0 ≤ p → p ≤ q → q ≤ 100 → percentile values p = .ok v →
    percentile values q = .ok w → v ≤ w
  bounds : ∀ lowest ∈ values.min?, ∀ highest ∈ values.max?,
    percentile values 0 = .ok lowest ∧ percentile values 100 = .ok highest ∧
      ∀ p v, 0 ≤ p → p ≤ 100 → percentile values p = .ok v → lowest ≤ v ∧ v ≤ highest
  interpolates : ∀ p, 0 ≤ p → p ≤ 100 →
    percentile values p = .ok (Interpolation.line (valueAt values) (position values p))

/-! ## The sorted values -/

section Sorted

variable {values values' : List ℚ}

theorem length_sortedValues (values : List ℚ) : (sortedValues values).length = values.length :=
  List.length_insertionSort _ _

theorem sortedValues_of_perm (h : values'.Perm values) :
    sortedValues values' = sortedValues values :=
  ((List.perm_insertionSort _ _).trans (h.trans (List.perm_insertionSort _ _).symm)).eq_of_pairwise
    (fun _ _ _ _ => le_antisymm) (List.pairwise_insertionSort _ _) (List.pairwise_insertionSort _ _)

theorem sortedValues_pairwise (values : List ℚ) : (sortedValues values).Pairwise (· ≤ ·) :=
  List.pairwise_insertionSort _ _

theorem mem_sortedValues {v : ℚ} : v ∈ sortedValues values ↔ v ∈ values :=
  (List.perm_insertionSort _ _).mem_iff

theorem getItem_natCast {l : List ℚ} {i : Nat} (h : i < l.length) :
    getItem l i = .ok (l.getD i 0) := by
  unfold getItem
  have hnonneg : ¬ ((i : Int) < 0) := Int.not_lt.mpr (Int.natCast_nonneg i)
  simp only [if_neg hnonneg, Int.toNat_natCast, List.getElem?_eq_getElem h]
  rw [List.getD_eq_getElem l 0 h]

theorem getItem_neg_one {l : List ℚ} (h : l ≠ []) :
    getItem l (-1) = .ok (l.getD (l.length - 1) 0) := by
  have hpos := List.length_pos_iff.mpr h
  have hindex : getItem l (-1) = getItem l ((l.length - 1 : Nat) : Int) := by
    unfold getItem
    have hsame : (if (-1 : Int) < 0 then -1 + (l.length : Int) else -1) =
        if ((l.length - 1 : Nat) : Int) < 0 then ((l.length - 1 : Nat) : Int) + l.length
          else ((l.length - 1 : Nat) : Int) := by
      rw [if_pos (by decide), if_neg (Int.not_lt.mpr (Int.natCast_nonneg _))]
      omega
    simp only [hsame]
  rw [hindex, getItem_natCast (by omega)]

/-! ## The sequence of the values -/

theorem valueAt_of_lt {i : Nat} (h : i < values.length) :
    valueAt values i = (sortedValues values).getD i 0 := by
  unfold valueAt
  rw [Nat.min_eq_left (Nat.le_sub_one_of_lt h)]

theorem valueAt_mem (hne : values ≠ []) (i : Nat) : valueAt values i ∈ values := by
  have hpos := List.length_pos_iff.mpr hne
  have hlt : min i (values.length - 1) < (sortedValues values).length := by
    rw [length_sortedValues]
    omega
  unfold valueAt
  rw [List.getD_eq_getElem _ 0 hlt, ← mem_sortedValues]
  exact List.getElem_mem hlt

theorem exists_valueAt {v : ℚ} (hv : v ∈ values) : ∃ i < values.length, valueAt values i = v := by
  obtain ⟨i, hi, heq⟩ := List.getElem_of_mem (mem_sortedValues.mpr hv)
  have hlt : i < values.length := by rwa [length_sortedValues] at hi
  refine ⟨i, hlt, ?_⟩
  rw [valueAt_of_lt hlt, List.getD_eq_getElem _ 0 hi, heq]

theorem valueAt_mono (hne : values ≠ []) : Monotone (valueAt values) := by
  intro i j hij
  have hpos := List.length_pos_iff.mpr hne
  have hle : min i (values.length - 1) ≤ min j (values.length - 1) := min_le_min_right _ hij
  have hj : min j (values.length - 1) < (sortedValues values).length := by
    rw [length_sortedValues]
    omega
  have hi := Nat.lt_of_le_of_lt hle hj
  unfold valueAt
  rw [List.getD_eq_getElem _ 0 hi, List.getD_eq_getElem _ 0 hj]
  obtain heq | hlt := hle.eq_or_lt
  · simp only [heq, le_refl]
  · exact List.pairwise_iff_getElem.mp (sortedValues_pairwise values) _ _ hi hj hlt

theorem valueAt_first (hne : values ≠ []) {v : ℚ} (hv : v ∈ values) : valueAt values 0 ≤ v := by
  obtain ⟨i, -, rfl⟩ := exists_valueAt hv
  exact valueAt_mono hne (Nat.zero_le i)

theorem valueAt_last (hne : values ≠ []) {v : ℚ} (hv : v ∈ values) :
    v ≤ valueAt values (values.length - 1) := by
  obtain ⟨i, hi, rfl⟩ := exists_valueAt hv
  exact valueAt_mono hne (Nat.le_sub_one_of_lt hi)

/-! ## Positions -/

variable {p q : ℚ}

theorem position_nonneg (hp : 0 ≤ p) : 0 ≤ position values p :=
  mul_nonneg (div_nonneg hp (by norm_num)) (Nat.cast_nonneg _)

theorem position_mono (hpq : p ≤ q) : position values p ≤ position values q :=
  mul_le_mul_of_nonneg_right (div_le_div_of_nonneg_right hpq (by norm_num)) (Nat.cast_nonneg _)

theorem position_zero : position values 0 = (0 : Nat) := by
  unfold position
  rw [zero_div, zero_mul, Nat.cast_zero]

theorem position_hundred : position values 100 = (values.length - 1 : Nat) := by
  unfold position
  rw [div_self (by norm_num), one_mul]

/-- **What is computed** lies on the line through the sorted values; no index is outside the
list. -/
theorem percentile_eq (hne : values ≠ []) (hp : 0 ≤ p) (hle : p ≤ 100) :
    percentile values p = .ok (Interpolation.line (valueAt values) (position values p)) := by
  have hpos := List.length_pos_iff.mpr hne
  have hsorted : sortedValues values ≠ [] := by
    intro hnil
    have hlength := length_sortedValues values
    rw [hnil, List.length_nil] at hlength
    omega
  have hk : p / 100 * ((values.length - 1 : Int) : ℚ) = position values p := by
    unfold position
    rw [Nat.cast_sub hpos]
    push_cast
    rfl
  have hnonneg : 0 ≤ position values p := position_nonneg hp
  have hlast : position values p ≤ (values.length - 1 : Nat) := by
    rw [← position_hundred]
    exact position_mono hle
  have hfloor : toInt (position values p) = (⌊position values p⌋₊ : Int) := by
    unfold toInt
    rw [if_pos hnonneg, Int.natCast_floor_eq_floor hnonneg]
  unfold percentile
  simp only [if_neg hne]
  by_cases hone : values.length = 1
  · -- a single value is at every position
    obtain ⟨v, rfl⟩ := List.length_eq_one_iff.mp hone
    have hvalue : ∀ i, valueAt [v] i = v := fun i =>
      List.mem_singleton.mp (valueAt_mem hne i)
    have hline : Interpolation.line (valueAt [v]) (position [v] p) = v := by
      unfold Interpolation.line
      rw [hvalue, hvalue, sub_self, zero_mul, add_zero]
    rw [if_pos hone, hline]
    rfl
  · simp only [if_neg hone, hk, hfloor]
    by_cases hend : (values.length : Int) ≤ (⌊position values p⌋₊ : Int) + 1
    · -- the last position
      have hposition : position values p = (values.length - 1 : Nat) := by
        refine le_antisymm hlast ?_
        refine le_trans (Nat.cast_le.mpr ?_) (Nat.floor_le hnonneg)
        omega
      rw [if_pos hend, hposition, Interpolation.line_natCast, getItem_neg_one hsorted,
        length_sortedValues, valueAt_of_lt (by omega)]
    · -- two neighbours, both of them in the list
      have hnext : ⌊position values p⌋₊ + 1 < values.length := by omega
      have hfirst := getItem_natCast (l := sortedValues values) (i := ⌊position values p⌋₊)
        (by rw [length_sortedValues]; omega)
      have hsecond := getItem_natCast (l := sortedValues values) (i := ⌊position values p⌋₊ + 1)
        (by rw [length_sortedValues]; omega)
      rw [Nat.cast_succ] at hsecond
      rw [if_neg hend, hfirst, hsecond]
      unfold Interpolation.line
      rw [valueAt_of_lt hnext, valueAt_of_lt (Nat.lt_of_succ_lt hnext)]
      rfl

end Sorted

/-! ## The percentiles -/

/-- **The percentiles** of every list that is not empty. -/
theorem percentile_law (values : List ℚ) (hne : values ≠ []) : PercentileLaw values where
  defined p hp hle := ⟨_, percentile_eq hne hp hle⟩
  unordered values' hperm := by
    have hsorted := sortedValues_of_perm hperm
    have hlength := hperm.length_eq
    have hnil : values' = [] ↔ values = [] := by
      rw [← List.length_eq_zero_iff, ← List.length_eq_zero_iff, hlength]
    funext p
    unfold percentile
    simp only [hsorted, hlength, hnil]
    -- a single value is returned as it is, and a permutation of it is the same list
    by_cases hone : values.length = 1
    · obtain ⟨v, rfl⟩ := List.length_eq_one_iff.mp hone
      rw [List.perm_singleton.mp hperm]
    · simp only [if_neg hone]
  monotone p q v w hp hpq hq hv hw := by
    rw [percentile_eq hne hp (hpq.trans hq), Except.ok.injEq] at hv
    rw [percentile_eq hne (hp.trans hpq) hq, Except.ok.injEq] at hw
    rw [← hv, ← hw]
    exact Interpolation.mono (valueAt_mono hne) (position_nonneg hp) (position_mono hpq)
  bounds lowest hlowest highest hhighest := by
    obtain ⟨hmin, hleast⟩ := List.min?_eq_some_iff.mp hlowest
    obtain ⟨hmax, hgreatest⟩ := List.max?_eq_some_iff.mp hhighest
    have hfirst : valueAt values 0 = lowest :=
      le_antisymm (valueAt_first hne hmin) (hleast _ (valueAt_mem hne 0))
    have hlast : valueAt values (values.length - 1) = highest :=
      le_antisymm (hgreatest _ (valueAt_mem hne _)) (valueAt_last hne hmax)
    refine ⟨?_, ?_, ?_⟩
    · rw [percentile_eq hne le_rfl (by norm_num), position_zero, Interpolation.line_natCast, hfirst]
    · rw [percentile_eq hne (by norm_num) le_rfl, position_hundred, Interpolation.line_natCast,
        hlast]
    · intro p v hp hle hv
      rw [percentile_eq hne hp hle, Except.ok.injEq] at hv
      obtain ⟨hlow, hhigh⟩ := Interpolation.between (valueAt_mono hne) (position_nonneg hp)
      rw [← hv]
      exact ⟨(hleast _ (valueAt_mem hne _)).trans hlow,
        hhigh.trans (hgreatest _ (valueAt_mem hne _))⟩
  interpolates p hp hle := percentile_eq hne hp hle

/-- Three measurements, out of order. -/
theorem percentile_law_three : PercentileLaw [30, 10, 20] := percentile_law _ (by decide)

example : percentile [30, 10, 20] 75 = .ok 25 := by decide +kernel

end MetricsRegistry

end NocIq
