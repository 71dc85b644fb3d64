import Mathlib.Algebra.Order.Field.Power
import Mathlib.Data.Nat.Log
import Mathlib.Tactic.FieldSimp
import Mathlib.Tactic.Linarith
import Mathlib.Tactic.Positivity
import Mathlib.Tactic.Ring

/-!
# Decimal — decimal arithmetic with signals

A decimal number is a sign, a coefficient and a power of ten; several of them have one value. `fix`
rounds one to a context, ties to even, or signals that it is too large; `normalize` then takes the
trailing zeros off its coefficient. `text` is the scientific text, and `parse` reads numerals.

* **`normalize_scale`** — a zero at the end of the coefficient does not matter.
* **`normalize_congr`** — normalizing depends on the sign and the value only.
-/

structure Decimal where
  negative : Bool
  coefficient : Nat
  exponent : Int
  deriving DecidableEq, Repr

namespace Decimal

def value (d : Decimal) : ℚ :=
  (if d.negative then -1 else 1) * (d.coefficient * 10 ^ d.exponent)

/-- How many digits a coefficient has. -/
def length (n : Nat) : Nat := Nat.log 10 n + 1

def adjusted (d : Decimal) : Int := d.exponent + length d.coefficient - 1

structure Context where
  precision : Nat
  emax : Int
  emin : Int

namespace Context

def etiny (ctx : Context) : Int := ctx.emin - ctx.precision + 1

def etop (ctx : Context) : Int := ctx.emax - ctx.precision + 1

end Context

/-! ## Rounding -/

/-- A coefficient without its last `k` digits, ties to even. -/
def roundOff (k n : Nat) : Nat :=
  if length n < k then 0
  else
    let q := n / 10 ^ k
    let r := n % 10 ^ k
    if 2 * r < 10 ^ k then q else if 10 ^ k < 2 * r then q + 1 else if q % 2 = 0 then q else q + 1

/-- The number in the context; `none` is the signal that it is too large. -/
def fix (ctx : Context) (d : Decimal) : Option Decimal :=
  if d.coefficient = 0 then some d
  else
    let expMin := d.exponent + length d.coefficient - ctx.precision
    if ctx.etop < expMin then none
    else
      let expMin := max expMin ctx.etiny
      if d.exponent < expMin then
        let coefficient := roundOff (expMin - d.exponent).toNat d.coefficient
        -- a carry gives one digit more
        if ctx.precision < length coefficient then
          if ctx.etop < expMin + 1 then none
          else some { d with coefficient := coefficient / 10, exponent := expMin + 1 }
        else some { d with coefficient, exponent := expMin }
      else some d

/-- A coefficient without the zeros at its end, up to a largest exponent. -/
def stripZeros (emax : Int) : (fuel : Nat) → Nat → Int → Nat × Int
  | 0, n, e => (n, e)
  | fuel + 1, n, e =>
    if n % 10 = 0 ∧ e < emax then stripZeros emax fuel (n / 10) (e + 1) else (n, e)

def strip (ctx : Context) (d : Decimal) : Decimal :=
  if d.coefficient = 0 then { d with exponent := 0 }
  else
    let (coefficient, exponent) :=
      stripZeros ctx.emax (length d.coefficient) d.coefficient d.exponent
    { d with coefficient, exponent }

def normalize (ctx : Context) (d : Decimal) : Option Decimal := (d.fix ctx).map (strip ctx)

theorem length_mul_ten {n : Nat} (h : n ≠ 0) : length (n * 10) = length n + 1 := by
  unfold length
  rw [Nat.log_mul_base (by decide) h]

theorem roundOff_mul_ten (k : Nat) {n : Nat} (h : n ≠ 0) :
    roundOff (k + 1) (n * 10) = roundOff k n := by
  unfold roundOff
  rw [length_mul_ten h, Nat.pow_succ, Nat.mul_div_mul_right _ _ (by decide), Nat.mul_mod_mul_right]
  have hlt : 2 * (n % 10 ^ k * 10) < 10 ^ k * 10 ↔ 2 * (n % 10 ^ k) < 10 ^ k := by omega
  have hgt : 10 ^ k * 10 < 2 * (n % 10 ^ k * 10) ↔ 10 ^ k < 2 * (n % 10 ^ k) := by omega
  simp only [hlt, hgt, Nat.add_lt_add_iff_right]

theorem roundOff_zero (n : Nat) : roundOff 0 n = n := by
  unfold roundOff
  simp [Nat.mod_one]

/-! ## Zeros at the end -/

/-- The same number with one more zero at the end of its coefficient. -/
def scale (d : Decimal) : Decimal :=
  { d with coefficient := d.coefficient * 10, exponent := d.exponent - 1 }

variable {d : Decimal}

theorem scale_ne_zero (h : d.coefficient ≠ 0) : d.scale.coefficient ≠ 0 := by
  show d.coefficient * 10 ≠ 0
  omega

theorem value_scale (d : Decimal) : d.scale.value = d.value := by
  have hpow : (10 : ℚ) * 10 ^ (d.exponent - 1) = 10 ^ d.exponent := by
    rw [zpow_sub_one₀ (by norm_num)]
    field_simp
  unfold scale value
  push_cast
  rw [mul_assoc (d.coefficient : ℚ), hpow]

theorem strip_scale {ctx : Context} (h : d.coefficient ≠ 0) (hlt : d.exponent ≤ ctx.emax) :
    strip ctx d.scale = strip ctx d := by
  have hzeros : stripZeros ctx.emax (length d.scale.coefficient) d.scale.coefficient
      d.scale.exponent = stripZeros ctx.emax (length d.coefficient) d.coefficient d.exponent := by
    show stripZeros _ (length (d.coefficient * 10)) _ _ = _
    rw [length_mul_ten h]
    show (if d.coefficient * 10 % 10 = 0 ∧ d.exponent - 1 < ctx.emax then
      stripZeros _ _ (d.coefficient * 10 / 10) (d.exponent - 1 + 1) else _) = _
    rw [if_pos (by omega), Nat.mul_div_cancel _ (by decide), sub_add_cancel]
  unfold strip
  rw [if_neg (scale_ne_zero h), if_neg h, hzeros]
  rfl

theorem fix_scale (ctx : Context) (h : d.coefficient ≠ 0) :
    fix ctx d.scale = fix ctx d ∨
      fix ctx d.scale = some d.scale ∧ fix ctx d = some d ∧ d.exponent ≤ ctx.emax := by
  have hlength : length d.scale.coefficient = length d.coefficient + 1 := length_mul_ten h
  have hfirst : d.scale.exponent + length d.scale.coefficient - ctx.precision =
      d.exponent + length d.coefficient - ctx.precision := by
    rw [hlength]
    show d.exponent - 1 + _ - _ = _
    push_cast
    ring
  have hpos : 1 ≤ length d.coefficient := Nat.le_add_left 1 _
  unfold fix
  rw [if_neg (scale_ne_zero h), if_neg h]
  dsimp only
  rw [hfirst]
  generalize hexpMin : d.exponent + length d.coefficient - ctx.precision = expMin
  by_cases hlarge : ctx.etop < expMin
  · rw [if_pos hlarge, if_pos hlarge]
    exact .inl rfl
  · rw [if_neg hlarge, if_neg hlarge]
    generalize hmin : max expMin ctx.etiny = least
    have hle : expMin ≤ least := hmin ▸ le_max_left expMin ctx.etiny
    have hexponent : d.scale.exponent = d.exponent - 1 := rfl
    rcases lt_trichotomy d.exponent least with hlt | heq | hgt
    · left
      have hdrop : (least - d.scale.exponent).toNat = (least - d.exponent).toNat + 1 := by omega
      have hround : roundOff (least - d.scale.exponent).toNat d.scale.coefficient =
          roundOff (least - d.exponent).toNat d.coefficient := by
        rw [hdrop]
        exact roundOff_mul_ten _ h
      rw [if_pos (by omega), if_pos hlt, hround]
      rfl
    · -- only the added zero is dropped
      left
      have hround : roundOff (least - d.scale.exponent).toNat d.scale.coefficient =
          d.coefficient := by
        rw [show (least - d.scale.exponent).toNat = 0 + 1 by omega]
        exact (roundOff_mul_ten 0 h).trans (roundOff_zero _)
      have hfits : ¬ ctx.precision < length d.coefficient := by omega
      have hkept : ¬ d.exponent < least := by omega
      rw [if_pos (by omega), hround, if_neg hfits, if_neg hkept, ← heq]
      rfl
    · right
      unfold Context.etop at hlarge
      exact ⟨if_neg (by omega), if_neg (by omega), by omega⟩

/-- **A zero at the end** does not matter. -/
theorem normalize_scale (ctx : Context) (h : d.coefficient ≠ 0) :
    normalize ctx d.scale = normalize ctx d := by
  unfold normalize
  rcases fix_scale ctx h with hfix | ⟨hscale, hfix, hle⟩
  · rw [hfix]
  · rw [hscale, hfix, Option.map_some, Option.map_some, strip_scale h hle]

/-! ## Normalizing -/

theorem value_zero (h : d.coefficient = 0) : d.value = 0 := by
  unfold value
  rw [h]
  simp

theorem coefficient_eq_zero (h : d.value = 0) : d.coefficient = 0 := by
  have hunit : (if d.negative then -1 else 1 : ℚ) ≠ 0 := by split <;> norm_num
  have hten : (10 : ℚ) ^ d.exponent ≠ 0 := zpow_ne_zero _ (by norm_num)
  have hmagnitude := (mul_eq_zero.mp h).resolve_left hunit
  exact_mod_cast (mul_eq_zero.mp hmagnitude).resolve_right hten

theorem normalize_zero (ctx : Context) (h : d.coefficient = 0) :
    normalize ctx d = some ⟨d.negative, 0, 0⟩ := by
  unfold normalize fix
  rw [if_pos h]
  show some (if d.coefficient = 0 then _ else _) = _
  rw [if_pos h, h]

theorem normalize_zeros (ctx : Context) (negative : Bool) {n : Nat} (h : n ≠ 0) (e : Int)
    (k : Nat) : normalize ctx ⟨negative, n * 10 ^ k, e - k⟩ = normalize ctx ⟨negative, n, e⟩ := by
  induction k with
  | zero => simp
  | succ k ih =>
    have hscale : (⟨negative, n * 10 ^ (k + 1), e - (k + 1 : Nat)⟩ : Decimal) =
        scale ⟨negative, n * 10 ^ k, e - k⟩ := by
      unfold scale
      simp only [mk.injEq, true_and]
      refine ⟨by ring, by push_cast; ring⟩
    rw [hscale, normalize_scale ctx (mul_ne_zero h (pow_ne_zero k (by decide))), ih]

theorem coefficient_eq {m n : Nat} {e f : Int} (hle : e ≤ f)
    (h : (m : ℚ) * 10 ^ e = n * 10 ^ f) : m = n * 10 ^ (f - e).toNat := by
  have hten : (10 : ℚ) ^ e ≠ 0 := zpow_ne_zero _ (by norm_num)
  have hpow : (10 : ℚ) ^ f = 10 ^ (f - e).toNat * 10 ^ e := by
    rw [← zpow_natCast, ← zpow_add₀ (by norm_num)]
    congr 1
    omega
  rw [hpow, ← mul_assoc] at h
  exact_mod_cast mul_right_cancel₀ hten h

theorem normalize_of_magnitude_eq (ctx : Context) (negative : Bool) {m n : Nat} {e f : Int}
    (hle : e ≤ f) (h : (m : ℚ) * 10 ^ e = n * 10 ^ f) :
    normalize ctx ⟨negative, m, e⟩ = normalize ctx ⟨negative, n, f⟩ := by
  have hm := coefficient_eq hle h
  by_cases hn : n = 0
  · rw [hn, Nat.zero_mul] at hm
    rw [normalize_zero ctx hm, normalize_zero ctx hn]
  · have hzeros := normalize_zeros ctx negative hn f (f - e).toNat
    rw [← hm, show f - ((f - e).toNat : Int) = e by omega] at hzeros
    exact hzeros

/-- **Normalizing** depends on the sign and the value only. -/
theorem normalize_congr (ctx : Context) {d' : Decimal} (hsign : d.negative = d'.negative)
    (hvalue : d.value = d'.value) : normalize ctx d = normalize ctx d' := by
  obtain ⟨negative, m, e⟩ := d
  obtain ⟨negative', n, f⟩ := d'
  obtain rfl : negative = negative' := hsign
  have hmagnitude : (m : ℚ) * 10 ^ e = n * 10 ^ f := by
    have hunit : (if negative then -1 else 1 : ℚ) ≠ 0 := by split <;> norm_num
    exact mul_left_cancel₀ hunit hvalue
  rcases le_total e f with hle | hle
  · exact normalize_of_magnitude_eq ctx negative hle hmagnitude
  · exact (normalize_of_magnitude_eq ctx negative hle hmagnitude.symm).symm

theorem negative_eq {d' : Decimal} (hvalue : d.value = d'.value) (h : d.value ≠ 0) :
    d.negative = d'.negative := by
  have hmagnitude (d : Decimal) : (0 : ℚ) ≤ d.coefficient * 10 ^ d.exponent := by positivity
  have hle := hmagnitude d
  have hle' := hmagnitude d'
  unfold value at hvalue h
  cases hsign : d.negative with
  | false =>
    cases hsign' : d'.negative with
    | false => rfl
    | true =>
      rw [hsign, hsign'] at hvalue
      rw [hsign] at h
      simp only [Bool.false_eq_true, if_false, if_true] at hvalue h
      exact absurd (by linarith) h
  | true =>
    cases hsign' : d'.negative with
    | true => rfl
    | false =>
      rw [hsign, hsign'] at hvalue
      rw [hsign] at h
      simp only [Bool.false_eq_true, if_false, if_true] at hvalue h
      exact absurd (by linarith) h

/-! ## Texts -/

/-- The scientific text, with an exponent if the number is large or very small. -/
def text (d : Decimal) : String :=
  let digits := Nat.toDigits 10 d.coefficient
  let left := d.exponent + digits.length
  let point := if d.exponent ≤ 0 ∧ -6 < left then left else 1
  let body :=
    if point ≤ 0 then ['0', '.'] ++ List.replicate (-point).toNat '0' ++ digits
    else if digits.length ≤ point then digits ++ List.replicate (point - digits.length).toNat '0'
    else digits.take point.toNat ++ '.' :: digits.drop point.toNat
  let exponent :=
    if left = point then []
    else 'E' :: (if left < point then '-' else '+') :: Nat.toDigits 10 (left - point).natAbs
  String.ofList ((if d.negative then ['-'] else []) ++ body ++ exponent)

/-- The digits at the front, and what follows them. -/
def spanDigits (digit : Char → Option Nat) : List Char → List Nat × List Char
  | [] => ([], [])
  | c :: cs =>
    match digit c with
    | none => ([], c :: cs)
    | some d =>
      let (ds, rest) := spanDigits digit cs
      (d :: ds, rest)

def ofDigits (ds : List Nat) : Nat := ds.foldl (fun n d => 10 * n + d) 0

def spanSign : List Char → Bool × List Char
  | '-' :: cs => (true, cs)
  | '+' :: cs => (false, cs)
  | cs => (false, cs)

def parseExponent (digit : Char → Option Nat) : List Char → Option Int
  | [] => some 0
  | c :: cs =>
    if c = 'e' ∨ c = 'E' then
      let (negative, cs) := spanSign cs
      match spanDigits digit cs with
      | (d :: ds, []) => some (if negative then -ofDigits (d :: ds) else ofDigits (d :: ds))
      | _ => none
    else none

/-- The numbers that there are, for contexts as large as can be. -/
def isExact (d : Decimal) : Bool :=
  decide (-1999999999999999997 ≤ d.exponent ∧
    (if d.coefficient = 0 then d.exponent else d.adjusted) ≤ 999999999999999999)

def parse (digit : Char → Option Nat) (negative : Bool) (cs : List Char) : Option Decimal :=
  let (whole, cs) := spanDigits digit cs
  let (fraction, cs) :=
    match cs with
    | '.' :: cs => spanDigits digit cs
    | cs => ([], cs)
  if whole = [] ∧ fraction = [] then none
  else
    (parseExponent digit cs).bind fun exponent =>
      let d : Decimal :=
        { negative
          coefficient := ofDigits (whole ++ fraction)
          exponent := exponent - fraction.length }
      if d.isExact then some d else none

end Decimal

/-! ## Numerals -/

/-- What a numeral denotes. -/
inductive Numeral where
  | finite (d : Decimal)
  | infinity (negative : Bool)
  | nan (negative signaling : Bool) (payload : Nat)
  deriving DecidableEq, Repr

namespace Numeral

/-- `none` is a signal: too large, or a signaling NaN. -/
def normalize (ctx : Decimal.Context) : Numeral → Option Numeral
  | .finite d => (d.normalize ctx).map .finite
  | .infinity negative => some (.infinity negative)
  | .nan negative false payload => some (.nan negative false (payload % 10 ^ ctx.precision))
  | .nan _ true _ => none

def text : Numeral → String
  | .finite d => d.text
  | .infinity negative => if negative then "-Infinity" else "Infinity"
  | .nan negative signaling payload =>
    (if negative then "-" else "") ++ (if signaling then "sNaN" else "NaN") ++
      if payload = 0 then "" else toString payload

/-- A numeral, in characters of which `digit` says which digits they are; `none` if it is none. -/
def parse (digit : Char → Option Nat) (cs : List Char) : Option Numeral :=
  let (negative, cs) := Decimal.spanSign cs
  let lower := cs.map Char.toLower
  let nan (signaling : Bool) (payload : List Char) : Option Numeral :=
    match Decimal.spanDigits digit payload with
    | (ds, []) => some (.nan negative signaling (Decimal.ofDigits ds))
    | _ => none
  if lower = ['i', 'n', 'f'] ∨ lower = ['i', 'n', 'f', 'i', 'n', 'i', 't', 'y'] then
    some (.infinity negative)
  else if ['n', 'a', 'n'].isPrefixOf lower then nan false (cs.drop 3)
  else if ['s', 'n', 'a', 'n'].isPrefixOf lower then nan true (cs.drop 4)
  else (Decimal.parse digit negative cs).map .finite

end Numeral
