import NocIq.Lib.Decimal

/-!
# Decimal text — a number is read back from its text

The text of a number is a whole part, a fraction or none, and an exponent or none. `digit` says
which characters are digits, and reads the ASCII ones.

* **`Numeral.parse_text`** — the text of a numeral is read back as that numeral.
* **`normal_of_normalize`** — what normalizing leaves, which is normalized to itself.
-/

namespace Decimal

/-- The digits are read, and neither the point nor the mark of an exponent is one. -/
structure ReadsDigits (digit : Char → Option Nat) : Prop where
  isDigit (c : Char) (h : c.isDigit = true) : digit c = some (c.toNat - 48)
  point : digit '.' = none
  mark : digit 'E' = none

variable {digit : Char → Option Nat}

/-! ## Parts of a text -/

theorem length_toDigits (n : Nat) : (Nat.toDigits 10 n).length = length n := by
  refine le_antisymm ?_ ?_
  · exact (Nat.length_toDigits_le_iff (by decide) (Nat.succ_pos _)).mpr
      (Nat.lt_pow_succ_log_self (by decide) n)
  · by_contra hlt
    have hlog : (Nat.toDigits 10 n).length ≤ Nat.log 10 n := by
      unfold length at hlt
      omega
    have hpos : 0 < Nat.log 10 n := lt_of_lt_of_le Nat.length_toDigits_pos hlog
    have hsmall := (Nat.length_toDigits_le_iff (b := 10) (by decide) hpos).mp hlog
    have hne : n ≠ 0 := by
      rintro rfl
      simp at hpos
    exact absurd (Nat.pow_log_le_self 10 hne) (by omega)

theorem isDigit_toDigits (n : Nat) : ∀ c ∈ Nat.toDigits 10 n, c.isDigit = true :=
  fun _ hc => Nat.isDigit_of_mem_toDigits (by decide) (by decide) hc

/-- Digits up to something else. Induction on the digits. -/
theorem spanDigits_append (hreads : ReadsDigits digit) {cs rest : List Char}
    (h : ∀ c ∈ cs, c.isDigit = true) (hrest : ∀ c ∈ rest.head?, digit c = none) :
    spanDigits digit (cs ++ rest) = (cs.map fun c => c.toNat - 48, rest) := by
  induction cs with
  | nil =>
    cases rest with
    | nil => rfl
    | cons c rest =>
      show spanDigits digit (c :: rest) = ([], c :: rest)
      rw [spanDigits, hrest c rfl]
  | cons c cs ih =>
    show spanDigits digit (c :: (cs ++ rest)) = _
    rw [spanDigits, hreads.isDigit c (h c List.mem_cons_self)]
    dsimp only
    rw [ih fun c hc => h c (List.mem_cons_of_mem _ hc)]
    rfl

theorem spanDigits_digits (hreads : ReadsDigits digit) {cs : List Char}
    (h : ∀ c ∈ cs, c.isDigit = true) :
    spanDigits digit cs = (cs.map fun c => c.toNat - 48, []) := by
  have hrest : ∀ c ∈ ([] : List Char).head?, digit c = none := by simp
  have happend := spanDigits_append hreads h hrest
  rwa [List.append_nil] at happend

theorem ofDigits_map (cs : List Char) :
    ofDigits (cs.map fun c => c.toNat - 48) = Nat.ofDigitChars 10 cs 0 := by
  unfold ofDigits
  rw [List.foldl_map, Nat.ofDigitChars_eq_foldl]
  rfl

def exponentText : Option Int → List Char
  | none => []
  | some x => 'E' :: (if x < 0 then '-' else '+') :: Nat.toDigits 10 x.natAbs

theorem head_exponentText (hreads : ReadsDigits digit) (exponent : Option Int) :
    ∀ c ∈ (exponentText exponent).head?, digit c = none := by
  cases exponent with
  | none => simp [exponentText]
  | some x =>
    intro c hc
    obtain rfl := Option.some.inj hc
    exact hreads.mark

theorem spanSign_exponent (x : Int) (cs : List Char) :
    spanSign ((if x < 0 then '-' else '+') :: cs) = (decide (x < 0), cs) := by
  by_cases hneg : x < 0
  · rw [if_pos hneg, decide_eq_true hneg]
    rfl
  · rw [if_neg hneg, decide_eq_false hneg]
    rfl

theorem parseExponent_exponentText (hreads : ReadsDigits digit) (exponent : Option Int) :
    parseExponent digit (exponentText exponent) = some (exponent.getD 0) := by
  cases exponent with
  | none => rfl
  | some x =>
    have hspan := spanDigits_digits hreads (isDigit_toDigits x.natAbs)
    have hvalue : ofDigits ((Nat.toDigits 10 x.natAbs).map fun c => c.toNat - 48) = x.natAbs := by
      rw [ofDigits_map, Nat.ofDigitChars_ten_toDigits]
    show parseExponent digit ('E' :: (if x < 0 then '-' else '+') :: Nat.toDigits 10 x.natAbs) = _
    unfold parseExponent
    dsimp only
    rw [if_pos (Or.inr rfl), spanSign_exponent]
    dsimp only
    rw [hspan]
    cases hdigits : (Nat.toDigits 10 x.natAbs).map fun c => c.toNat - 48 with
    | nil => exact absurd (List.map_eq_nil_iff.mp hdigits) Nat.toDigits_ne_nil
    | cons d ds =>
      rw [hdigits] at hvalue
      dsimp only
      rw [hvalue, Option.getD_some]
      congr 1
      by_cases hneg : x < 0
      · rw [if_pos (decide_eq_true hneg)]
        omega
      · rw [if_neg (by simpa using hneg)]
        omega

/-! ## Numbers that are written out -/

/-- A number in its parts. -/
structure Layout where
  whole : List Char
  fraction : Option (List Char)
  exponent : Option Int

namespace Layout

def digits (l : Layout) : List Char := l.whole ++ l.fraction.getD []

def pointText : Option (List Char) → List Char
  | none => []
  | some fraction => '.' :: fraction

def body (l : Layout) : List Char :=
  l.whole ++ (pointText l.fraction ++ exponentText l.exponent)

structure Valid (l : Layout) : Prop where
  isDigit : ∀ c ∈ l.digits, c.isDigit = true
  whole : l.whole ≠ []

def number (negative : Bool) (l : Layout) : Decimal where
  negative
  coefficient := Nat.ofDigitChars 10 l.digits 0
  exponent := l.exponent.getD 0 - (l.fraction.getD []).length

theorem Valid.fraction_isDigit {l : Layout} (h : l.Valid) :
    ∀ c ∈ l.fraction.getD [], c.isDigit = true :=
  fun c hc => h.isDigit c (List.mem_append_right _ hc)

theorem Valid.whole_isDigit {l : Layout} (h : l.Valid) : ∀ c ∈ l.whole, c.isDigit = true :=
  fun c hc => h.isDigit c (List.mem_append_left _ hc)

/-- **A layout** is read as its number. -/
theorem parse_body (hreads : ReadsDigits digit) {l : Layout} (h : l.Valid) (negative : Bool) :
    Decimal.parse digit negative l.body =
      if (l.number negative).isExact then some (l.number negative) else none := by
  have hhead : ∀ c ∈ (pointText l.fraction ++ exponentText l.exponent).head?, digit c = none := by
    cases hfraction : l.fraction with
    | none => exact head_exponentText hreads l.exponent
    | some fraction =>
      intro c hc
      obtain rfl := Option.some.inj hc
      exact hreads.point
  have hwhole : l.whole.map (fun c => c.toNat - 48) ≠ [] := by
    simpa using h.whole
  have hcoefficient : ofDigits (l.whole.map (fun c => c.toNat - 48) ++
      (l.fraction.getD []).map fun c => c.toNat - 48) = Nat.ofDigitChars 10 l.digits 0 := by
    rw [← List.map_append, ofDigits_map]
    rfl
  unfold Decimal.parse body
  rw [spanDigits_append hreads h.whole_isDigit hhead]
  dsimp only
  split
  · next rest hrest =>
    cases hfraction : l.fraction with
    | none =>
      -- an exponent does not begin with a point
      rw [hfraction] at hrest
      cases hexponent : l.exponent with
      | none => simp [hexponent, pointText, exponentText] at hrest
      | some x => simp [hexponent, pointText, exponentText] at hrest
    | some fraction =>
      rw [hfraction] at hrest hcoefficient
      obtain rfl : fraction ++ exponentText l.exponent = rest := (List.cons.inj hrest).2
      have hisDigit : ∀ c ∈ fraction, c.isDigit = true := by
        have hall := h.fraction_isDigit
        rwa [hfraction] at hall
      rw [spanDigits_append hreads hisDigit (head_exponentText hreads l.exponent)]
      dsimp only
      rw [if_neg fun hnone => hwhole hnone.1, parseExponent_exponentText hreads,
        show fraction = (some fraction).getD [] from rfl, hcoefficient, List.length_map,
        ← hfraction]
      rfl
  · next hpoint =>
    cases hfraction : l.fraction with
    | some fraction => exact absurd (by rw [hfraction]; rfl) (hpoint (fraction ++ _))
    | none =>
      rw [hfraction] at hcoefficient
      dsimp only
      rw [if_neg fun hnone => hwhole hnone.1]
      show (parseExponent digit (exponentText l.exponent)).bind _ = _
      rw [parseExponent_exponentText hreads, Option.bind_some]
      simp only [Option.getD_none, List.map_nil, List.append_nil] at hcoefficient
      simp only [List.append_nil, List.length_nil, hcoefficient, number, hfraction]
      rfl

end Layout

/-! ## The text of a number -/

/-- Without an exponent. -/
def isPlain (d : Decimal) : Bool :=
  decide (d.exponent ≤ 0 ∧ -6 < d.exponent + length d.coefficient)

/-- The parts of the text. -/
def layout (d : Decimal) : Layout :=
  let digits := Nat.toDigits 10 d.coefficient
  let left := d.exponent + length d.coefficient
  if d.isPlain then
    if left ≤ 0 then ⟨['0'], some (List.replicate (-left).toNat '0' ++ digits), none⟩
    else if d.exponent = 0 then ⟨digits, none, none⟩
    else ⟨digits.take left.toNat, some (digits.drop left.toNat), none⟩
  else if digits.length ≤ 1 then ⟨digits, none, some d.adjusted⟩
  else ⟨digits.take 1, some (digits.drop 1), some d.adjusted⟩

def signText (negative : Bool) : List Char := if negative then ['-'] else []

theorem toList_text (d : Decimal) : d.text.toList = signText d.negative ++ d.layout.body := by
  have hdigits : 1 ≤ length d.coefficient := Nat.le_add_left 1 _
  unfold text layout
  dsimp only
  rw [String.toList_ofList, length_toDigits, List.append_assoc]
  unfold signText
  congr 1
  by_cases hplain : d.exponent ≤ 0 ∧ -6 < d.exponent + length d.coefficient
  · have hisPlain : d.isPlain = true := decide_eq_true hplain
    rw [if_pos hplain, if_pos hisPlain, if_pos rfl, List.append_nil]
    by_cases hleft : d.exponent + length d.coefficient ≤ 0
    · rw [if_pos hleft, if_pos hleft]
      simp [Layout.body, Layout.pointText, exponentText]
    · rw [if_neg hleft, if_neg hleft]
      by_cases hzero : d.exponent = 0
      · rw [if_pos hzero, if_pos (by omega), hzero]
        simp [Layout.body, Layout.pointText, exponentText]
      · rw [if_neg hzero, if_neg (by omega)]
        simp [Layout.body, Layout.pointText, exponentText]
  · have hisPlain : ¬ d.isPlain = true := by simpa [isPlain] using hplain
    have hpoint : ¬ d.exponent + length d.coefficient = 1 := by omega
    rw [if_neg hplain, if_neg hisPlain, if_neg hpoint, if_neg (by decide)]
    have hexponent : ('E' :: (if d.exponent + length d.coefficient < 1 then '-' else '+') ::
        Nat.toDigits 10 (d.exponent + length d.coefficient - 1).natAbs) =
        exponentText (some d.adjusted) := by
      have hneg : d.adjusted < 0 ↔ d.exponent + length d.coefficient < 1 := by
        unfold adjusted
        omega
      show _ = 'E' :: (if d.adjusted < 0 then '-' else '+') :: Nat.toDigits 10 d.adjusted.natAbs
      simp only [hneg]
      rfl
    rw [hexponent]
    by_cases hone : length d.coefficient ≤ 1
    · rw [if_pos hone, if_pos (by omega), show (1 : Int) - length d.coefficient = 0 by omega]
      simp [Layout.body, Layout.pointText]
    · rw [if_neg hone, if_neg (by omega)]
      simp [Layout.body, Layout.pointText]

theorem valid_layout (d : Decimal) : d.layout.Valid := by
  have hisDigit := isDigit_toDigits d.coefficient
  have hne : Nat.toDigits 10 d.coefficient ≠ [] := Nat.toDigits_ne_nil
  unfold layout
  dsimp only
  split
  · split
    · refine ⟨?_, by simp⟩
      intro c hc
      simp only [Layout.digits, Option.getD_some, List.mem_append, List.mem_singleton,
        List.mem_replicate] at hc
      obtain rfl | ⟨-, rfl⟩ | hc := hc
      · rfl
      · rfl
      · exact hisDigit c hc
    · split
      · exact ⟨by simpa [Layout.digits] using hisDigit, hne⟩
      · exact ⟨by simpa [Layout.digits] using hisDigit, by simp; omega⟩
  · split
    · exact ⟨by simpa [Layout.digits] using hisDigit, hne⟩
    · refine ⟨?_, by simp⟩
      simpa only [Layout.digits, Option.getD_some, List.take_append_drop] using hisDigit

/-- **The layout** of a number says which number it is. -/
theorem number_layout (d : Decimal) : d.layout.number d.negative = d := by
  have hdigits : 1 ≤ length d.coefficient := Nat.le_add_left 1 _
  have hcoefficient : Nat.ofDigitChars 10 (Nat.toDigits 10 d.coefficient) 0 = d.coefficient :=
    Nat.ofDigitChars_ten_toDigits
  have hlength := length_toDigits d.coefficient
  obtain ⟨negative, coefficient, exponent⟩ := d
  dsimp only at hdigits hcoefficient hlength
  unfold layout isPlain
  dsimp only
  split
  · next hplain =>
    have hexponent := of_decide_eq_true hplain
    split
    · next hleft =>
      simp only [Layout.number, Layout.digits, Option.getD_some, Option.getD_none,
        List.singleton_append, mk.injEq, true_and, List.length_append, List.length_replicate,
        hlength, Nat.ofDigitChars_cons]
      refine ⟨?_, by omega⟩
      rw [Nat.ofDigitChars_append, Nat.ofDigitChars_replicate_zero]
      simp [hcoefficient]
    · split
      · next hzero => simp [Layout.number, Layout.digits, hcoefficient, hzero]
      · simp only [Layout.number, Layout.digits, Option.getD_some, Option.getD_none,
          List.take_append_drop, hcoefficient, mk.injEq, true_and, List.length_drop, hlength]
        omega
  · split
    · next hone =>
      simp only [Layout.number, Layout.digits, Option.getD_some, Option.getD_none,
        List.append_nil, hcoefficient, mk.injEq, true_and, List.length_nil, adjusted]
      omega
    · simp only [Layout.number, Layout.digits, Option.getD_some, List.take_append_drop,
        hcoefficient, mk.injEq, true_and, List.length_drop, hlength, adjusted]
      omega

theorem Layout.Valid.body_eq_cons {l : Layout} (h : l.Valid) :
    ∃ c cs, l.body = c :: cs ∧ c.isDigit = true := by
  have hisDigit := h.whole_isDigit
  cases hwhole : l.whole with
  | nil => exact absurd hwhole h.whole
  | cons c cs =>
    refine ⟨c, cs ++ (Layout.pointText l.fraction ++ exponentText l.exponent), ?_, ?_⟩
    · show l.whole ++ _ = _
      rw [hwhole]
      rfl
    · exact hisDigit c (hwhole ▸ List.mem_cons_self)

theorem spanSign_signText {negative : Bool} {c : Char} {cs : List Char} (hminus : c ≠ '-')
    (hplus : c ≠ '+') : spanSign (signText negative ++ c :: cs) = (negative, c :: cs) := by
  cases negative with
  | true => rfl
  | false =>
    show spanSign (c :: cs) = _
    unfold spanSign
    split
    · next heq => exact absurd (List.cons.inj heq).1 hminus
    · next heq => exact absurd (List.cons.inj heq).1 hplus
    · rfl

theorem isDigit_ne {c : Char} (h : c.isDigit = true) :
    c ≠ '-' ∧ c ≠ '+' ∧ c.toLower ≠ 'i' ∧ c.toLower ≠ 'n' ∧ c.toLower ≠ 's' := by
  have hlower : c.toLower = c := by
    simp only [Char.isDigit, Bool.and_eq_true, decide_eq_true_eq, ge_iff_le,
      UInt32.le_iff_toNat_le] at h
    unfold Char.toLower
    refine dif_neg fun hupper => ?_
    simp only [ge_iff_le, UInt32.le_iff_toNat_le] at hupper
    have hlow : 'A'.val.toNat = 65 := rfl
    have hhigh : '9'.val.toNat = 57 := rfl
    omega
  refine ⟨?_, ?_, ?_, ?_, ?_⟩ <;> (try rw [hlower]) <;> (rintro rfl; exact absurd h (by decide))

/-! ## Normal numbers -/

structure Context.Valid (ctx : Context) : Prop where
  precision : 0 < ctx.precision
  range : ctx.emin ≤ ctx.emax

/-- The number fits, and its coefficient is not longer than it must be. -/
def Normal (ctx : Context) (d : Decimal) : Prop :=
  (d.coefficient = 0 ∧ d.exponent = 0) ∨
    (d.coefficient % 10 ≠ 0 ∧ length d.coefficient ≤ ctx.precision ∧ ctx.etiny ≤ d.exponent ∧
      d.adjusted ≤ ctx.emax)

theorem normalize_of_normal {ctx : Context} {d : Decimal} (h : d.Normal ctx) :
    d.normalize ctx = some d := by
  obtain ⟨negative, coefficient, exponent⟩ := d
  obtain ⟨hzero, hexponent⟩ | ⟨hdigit, hlength, hetiny, hadjusted⟩ := h
  · dsimp only at hzero hexponent
    rw [normalize_zero ctx hzero]
    subst hzero hexponent
    rfl
  · dsimp only at hdigit hlength hetiny
    have hne : coefficient ≠ 0 := by omega
    have hfix : fix ctx ⟨negative, coefficient, exponent⟩ = some ⟨negative, coefficient, exponent⟩ := by
      unfold adjusted at hadjusted
      dsimp only at hadjusted
      unfold fix Context.etop
      dsimp only
      rw [if_neg hne, if_neg (by omega), if_neg (by omega)]
    have hpos : length coefficient = Nat.log 10 coefficient + 1 := rfl
    unfold normalize
    rw [hfix, Option.map_some]
    unfold strip
    dsimp only
    rw [if_neg hne, hpos, stripZeros, if_neg fun h => hdigit h.1]

theorem length_div_ten {n : Nat} (hne : n ≠ 0) (h : n % 10 = 0) :
    length n = length (n / 10) + 1 := by
  have hdiv : n = n / 10 * 10 := by omega
  have hpos : n / 10 ≠ 0 := by omega
  rw [← length_mul_ten hpos, ← hdiv]

theorem stripZeros_spec (emax : Int) {fuel n : Nat} {e : Int} (hne : n ≠ 0) (hfuel : length n ≤ fuel)
    (hmax : e + length n - 1 ≤ emax) :
    (stripZeros emax fuel n e).1 % 10 ≠ 0 ∧
      (stripZeros emax fuel n e).2 + length (stripZeros emax fuel n e).1 = e + length n ∧
      e ≤ (stripZeros emax fuel n e).2 := by
  induction fuel generalizing n e with
  | zero =>
    have hpos : 1 ≤ length n := Nat.le_add_left 1 _
    omega
  | succ fuel ih =>
    rw [stripZeros]
    by_cases hzero : n % 10 = 0
    · have hlength := length_div_ten hne hzero
      have hpos : 1 ≤ length (n / 10) := Nat.le_add_left 1 _
      rw [if_pos ⟨hzero, by omega⟩]
      obtain ⟨hdigit, hfirst, hle⟩ := ih (n := n / 10) (e := e + 1) (by omega) (by omega) (by omega)
      refine ⟨hdigit, by omega, by omega⟩
    · rw [if_neg fun h => hzero h.1]
      exact ⟨hzero, rfl, le_refl e⟩

theorem length_le_iff {n k : Nat} (hk : 0 < k) : length n ≤ k ↔ n < 10 ^ k := by
  rw [← length_toDigits]
  exact Nat.length_toDigits_le_iff (by decide) hk

theorem roundOff_le {k n p : Nat} (hp : 0 < p) (h : length n ≤ p + k) : roundOff k n ≤ 10 ^ p := by
  have hn : n < 10 ^ p * 10 ^ k := by
    rw [← Nat.pow_add]
    exact (length_le_iff (by omega)).mp h
  have hquotient : n / 10 ^ k < 10 ^ p := (Nat.div_lt_iff_lt_mul (by positivity)).mpr hn
  have hpos : 0 < 10 ^ p := by positivity
  generalize 10 ^ p = bound at hquotient hpos
  unfold roundOff
  dsimp only
  split_ifs <;> omega

/-- **Rounding** leaves a number that fits. -/
theorem fix_spec {ctx : Context} (hctx : ctx.Valid) {d f : Decimal} (h : d.fix ctx = some f)
    (hne : f.coefficient ≠ 0) :
    length f.coefficient ≤ ctx.precision ∧ ctx.etiny ≤ f.exponent ∧ f.adjusted ≤ ctx.emax := by
  obtain ⟨negative, n, e⟩ := d
  have hprecision := hctx.precision
  have hrange := hctx.range
  unfold fix at h
  dsimp only at h
  by_cases hzero : n = 0
  · rw [if_pos hzero] at h
    obtain rfl := Option.some.inj h
    exact absurd hzero hne
  · rw [if_neg hzero] at h
    by_cases hlarge : ctx.etop < e + length n - ctx.precision
    · rw [if_pos hlarge] at h
      cases h
    · rw [if_neg hlarge] at h
      generalize hleast : max (e + length n - ctx.precision : Int) ctx.etiny = least at h
      have hetop : least ≤ ctx.etop := by
        have hetiny : ctx.etiny ≤ ctx.etop := by
          unfold Context.etiny Context.etop
          omega
        omega
      have hetiny : ctx.etiny ≤ least := by omega
      unfold Context.etop at hetop
      by_cases hdrop : e < least
      · rw [if_pos hdrop] at h
        have hround := roundOff_le (k := (least - e).toNat) (n := n) hprecision (by omega)
        by_cases hcarry : ctx.precision < length (roundOff (least - e).toNat n)
        · -- the carry is a power of ten, which loses its last zero
          rw [if_pos hcarry] at h
          by_cases hover : ctx.etop < least + 1
          · rw [if_pos hover] at h
            cases h
          · rw [if_neg hover] at h
            obtain rfl := Option.some.inj h
            have hlength : length (roundOff (least - e).toNat n / 10) ≤ ctx.precision := by
              rw [length_le_iff hprecision]
              have hpow : 10 ^ ctx.precision / 10 < 10 ^ ctx.precision :=
                Nat.div_lt_self (by positivity) (by decide)
              exact lt_of_le_of_lt (Nat.div_le_div_right hround) hpow
            refine ⟨hlength, ?_, ?_⟩
            · show ctx.etiny ≤ least + 1
              omega
            · unfold Context.etop at hover
              unfold adjusted
              dsimp only
              omega
        · rw [if_neg hcarry] at h
          obtain rfl := Option.some.inj h
          refine ⟨by simpa using hcarry, hetiny, ?_⟩
          unfold adjusted
          dsimp only
          omega
      · rw [if_neg hdrop] at h
        obtain rfl := Option.some.inj h
        refine ⟨?_, ?_, ?_⟩
        · show length n ≤ ctx.precision
          omega
        · show ctx.etiny ≤ e
          omega
        · show e + length n - 1 ≤ ctx.emax
          unfold Context.etop at hlarge
          omega

/-- **Normalizing** leaves a normal number. -/
theorem normal_of_normalize {ctx : Context} (hctx : ctx.Valid) {d n : Decimal}
    (h : d.normalize ctx = some n) : n.Normal ctx := by
  unfold normalize at h
  obtain ⟨f, hfix, rfl⟩ := Option.map_eq_some_iff.mp h
  unfold strip
  by_cases hzero : f.coefficient = 0
  · rw [if_pos hzero]
    exact .inl ⟨hzero, rfl⟩
  · rw [if_neg hzero]
    obtain ⟨hlength, hetiny, hadjusted⟩ := fix_spec hctx hfix hzero
    obtain ⟨hdigit, hfirst, hle⟩ := stripZeros_spec ctx.emax hzero (le_refl _) hadjusted
    refine .inr ⟨hdigit, ?_, ?_, ?_⟩
    · dsimp only
      omega
    · dsimp only
      omega
    · unfold adjusted at hadjusted ⊢
      dsimp only
      omega

end Decimal

namespace Numeral

variable {digit : Char → Option Nat}

theorem parse_body (hreads : Decimal.ReadsDigits digit) {l : Decimal.Layout} (h : l.Valid)
    {negative : Bool} (hexact : (l.number negative).isExact = true) :
    parse digit (Decimal.signText negative ++ l.body) = some (.finite (l.number negative)) := by
  obtain ⟨c, cs, hbody, hc⟩ := h.body_eq_cons
  obtain ⟨hminus, hplus, hi, hn, hs⟩ := Decimal.isDigit_ne hc
  have hparse := Decimal.Layout.parse_body hreads h negative
  rw [if_pos hexact, hbody] at hparse
  rw [hbody]
  unfold parse
  rw [Decimal.spanSign_signText hminus hplus]
  simp only [List.map_cons, List.cons.injEq, hi, false_and, or_self, if_false,
    List.isPrefixOf, Bool.and_eq_true, beq_iff_eq, Ne.symm hn, Ne.symm hs, hparse]
  rfl

/-- **A number** is read back from its text. -/
theorem parse_text_finite (hreads : Decimal.ReadsDigits digit) {d : Decimal}
    (hexact : d.isExact = true) : parse digit d.text.toList = some (.finite d) := by
  rw [Decimal.toList_text, parse_body hreads d.valid_layout (by rwa [Decimal.number_layout]),
    Decimal.number_layout]

/-- A number in the range, an infinity or a quiet NaN. -/
structure Readable (n : Numeral) : Prop where
  finite (d : Decimal) (h : n = .finite d) : d.isExact = true
  nan (negative signaling : Bool) (payload : Nat) (h : n = .nan negative signaling payload) :
    signaling = false

theorem parse_text_infinity (negative : Bool) :
    parse digit (text (.infinity negative)).toList = some (.infinity negative) := by
  cases negative with
  | true => rfl
  | false => rfl

theorem toList_text_nan (negative : Bool) (payload : Nat) :
    (text (.nan negative false payload)).toList = Decimal.signText negative ++ 'N' :: 'a' :: 'N' ::
      if payload = 0 then [] else Nat.toDigits 10 payload := by
  unfold text Decimal.signText
  rw [String.toList_append, String.toList_append, List.append_assoc]
  have hpayload : (if payload = 0 then "" else toString payload).toList =
      if payload = 0 then [] else Nat.toDigits 10 payload := by
    split
    · rfl
    · rw [Nat.toString_eq_repr, Nat.repr_eq_ofList_toDigits, String.toList_ofList]
  rw [hpayload]
  cases negative with
  | true => rfl
  | false => rfl

theorem parse_text_nan (hreads : Decimal.ReadsDigits digit) (negative : Bool) (payload : Nat) :
    parse digit (text (.nan negative false payload)).toList =
      some (.nan negative false payload) := by
  have hspan : Decimal.spanDigits digit (if payload = 0 then [] else Nat.toDigits 10 payload) =
      ((if payload = 0 then [] else Nat.toDigits 10 payload).map fun c => c.toNat - 48, []) := by
    refine Decimal.spanDigits_digits hreads ?_
    split
    · simp
    · exact Decimal.isDigit_toDigits payload
  have hvalue : Nat.ofDigitChars 10 (if payload = 0 then [] else Nat.toDigits 10 payload) 0 =
      payload := by
    split
    · next hzero => rw [hzero, Nat.ofDigitChars_nil]
    · exact Nat.ofDigitChars_ten_toDigits
  rw [toList_text_nan]
  unfold parse
  rw [Decimal.spanSign_signText (by decide) (by decide)]
  generalize (if payload = 0 then [] else Nat.toDigits 10 payload) = digits at hspan hvalue
  have hinf : ∀ rest : List Char, List.map Char.toLower ('N' :: 'a' :: 'N' :: digits) ≠ 'i' :: rest := by
    intro rest heq
    exact absurd (List.cons.inj heq).1 (by decide)
  dsimp only
  rw [if_neg (fun h => h.elim (hinf _) (hinf _)), if_pos (by rfl)]
  dsimp only [List.drop, List.tail]
  rw [hspan]
  dsimp only
  rw [Decimal.ofDigits_map, hvalue]

/-- **A numeral** is read back from its text. -/
theorem parse_text (hreads : Decimal.ReadsDigits digit) {n : Numeral} (h : n.Readable) :
    parse digit n.text.toList = some n := by
  cases n with
  | finite d => exact parse_text_finite hreads (h.finite d rfl)
  | infinity negative => exact parse_text_infinity negative
  | nan negative signaling payload =>
    obtain rfl := h.nan negative signaling payload rfl
    exact parse_text_nan hreads negative payload

theorem text_inj (hreads : Decimal.ReadsDigits digit) {n n' : Numeral} (h : n.Readable)
    (h' : n'.Readable) (htext : n.text = n'.text) : n = n' := by
  have hparse := parse_text hreads h
  rw [htext, parse_text hreads h'] at hparse
  exact (Option.some.inj hparse).symm

end Numeral
