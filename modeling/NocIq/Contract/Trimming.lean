import NocIq.Contract.Stability
import NocIq.Lib.DecimalText

/-!
# NocIq — what `_strip_trailing_zeros` does to a number

The text of a normalized number that has a point and an exponent ends in the digits of the
exponent, so its zeros are taken off the exponent. What is left is a number again.

* **`form_of_canonicalNumeral`**, **`form_of_none`** — the canonical form of any value that is no
  list and no object.
-/

namespace NocIq.Contract

variable {φ : Type} {floats : Floats φ}

/-! ## Zeros at the end of a text -/

theorem rstrip_concat_self (c : Char) (cs : List Char) : rstrip c (cs ++ [c]) = rstrip c cs := by
  unfold rstrip
  rw [List.reverse_concat, List.dropWhile_cons_of_pos (by simp)]

variable {c : Char}

theorem rstrip_concat_of_ne {d : Char} (h : d ≠ c) (cs : List Char) :
    rstrip c (cs ++ [d]) = cs ++ [d] := by
  unfold rstrip
  rw [List.reverse_concat, List.dropWhile_cons_of_neg (by simpa using h), List.reverse_cons,
    List.reverse_reverse]

variable {cs : List Char}

/-- What is left of the second part, if anything is. Induction from the end of the second part. -/
theorem rstrip_append {ds : List Char} (h : rstrip c ds ≠ []) :
    rstrip c (cs ++ ds) = cs ++ rstrip c ds := by
  induction ds using List.reverseRecOn with
  | nil => exact absurd rfl h
  | append_singleton ds d ih =>
    rw [← List.append_assoc]
    by_cases hd : d = c
    · subst hd
      rw [rstrip_concat_self] at h ⊢
      rw [rstrip_concat_self, ih h]
    · rw [rstrip_concat_of_ne hd, rstrip_concat_of_ne hd, List.append_assoc]

def dropZeros : (fuel : Nat) → Nat → Nat
  | 0, n => n
  | fuel + 1, n => if n % 10 = 0 then dropZeros fuel (n / 10) else n

def withoutZeros (n : Nat) : Nat := dropZeros (Decimal.length n) n

theorem toDigits_concat {n : Nat} (h : 10 ≤ n) :
    Nat.toDigits 10 n = Nat.toDigits 10 (n / 10) ++ [(n % 10).digitChar] :=
  Nat.toDigits_of_base_le (by decide) h

theorem digitChar_ne_zero {n : Nat} (h : n % 10 ≠ 0) : (n % 10).digitChar ≠ '0' := by
  intro hzero
  have hvalue := Nat.toNat_digitChar_sub_48_of_lt_ten (Nat.mod_lt n (by decide : 10 > 0))
  rw [hzero] at hvalue
  exact h hvalue.symm

theorem toDigits_eq_concat {n : Nat} (h : n % 10 ≠ 0) :
    ∃ cs d, Nat.toDigits 10 n = cs ++ [d] ∧ d ≠ '0' ∧ d.isDigit = true := by
  have hdigit : ((n % 10).digitChar).isDigit = true := by
    have hlt : n % 10 < 10 := Nat.mod_lt n (by decide)
    have hmem := Decimal.isDigit_toDigits (n % 10) (n % 10).digitChar
    rw [Nat.toDigits_of_lt_base hlt] at hmem
    exact hmem List.mem_cons_self
  by_cases hsmall : n < 10
  · rw [Nat.toDigits_of_lt_base hsmall]
    rw [Nat.mod_eq_of_lt hsmall] at h hdigit
    refine ⟨[], n.digitChar, rfl, ?_, hdigit⟩
    have hne := digitChar_ne_zero (n := n) (by omega)
    rwa [Nat.mod_eq_of_lt hsmall] at hne
  · rw [toDigits_concat (by omega)]
    exact ⟨_, _, rfl, digitChar_ne_zero h, hdigit⟩

theorem rstrip_toDigits_of_ne {n : Nat} (h : n % 10 ≠ 0) :
    rstrip '0' (Nat.toDigits 10 n) = Nat.toDigits 10 n := by
  obtain ⟨cs, d, hdigits, hd, -⟩ := toDigits_eq_concat h
  rw [hdigits, rstrip_concat_of_ne hd]

/-- **The zeros at the end** of the digits are those of the number. Induction on the fuel. -/
theorem rstrip_toDigits {fuel n : Nat} (hne : n ≠ 0) (hfuel : Decimal.length n ≤ fuel) :
    rstrip '0' (Nat.toDigits 10 n) = Nat.toDigits 10 (dropZeros fuel n) ∧
      dropZeros fuel n % 10 ≠ 0 ∧ dropZeros fuel n ≤ n := by
  induction fuel generalizing n with
  | zero =>
    have hpos : 1 ≤ Decimal.length n := Nat.le_add_left 1 _
    omega
  | succ fuel ih =>
    rw [dropZeros]
    by_cases hzero : n % 10 = 0
    · have hlength := Decimal.length_div_ten hne hzero
      obtain ⟨hdigits, hend, hle⟩ := ih (n := n / 10) (by omega) (by omega)
      rw [if_pos hzero, toDigits_concat (by omega), hzero]
      refine ⟨?_, hend, by omega⟩
      rw [show (0 : Nat).digitChar = '0' from rfl, rstrip_concat_self, hdigits]
    · rw [if_neg hzero]
      exact ⟨rstrip_toDigits_of_ne hzero, hzero, le_refl n⟩

theorem withoutZeros_spec {n : Nat} (hne : n ≠ 0) :
    rstrip '0' (Nat.toDigits 10 n) = Nat.toDigits 10 (withoutZeros n) ∧
      withoutZeros n % 10 ≠ 0 ∧ withoutZeros n ≤ n :=
  rstrip_toDigits hne (le_refl _)

theorem withoutZeros_of_ne {n : Nat} (h : n % 10 ≠ 0) : withoutZeros n = n := by
  have hlength : Decimal.length n = Nat.log 10 n + 1 := rfl
  unfold withoutZeros
  rw [hlength, dropZeros, if_neg h]

/-! ## The exponent that is left -/

def cutInt (x : Int) : Int := if x < 0 then -(withoutZeros x.natAbs) else withoutZeros x.natAbs

theorem cutInt_spec {x : Int} (hne : x ≠ 0) :
    (cutInt x < 0 ↔ x < 0) ∧ (cutInt x).natAbs = withoutZeros x.natAbs ∧
      (cutInt x).natAbs % 10 ≠ 0 ∧ (cutInt x).natAbs ≤ x.natAbs := by
  obtain ⟨-, hend, hle⟩ := withoutZeros_spec (n := x.natAbs) (by omega)
  unfold cutInt
  by_cases hneg : x < 0
  · rw [if_pos hneg]
    refine ⟨by omega, by omega, by omega, by omega⟩
  · rw [if_neg hneg]
    refine ⟨by omega, by omega, by omega, by omega⟩

theorem cutInt_of_ne {x : Int} (h : x.natAbs % 10 ≠ 0) : cutInt x = x := by
  unfold cutInt
  rw [withoutZeros_of_ne h]
  split <;> omega

theorem cutInt_cutInt {x : Int} (hne : x ≠ 0) : cutInt (cutInt x) = cutInt x :=
  cutInt_of_ne (cutInt_spec hne).2.2.1

/-- What `_strip_trailing_zeros` makes of the text of a number, as a number. -/
def cutExponent (d : Decimal) : Decimal :=
  if d.isPlain = true ∨ Decimal.length d.coefficient ≤ 1 then d
  else { d with exponent := cutInt d.adjusted - (Decimal.length d.coefficient - 1) }

/-- The parts of the text that is left. -/
def cutLayout (l : Decimal.Layout) : Decimal.Layout :=
  match l.fraction with
  | none => l
  | some _ => { l with exponent := l.exponent.map cutInt }

theorem number_cutLayout (d : Decimal) :
    (cutLayout d.layout).number d.negative = cutExponent d := by
  have hnumber := d.number_layout
  have hlength := Decimal.length_toDigits d.coefficient
  unfold cutLayout cutExponent
  unfold Decimal.layout at hnumber ⊢
  dsimp only at hnumber ⊢
  by_cases hplain : d.isPlain = true
  · rw [if_pos hplain] at hnumber ⊢
    rw [if_pos (Or.inl hplain)]
    refine Eq.trans ?_ hnumber
    split
    · rfl
    · next fraction hfraction => split_ifs <;> rfl
  · rw [if_neg hplain] at hnumber ⊢
    by_cases hone : Decimal.length d.coefficient ≤ 1
    · rw [if_pos (by omega)] at hnumber ⊢
      rw [if_pos (Or.inr hone)]
      exact hnumber
    · rw [if_neg (by omega)] at hnumber ⊢
      rw [if_neg fun h => h.elim hplain hone]
      have hcoefficient := congrArg Decimal.coefficient hnumber
      simp only [Decimal.Layout.number, Decimal.Layout.digits, Option.getD_some, Option.map_some,
        List.length_drop, hlength] at hcoefficient ⊢
      rw [hcoefficient, Nat.cast_sub (by omega)]
      rfl

variable {d : Decimal}

theorem layout_cases {ctx : Decimal.Context} (h : d.Normal ctx) :
    d.layout.fraction = none ∨
      (∃ cs c, d.layout.fraction = some (cs ++ [c]) ∧ c ≠ '0' ∧ c.isDigit = true ∧
        d.layout.exponent = none) ∨
      ∃ fraction, d.layout.fraction = some fraction ∧ d.layout.exponent = some d.adjusted ∧
        d.adjusted ≠ 0 := by
  have hpos : 1 ≤ Decimal.length d.coefficient := Nat.le_add_left 1 _
  have hlength := Decimal.length_toDigits d.coefficient
  unfold Decimal.layout
  dsimp only
  by_cases hplain : d.isPlain = true
  · have hexponent : d.exponent ≤ 0 ∧ -6 < d.exponent + Decimal.length d.coefficient :=
      of_decide_eq_true hplain
    rw [if_pos hplain]
    by_cases hzero : d.exponent = 0
    · rw [if_neg (by omega), if_pos hzero]
      exact .inl rfl
    · have hend : d.coefficient % 10 ≠ 0 := h.elim (fun h => absurd h.2 hzero) And.left
      obtain ⟨cs, c, hdigits, hc, hisDigit⟩ := toDigits_eq_concat hend
      right
      left
      by_cases hleft : d.exponent + Decimal.length d.coefficient ≤ 0
      · -- all digits are after the point, behind zeros
        rw [if_pos hleft]
        refine ⟨List.replicate (-(d.exponent + Decimal.length d.coefficient)).toNat '0' ++ cs, c, ?_,
          hc, hisDigit, rfl⟩
        rw [hdigits, List.append_assoc]
      · rw [if_neg hleft, if_neg hzero]
        refine ⟨cs.drop (d.exponent + Decimal.length d.coefficient).toNat, c, ?_, hc, hisDigit, rfl⟩
        rw [hdigits, List.length_append, List.length_singleton] at hlength
        rw [hdigits, List.drop_append_of_le_length (by omega)]
  · rw [if_neg hplain]
    by_cases hone : Decimal.length d.coefficient ≤ 1
    · rw [if_pos (by omega)]
      exact .inl rfl
    · rw [if_neg (by omega)]
      refine .inr (.inr ⟨_, rfl, rfl, ?_⟩)
      intro hzero
      refine hplain (decide_eq_true ?_)
      unfold Decimal.adjusted at hzero
      omega

theorem not_mem_signText (negative : Bool) (h : c ≠ '-') : c ∉ Decimal.signText negative := by
  unfold Decimal.signText
  cases negative with
  | true => simpa using h
  | false => simp

theorem mem_exponentText {exponent : Option Int} (h : c ∈ Decimal.exponentText exponent) :
    c.isDigit = true ∨ c = 'E' ∨ c = '-' ∨ c = '+' := by
  cases exponent with
  | none => cases h
  | some x =>
    obtain rfl | hc := List.mem_cons.mp h
    · exact .inr (.inl rfl)
    · obtain rfl | hc := List.mem_cons.mp hc
      · split
        · exact .inr (.inr (.inl rfl))
        · exact .inr (.inr (.inr rfl))
      · exact .inl (Decimal.isDigit_toDigits _ _ hc)

theorem point_not_mem_exponentText (exponent : Option Int) :
    '.' ∉ Decimal.exponentText exponent := by
  intro h
  have hcases := mem_exponentText h
  revert hcases
  decide

/-- **`_strip_trailing_zeros`** of the text of a normal number. -/
theorem stripTrailingZeros_text {ctx : Decimal.Context} (h : d.Normal ctx) :
    stripTrailingZeros d.text =
      String.ofList (Decimal.signText d.negative ++ (cutLayout d.layout).body) := by
  have hvalid := d.valid_layout
  have htext := d.toList_text
  unfold stripTrailingZeros cutLayout
  obtain hnone | ⟨cs, c, hsome, hc, hisDigit, hexponent⟩ | ⟨fraction, hsome, hexponent, hne⟩ :=
    layout_cases h
  · -- without a point nothing is taken off
    have hpoint : '.' ∉ d.text.toList := by
      rw [htext]
      unfold Decimal.Layout.body
      rw [hnone]
      intro hmem
      rcases List.mem_append.mp hmem with hsign | hmem
      · exact not_mem_signText _ (by decide) hsign
      · rcases List.mem_append.mp hmem with hwhole | hmem
        · exact absurd (hvalid.whole_isDigit _ hwhole) (by decide)
        · exact point_not_mem_exponentText _ hmem
    rw [if_neg hpoint, hnone, ← htext, String.ofList_toList]
  · -- the last digit of the fraction is not a zero
    have hbody : d.text.toList =
        (Decimal.signText d.negative ++ (d.layout.whole ++ '.' :: cs)) ++ [c] := by
      rw [htext]
      unfold Decimal.Layout.body
      rw [hsome, hexponent]
      simp [Decimal.Layout.pointText, Decimal.exponentText]
    have hpoint : c ≠ '.' := by
      rintro rfl
      exact absurd hisDigit (by decide)
    rw [if_pos (by rw [hbody]; simp), hbody, rstrip_concat_of_ne hc, rstrip_concat_of_ne hpoint,
      ← hbody, htext, hsome]
    dsimp only
    rw [hexponent, Option.map_none]
    unfold Decimal.Layout.body
    rw [hsome, hexponent]
  · -- the zeros at the end are those of the exponent
    obtain ⟨hsign, habs, hend, -⟩ := cutInt_spec hne
    have hbody : d.text.toList =
        (Decimal.signText d.negative ++ (d.layout.whole ++ '.' :: fraction ++
          ['E', if d.adjusted < 0 then '-' else '+'])) ++ Nat.toDigits 10 d.adjusted.natAbs := by
      rw [htext]
      unfold Decimal.Layout.body
      rw [hsome, hexponent]
      simp [Decimal.Layout.pointText, Decimal.exponentText]
    obtain ⟨hdigits, -, -⟩ := withoutZeros_spec (n := d.adjusted.natAbs) (by omega)
    obtain ⟨cs, c, hlast, -, hisDigit⟩ := toDigits_eq_concat (habs ▸ hend)
    have hpoint : c ≠ '.' := by
      rintro rfl
      exact absurd hisDigit (by decide)
    rw [if_pos (by rw [hbody]; simp), hbody,
      rstrip_append (by rw [hdigits]; exact Nat.toDigits_ne_nil), hdigits, hlast,
      ← List.append_assoc, rstrip_concat_of_ne hpoint, List.append_assoc, ← hlast, hsome]
    unfold Decimal.Layout.body
    dsimp only
    rw [hexponent]
    simp [Decimal.Layout.pointText, Decimal.exponentText, hsign, habs]

variable {l : Decimal.Layout}

theorem valid_cutLayout (h : l.Valid) : (cutLayout l).Valid := by
  unfold cutLayout
  split
  · exact h
  · exact ⟨h.isDigit, h.whole⟩

/-! ## Reading it back -/

theorem readsDigits : Decimal.ReadsDigits digitValue where
  isDigit c h := by
    have hrange : 48 ≤ c.toNat ∧ c.toNat < 48 + 10 := by
      simp only [Char.isDigit, Bool.and_eq_true, decide_eq_true_eq, ge_iff_le,
        UInt32.le_iff_toNat_le] at h
      have hlow : '0'.val.toNat = 48 := rfl
      have hhigh : '9'.val.toNat = 57 := rfl
      show 48 ≤ c.val.toNat ∧ c.val.toNat < 48 + 10
      omega
    unfold digitValue digitZeros
    rw [List.find?_cons_of_pos (by exact decide_eq_true hrange)]
    rfl
  point := by decide
  mark := by decide

/-- What `Decimal` removes before it reads a text. -/
def IsClean (cs : List Char) : Prop := ∀ c ∈ cs, isWhitespace c = false ∧ c ≠ '_'

theorem dropWhile_clean (h : IsClean cs) : cs.dropWhile isWhitespace = cs := by
  cases cs with
  | nil => rfl
  | cons c cs => exact List.dropWhile_cons_of_neg (by simp [(h c List.mem_cons_self).1])

theorem toDecimal_clean {text : String} (h : IsClean text.toList) :
    toDecimal text = Numeral.parse digitValue text.toList := by
  have hreverse : IsClean text.toList.reverse := fun c hc => h c (List.mem_reverse.mp hc)
  unfold toDecimal strip
  rw [dropWhile_clean h, dropWhile_clean hreverse, List.reverse_reverse, String.ofList_toList,
    List.filter_eq_self.mpr fun c hc => decide_eq_true (h c hc).2]

theorem clean_of_isDigit (h : c.isDigit = true) : isWhitespace c = false ∧ c ≠ '_' := by
  constructor
  · simp only [Char.isDigit, Bool.and_eq_true, decide_eq_true_eq, ge_iff_le,
      UInt32.le_iff_toNat_le] at h
    have hlow : '0'.val.toNat = 48 := rfl
    have hhigh : '9'.val.toNat = 57 := rfl
    have hval : c.toNat = c.val.toNat := rfl
    unfold isWhitespace
    dsimp only
    rw [Bool.or_eq_false_iff, decide_eq_false_iff_not, decide_eq_false_iff_not]
    simp only [List.mem_cons, List.not_mem_nil, or_false]
    omega
  · rintro rfl
    exact absurd h (by decide)

theorem IsClean.of_all (h : cs.all (fun c => !isWhitespace c && c != '_') = true) : IsClean cs := by
  intro c hc
  have hclean := List.all_eq_true.mp h c hc
  rw [Bool.and_eq_true, Bool.not_eq_true', bne_iff_ne] at hclean
  exact hclean

theorem clean_signText (negative : Bool) : IsClean (Decimal.signText negative) := by
  apply IsClean.of_all
  cases negative with
  | true => decide
  | false => decide

theorem IsClean.append {ds : List Char} (h : IsClean cs) (h' : IsClean ds) : IsClean (cs ++ ds) :=
  fun c hc => (List.mem_append.mp hc).elim (h c) (h' c)

theorem clean_body (h : l.Valid) : IsClean l.body := by
  unfold Decimal.Layout.body
  refine IsClean.append (fun c hc => clean_of_isDigit (h.whole_isDigit c hc))
    (IsClean.append ?_ ?_)
  · have hfraction := h.fraction_isDigit
    cases hsome : l.fraction with
    | none => exact fun c hc => nomatch hc
    | some fraction =>
      rw [hsome] at hfraction
      intro c hc
      obtain rfl | hc := List.mem_cons.mp hc
      · decide
      · exact clean_of_isDigit (hfraction c hc)
  · intro c hc
    obtain hisDigit | rfl | rfl | rfl := mem_exponentText hc
    · exact clean_of_isDigit hisDigit
    · decide
    · decide
    · decide

theorem clean_text (n : Numeral) (h : n.Readable) : IsClean n.text.toList := by
  cases n with
  | finite d =>
    show IsClean d.text.toList
    rw [d.toList_text]
    exact (clean_signText _).append (clean_body d.valid_layout)
  | infinity negative =>
    apply IsClean.of_all
    cases negative with
    | true => decide
    | false => decide
  | nan negative signaling payload =>
    obtain rfl := h.nan negative signaling payload rfl
    rw [Numeral.toList_text_nan]
    refine (clean_signText _).append ?_
    intro c hc
    simp only [List.mem_cons] at hc
    obtain rfl | rfl | rfl | hc := hc
    · decide
    · decide
    · decide
    · split at hc
      · cases hc
      · exact clean_of_isDigit (Decimal.isDigit_toDigits payload c hc)

variable {n : Numeral}

/-- **A numeral's text** is read back. -/
theorem toDecimal_text (h : n.Readable) : toDecimal n.text = some n := by
  rw [toDecimal_clean (clean_text n h)]
  exact Numeral.parse_text readsDigits h

/-! ## Normalized numerals -/

theorem decimalContext_valid : decimalContext.Valid where
  precision := by decide
  range := by decide

/-- What `Decimal.normalize` leaves. -/
def NormalNumeral : Numeral → Prop
  | .finite d => d.Normal decimalContext
  | .infinity _ => True
  | .nan _ signaling payload => signaling = false ∧ payload < 10 ^ decimalContext.precision

theorem normalNumeral_of_normalize {m : Numeral} (h : n.normalize decimalContext = some m) :
    NormalNumeral m := by
  cases n with
  | finite d =>
    obtain ⟨f, hf, rfl⟩ := Option.map_eq_some_iff.mp h
    exact Decimal.normal_of_normalize decimalContext_valid hf
  | infinity negative =>
    obtain rfl := Option.some.inj h
    trivial
  | nan negative signaling payload =>
    cases signaling with
    | true => cases h
    | false =>
      obtain rfl := Option.some.inj h
      exact ⟨rfl, Nat.mod_lt _ (by decide)⟩

theorem normalize_of_normalNumeral (h : NormalNumeral n) : n.normalize decimalContext = some n := by
  cases n with
  | finite d =>
    show (d.normalize decimalContext).map Numeral.finite = _
    rw [Decimal.normalize_of_normal h]
    rfl
  | infinity negative => rfl
  | nan negative signaling payload =>
    obtain ⟨rfl, hpayload⟩ := h
    show some (Numeral.nan negative false (payload % 10 ^ decimalContext.precision)) = _
    rw [Nat.mod_eq_of_lt hpayload]

theorem isExact_of_normal (h : d.Normal decimalContext) : d.isExact = true := by
  refine decide_eq_true ?_
  obtain ⟨hzero, hexponent⟩ | ⟨hend, hlength, hetiny, hadjusted⟩ := h
  · rw [if_pos hzero, hexponent]
    decide
  · have hne : d.coefficient ≠ 0 := by omega
    have hetinyValue : decimalContext.etiny = -1000026 := rfl
    have hemax : decimalContext.emax = 999999 := rfl
    rw [if_neg hne]
    omega

theorem readable_of_normal (h : NormalNumeral n) : n.Readable where
  finite d hn := isExact_of_normal (by subst hn; exact h)
  nan negative signaling payload hn := by
    subst hn
    exact h.1

/-- What is read after `_strip_trailing_zeros`. -/
def cut : Numeral → Numeral
  | .finite d => .finite (cutExponent d)
  | n => n

theorem cutExponent_of_plain (h : d.isPlain = true ∨ Decimal.length d.coefficient ≤ 1) :
    cutExponent d = d :=
  if_pos h

theorem adjusted_mk (negative : Bool) (n : Nat) (x : Int) :
    Decimal.adjusted ⟨negative, n, x - (Decimal.length n - 1)⟩ = x := by
  unfold Decimal.adjusted
  dsimp only
  omega

theorem normal_cutExponent (h : d.Normal decimalContext) :
    (cutExponent d).Normal decimalContext := by
  by_cases hkept : d.isPlain = true ∨ Decimal.length d.coefficient ≤ 1
  · rw [cutExponent_of_plain hkept]
    exact h
  · have hplain : d.isPlain = false := by simpa using fun h => hkept (.inl h)
    obtain ⟨hzero, -⟩ | ⟨hend, hlength, hetiny, hadjusted⟩ := h
    · exact absurd (.inr (by rw [hzero]; decide)) hkept
    · unfold cutExponent
      rw [if_neg hkept]
      have hetinyValue : decimalContext.etiny = -1000026 := rfl
      have hemax : decimalContext.emax = 999999 := rfl
      have hprecision : decimalContext.precision = 28 := rfl
      have hexponent : d.exponent = d.adjusted - (Decimal.length d.coefficient - 1) := by
        unfold Decimal.adjusted
        omega
      have hcut : (cutInt d.adjusted < 0 ↔ d.adjusted < 0) ∧
          (cutInt d.adjusted).natAbs ≤ d.adjusted.natAbs := by
        by_cases hx : d.adjusted = 0
        · rw [hx]
          decide
        · obtain ⟨hsign, -, -, hle⟩ := cutInt_spec hx
          exact ⟨hsign, hle⟩
      refine .inr ⟨hend, hlength, ?_, ?_⟩
      · dsimp only
        omega
      · rw [adjusted_mk]
        omega

theorem cutLayout_of_plain (h : d.isPlain = true ∨ Decimal.length d.coefficient ≤ 1) :
    cutLayout d.layout = d.layout := by
  have hlength := Decimal.length_toDigits d.coefficient
  unfold Decimal.layout
  dsimp only
  by_cases hplain : d.isPlain = true
  · rw [if_pos hplain]
    split_ifs <;> rfl
  · have hone := h.resolve_left hplain
    rw [if_neg hplain, if_pos (by omega)]
    rfl

theorem cutLayout_of_map_eq (h : l.exponent.map cutInt = l.exponent) : cutLayout l = l := by
  unfold cutLayout
  rw [h]
  split <;> rfl

theorem cutLayout_cutExponent (h : d.Normal decimalContext) :
    cutLayout (cutExponent d).layout = (cutExponent d).layout := by
  by_cases hkept : d.isPlain = true ∨ Decimal.length d.coefficient ≤ 1
  · rw [cutExponent_of_plain hkept]
    exact cutLayout_of_plain hkept
  · have hadjusted : (cutExponent d).adjusted = cutInt d.adjusted := by
      unfold cutExponent
      rw [if_neg hkept]
      exact adjusted_mk _ _ _
    have hne : d.adjusted ≠ 0 := by
      intro hzero
      refine hkept (.inl (decide_eq_true ?_))
      have hpos : 1 ≤ Decimal.length d.coefficient := Nat.le_add_left 1 _
      unfold Decimal.adjusted at hzero
      omega
    generalize hcut : cutExponent d = n at hadjusted
    obtain hnone | ⟨_, _, hsome, -, -, hexponent⟩ | ⟨fraction, hsome, hexponent, -⟩ :=
      layout_cases (hcut ▸ normal_cutExponent h)
    · unfold cutLayout
      rw [hnone]
    · exact cutLayout_of_map_eq (by rw [hexponent, Option.map_none])
    · refine cutLayout_of_map_eq ?_
      rw [hexponent, Option.map_some, hadjusted, cutInt_cutInt hne]

theorem stripTrailingZeros_of_not_mem {text : String} (h : '.' ∉ text.toList) :
    stripTrailingZeros text = text :=
  if_neg h

theorem point_not_mem_infinity (negative : Bool) :
    '.' ∉ (Numeral.text (.infinity negative)).toList := by
  cases negative with
  | true => decide
  | false => decide

theorem point_not_mem_nan (negative : Bool) (payload : Nat) :
    '.' ∉ (Numeral.text (.nan negative false payload)).toList := by
  rw [Numeral.toList_text_nan]
  intro hmem
  rcases List.mem_append.mp hmem with hsign | hmem
  · exact not_mem_signText negative (by decide) hsign
  · have hdigit : '.' ∈ (if payload = 0 then [] else Nat.toDigits 10 payload) := by
      simpa using hmem
    split at hdigit
    · cases hdigit
    · exact absurd (Decimal.isDigit_toDigits payload _ hdigit) (by decide)

theorem normalNumeral_cut (h : NormalNumeral n) : NormalNumeral (cut n) := by
  cases n with
  | finite d => exact normal_cutExponent h
  | infinity | nan => exact h

/-- **What `_strip_trailing_zeros` leaves** is read as the numeral with the zeros of its exponent
cut off. -/
theorem toDecimal_stripTrailingZeros (h : NormalNumeral n) :
    toDecimal (stripTrailingZeros n.text) = some (cut n) := by
  cases n with
  | finite d =>
    have hvalid := valid_cutLayout d.valid_layout
    have hclean : IsClean (Decimal.signText d.negative ++ (cutLayout d.layout).body) :=
      (clean_signText _).append (clean_body hvalid)
    have hexact := isExact_of_normal (normal_cutExponent h)
    show toDecimal (stripTrailingZeros d.text) = _
    rw [stripTrailingZeros_text h, toDecimal_clean (by rwa [String.toList_ofList]),
      String.toList_ofList, Numeral.parse_body readsDigits hvalid (by rwa [number_cutLayout]),
      number_cutLayout]
    rfl
  | infinity negative =>
    rw [stripTrailingZeros_of_not_mem (point_not_mem_infinity negative)]
    exact toDecimal_text (readable_of_normal h)
  | nan negative signaling payload =>
    obtain rfl := h.1
    rw [stripTrailingZeros_of_not_mem (point_not_mem_nan negative payload)]
    exact toDecimal_text (readable_of_normal h)

theorem stripTrailingZeros_cut (h : NormalNumeral n) :
    stripTrailingZeros (cut n).text = (cut n).text := by
  cases n with
  | finite d =>
    show stripTrailingZeros (cutExponent d).text = (cutExponent d).text
    rw [stripTrailingZeros_text (normal_cutExponent h), cutLayout_cutExponent h,
      ← Decimal.toList_text, String.ofList_toList]
  | infinity negative => exact stripTrailingZeros_of_not_mem (point_not_mem_infinity negative)
  | nan negative signaling payload =>
    obtain rfl := h.1
    exact stripTrailingZeros_of_not_mem (point_not_mem_nan negative payload)

/-! ## Canonical forms -/

/-- The numeral of a string or of the text of a finite float. -/
def numeralOf (floats : Floats φ) : Value φ → Option Numeral
  | .str text => toDecimal text
  | .float x => if floats.isFinite x then toDecimal (floats.str x) else none
  | .null | .bool _ | .int _ | .arr _ | .obj _ => none

/-- The numeral that a string or a float becomes: rounded, without the zeros at its end, and
without those of its exponent if it is written with a point. -/
def canonicalNumeral (floats : Floats φ) (v : Value φ) : Option Numeral :=
  ((numeralOf floats v).bind (Numeral.normalize decimalContext)).map cut

theorem normalizeText_of_bind {text : String}
    (h : (toDecimal text).bind (Numeral.normalize decimalContext) = some n) :
    normalizeText text = some (stripTrailingZeros n.text) := by
  unfold normalizeText
  rw [h]
  rfl

theorem normalNumeral_of_bind {numeral : Option Numeral}
    (h : numeral.bind (Numeral.normalize decimalContext) = some n) : NormalNumeral n := by
  obtain ⟨m, -, hm⟩ := Option.bind_eq_some_iff.mp h
  exact normalNumeral_of_normalize hm

variable {v : Value φ}

theorem normalNumeral_of_canonicalNumeral (h : canonicalNumeral floats v = some n) :
    NormalNumeral n := by
  obtain ⟨m, hm, rfl⟩ := Option.map_eq_some_iff.mp h
  exact normalNumeral_cut (normalNumeral_of_bind hm)

theorem normalizeText_stripTrailingZeros (h : NormalNumeral n) :
    normalizeText (stripTrailingZeros n.text) = some (cut n).text := by
  rw [normalizeText_of_bind (n := cut n), stripTrailingZeros_cut h]
  rw [toDecimal_stripTrailingZeros h, Option.bind_some]
  exact normalize_of_normalNumeral (normalNumeral_cut h)

theorem normalizeNumeric_of_bind
    (h : (numeralOf floats v).bind (Numeral.normalize decimalContext) = some n) :
    normalizeNumeric floats v = .str (stripTrailingZeros n.text) := by
  cases v with
  | str text =>
    show Value.str ((normalizeText text).getD text) = _
    rw [normalizeText_of_bind h]
    rfl
  | float x =>
    rw [numeralOf] at h
    unfold normalizeNumeric
    by_cases hfinite : floats.isFinite x = true
    · rw [if_pos hfinite] at h
      dsimp only
      rw [if_pos hfinite, normalizeText_of_bind h]
    · rw [if_neg hfinite] at h
      cases h
  | null | bool | int | arr | obj => cases h

theorem isLeaf_of_canonicalNumeral (h : canonicalNumeral floats v = some n) : v.isLeaf = true := by
  cases v with
  | arr | obj => cases h
  | null | bool | int | float | str => rfl

/-- **The canonical form** of a numeral is its text. -/
theorem form_of_canonicalNumeral (h : canonicalNumeral floats v = some n) :
    form floats v = .str n.text := by
  rw [form_leaf (isLeaf_of_canonicalNumeral h)]
  obtain ⟨m, hm, rfl⟩ := Option.map_eq_some_iff.mp h
  rw [normalizeNumeric_of_bind hm]
  show Value.str ((normalizeText (stripTrailingZeros m.text)).getD _) = _
  rw [normalizeText_stripTrailingZeros (normalNumeral_of_bind hm)]
  rfl

theorem canonicalNumeral_finite {x : φ} (hfinite : floats.isFinite x = true) :
    (canonicalNumeral floats (.float x)).isSome = true := by
  obtain ⟨d, hd, hsome⟩ := floats.str_finite x hfinite
  obtain ⟨n, hn⟩ := Option.isSome_iff_exists.mp hsome
  unfold canonicalNumeral numeralOf
  dsimp only
  rw [if_pos hfinite, hd, Option.bind_some]
  show (((d.normalize decimalContext).map Numeral.finite).map cut).isSome = true
  rw [hn]
  rfl

/-- **Any other value** that is no list and no object stays. -/
theorem form_of_none (hleaf : v.isLeaf = true) (h : canonicalNumeral floats v = none) :
    form floats v = v := by
  have hkept : normalizeNumeric floats v = v := by
    cases v with
    | str text =>
      have hnone : normalizeText text = none := by
        unfold normalizeText
        exact Option.map_eq_none_iff.mpr (Option.map_eq_none_iff.mp h)
      show Value.str ((normalizeText text).getD text) = _
      rw [hnone]
      rfl
    | float x =>
      have hfinite : ¬ floats.isFinite x = true := by
        intro hfinite
        have hsome := canonicalNumeral_finite hfinite
        rw [h] at hsome
        cases hsome
      unfold normalizeNumeric
      dsimp only
      rw [if_neg hfinite]
    | null | bool | int => rfl
    | arr | obj => cases hleaf
  rw [form_leaf hleaf, hkept, hkept]

theorem canonicalNumeral_text (h : canonicalNumeral floats v = some n) :
    canonicalNumeral floats (.str n.text) = some (cut n) := by
  have hnormal := normalNumeral_of_canonicalNumeral h
  unfold canonicalNumeral numeralOf
  dsimp only
  rw [toDecimal_text (readable_of_normal hnormal), Option.bind_some,
    normalize_of_normalNumeral hnormal]
  rfl

end NocIq.Contract
