import Mathlib.Data.List.DropRight
import NocIq.Lib.Text

/-!
# Integer text — how an integer is read

`read` takes blanks at both ends, a sign, and decimal digits of which any two may have an underscore
between them, as the numerals of several languages do. What a blank is, and how many digits are read
at most, are parameters.

* **`read_toString`** — the decimal digits of a number are read as the number.
-/

namespace IntegerText

/-- The digits, without the underscores between two of them. -/
def readDigits : List Char → Option (List Char)
  | [] => none
  | [c] => if c.isDigit then some [c] else none
  | c :: '_' :: text => if c.isDigit then (readDigits text).map (c :: ·) else none
  | c :: d :: text => if c.isDigit then (readDigits (d :: text)).map (c :: ·) else none

def strip (isBlank : Char → Bool) (text : List Char) : List Char :=
  (text.dropWhile isBlank).rdropWhile isBlank

def readSign : List Char → Int × List Char
  | '-' :: text => (-1, text)
  | '+' :: text => (1, text)
  | text => (1, text)

def read (isBlank : Char → Bool) (maxDigits : ℕ) (text : List Char) : Option Int :=
  let (sign, text) := readSign (strip isBlank text)
  (readDigits text).bind fun digits =>
    if digits.length ≤ maxDigits then some (sign * Nat.ofDigitChars 10 digits 0) else none

/-! ## Digits only -/

theorem ne_underscore {c : Char} (h : c.isDigit = true) : c ≠ '_' := by
  rintro rfl
  cases h

theorem readDigits_eq {text : List Char} (hne : text ≠ []) (h : ∀ c ∈ text, c.isDigit = true) :
    readDigits text = some text := by
  induction text with
  | nil => exact absurd rfl hne
  | cons c text ih =>
    obtain ⟨hc, htext⟩ := List.forall_mem_cons.mp h
    cases text with
    | nil => exact if_pos hc
    | cons d text =>
      have hd : d ≠ '_' := ne_underscore (List.forall_mem_cons.mp htext).1
      rw [readDigits, if_pos hc, ih (List.cons_ne_nil _ _) htext, Option.map_some]
      exact fun hunderscore => absurd hunderscore hd

theorem strip_eq {isBlank : Char → Bool} {text : List Char} (h : ∀ c ∈ text, isBlank c = false) :
    strip isBlank text = text := by
  have hleft : text.dropWhile isBlank = text :=
    List.dropWhile_eq_self_iff.mpr fun hpos => by
      rw [h _ (List.getElem_mem hpos)]
      exact Bool.false_ne_true
  rw [strip, hleft]
  exact List.rdropWhile_eq_self_iff.mpr fun hne => by
    rw [h _ (List.getLast_mem hne)]
    exact Bool.false_ne_true

theorem readSign_eq {text : List Char} (h : ∀ c ∈ text, c.isDigit = true) :
    readSign text = (1, text) := by
  unfold readSign
  split
  · exact absurd (h '-' List.mem_cons_self) (by decide)
  · exact absurd (h '+' List.mem_cons_self) (by decide)
  · rfl

/-- **Decimal digits** are read as their number. -/
theorem read_toString {isBlank : Char → Bool} {maxDigits n : ℕ}
    (hblank : ∀ c : Char, c.isDigit = true → isBlank c = false)
    (hlength : (toString n).toList.length ≤ maxDigits) :
    read isBlank maxDigits (toString n).toList = some (n : Int) := by
  have hdigits : ∀ c ∈ (toString n).toList, c.isDigit = true :=
    fun c hc => Text.isDigit_of_mem_toString hc
  have hne : (toString n).toList ≠ [] := by
    rw [Text.toList_toString]
    exact Nat.toDigits_ne_nil
  unfold read
  rw [strip_eq fun c hc => hblank c (hdigits c hc), readSign_eq hdigits]
  dsimp only
  rw [readDigits_eq hne hdigits, Option.bind_some, if_pos hlength, one_mul, Text.toList_toString,
    Nat.ofDigitChars_ten_toDigits]

end IntegerText
