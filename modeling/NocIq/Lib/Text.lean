import Mathlib.Data.List.TakeWhile
import Mathlib.Data.Nat.Digits.Defs

/-!
# Text — parts of composed keys

Keys are composed of fixed text, other texts, decimal numbers and separators.

* **`delimited_inj`** — a part without the separator can be read back, and what comes after it.
* **`number_of_composed_key`** — a number that is followed by a separator can be read back.
* **`join_eq_iff`** — joined fields are equal as far as a separator tells them apart.
* **`readNumber_padded`** — a number written with a fixed number of digits can be read back.
-/

namespace Text

/-- Two texts with a separator after a part that does not contain it. Induction on the part. -/
theorem delimited_inj {sep : Char} {a b rest rest' : List Char} (ha : sep ∉ a) (hb : sep ∉ b)
    (h : a ++ sep :: rest = b ++ sep :: rest') : a = b ∧ rest = rest' := by
  induction a generalizing b with
  | nil =>
    cases b with
    | nil => exact ⟨rfl, (List.cons.inj h).2⟩
    | cons c b =>
      have hsep : sep = c := (List.cons.inj h).1
      exact absurd (hsep ▸ List.mem_cons_self) hb
  | cons c a ih =>
    cases b with
    | nil =>
      have hsep : c = sep := (List.cons.inj h).1
      exact absurd (hsep ▸ List.mem_cons_self) ha
    | cons c' b =>
      obtain ⟨hc, htail⟩ := List.cons.inj h
      obtain ⟨hab, hrest⟩ := ih (fun hmem => ha (List.mem_cons_of_mem c hmem))
        (fun hmem => hb (List.mem_cons_of_mem c' hmem)) htail
      exact ⟨by rw [hc, hab], hrest⟩

theorem toList_toString (n : Nat) : (toString n).toList = Nat.toDigits 10 n := by
  rw [Nat.toString_eq_repr, Nat.repr_eq_ofList_toDigits, String.toList_ofList]

theorem isDigit_of_mem_toString {n : Nat} {c : Char} (h : c ∈ (toString n).toList) :
    c.isDigit = true := by
  rw [toList_toString] at h
  exact Nat.isDigit_of_mem_toDigits (by decide) (by decide) h

theorem takeWhile_toString {n : Nat} {sep : Char} (hsep : sep.isDigit = false) (rest : List Char) :
    ((toString n).toList ++ sep :: rest).takeWhile Char.isDigit = (toString n).toList := by
  rw [List.takeWhile_append_of_pos fun c hc => isDigit_of_mem_toString hc]
  rw [List.takeWhile_cons_of_neg (by simp [hsep]), List.append_nil]

/-- **Reading a number back.** Two keys with the same prefix, a number, and a separator have the
same number. -/
theorem number_of_composed_key {m n : Nat} (sep : Char) (hsep : sep.isDigit = false)
    {pre : String} {a b : List Char}
    (h : pre.toList ++ ((toString m).toList ++ sep :: a)
      = pre.toList ++ ((toString n).toList ++ sep :: b)) : m = n := by
  have hdigits := congrArg (List.takeWhile Char.isDigit) (List.append_cancel_left h)
  rw [takeWhile_toString hsep, takeWhile_toString hsep, toList_toString, toList_toString]
    at hdigits
  have hvalue := congrArg (fun ds => Nat.ofDigitChars 10 ds 0) hdigits
  simpa only [Nat.ofDigitChars_toDigits (by decide : 1 < 10) (by decide : 10 ≤ 10)] using hvalue

/-! ## Joined fields -/

section Join

variable {α : Type*} [DecidableEq α]

/-- Cutting joined fields at the separator cuts each of them. Induction on the fields. -/
theorem splitOn_join (sep : α) {fields : List (List α)} (h : fields ≠ []) :
    ([sep].intercalate fields).splitOn sep = fields.flatMap fun field => field.splitOn sep := by
  induction fields with
  | nil => exact absurd rfl h
  | cons field fields ih =>
    cases fields with
    | nil => simp
    | cons next fields =>
      have hrest := ih (List.cons_ne_nil _ _)
      rw [List.flatMap_cons, List.intercalate_cons_cons, List.append_assoc,
        List.singleton_append, List.splitOn_append_cons_self, hrest]

/-- **Joined fields.** They are equal just when the fields have the same pieces, whichever of the
separators are their own. -/
theorem join_eq_iff (sep : α) {fields fields' : List (List α)} (h : fields ≠ [])
    (h' : fields' ≠ []) :
    [sep].intercalate fields = [sep].intercalate fields' ↔
      (fields.flatMap fun field => field.splitOn sep) =
        fields'.flatMap fun field => field.splitOn sep := by
  rw [← splitOn_join sep h, ← splitOn_join sep h']
  constructor
  · intro heq
    rw [heq]
  · intro heq
    have hjoin : [sep].intercalate (([sep].intercalate fields).splitOn sep) =
        [sep].intercalate fields := List.intercalate_splitOn sep
    rw [← hjoin, heq, List.intercalate_splitOn]

end Join

/-! ## Numbers of a fixed width -/

/-- The last `width` decimal digits of a number. -/
def padded : (width n : Nat) → List Char
  | 0, _ => []
  | width + 1, n => Nat.digitChar (n / 10 ^ width % 10) :: padded width n

/-- The number that the next `width` digits spell after those of `read`, and what follows. -/
def readPadded : (width read : Nat) → List Char → Option (Nat × List Char)
  | 0, read, cs => some (read, cs)
  | _ + 1, _, [] => none
  | width + 1, read, c :: cs =>
    if c.isDigit then readPadded width (read * 10 + (c.toNat - 48)) cs else none

def readNumber (width : Nat) (cs : List Char) : Option (Nat × List Char) := readPadded width 0 cs

@[simp] theorem length_padded (width n : Nat) : (padded width n).length = width := by
  induction width with
  | zero => rfl
  | succ width ih => rw [padded, List.length_cons, ih]

theorem isDigit_of_mem_padded {width n : Nat} {c : Char} (h : c ∈ padded width n) :
    c.isDigit = true := by
  induction width with
  | zero => cases h
  | succ width ih =>
    rcases List.mem_cons.mp h with rfl | h
    · rw [Nat.isDigit_digitChar]
      exact decide_eq_true (Nat.mod_lt _ (by decide))
    · exact ih h

theorem toNat_digitChar {d : Nat} (h : d < 10) : (Nat.digitChar d).toNat - 48 = d := by
  have hall : ∀ d < 10, (Nat.digitChar d).toNat - 48 = d := by decide
  exact hall d h

theorem readPadded_padded (width read n : Nat) (rest : List Char) :
    readPadded width read (padded width n ++ rest) =
      some (read * 10 ^ width + n % 10 ^ width, rest) := by
  induction width generalizing read with
  | zero => simp [padded, readPadded, Nat.mod_one]
  | succ width ih =>
    have hdigit : n / 10 ^ width % 10 < 10 := Nat.mod_lt _ (by decide)
    rw [padded, List.cons_append, readPadded, Nat.isDigit_digitChar,
      if_pos (decide_eq_true hdigit), toNat_digitChar hdigit, ih]
    congr 2
    rw [Nat.mod_pow_succ, Nat.pow_succ, Nat.add_mul, Nat.mul_assoc, Nat.mul_comm 10 (10 ^ width),
      Nat.mul_comm (10 ^ width) (n / 10 ^ width % 10)]
    omega

/-- **Reading a number of a fixed width back.** -/
theorem readNumber_padded {width n : Nat} (h : n < 10 ^ width) (rest : List Char) :
    readNumber width (padded width n ++ rest) = some (n, rest) := by
  rw [readNumber, readPadded_padded, Nat.zero_mul, Nat.zero_add, Nat.mod_eq_of_lt h]

end Text
