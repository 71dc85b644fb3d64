import Mathlib.Algebra.Group.Nat.Defs
import Mathlib.Data.List.Basic

/-!
# Uuid — the texts of UUIDs

A UUID is a number of 128 bits. `text` is its canonical text, 32 hexadecimal digits in five groups;
`parse` also takes upper case, a `urn:` or `uuid:` prefix, braces, and hyphens anywhere.

* **`value_digits`** — the digits of a number read back.
* **`parse_text`** — the text of a UUID reads back.
-/

namespace Uuid

/-! ## Hexadecimal digits -/

def hexDigit (n : Nat) : Char := if n < 10 then Char.ofNat (48 + n) else Char.ofNat (87 + n)

def hexValue (c : Char) : Option Nat :=
  if '0' ≤ c ∧ c ≤ '9' then some (c.toNat - 48)
  else if 'a' ≤ c ∧ c ≤ 'f' then some (c.toNat - 87)
  else if 'A' ≤ c ∧ c ≤ 'F' then some (c.toNat - 55)
  else none

/-- The last `k` digits, the most significant one first. -/
def digits : (k : Nat) → Nat → List Char
  | 0, _ => []
  | k + 1, n => digits k (n / 16) ++ [hexDigit (n % 16)]

def value (cs : List Char) : Option Nat :=
  cs.foldlM (fun n c => (hexValue c).map fun d => 16 * n + d) 0

theorem hexValue_hexDigit {n : Nat} (h : n < 16) : hexValue (hexDigit n) = some n := by
  have hall : ∀ m : Fin 16, hexValue (hexDigit m) = some m.val := by decide
  exact hall ⟨n, h⟩

theorem hexDigit_ne {n : Nat} (h : n < 16) :
    hexDigit n ∉ ['-', '{', '}', 'u'] := by
  have hall : ∀ m : Fin 16, hexDigit m ∉ ['-', '{', '}', 'u'] := by decide
  exact hall ⟨n, h⟩

theorem length_digits (k n : Nat) : (digits k n).length = k := by
  induction k generalizing n with
  | zero => rfl
  | succ k ih => simp [digits, ih]

theorem mem_digits {k n : Nat} {c : Char} (h : c ∈ digits k n) : ∃ m < 16, c = hexDigit m := by
  induction k generalizing n with
  | zero => cases h
  | succ k ih =>
    rcases List.mem_append.mp h with hfirst | hlast
    · exact ih hfirst
    · exact ⟨n % 16, Nat.mod_lt n (by decide), List.mem_singleton.mp hlast⟩

theorem not_mem_of_mem_digits {k n : Nat} {c : Char} (h : c ∈ digits k n) :
    c ∉ ['-', '{', '}', 'u'] := by
  obtain ⟨m, hm, rfl⟩ := mem_digits h
  exact hexDigit_ne hm

/-- **The digits of a number read back.** Induction on the number of digits. -/
theorem value_digits (k n : Nat) : value (digits k n) = some (n % 16 ^ k) := by
  induction k generalizing n with
  | zero => simp [digits, value, Nat.mod_one]
  | succ k ih =>
    have hvalue := ih (n / 16)
    unfold value at hvalue ⊢
    rw [digits, List.foldlM_append, hvalue]
    show (hexValue (hexDigit (n % 16))).map _ >>= _ = _
    rw [hexValue_hexDigit (Nat.mod_lt n (by decide))]
    have hnumber : 16 * (n / 16 % 16 ^ k) + n % 16 = n % 16 ^ (k + 1) := by
      rw [Nat.pow_succ', Nat.mod_mul]
      omega
    exact congrArg some hnumber

/-! ## Texts -/

/-- The text without the occurrences of a pattern, which are looked for from left to right. -/
def remove (pattern : List Char) : (fuel : Nat) → List Char → List Char
  | 0, cs => cs
  | _ + 1, [] => []
  | fuel + 1, c :: cs =>
    if pattern.isPrefixOf (c :: cs) then remove pattern fuel ((c :: cs).drop pattern.length)
    else c :: remove pattern fuel cs

def isBrace (c : Char) : Bool := decide (c = '{' ∨ c = '}')

def stripBraces (cs : List Char) : List Char :=
  ((cs.dropWhile isBrace).reverse.dropWhile isBrace).reverse

/-- The digits of a text, without what may stand around and between them. -/
def bare (cs : List Char) : List Char :=
  let cs := remove ['u', 'r', 'n', ':'] cs.length cs
  let cs := remove ['u', 'u', 'i', 'd', ':'] cs.length cs
  (stripBraces cs).filter fun c => decide (c ≠ '-')

def parse (text : String) : Option (BitVec 128) :=
  let cs := bare text.toList
  if cs.length = 32 then (value cs).map (BitVec.ofNat 128) else none

def text (id : BitVec 128) : String :=
  let n := id.toNat
  String.ofList (digits 8 (n / 16 ^ 24) ++ '-' :: digits 4 (n / 16 ^ 20) ++
    '-' :: digits 4 (n / 16 ^ 16) ++ '-' :: digits 4 (n / 16 ^ 12) ++ '-' :: digits 12 n)

/-- A pattern whose first character does not occur. Induction on the fuel. -/
theorem remove_of_not_mem {first : Char} {rest : List Char} (fuel : Nat) {cs : List Char}
    (h : first ∉ cs) : remove (first :: rest) fuel cs = cs := by
  induction fuel generalizing cs with
  | zero => rfl
  | succ fuel ih =>
    cases cs with
    | nil => rfl
    | cons c cs =>
      have hne : first ≠ c := fun heq => h (heq ▸ List.mem_cons_self)
      unfold remove
      rw [if_neg (by simp [hne]), ih fun hmem => h (List.mem_cons_of_mem c hmem)]

theorem stripBraces_of_not_mem {cs : List Char} (h : ∀ c ∈ cs, isBrace c = false) :
    stripBraces cs = cs := by
  have hnone {cs : List Char} (h : ∀ c ∈ cs, isBrace c = false) : cs.dropWhile isBrace = cs := by
    cases cs with
    | nil => rfl
    | cons c cs => simp [h c List.mem_cons_self]
  unfold stripBraces
  rw [hnone h, hnone fun c hc => h c (List.mem_reverse.mp hc), List.reverse_reverse]

theorem digits_append (k l n : Nat) : digits k (n / 16 ^ l) ++ digits l n = digits (k + l) n := by
  induction l generalizing n with
  | zero => simp [digits]
  | succ l ih =>
    show digits k (n / 16 ^ (l + 1)) ++ (digits l (n / 16) ++ [hexDigit (n % 16)]) =
      digits (k + l) (n / 16) ++ [hexDigit (n % 16)]
    rw [← ih, Nat.pow_succ', Nat.div_div_eq_div_mul, List.append_assoc]

theorem filter_digits (k n : Nat) : (digits k n).filter (fun c => decide (c ≠ '-')) = digits k n := by
  rw [List.filter_eq_self]
  intro c hc
  rw [decide_eq_true_eq]
  rintro rfl
  exact not_mem_of_mem_digits hc (by decide)

theorem bare_text (id : BitVec 128) : bare (text id).toList = digits 32 id.toNat := by
  generalize hcs : (text id).toList = cs
  have hchars : ∀ c ∈ cs, c ∉ ['{', '}', 'u'] := by
    intro c hc
    rw [← hcs] at hc
    simp only [text, String.toList_ofList, List.mem_append, List.mem_cons] at hc
    have hdigit {k n : Nat} (h : c ∈ digits k n) : c ∉ ['{', '}', 'u'] := fun hmem =>
      not_mem_of_mem_digits h (List.mem_cons_of_mem _ hmem)
    have hhyphen (h : c = '-') : c ∉ ['{', '}', 'u'] := by
      rw [h]
      decide
    grind
  have hu : 'u' ∉ cs := fun hmem => hchars 'u' hmem (by decide)
  have hbrace : ∀ c ∈ cs, isBrace c = false := by
    intro c hc
    have := hchars c hc
    unfold isBrace
    simp_all
  unfold bare
  dsimp only
  rw [remove_of_not_mem _ hu, remove_of_not_mem _ hu, stripBraces_of_not_mem hbrace, ← hcs]
  have hgroup (cs : List Char) (k n : Nat) :
      ('-' :: (digits k n ++ cs)).filter (fun c => decide (c ≠ '-')) =
        digits k n ++ cs.filter fun c => decide (c ≠ '-') := by
    rw [List.filter_cons_of_neg (by decide), List.filter_append, filter_digits]
  have hlast : ('-' :: digits 12 id.toNat).filter (fun c => decide (c ≠ '-')) =
      digits 12 id.toNat := by
    rw [List.filter_cons_of_neg (by decide), filter_digits]
  simp only [text, String.toList_ofList, List.append_assoc, List.cons_append]
  rw [List.filter_append, filter_digits, hgroup, hgroup, hgroup, hlast, digits_append,
    digits_append, digits_append, digits_append]

/-- **The text of a UUID reads back.** -/
theorem parse_text (id : BitVec 128) : parse (text id) = some id := by
  unfold parse
  dsimp only
  rw [bare_text, if_pos (length_digits 32 _), value_digits, Option.map_some,
    Nat.mod_eq_of_lt (by exact id.isLt), BitVec.ofNat_toNat, BitVec.setWidth_eq]

end Uuid
