import NocIq.Json
import NocIq.Lib.Text

/-!
# NocIq — `json.dumps` and `json.loads`

The text of a JSON value, as Python's `json.dumps` writes it with its default arguments, and the
scanner of `json.loads`. The scanner takes what the standard grammar has: white space anywhere,
escapes that the writer does not use, members with one name (the last one counts), and the constants
and surrogates that Python adds to it. Of a float only the shape of its text is modelled; which float
a text stands for is a parameter. The limits of the interpreter, on the digits of an integer and on
the depth of a value, are left out.

* **`loads_dumps`** — reading what has been written.
-/

namespace NocIq.Json

abbrev Chars := List Char

/-- `float.__repr__` and `float(…)`, which is `none` for a number beyond the floats. -/
structure FloatText where
  repr : ℚ → String
  parse : String → Option ℚ

/-! ## Writing -/

mutual
/-- `json.dumps`. -/
def dumps (t : FloatText) : Value → String
  | .null => "null"
  | .bool true => "true"
  | .bool false => "false"
  | .int n => toString n
  | .float q => t.repr q
  | .nonFinite x => x.text
  | .str s => dumpsString s
  | .loneStr text => (PyString.lone text).dumps
  | .arr [] => "[]"
  | .arr (v :: vs) => "[" ++ (dumps t v ++ dumpsItems t vs)
  | .obj [] => "\x7b\x7d"
  | .obj ((name, v) :: ms) =>
    "\x7b" ++ (dumpsString name ++ (": " ++ (dumps t v ++ dumpsMembers t ms)))
  | .loneObj [] => "\x7b\x7d"
  | .loneObj ((name, v) :: ms) =>
    "\x7b" ++ (name.dumps ++ (": " ++ (dumps t v ++ dumpsLoneMembers t ms)))

/-- The elements after the first, and the bracket. -/
def dumpsItems (t : FloatText) : List Value → String
  | [] => "]"
  | v :: vs => ", " ++ (dumps t v ++ dumpsItems t vs)

/-- The members after the first, and the brace. -/
def dumpsMembers (t : FloatText) : List (String × Value) → String
  | [] => "\x7d"
  | (name, v) :: ms => ", " ++ (dumpsString name ++ (": " ++ (dumps t v ++ dumpsMembers t ms)))

@[inherit_doc dumpsMembers]
def dumpsLoneMembers (t : FloatText) : List (PyString × Value) → String
  | [] => "\x7d"
  | (name, v) :: ms => ", " ++ (name.dumps ++ (": " ++ (dumps t v ++ dumpsLoneMembers t ms)))
end

/-! ## Reading numbers -/

def isNumberChar (c : Char) : Bool :=
  c.isDigit || decide (c = '-' ∨ c = '+' ∨ c = '.' ∨ c = 'e' ∨ c = 'E')

def isDigits (cs : Chars) : Bool := decide (cs ≠ []) && cs.all Char.isDigit

/-- `0|[1-9][0-9]*`. -/
def isWhole (cs : Chars) : Bool := isDigits cs && decide (cs.head? ≠ some '0' ∨ cs.length = 1)

def unsigned : Chars → Chars
  | [] => []
  | c :: cs => if c = '-' then cs else c :: cs

def isIntText (cs : Chars) : Bool := isWhole (unsigned cs)

/-- `[eE][-+]?[0-9]+`. -/
def isExponent : Chars → Bool
  | [] => false
  | c :: cs => decide (c = 'e' ∨ c = 'E') &&
    isDigits (if cs.head? = some '-' ∨ cs.head? = some '+' then cs.tail else cs)

/-- `\.[0-9]+`, an exponent, or both. -/
def isFraction : Chars → Bool
  | [] => false
  | c :: cs =>
    if c = '.' then
      isDigits (cs.takeWhile Char.isDigit) &&
        (decide (cs.dropWhile Char.isDigit = []) || isExponent (cs.dropWhile Char.isDigit))
    else isExponent (c :: cs)

def isFloatText (cs : Chars) : Bool :=
  isWhole ((unsigned cs).takeWhile Char.isDigit) && isFraction ((unsigned cs).dropWhile Char.isDigit)

def intOf : Chars → Int
  | [] => 0
  | c :: cs => if c = '-' then -Nat.ofDigitChars 10 cs 0 else Nat.ofDigitChars 10 (c :: cs) 0

/-- The float a text stands for; a number beyond the floats is an infinity. -/
def floatOf (t : FloatText) (token : Chars) : Value :=
  match t.parse (String.ofList token) with
  | some q => .float q
  | none => .nonFinite (if token.head? = some '-' then .minusInfinity else .infinity)

/-- The characters a number can have, up to the first other one, are one number. -/
def scanNumber (t : FloatText) (cs : Chars) : Option (Value × Chars) :=
  let token := cs.takeWhile isNumberChar
  let rest := cs.dropWhile isNumberChar
  if isIntText token then some (.int (intOf token), rest)
  else if isFloatText token then some (floatOf t token, rest)
  else none

/-! ## Reading strings -/

def quote : Char := Char.ofNat 34

def backslash : Char := Char.ofNat 92

def hexValue (c : Char) : Option Nat :=
  if c.isDigit then some (c.toNat - 48)
  else if 97 ≤ c.toNat ∧ c.toNat ≤ 102 then some (c.toNat - 87)
  else if 65 ≤ c.toNat ∧ c.toNat ≤ 70 then some (c.toNat - 55)
  else none

/-- What a character after a backslash stands for. -/
def unescape (c : Char) : Option Nat :=
  if c = quote ∨ c = backslash ∨ c = '/' then some c.toNat
  else if c = 'b' then some 8 else if c = 't' then some 9 else if c = 'n' then some 10
  else if c = 'f' then some 12 else if c = 'r' then some 13
  else none

inductive StringMode where
  | plain
  | escape
  /-- in a `\u` escape, with so many digits to come -/
  | code (left value : Nat)

/-- The code units up to the closing quote. It keeps those it has, the last one first. -/
def scanUnits : StringMode → List Nat → Chars → Option (List Nat × Chars)
  | _, _, [] => none
  | .plain, units, c :: cs =>
    if c = quote then some (units.reverse, cs)
    else if c = backslash then scanUnits .escape units cs
    else if c.toNat < 32 then none
    else scanUnits .plain (c.toNat :: units) cs
  | .escape, units, c :: cs =>
    if c = 'u' then scanUnits (.code 3 0) units cs
    else
      match unescape c with
      | none => none
      | some n => scanUnits .plain (n :: units) cs
  | .code left value, units, c :: cs =>
    match hexValue c with
    | none => none
    | some digit =>
      match left with
      | 0 => scanUnits .plain ((value * 16 + digit) :: units) cs
      | left + 1 => scanUnits (.code left (value * 16 + digit)) units cs

/-- The code points of the code units: two surrogates are one, and a surrogate on its own stays. -/
def joinUnits : Option Nat → List Nat → List Nat
  | none, [] => []
  | some high, [] => [high]
  | none, n :: units =>
    if isHighSurrogate n then joinUnits (some n) units else n :: joinUnits none units
  | some high, n :: units =>
    if isLowSurrogate n then
      (65536 + (high - 55296) * 1024 + (n - 56320)) :: joinUnits none units
    else if isHighSurrogate n then high :: joinUnits (some n) units
    else high :: n :: joinUnits none units

/-- A string, from after its opening quote. -/
def scanString (cs : Chars) : Option (PyString × Chars) :=
  (scanUnits .plain [] cs).map fun (units, rest) => (.ofPoints (joinUnits none units), rest)

/-! ## Reading values -/

def isSpace (c : Char) : Bool := decide (c.toNat = 32 ∨ c.toNat = 9 ∨ c.toNat = 10 ∨ c.toNat = 13)

def skipSpace (cs : Chars) : Chars := cs.dropWhile isSpace

/-- A member in the object: in the place of the one with its name, or at the end. -/
def setMember (members : List (PyString × Value)) (m : PyString × Value) :
    List (PyString × Value) :=
  if members.any fun m' => decide (m'.1 = m.1) then
    members.map fun m' => if m'.1 = m.1 then m else m'
  else members ++ [m]

def objectOf (members : List (PyString × Value)) : Value :=
  .ofMembers (members.foldl setMember [])

/-- The constants, and numbers. -/
def scanWord (t : FloatText) (cs : Chars) : Option (Value × Chars) :=
  if "null".toList.isPrefixOf cs then some (.null, cs.drop 4)
  else if "true".toList.isPrefixOf cs then some (.bool true, cs.drop 4)
  else if "false".toList.isPrefixOf cs then some (.bool false, cs.drop 5)
  else if "NaN".toList.isPrefixOf cs then some (.nonFinite .nan, cs.drop 3)
  else if "Infinity".toList.isPrefixOf cs then some (.nonFinite .infinity, cs.drop 8)
  else if "-Infinity".toList.isPrefixOf cs then some (.nonFinite .minusInfinity, cs.drop 9)
  else scanNumber t cs

mutual
/-- A value at the start of the text. The number bounds the depth of the calls. -/
def scanValue (t : FloatText) : Nat → Chars → Option (Value × Chars)
  | 0, _ => none
  | _, [] => none
  | fuel + 1, c :: cs =>
    if c = quote then (scanString cs).map fun (s, rest) => (.ofString s, rest)
    else if c = '[' then
      match skipSpace cs with
      | [] => none
      | c :: cs =>
        if c = ']' then some (.arr [], cs)
        else (scanItems t fuel (c :: cs)).map fun (items, rest) => (.arr items, rest)
    else if c = Char.ofNat 123 then
      match skipSpace cs with
      | [] => none
      | c :: cs =>
        if c = Char.ofNat 125 then some (.obj [], cs)
        else (scanMembers t fuel (c :: cs)).map fun (members, rest) => (objectOf members, rest)
    else scanWord t (c :: cs)

/-- The elements of an array, up to the bracket. -/
def scanItems (t : FloatText) : Nat → Chars → Option (List Value × Chars)
  | 0, _ => none
  | fuel + 1, cs =>
    match scanValue t fuel cs with
    | none => none
    | some (v, rest) =>
      match skipSpace rest with
      | [] => none
      | c :: cs =>
        if c = ']' then some ([v], cs)
        else if c = ',' then
          (scanItems t fuel (skipSpace cs)).map fun (items, rest) => (v :: items, rest)
        else none

/-- The members of an object, up to the brace. -/
def scanMembers (t : FloatText) : Nat → Chars → Option (List (PyString × Value) × Chars)
  | 0, _ => none
  | _, [] => none
  | fuel + 1, c :: cs =>
    if c = quote then
      match scanString cs with
      | none => none
      | some (name, rest) =>
        match skipSpace rest with
        | [] => none
        | c :: cs =>
          if c = ':' then
            match scanValue t fuel (skipSpace cs) with
            | none => none
            | some (v, rest) =>
              match skipSpace rest with
              | [] => none
              | c :: cs =>
                if c = Char.ofNat 125 then some ([(name, v)], cs)
                else if c = ',' then
                  (scanMembers t fuel (skipSpace cs)).map fun (members, rest) =>
                    ((name, v) :: members, rest)
                else none
          else none
    else none
end

/-- `json.loads`; `none` is a `JSONDecodeError`. -/
def loads (t : FloatText) (cs : Chars) : Option Value :=
  match scanValue t cs.length (skipSpace cs) with
  | none => none
  | some (v, rest) => if skipSpace rest = [] then some v else none

/-! ## Reading back a number -/

variable {t : FloatText} {rest : Chars}

/-- What follows is not part of a number. -/
def Stops (rest : Chars) : Prop := ∀ c ∈ rest.head?, isNumberChar c = false

theorem scanNumber_token {token : Chars} (htoken : ∀ c ∈ token, isNumberChar c = true)
    (hrest : Stops rest) :
    scanNumber t (token ++ rest) =
      if isIntText token then some (.int (intOf token), rest)
      else if isFloatText token then some (floatOf t token, rest)
      else none := by
  have htake : (token ++ rest).takeWhile isNumberChar = token := by
    rw [List.takeWhile_append_of_pos htoken]
    cases rest with
    | nil => simp
    | cons c rest =>
      have hc := hrest c rfl
      rw [List.takeWhile_cons_of_neg (by simp [hc]), List.append_nil]
  have hdrop : (token ++ rest).dropWhile isNumberChar = rest := by
    rw [List.dropWhile_append_of_pos htoken]
    cases rest with
    | nil => rfl
    | cons c rest =>
      have hc := hrest c rfl
      rw [List.dropWhile_cons_of_neg (by simp [hc])]
  unfold scanNumber
  dsimp only
  rw [htake, hdrop]

theorem isDigits_toDigits (n : Nat) : isDigits (Nat.toDigits 10 n) = true := by
  unfold isDigits
  rw [Bool.and_eq_true, decide_eq_true_iff, List.all_eq_true]
  exact ⟨Nat.toDigits_ne_nil, fun c hc => Nat.isDigit_of_mem_toDigits (by decide) (by decide) hc⟩

/-- The digits of a number start with a zero only if there is one of them. Induction on the
number. -/
theorem head_toDigits (n : Nat) :
    (Nat.toDigits 10 n).head? ≠ some '0' ∨ (Nat.toDigits 10 n).length = 1 := by
  induction n using Nat.strong_induction_on with
  | _ n ih =>
    by_cases hn : n < 10
    · rw [Nat.toDigits_of_lt_base hn]
      exact .inr rfl
    · left
      rw [Nat.toDigits_of_base_le (by decide) (by omega)]
      have hne : Nat.toDigits 10 (n / 10) ≠ [] := Nat.toDigits_ne_nil
      rw [List.head?_append_of_ne_nil _ hne]
      rcases ih (n / 10) (by omega) with hhead | hlength
      · exact hhead
      · -- then the number above is a digit other than zero
        have hlt : n / 10 < 10 := by
          have h := (Nat.length_toDigits_le_iff (b := 10) (by decide) Nat.one_pos).mp hlength.le
          omega
        have hchar : ∀ d < 10, 0 < d → some (Nat.digitChar d) ≠ some '0' := by decide
        rw [Nat.toDigits_of_lt_base hlt, List.head?_cons]
        exact hchar (n / 10) hlt (by omega)

theorem isWhole_toDigits (n : Nat) : isWhole (Nat.toDigits 10 n) = true := by
  unfold isWhole
  rw [isDigits_toDigits, Bool.true_and, decide_eq_true_iff]
  exact head_toDigits n

theorem toDigits_eq_cons (n : Nat) :
    ∃ c cs, Nat.toDigits 10 n = c :: cs ∧ c.isDigit = true := by
  cases hdigits : Nat.toDigits 10 n with
  | nil => exact absurd hdigits Nat.toDigits_ne_nil
  | cons c cs =>
    refine ⟨c, cs, rfl, ?_⟩
    exact Nat.isDigit_of_mem_toDigits (b := 10) (n := n) (by decide) (by decide)
      (by rw [hdigits]; exact List.mem_cons_self)

variable {c : Char}

theorem isDigit_ne_minus (h : c.isDigit = true) : c ≠ '-' := by
  rintro rfl
  exact absurd h (by decide)

theorem toList_toString_int (n : Int) :
    (toString n).toList = (if n < 0 then ['-'] else []) ++ Nat.toDigits 10 n.natAbs := by
  cases n with
  | ofNat n =>
    rw [if_neg (by simp)]
    exact Text.toList_toString n
  | negSucc n =>
    rw [if_pos (Int.negSucc_lt_zero n)]
    show ("-" ++ Nat.repr (n + 1)).toList = _
    rw [String.toList_append, Nat.toList_repr]
    rfl

theorem scanNumber_int (n : Int) (hrest : Stops rest) :
    scanNumber t ((toString n).toList ++ rest) = some (.int n, rest) := by
  obtain ⟨c, cs, hdigits, hc⟩ := toDigits_eq_cons n.natAbs
  have hwhole : isWhole (c :: cs) = true := hdigits ▸ isWhole_toDigits n.natAbs
  have hvalue : Nat.ofDigitChars 10 (c :: cs) 0 = n.natAbs := by
    rw [← hdigits]
    exact Nat.ofDigitChars_ten_toDigits
  have hchars : ∀ c' ∈ c :: cs, isNumberChar c' = true := by
    intro c' hc'
    have hdigit : c'.isDigit = true := by
      rw [← hdigits] at hc'
      exact Nat.isDigit_of_mem_toDigits (by decide) (by decide) hc'
    unfold isNumberChar
    rw [hdigit, Bool.true_or]
  rw [toList_toString_int, hdigits]
  by_cases hneg : n < 0
  · rw [if_pos hneg, scanNumber_token _ hrest]
    · have hint : isIntText (['-'] ++ c :: cs) = true := hwhole
      have hof : intOf (['-'] ++ c :: cs) = n := by
        show -((Nat.ofDigitChars 10 (c :: cs) 0 : Nat) : Int) = n
        rw [hvalue]
        omega
      rw [if_pos hint, hof]
    · intro c' hc'
      rcases List.mem_cons.mp hc' with rfl | hc'
      · decide
      · exact hchars c' hc'
  · rw [if_neg hneg, List.nil_append, scanNumber_token hchars hrest]
    have hminus := isDigit_ne_minus hc
    have hint : isIntText (c :: cs) = true := by
      show isWhole (if c = '-' then cs else c :: cs) = true
      rw [if_neg hminus]
      exact hwhole
    have hof : intOf (c :: cs) = n := by
      show (if c = '-' then -((Nat.ofDigitChars 10 cs 0 : Nat) : Int)
        else (Nat.ofDigitChars 10 (c :: cs) 0 : Nat)) = n
      rw [if_neg hminus, hvalue]
      omega
    rw [if_pos hint, hof]

variable {cs : Chars}

theorem isNumberChar_of_isDigits (h : isDigits cs = true) : ∀ c ∈ cs, isNumberChar c = true := by
  unfold isDigits at h
  rw [Bool.and_eq_true, List.all_eq_true] at h
  intro c hc
  unfold isNumberChar
  rw [h.2 c hc, Bool.true_or]

theorem isNumberChar_of_isExponent (h : isExponent cs = true) :
    ∀ c ∈ cs, isNumberChar c = true := by
  cases cs with
  | nil => cases h
  | cons e cs =>
    unfold isExponent at h
    rw [Bool.and_eq_true, decide_eq_true_iff] at h
    obtain ⟨he, hdigits⟩ := h
    intro c hc
    rcases List.mem_cons.mp hc with rfl | hc
    · rcases he with rfl | rfl <;> decide
    · split at hdigits
      · cases cs with
        | nil => cases hc
        | cons sign cs =>
          rcases List.mem_cons.mp hc with rfl | hc
          · rename_i hsign
            rcases hsign with hsign | hsign <;> cases hsign <;> decide
          · exact isNumberChar_of_isDigits hdigits c hc
      · exact isNumberChar_of_isDigits hdigits c hc

theorem isNumberChar_of_isFraction (h : isFraction cs = true) :
    ∀ c ∈ cs, isNumberChar c = true := by
  cases cs with
  | nil => cases h
  | cons point cs =>
    rw [isFraction] at h
    by_cases hpoint : point = '.'
    · rw [if_pos hpoint, Bool.and_eq_true, Bool.or_eq_true, decide_eq_true_iff] at h
      obtain ⟨hdigits, hexponent⟩ := h
      intro c hc
      rcases List.mem_cons.mp hc with rfl | hc
      · rw [hpoint]
        decide
      · rw [← List.takeWhile_append_dropWhile (p := Char.isDigit) (l := cs)] at hc
        rcases List.mem_append.mp hc with hc | hc
        · exact isNumberChar_of_isDigits hdigits c hc
        · rcases hexponent with hnil | hexponent
          · rw [hnil] at hc
            cases hc
          · exact isNumberChar_of_isExponent hexponent c hc
    · rw [if_neg hpoint] at h
      exact isNumberChar_of_isExponent h

theorem isNumberChar_of_isWhole (h : isWhole cs = true) : ∀ c ∈ cs, isNumberChar c = true := by
  unfold isWhole at h
  rw [Bool.and_eq_true] at h
  exact isNumberChar_of_isDigits h.1

theorem isNumberChar_of_number (h : isIntText cs = true ∨ isFloatText cs = true) :
    ∀ c ∈ cs, isNumberChar c = true := by
  have hunsigned : ∀ c ∈ unsigned cs, isNumberChar c = true := by
    rcases h with hint | hfloat
    · exact isNumberChar_of_isWhole hint
    · unfold isFloatText at hfloat
      rw [Bool.and_eq_true] at hfloat
      intro c hc
      rw [← List.takeWhile_append_dropWhile (p := Char.isDigit) (l := unsigned cs)] at hc
      rcases List.mem_append.mp hc with hc | hc
      · exact isNumberChar_of_isWhole hfloat.1 c hc
      · exact isNumberChar_of_isFraction hfloat.2 c hc
  cases cs with
  | nil => exact fun c hc => absurd hc List.not_mem_nil
  | cons sign cs =>
    by_cases hsign : sign = '-'
    · have hcs : unsigned (sign :: cs) = cs := if_pos hsign
      rw [hcs] at hunsigned
      intro c hc
      rcases List.mem_cons.mp hc with rfl | hc
      · rw [hsign]
        decide
      · exact hunsigned c hc
    · have hcs : unsigned (sign :: cs) = sign :: cs := if_neg hsign
      rwa [hcs] at hunsigned

theorem scanNumber_float (h : isFloatText cs = true) (hrest : Stops rest) :
    scanNumber t (cs ++ rest) = some (floatOf t cs, rest) := by
  have hchars := isNumberChar_of_number (.inr h)
  have hfraction : isFraction ((unsigned cs).dropWhile Char.isDigit) = true := by
    unfold isFloatText at h
    rw [Bool.and_eq_true] at h
    exact h.2
  have hint : ¬ isIntText cs = true := by
    intro hint
    unfold isIntText isWhole isDigits at hint
    rw [Bool.and_eq_true, Bool.and_eq_true, List.all_eq_true] at hint
    have hnil : (unsigned cs).dropWhile Char.isDigit = [] :=
      List.dropWhile_eq_nil_iff.mpr hint.1.2
    rw [hnil] at hfraction
    cases hfraction
  rw [scanNumber_token hchars hrest, if_neg hint, if_pos h]

/-! ## Reading back a string -/

/-- The code units of a character. -/
def unitsOf (c : Char) : List Nat :=
  if c.toNat < 65536 then [c.toNat]
  else [55296 + (c.toNat - 65536) / 1024, 56320 + (c.toNat - 65536) % 1024]

theorem hexValue_hexDigit : ∀ n < 16, hexValue (hexDigit n) = some n := by
  decide

theorem scanUnits_unicodeEscape {n : Nat} (hn : n < 65536) (units : List Nat) :
    scanUnits .plain units ((unicodeEscape n).toList ++ rest) =
      scanUnits .plain (n :: units) rest := by
  have hvalue : ((0 * 16 + n / 4096 % 16) * 16 + n / 256 % 16) * 16 + n / 16 % 16 =
      n / 16 := by omega
  have hvalue' : n / 16 * 16 + n % 16 = n := by omega
  unfold unicodeEscape
  rw [String.toList_ofList]
  show scanUnits .plain units (backslash :: 'u' :: hexDigit (n / 4096 % 16) ::
    hexDigit (n / 256 % 16) :: hexDigit (n / 16 % 16) :: hexDigit (n % 16) :: rest) = _
  rw [scanUnits, if_neg (by decide), if_pos rfl, scanUnits, if_pos rfl]
  rw [scanUnits, hexValue_hexDigit _ (Nat.mod_lt _ (by decide))]
  dsimp only
  rw [scanUnits, hexValue_hexDigit _ (Nat.mod_lt _ (by decide))]
  dsimp only
  rw [scanUnits, hexValue_hexDigit _ (Nat.mod_lt _ (by decide))]
  dsimp only
  rw [scanUnits, hexValue_hexDigit _ (Nat.mod_lt _ (by decide))]
  dsimp only
  rw [hvalue, hvalue']

theorem scanUnits_escape {n : Nat} (hu : c ≠ 'u') (hc : unescape c = some n) (units : List Nat) :
    scanUnits .plain units (backslash :: c :: rest) = scanUnits .plain (n :: units) rest := by
  rw [scanUnits, if_neg (by decide), if_pos rfl, scanUnits, if_neg hu, hc]

theorem scanUnits_escapeChar (c : Char) (units : List Nat) :
    scanUnits .plain units ((escapeChar c).toList ++ rest) =
      scanUnits .plain ((unitsOf c).reverse ++ units) rest := by
  have hone : ∀ n < 65536, c.toNat = n → unitsOf c = [n] := by
    intro n hn hc
    unfold unitsOf
    rw [if_pos (by omega), hc]
  unfold escapeChar
  dsimp only
  by_cases hquote : c.toNat = 34
  · rw [if_pos hquote, hone 34 (by decide) hquote]
    exact scanUnits_escape (c := quote) (by decide) rfl units
  rw [if_neg hquote]
  by_cases hbackslash : c.toNat = 92
  · rw [if_pos hbackslash, hone 92 (by decide) hbackslash]
    exact scanUnits_escape (c := backslash) (by decide) rfl units
  rw [if_neg hbackslash]
  by_cases hb : c.toNat = 8
  · rw [if_pos hb, hone 8 (by decide) hb]
    exact scanUnits_escape (c := 'b') (by decide) rfl units
  rw [if_neg hb]
  by_cases ht : c.toNat = 9
  · rw [if_pos ht, hone 9 (by decide) ht]
    exact scanUnits_escape (c := 't') (by decide) rfl units
  rw [if_neg ht]
  by_cases hn : c.toNat = 10
  · rw [if_pos hn, hone 10 (by decide) hn]
    exact scanUnits_escape (c := 'n') (by decide) rfl units
  rw [if_neg hn]
  by_cases hf : c.toNat = 12
  · rw [if_pos hf, hone 12 (by decide) hf]
    exact scanUnits_escape (c := 'f') (by decide) rfl units
  rw [if_neg hf]
  by_cases hr : c.toNat = 13
  · rw [if_pos hr, hone 13 (by decide) hr]
    exact scanUnits_escape (c := 'r') (by decide) rfl units
  rw [if_neg hr]
  by_cases hplain : 32 ≤ c.toNat ∧ c.toNat ≤ 126
  · -- the character itself
    have hc : c ≠ quote ∧ c ≠ backslash := by
      constructor
      · rintro rfl
        exact hquote rfl
      · rintro rfl
        exact hbackslash rfl
    rw [if_pos hplain, hone c.toNat (by omega) rfl, String.toList_singleton]
    show scanUnits .plain units (c :: rest) = _
    rw [scanUnits, if_neg hc.1, if_neg hc.2, if_neg (by omega)]
    rfl
  rw [if_neg hplain]
  by_cases h : c.toNat < 65536
  · rw [if_pos h, hone c.toNat h rfl]
    exact scanUnits_unicodeEscape h units
  · -- beyond the first plane: two surrogates
    have hlt : c.toNat < 1114112 := by
      rcases c.valid with hc | hc
      · exact absurd (Nat.lt_trans hc (by decide)) h
      · exact hc.2
    have hunits : unitsOf c =
        [55296 + (c.toNat - 65536) / 1024, 56320 + (c.toNat - 65536) % 1024] := if_neg h
    rw [if_neg h, hunits, String.toList_append, List.append_assoc, scanUnits_unicodeEscape (by omega),
      scanUnits_unicodeEscape (by omega)]
    rfl

theorem isSurrogate_toNat (c : Char) : isSurrogate c.toNat = false := by
  have hvalid : c.toNat < 55296 ∨ (57343 < c.toNat ∧ c.toNat < 1114112) := c.valid
  unfold isSurrogate isHighSurrogate isLowSurrogate
  rw [decide_eq_false (by omega), decide_eq_false (by omega)]
  rfl

theorem joinUnits_unitsOf (c : Char) (units : List Nat) :
    joinUnits none (unitsOf c ++ units) = c.toNat :: joinUnits none units := by
  have hvalid : c.toNat < 55296 ∨ (57343 < c.toNat ∧ c.toNat < 1114112) := c.valid
  unfold unitsOf
  split
  · have hhigh : isHighSurrogate c.toNat = false := decide_eq_false (by omega)
    rw [List.singleton_append, joinUnits, hhigh]
    rfl
  · have hhigh : isHighSurrogate (55296 + (c.toNat - 65536) / 1024) = true :=
      decide_eq_true (by omega)
    have hlow : isLowSurrogate (56320 + (c.toNat - 65536) % 1024) = true :=
      decide_eq_true (by omega)
    have hjoin : 65536 + (55296 + (c.toNat - 65536) / 1024 - 55296) * 1024 +
        (56320 + (c.toNat - 65536) % 1024 - 56320) = c.toNat := by omega
    show joinUnits none (_ :: _ :: units) = _
    rw [joinUnits, if_pos hhigh, joinUnits, if_pos hlow, hjoin]

/-- The code units of a written text are read up to its quote. Induction on the text. -/
theorem scanUnits_escaped (s : Chars) (units : List Nat) :
    scanUnits .plain units ((s.flatMap fun c => (escapeChar c).toList) ++ quote :: rest) =
      some (units.reverse ++ s.flatMap unitsOf, rest) := by
  induction s generalizing units with
  | nil =>
    show scanUnits .plain units (quote :: rest) = _
    rw [scanUnits, if_pos rfl, List.flatMap_nil, List.append_nil]
  | cons c s ih =>
    rw [List.flatMap_cons, List.append_assoc, scanUnits_escapeChar, ih]
    simp

theorem joinUnits_flatMap (s : Chars) :
    joinUnits none (s.flatMap unitsOf) = s.map Char.toNat := by
  induction s with
  | nil => rfl
  | cons c s ih => rw [List.flatMap_cons, joinUnits_unitsOf, ih, List.map_cons]

theorem PyString.ofPoints_toNat (s : String) :
    PyString.ofPoints (s.toList.map Char.toNat) = .text s := by
  have hnone : ¬ (s.toList.map Char.toNat).any isSurrogate = true := by
    simp [isSurrogate_toNat]
  have hchars : (s.toList.map Char.toNat).map Char.ofNat = s.toList := by
    rw [List.map_map]
    exact (List.map_congr_left fun c _ => Char.ofNat_toNat c).trans (List.map_id _)
  unfold PyString.ofPoints
  rw [dif_neg hnone, hchars, String.ofList_toList]

theorem toList_dumpsString (s : String) :
    (dumpsString s).toList =
      quote :: ((s.toList.flatMap fun c => (escapeChar c).toList) ++ [quote]) := by
  unfold dumpsString
  rw [String.toList_append, String.toList_append, String.toList_join, List.flatMap_map]
  rfl

theorem scanString_dumpsString (s : String) :
    ∃ cs, (dumpsString s).toList = quote :: cs ∧
      ∀ rest, scanString (cs ++ rest) = some (.text s, rest) := by
  refine ⟨_, toList_dumpsString s, fun rest => ?_⟩
  unfold scanString
  rw [List.append_assoc, List.singleton_append, scanUnits_escaped, Option.map_some]
  dsimp only
  rw [List.reverse_nil, List.nil_append, joinUnits_flatMap, PyString.ofPoints_toNat]

/-! ## Reading back a value -/

/-- The values whose text stands for them: the floats have a text of their own, and the members of
an object have different names. -/
inductive ReadsBack (t : FloatText) : Value → Prop where
  | null : ReadsBack t .null
  | bool (b : Bool) : ReadsBack t (.bool b)
  | int (n : Int) : ReadsBack t (.int n)
  | float {q : ℚ} (hshape : isFloatText (t.repr q).toList = true)
      (hback : t.parse (t.repr q) = some q) : ReadsBack t (.float q)
  | str (s : String) : ReadsBack t (.str s)
  | arr {items : List Value} (hitems : ∀ v ∈ items, ReadsBack t v) : ReadsBack t (.arr items)
  | obj {members : List (String × Value)} (hnames : (members.map (·.1)).Nodup)
      (hmembers : ∀ m ∈ members, ReadsBack t m.2) : ReadsBack t (.obj members)

theorem isNumberChar_ne (h : isNumberChar c = true) :
    isSpace c = false ∧ c ≠ ']' ∧ c ≠ quote ∧ c ≠ '[' ∧ c ≠ Char.ofNat 123 ∧ c ≠ 'n' ∧ c ≠ 't' ∧
      c ≠ 'f' ∧ c ≠ 'N' ∧ c ≠ 'I' := by
  refine ⟨?_, ?_, ?_, ?_, ?_, ?_, ?_, ?_, ?_, ?_⟩
  · by_contra hspace
    unfold isSpace at hspace
    rw [decide_eq_false_iff_not, not_not] at hspace
    have hc : c = Char.ofNat c.toNat := (Char.ofNat_toNat c).symm
    rcases hspace with hspace | hspace | hspace | hspace <;> rw [hspace] at hc <;>
      rw [hc] at h <;> exact absurd h (by decide)
  all_goals
    rintro rfl
    exact absurd h (by decide)

theorem number_eq_cons (h : isIntText cs = true ∨ isFloatText cs = true) :
    ∃ c cs', cs = c :: cs' ∧ isNumberChar c = true := by
  cases cs with
  | nil => rcases h with h | h <;> exact absurd h (by decide)
  | cons c cs =>
    refine ⟨c, cs, rfl, ?_⟩
    unfold isNumberChar
    by_cases hminus : c = '-'
    · rw [hminus]
      decide
    · have hunsigned : unsigned (c :: cs) = c :: cs := if_neg hminus
      have hdigit : c.isDigit = true := by
        rcases h with h | h
        · unfold isIntText isWhole isDigits at h
          rw [hunsigned, Bool.and_eq_true, Bool.and_eq_true, List.all_eq_true] at h
          exact h.1.2 c List.mem_cons_self
        · unfold isFloatText isWhole isDigits at h
          rw [hunsigned, Bool.and_eq_true, Bool.and_eq_true, Bool.and_eq_true] at h
          by_contra hdigit
          have hnil : (c :: cs).takeWhile Char.isDigit = [] :=
            List.takeWhile_cons_of_neg hdigit
          rw [hnil] at h
          exact absurd h.1.1.1 (by decide)
      rw [hdigit, Bool.true_or]

theorem isIntText_toString (n : Int) : isIntText (toString n).toList = true := by
  obtain ⟨c, cs, hdigits, hc⟩ := toDigits_eq_cons n.natAbs
  have hwhole : isWhole (c :: cs) = true := hdigits ▸ isWhole_toDigits n.natAbs
  rw [toList_toString_int, hdigits]
  by_cases hneg : n < 0
  · rw [if_pos hneg]
    exact hwhole
  · rw [if_neg hneg, List.nil_append]
    show isWhole (if c = '-' then cs else c :: cs) = true
    rw [if_neg (isDigit_ne_minus hc)]
    exact hwhole

theorem isPrefixOf_minusInfinity {token : Chars}
    (h : isIntText token = true ∨ isFloatText token = true) (rest : Chars) :
    "-Infinity".toList.isPrefixOf (token ++ rest) = false := by
  have hchars := isNumberChar_of_number h
  rw [show "-Infinity".toList = '-' :: 'I' :: ['n', 'f', 'i', 'n', 'i', 't', 'y'] from rfl]
  match token with
  | [] => rcases h with h | h <;> exact absurd h (by decide)
  | [c] =>
    by_cases hc : c = '-'
    · -- a sign alone is no number
      rw [hc] at h
      rcases h with h | h <;> exact absurd h (by decide)
    · rw [List.singleton_append, List.isPrefixOf, beq_false_of_ne (Ne.symm hc), Bool.false_and]
  | c :: d :: token =>
    have hd : d ≠ 'I' := by
      rintro rfl
      exact absurd (hchars 'I' (by simp)) (by decide)
    rw [List.cons_append, List.cons_append, List.isPrefixOf, List.isPrefixOf,
      beq_false_of_ne (Ne.symm hd), Bool.false_and, Bool.and_false]

theorem scanValue_number {token : Chars} (h : isIntText token = true ∨ isFloatText token = true)
    (fuel : Nat) (rest : Chars) :
    scanValue t (fuel + 1) (token ++ rest) = scanNumber t (token ++ rest) := by
  have hinfinity := isPrefixOf_minusInfinity h rest
  obtain ⟨c, cs, rfl, hc⟩ := number_eq_cons h
  obtain ⟨-, -, hquote, hbracket, hbrace, hn, ht, hf, hnan, hinf⟩ := isNumberChar_ne hc
  have hword : ∀ {c' : Char} {word : Chars}, c ≠ c' →
      (c' :: word).isPrefixOf (c :: cs ++ rest) = false := by
    intro c' word hne
    rw [List.cons_append, List.isPrefixOf, beq_false_of_ne hne.symm, Bool.false_and]
  rw [List.cons_append] at hinfinity hword ⊢
  rw [scanValue, if_neg hquote, if_neg hbracket, if_neg hbrace]
  unfold scanWord
  rw [show "null".toList = 'n' :: ['u', 'l', 'l'] from rfl, hword hn,
    show "true".toList = 't' :: ['r', 'u', 'e'] from rfl, hword ht,
    show "false".toList = 'f' :: ['a', 'l', 's', 'e'] from rfl, hword hf,
    show "NaN".toList = 'N' :: ['a', 'N'] from rfl, hword hnan,
    show "Infinity".toList = 'I' :: ['n', 'f', 'i', 'n', 'i', 't', 'y'] from rfl, hword hinf,
    hinfinity]
  rfl

theorem dumps_eq_cons {v : Value} (h : ReadsBack t v) :
    ∃ c cs, (dumps t v).toList = c :: cs ∧ isSpace c = false ∧ c ≠ ']' := by
  cases h with
  | null => exact ⟨'n', _, by rw [dumps]; rfl, by decide, by decide⟩
  | bool b =>
    cases b with
    | true => exact ⟨'t', _, by rw [dumps]; rfl, by decide, by decide⟩
    | false => exact ⟨'f', _, by rw [dumps]; rfl, by decide, by decide⟩
  | int n =>
    obtain ⟨c, cs, hcs, hc⟩ := number_eq_cons (.inl (isIntText_toString n))
    exact ⟨c, cs, by rw [dumps, hcs], (isNumberChar_ne hc).1, (isNumberChar_ne hc).2.1⟩
  | float hshape hback =>
    obtain ⟨c, cs, hcs, hc⟩ := number_eq_cons (.inr hshape)
    exact ⟨c, cs, by rw [dumps, hcs], (isNumberChar_ne hc).1, (isNumberChar_ne hc).2.1⟩
  | str s =>
    obtain ⟨cs, hcs, -⟩ := scanString_dumpsString s
    exact ⟨quote, cs, by rw [dumps, hcs], by decide, by decide⟩
  | @arr items hitems =>
    cases items with
    | nil => exact ⟨'[', _, by rw [dumps]; rfl, by decide, by decide⟩
    | cons v vs => exact ⟨'[', _, by rw [dumps, String.toList_append]; rfl, by decide, by decide⟩
  | @obj members hnames hmembers =>
    cases members with
    | nil => exact ⟨Char.ofNat 123, _, by rw [dumps]; rfl, by decide, by decide⟩
    | cons m ms =>
      exact ⟨Char.ofNat 123, _, by rw [dumps, String.toList_append]; rfl, by decide, by decide⟩

theorem skipSpace_dumps {v : Value} (h : ReadsBack t v) (rest : Chars) :
    skipSpace ((dumps t v).toList ++ rest) = (dumps t v).toList ++ rest := by
  obtain ⟨c, cs, hcs, hspace, -⟩ := dumps_eq_cons h
  unfold skipSpace
  rw [hcs, List.cons_append, List.dropWhile_cons_of_neg (by simp [hspace])]

theorem skipSpace_cons (h : isSpace c = false) (cs : Chars) : skipSpace (c :: cs) = c :: cs := by
  unfold skipSpace
  rw [List.dropWhile_cons_of_neg (by simp [h])]

theorem stops_cons (h : isNumberChar c = false) (cs : Chars) : Stops (c :: cs) := by
  rintro c' hc'
  cases hc'
  exact h

/-- A written value is scanned. -/
def Scans (t : FloatText) (v : Value) : Prop :=
  ∀ fuel rest, (dumps t v).toList.length ≤ fuel → Stops rest →
    scanValue t fuel ((dumps t v).toList ++ rest) = some (v, rest)

/-- The elements of an array are scanned. Induction on the elements after the first. -/
theorem scanItems_dumps {vs : List Value} {v : Value} (hback : ∀ v' ∈ v :: vs, ReadsBack t v')
    (hscans : ∀ v' ∈ v :: vs, Scans t v') {fuel : Nat}
    (hfuel : (dumps t v).toList.length + (dumpsItems t vs).toList.length ≤ fuel) (rest : Chars) :
    scanItems t fuel ((dumps t v).toList ++ ((dumpsItems t vs).toList ++ rest)) =
      some (v :: vs, rest) := by
  induction vs generalizing v fuel with
  | nil =>
    have hitems : (dumpsItems t []).toList = [']'] := by
      rw [dumpsItems]
      rfl
    rw [hitems] at hfuel ⊢
    rw [List.length_singleton] at hfuel
    obtain ⟨fuel, rfl⟩ : ∃ n, fuel = n + 1 := ⟨fuel - 1, by omega⟩
    rw [List.singleton_append, scanItems,
      hscans v List.mem_cons_self fuel _ (by omega) (stops_cons (by decide) _)]
    dsimp only
    rw [skipSpace_cons (by decide)]
    rfl
  | cons v' vs ih =>
    have hitems : (dumpsItems t (v' :: vs)).toList =
        ',' :: ' ' :: ((dumps t v').toList ++ (dumpsItems t vs).toList) := by
      rw [dumpsItems, String.toList_append, String.toList_append]
      rfl
    rw [hitems] at hfuel ⊢
    rw [List.length_cons, List.length_cons, List.length_append] at hfuel
    obtain ⟨fuel, rfl⟩ : ∃ n, fuel = n + 1 := ⟨fuel - 1, by omega⟩
    have hfuel' : (dumps t v').toList.length + (dumpsItems t vs).toList.length ≤ fuel := by omega
    have hv' := hback v' (List.mem_cons_of_mem _ List.mem_cons_self)
    have hrest := ih (fun w hw => hback w (List.mem_cons_of_mem _ hw))
      (fun w hw => hscans w (List.mem_cons_of_mem _ hw)) hfuel'
    rw [List.cons_append, List.cons_append, List.append_assoc]
    rw [scanItems, hscans v List.mem_cons_self fuel _ (by omega) (stops_cons (by decide) _)]
    dsimp only
    rw [skipSpace_cons (by decide)]
    dsimp only
    have hspace : skipSpace (' ' :: ((dumps t v').toList ++ ((dumpsItems t vs).toList ++ rest))) =
        (dumps t v').toList ++ ((dumpsItems t vs).toList ++ rest) :=
      skipSpace_dumps hv' ((dumpsItems t vs).toList ++ rest)
    rw [if_neg (by decide), if_pos rfl, hspace, hrest]
    rfl

/-- The members of an object are scanned. Induction on the members after the first. -/
theorem scanMembers_dumps {ms : List (String × Value)} {name : String} {v : Value}
    (hback : ∀ m ∈ (name, v) :: ms, ReadsBack t m.2)
    (hscans : ∀ m ∈ (name, v) :: ms, Scans t m.2) {fuel : Nat}
    (hfuel : (dumps t v).toList.length + (dumpsMembers t ms).toList.length ≤ fuel) (rest : Chars) :
    scanMembers t fuel ((dumpsString name).toList ++
        (':' :: ' ' :: ((dumps t v).toList ++ ((dumpsMembers t ms).toList ++ rest)))) =
      some (((name, v) :: ms).map fun m => (.text m.1, m.2), rest) := by
  have hv : ReadsBack t v := hback (name, v) List.mem_cons_self
  have hscan : Scans t v := hscans (name, v) List.mem_cons_self
  have hspace : ∀ cs, skipSpace (' ' :: ((dumps t v).toList ++ cs)) = (dumps t v).toList ++ cs :=
    fun cs => skipSpace_dumps hv cs
  induction ms generalizing name v fuel with
  | nil =>
    have hmembers : (dumpsMembers t []).toList = [Char.ofNat 125] := by
      rw [dumpsMembers]
      rfl
    obtain ⟨cs, hcs, hname⟩ := scanString_dumpsString name
    rw [hmembers] at hfuel ⊢
    rw [List.length_singleton] at hfuel
    obtain ⟨fuel, rfl⟩ : ∃ n, fuel = n + 1 := ⟨fuel - 1, by omega⟩
    rw [hcs, List.cons_append, scanMembers, if_pos rfl, hname]
    dsimp only
    rw [skipSpace_cons (by decide)]
    dsimp only
    rw [if_pos rfl, hspace, List.singleton_append,
      hscan fuel _ (by omega) (stops_cons (by decide) _)]
    dsimp only
    rw [skipSpace_cons (by decide)]
    rfl
  | cons m ms ih =>
    obtain ⟨name', v'⟩ := m
    have hmembers : (dumpsMembers t ((name', v') :: ms)).toList =
        ',' :: ' ' :: ((dumpsString name').toList ++
          (':' :: ' ' :: ((dumps t v').toList ++ (dumpsMembers t ms).toList))) := by
      rw [dumpsMembers, String.toList_append, String.toList_append, String.toList_append,
        String.toList_append]
      rfl
    obtain ⟨cs, hcs, hname⟩ := scanString_dumpsString name
    obtain ⟨cs', hcs', -⟩ := scanString_dumpsString name'
    rw [hmembers] at hfuel ⊢
    simp only [List.length_cons, List.length_append] at hfuel
    obtain ⟨fuel, rfl⟩ : ∃ n, fuel = n + 1 := ⟨fuel - 1, by omega⟩
    have hfuel' : (dumps t v').toList.length + (dumpsMembers t ms).toList.length ≤ fuel := by omega
    have hv' : ReadsBack t v' := hback (name', v') (List.mem_cons_of_mem _ List.mem_cons_self)
    have hrest := ih (fun m hm => hback m (List.mem_cons_of_mem _ hm))
      (fun m hm => hscans m (List.mem_cons_of_mem _ hm)) hfuel' hv'
      (hscans (name', v') (List.mem_cons_of_mem _ List.mem_cons_self))
      fun cs => skipSpace_dumps hv' cs
    rw [hcs, List.cons_append, scanMembers, if_pos rfl, hname]
    dsimp only
    rw [skipSpace_cons (by decide)]
    dsimp only
    rw [if_pos rfl, hspace]
    simp only [List.cons_append, List.append_assoc]
    rw [hscan fuel _ (by omega) (stops_cons (c := ',') (by decide) _)]
    dsimp only
    rw [skipSpace_cons (c := ',') (by decide)]
    dsimp only
    have hspace' : ∀ cs, skipSpace (' ' :: ((dumpsString name').toList ++ cs)) =
        (dumpsString name').toList ++ cs := by
      intro cs
      rw [hcs']
      exact skipSpace_cons (c := quote) (by decide) _
    rw [if_neg (by decide), if_pos rfl, hspace', hrest]
    rfl

/-- Members with different names are kept as they are. Induction on the members. -/
theorem foldl_setMember {before members : List (PyString × Value)}
    (h : ((before ++ members).map (·.1)).Nodup) :
    members.foldl setMember before = before ++ members := by
  induction members generalizing before with
  | nil => rw [List.append_nil, List.foldl_nil]
  | cons m members ih =>
    have hnew : (before.any fun m' => decide (m'.1 = m.1)) = false := by
      rw [List.any_eq_false]
      intro m' hm'
      rw [decide_eq_true_iff]
      intro heq
      rw [List.map_append, List.nodup_append] at h
      exact h.2.2 m'.1 (List.mem_map_of_mem hm') m.1 (List.mem_map_of_mem List.mem_cons_self) heq
    have hset : setMember before m = before ++ [m] := by
      unfold setMember
      rw [hnew]
      rfl
    rw [List.foldl_cons, hset, ih (by rwa [List.append_assoc]), List.append_assoc]
    rfl

theorem objectOf_eq {members : List (String × Value)} (h : (members.map (·.1)).Nodup) :
    objectOf (members.map fun m => (.text m.1, m.2)) = .obj members := by
  have hnames : ((members.map fun m => ((.text m.1 : PyString), m.2)).map (·.1)).Nodup := by
    have hmap : (members.map fun m => ((.text m.1 : PyString), m.2)).map (·.1) =
        (members.map (·.1)).map PyString.text := by
      rw [List.map_map, List.map_map]
      rfl
    rw [hmap]
    exact List.Pairwise.map PyString.text (fun _ _ hne heq => hne (PyString.text.inj heq)) h
  unfold objectOf
  rw [foldl_setMember (by rwa [List.nil_append]), List.nil_append, Value.ofMembers_text]

theorem scans_token {v : Value} (htext : (dumps t v).toList = c :: cs)
    (hscan : ∀ fuel rest, scanValue t (fuel + 1) (c :: cs ++ rest) = some (v, rest)) :
    Scans t v := by
  intro fuel rest hfuel _
  rw [htext] at hfuel ⊢
  obtain ⟨fuel, rfl⟩ : ∃ n, fuel = n + 1 := ⟨fuel - 1, by simp at hfuel; omega⟩
  exact hscan fuel rest

/-- **A written value is scanned.** Induction on the value. -/
theorem scans_dumps {v : Value} (h : ReadsBack t v) : Scans t v := by
  induction h with
  | null =>
    have htext : (dumps t .null).toList = ['n', 'u', 'l', 'l'] := by
      rw [dumps]
      rfl
    exact scans_token htext fun _ _ => rfl
  | bool b =>
    cases b with
    | true =>
      have htext : (dumps t (.bool true)).toList = ['t', 'r', 'u', 'e'] := by
        rw [dumps]
        rfl
      exact scans_token htext fun _ _ => rfl
    | false =>
      have htext : (dumps t (.bool false)).toList = ['f', 'a', 'l', 's', 'e'] := by
        rw [dumps]
        rfl
      exact scans_token htext fun _ _ => rfl
  | int n =>
    intro fuel rest hfuel hrest
    have hnumber := isIntText_toString n
    obtain ⟨c, cs, hcs, -⟩ := number_eq_cons (.inl hnumber)
    rw [dumps] at hfuel ⊢
    obtain ⟨fuel, rfl⟩ : ∃ n, fuel = n + 1 := ⟨fuel - 1, by rw [hcs] at hfuel; simp at hfuel; omega⟩
    rw [scanValue_number (.inl hnumber)]
    exact scanNumber_int n hrest
  | @float q hshape hback =>
    intro fuel rest hfuel hrest
    obtain ⟨c, cs, hcs, -⟩ := number_eq_cons (.inr hshape)
    have hvalue : floatOf t (t.repr q).toList = .float q := by
      unfold floatOf
      rw [String.ofList_toList, hback]
    rw [dumps] at hfuel ⊢
    obtain ⟨fuel, rfl⟩ : ∃ n, fuel = n + 1 := ⟨fuel - 1, by rw [hcs] at hfuel; simp at hfuel; omega⟩
    rw [scanValue_number (.inr hshape), scanNumber_float hshape hrest, hvalue]
  | str s =>
    obtain ⟨cs, hcs, hscan⟩ := scanString_dumpsString s
    have htext : (dumps t (.str s)).toList = quote :: cs := by
      rw [dumps]
      exact hcs
    refine scans_token htext fun fuel rest => ?_
    rw [List.cons_append, scanValue, if_pos rfl, hscan]
    rfl
  | @arr items hitems ih =>
    cases items with
    | nil =>
      have htext : (dumps t (.arr [])).toList = ['[', ']'] := by
        rw [dumps]
        rfl
      exact scans_token htext fun _ _ => rfl
    | cons v vs =>
      intro fuel rest hfuel _
      have htext : (dumps t (.arr (v :: vs))).toList =
          '[' :: ((dumps t v).toList ++ (dumpsItems t vs).toList) := by
        rw [dumps, String.toList_append, String.toList_append]
        rfl
      have hv := hitems v List.mem_cons_self
      obtain ⟨c, cs, hcs, -, hbracket⟩ := dumps_eq_cons hv
      rw [htext] at hfuel ⊢
      rw [List.length_cons, List.length_append] at hfuel
      obtain ⟨fuel, rfl⟩ : ∃ n, fuel = n + 1 := ⟨fuel - 1, by omega⟩
      have hfuel' : (dumps t v).toList.length + (dumpsItems t vs).toList.length ≤ fuel := by omega
      have hscan := scanItems_dumps hitems ih hfuel' rest
      rw [List.cons_append, List.append_assoc, scanValue, if_neg (by decide), if_pos rfl,
        skipSpace_dumps hv, hcs, List.cons_append]
      rw [hcs, List.cons_append] at hscan
      dsimp only
      -- the first item is no closing bracket
      rw [if_neg hbracket, hscan]
      rfl
  | @obj members hnames hmembers ih =>
    cases members with
    | nil =>
      have htext : (dumps t (.obj [])).toList = [Char.ofNat 123, Char.ofNat 125] := by
        rw [dumps]
        rfl
      exact scans_token htext fun _ _ => rfl
    | cons m ms =>
      obtain ⟨name, v⟩ := m
      intro fuel rest hfuel _
      have htext : (dumps t (.obj ((name, v) :: ms))).toList =
          Char.ofNat 123 :: ((dumpsString name).toList ++
            (':' :: ' ' :: ((dumps t v).toList ++ (dumpsMembers t ms).toList))) := by
        rw [dumps, String.toList_append, String.toList_append, String.toList_append,
          String.toList_append]
        rfl
      obtain ⟨cs, hcs, -⟩ := scanString_dumpsString name
      rw [htext] at hfuel ⊢
      simp only [List.length_cons, List.length_append] at hfuel
      obtain ⟨fuel, rfl⟩ : ∃ n, fuel = n + 1 := ⟨fuel - 1, by omega⟩
      have hfuel' : (dumps t v).toList.length + (dumpsMembers t ms).toList.length ≤ fuel := by omega
      have hscan := scanMembers_dumps hmembers ih hfuel' rest
      simp only [List.cons_append, List.append_assoc]
      rw [hcs, List.cons_append] at hscan ⊢
      rw [scanValue, if_neg (by decide), if_neg (by decide), if_pos rfl,
        skipSpace_cons (by decide)]
      dsimp only
      -- a repeated name would overwrite its first member
      rw [if_neg (by decide), hscan, ← objectOf_eq hnames]
      rfl

/-- **Reading what has been written** gives the value back. -/
theorem loads_dumps {v : Value} (h : ReadsBack t v) : loads t (dumps t v).toList = some v := by
  have hspace := skipSpace_dumps h []
  have hscan := scans_dumps h (dumps t v).toList.length [] le_rfl nofun
  rw [List.append_nil] at hspace hscan
  unfold loads
  rw [hspace, hscan]
  rfl

end NocIq.Json
