import Mathlib.Data.Rat.Defs
import NocIq.Sla.Calculator

/-!
# NocIq — JSON values and `json.dumps`

The values `json.loads` gives, and the text Python's `json.dumps` (with its default
`ensure_ascii`) writes for the values the modelled code serialises: strings, integers, `None`, and
flat objects. `json.loads` takes more than JSON: floats that are no numbers, and strings with a
surrogate that belongs to no pair.
-/

namespace NocIq.Json

/-- The floats that are no numbers. -/
inductive NonFinite where
  | nan
  | infinity
  | minusInfinity
  deriving DecidableEq, Repr

/-- A Python `float`. -/
inductive PyFloat where
  | finite (q : ℚ)
  | nonFinite (x : NonFinite)
  deriving DecidableEq, Repr

def isHighSurrogate (n : Nat) : Bool := decide (55296 ≤ n ∧ n ≤ 56319)

def isLowSurrogate (n : Nat) : Bool := decide (56320 ≤ n ∧ n ≤ 57343)

def isSurrogate (n : Nat) : Bool := isHighSurrogate n || isLowSurrogate n

/-- A string that is no text, since one of its code points is a surrogate. -/
structure LoneText where
  points : List Nat
  lone : points.any isSurrogate = true
  deriving DecidableEq, Repr

/-- A Python `str`. -/
inductive PyString where
  | text (s : String)
  | lone (text : LoneText)
  deriving DecidableEq, Repr

def PyString.ofPoints (points : List Nat) : PyString :=
  if h : points.any isSurrogate = true then .lone ⟨points, h⟩
  else .text (String.ofList (points.map Char.ofNat))

def PyString.text? : PyString → Option String
  | .text s => some s
  | .lone _ => none

/-- A JSON value. The members of an object have different names: `json.loads` keeps the last of
those with one name. -/
inductive Value where
  | null
  | bool (b : Bool)
  | int (n : Int)
  | float (q : ℚ)
  | nonFinite (x : NonFinite)
  | str (s : String)
  | loneStr (text : LoneText)
  | arr (items : List Value)
  | obj (members : List (String × Value))
  /-- an object one of whose names is no text -/
  | loneObj (members : List (PyString × Value))
  deriving Repr

/-- `type(value).__name__`. -/
def Value.typeName : Value → String
  | .null => "NoneType"
  | .bool _ => "bool"
  | .int _ => "int"
  | .float _ | .nonFinite _ => "float"
  | .str _ | .loneStr _ => "str"
  | .arr _ => "list"
  | .obj _ | .loneObj _ => "dict"

def Value.ofFloat : PyFloat → Value
  | .finite q => .float q
  | .nonFinite x => .nonFinite x

def Value.ofString : PyString → Value
  | .text s => .str s
  | .lone text => .loneStr text

def Value.ofMembers (members : List (PyString × Value)) : Value :=
  match members.mapM fun m => m.1.text?.map fun name => (name, m.2) with
  | some members => .obj members
  | none => .loneObj members

/-- The members of a dictionary that a text names. -/
def Value.dict? : Value → Option (List (String × Value))
  | .obj members => some members
  | .loneObj members => some (members.filterMap fun m => m.1.text?.map fun name => (name, m.2))
  | _ => none

theorem Value.ofMembers_text (members : List (String × Value)) :
    Value.ofMembers (members.map fun m => (.text m.1, m.2)) = .obj members := by
  have hmapM : (members.map fun m => ((.text m.1 : PyString), m.2)).mapM
      (fun m => m.1.text?.map fun name => (name, m.2)) = some members := by
    induction members with
    | nil => rfl
    | cons m members ih =>
      rw [List.map_cons, List.mapM_cons, ih]
      rfl
  unfold Value.ofMembers
  rw [hmapM]

def hexDigit (n : Nat) : Char := if n < 10 then Char.ofNat (48 + n) else Char.ofNat (87 + n)

/-- `\uXXXX` of one UTF-16 code unit. -/
def unicodeEscape (n : Nat) : String :=
  String.ofList [Char.ofNat 92, Char.ofNat 117, hexDigit (n / 4096 % 16), hexDigit (n / 256 % 16),
    hexDigit (n / 16 % 16), hexDigit (n % 16)]

/-- A character inside a JSON string: the short escapes, `\u` escapes for everything outside
printable ASCII (a surrogate pair above the basic plane), and itself otherwise. -/
def escapeChar (c : Char) : String :=
  let n := c.toNat
  if n = 34 then "\\\"" else if n = 92 then "\\\\"
  else if n = 8 then "\\b" else if n = 9 then "\\t" else if n = 10 then "\\n"
  else if n = 12 then "\\f" else if n = 13 then "\\r"
  else if 32 ≤ n ∧ n ≤ 126 then String.singleton c
  else if n < 65536 then unicodeEscape n
  else unicodeEscape (55296 + (n - 65536) / 1024) ++ unicodeEscape (56320 + (n - 65536) % 1024)

def dumpsString (s : String) : String := "\"" ++ String.join (s.toList.map escapeChar) ++ "\""

/-- A surrogate has a `\u` escape of its own. -/
def dumpsPoint (n : Nat) : String :=
  if isSurrogate n then unicodeEscape n else escapeChar (Char.ofNat n)

def PyString.dumps : PyString → String
  | .text s => dumpsString s
  | .lone s => "\"" ++ String.join (s.points.map dumpsPoint) ++ "\""

/-- The constants that `json.dumps` writes, and `json.loads` takes, although JSON has none. -/
def NonFinite.text : NonFinite → String
  | .nan => "NaN"
  | .infinity => "Infinity"
  | .minusInfinity => "-Infinity"

def dumpsOption {α : Type} (dumps : α → String) : Option α → String
  | none => "null"
  | some a => dumps a

/-- An object whose member values are already serialised. -/
def dumpsObject (members : List (String × String)) : String :=
  "\x7b" ++ ", ".intercalate (members.map fun m => dumpsString m.1 ++ ": " ++ m.2) ++ "\x7d"

/-- `json.dumps(result.model_dump())`. -/
def dumpsSLAResult (r : SLAResult) : String :=
  dumpsObject
    [ ("id", dumpsOption toString r.id), ("outage_id", dumpsString r.outageId),
      ("status", dumpsString r.status.value), ("mttr_minutes", toString r.mttrMinutes),
      ("threshold_minutes", toString r.thresholdMinutes), ("amount", toString r.amount),
      ("payment_type", dumpsString r.paymentType.value), ("rating", dumpsString r.rating.value),
      ("policy_version", dumpsString r.policyVersion),
      ("threshold_source", dumpsString r.thresholdSource),
      ("reason_code", dumpsOption dumpsString r.reasonCode),
      ("decision_trace", dumpsOption dumpsString r.decisionTrace) ]

end NocIq.Json
