import Mathlib.Data.List.Sort
import Mathlib.Data.String.Basic
import NocIq.Job.Operations
import NocIq.Lib.Decimal

/-!
# NocIq — canonical contract requests

The two passes of `app/services/contracts/canonicalization.py` and its `CanonicalRequestBuilder`.
`Decimal` is read and normalized as Python 3.12 does in the default context, whose traps are the
signals of `Lib/Decimal.lean`.
-/

namespace NocIq.Contract

/-- A value of a request; `φ` are the floats. The keys of an object are different. -/
inductive Value (φ : Type) where
  | null
  | bool (b : Bool)
  | int (n : Int)
  | float (x : φ)
  | str (text : String)
  | arr (items : List (Value φ))
  | obj (members : List (String × Value φ))
  deriving Repr

/-! ## Numbers -/

/-- The zeros of the decimal digits of Unicode 15, each followed by the other nine. -/
def digitZeros : List Nat :=
  [48, 1632, 1776, 1984, 2406, 2534, 2662, 2790, 2918, 3046, 3174, 3302, 3430, 3558, 3664, 3792,
    3872, 4160, 4240, 6112, 6160, 6470, 6608, 6784, 6800, 6992, 7088, 7232, 7248, 42528, 43216,
    43264, 43472, 43504, 43600, 44016, 65296, 66720, 68912, 69734, 69872, 69942, 70096, 70384,
    70736, 70864, 71248, 71360, 71472, 71904, 72016, 72784, 73040, 73120, 73552, 92768, 92864,
    93008, 120782, 120792, 120802, 120812, 120822, 123200, 123632, 124112, 125264, 130032]

def digitValue (c : Char) : Option Nat :=
  (digitZeros.find? fun first => decide (first ≤ c.toNat ∧ c.toNat < first + 10)).map fun first =>
    c.toNat - first

def decimalContext : Decimal.Context where
  precision := 28
  emax := 999999
  emin := -999999

/-- `Decimal(value)`; `none` is the `InvalidOperation`. -/
def toDecimal (value : String) : Option Numeral :=
  Numeral.parse digitValue ((strip value).toList.filter fun c => decide (c ≠ '_'))

def rstrip (c : Char) (cs : List Char) : List Char := (cs.reverse.dropWhile (· = c)).reverse

def stripTrailingZeros (value : String) : String :=
  if '.' ∈ value.toList then String.ofList (rstrip '.' (rstrip '0' value.toList)) else value

/-- `_strip_trailing_zeros(str(Decimal(value).normalize()))`; `none` is an exception. -/
def normalizeText (value : String) : Option String :=
  ((toDecimal value).bind (Numeral.normalize decimalContext)).map fun n => stripTrailingZeros n.text

/-- Python's floats. The `str` of a finite one is a number that `Decimal` reads and normalizes. -/
structure Floats (φ : Type) where
  isFinite : φ → Bool
  str : φ → String
  str_finite (x : φ) (h : isFinite x = true) :
    ∃ d, toDecimal (str x) = some (.finite d) ∧ (d.normalize decimalContext).isSome = true

section Passes

variable {φ : Type} (floats : Floats φ)

/-- The `else` of a finite float is never reached. -/
def normalizeNumeric : Value φ → Value φ
  | .float x =>
    if floats.isFinite x then
      match normalizeText (floats.str x) with
      | some text => .str text
      | none => .float x
    else .float x
  | .str text => .str ((normalizeText text).getD text)
  | v => v

/-! ## The two passes -/

/-- `None`, `""`, `{}` and `[]`. -/
def Value.isEmpty : Value φ → Bool
  | .null => true
  | .str text => decide (text = "")
  | .arr items => items.isEmpty
  | .obj members => members.isEmpty
  | .bool _ | .int _ | .float _ => false

mutual

/-- `_remove_nulls_and_empty`. -/
def removeNullsAndEmpty : Value φ → Value φ
  | .obj members => .obj (removeMembers members)
  | .arr items => .arr (removeItems items)
  | v => v

def removeItems : List (Value φ) → List (Value φ)
  | [] => []
  | v :: vs => removeNullsAndEmpty v :: removeItems vs

def removeMembers : List (String × Value φ) → List (String × Value φ)
  | [] => []
  | (key, v) :: ms =>
    if v.isEmpty then removeMembers ms else (key, removeNullsAndEmpty v) :: removeMembers ms

end

def sortMembers (members : List (String × Value φ)) : List (String × Value φ) :=
  members.insertionSort fun m m' => m.1 ≤ m'.1

mutual

/-- `_canonicalize`, with what it does to a value that is no object and no list. Members and items
are normalized before they are canonicalized, which such a value is twice. The members are sorted
at the end. -/
def canonicalizeWith (leaf : Value φ → Value φ) : Value φ → Value φ
  | .obj members => .obj (sortMembers (canonicalizeMembers members))
  | .arr items => .arr (canonicalizeItems items)
  | v => leaf v

def canonicalizeItems : List (Value φ) → List (Value φ)
  | [] => []
  | v :: vs =>
    canonicalizeWith (fun v => normalizeNumeric floats (normalizeNumeric floats v)) v ::
      canonicalizeItems vs

def canonicalizeMembers : List (String × Value φ) → List (String × Value φ)
  | [] => []
  | (key, v) :: ms =>
    if v.isEmpty then canonicalizeMembers ms
    else
      (key, canonicalizeWith (fun v => normalizeNumeric floats (normalizeNumeric floats v)) v) ::
        canonicalizeMembers ms

end

/-- `_canonicalize`. -/
def canonicalize : Value φ → Value φ := canonicalizeWith floats (normalizeNumeric floats)

/-- Neither a list nor an object. -/
def Value.isLeaf : Value φ → Bool
  | .arr _ | .obj _ => false
  | .null | .bool _ | .int _ | .float _ | .str _ => true

theorem canonicalizeWith_leaf (leaf : Value φ → Value φ) {v : Value φ} (h : v.isLeaf = true) :
    canonicalizeWith floats leaf v = leaf v := by
  cases v with
  | arr | obj => cases h
  | null | bool | int | float | str => simp [canonicalizeWith]

theorem removeNullsAndEmpty_leaf {v : Value φ} (h : v.isLeaf = true) :
    removeNullsAndEmpty v = v := by
  cases v with
  | arr | obj => cases h
  | null | bool | int | float | str => simp [removeNullsAndEmpty]

theorem isLeaf_normalizeNumeric {v : Value φ} (h : v.isLeaf = true) :
    (normalizeNumeric floats v).isLeaf = true := by
  unfold normalizeNumeric
  split
  · split
    · split <;> rfl
    · rfl
  · rfl
  · exact h

end Passes

/-! ## The builder -/

/-- The floats, the setting `CONTRACT_CANONICAL_SALT`, `json.dumps` with sorted keys and without
blanks, and SHA-256 in hex. -/
structure Env (φ : Type) where
  floats : Floats φ
  salt : String
  dumps : Value φ → String
  sha256 : String → String

structure CanonicalRequestBuilder (φ : Type) where
  salt : String
  canonical : Option (Value φ) := none

namespace CanonicalRequestBuilder

variable {φ : Type} (env : Env φ)

/-- `salt or CONTRACT_CANONICAL_SALT`. -/
def new (salt : Option String) : CanonicalRequestBuilder φ where
  salt :=
    match salt with
    | none => env.salt
    | some salt => if salt = "" then env.salt else salt

def build (params : List (String × Value φ)) (builder : CanonicalRequestBuilder φ) :
    Value φ × CanonicalRequestBuilder φ :=
  let cleaned := removeNullsAndEmpty (.obj params)
  let canonical := canonicalize env.floats cleaned
  (canonical, { builder with canonical := some canonical })

/-- The error is the `RuntimeError`. -/
def hash (builder : CanonicalRequestBuilder φ) : Except String String :=
  match builder.canonical with
  | none => .error "Call build() before hash()"
  | some canonical => .ok (env.sha256 (builder.salt ++ env.dumps canonical))

def verify (params : List (String × Value φ)) (expectedHash : String)
    (builder : CanonicalRequestBuilder φ) : Except String Bool × CanonicalRequestBuilder φ :=
  let (_, builder) := builder.build env params
  ((builder.hash env).map fun digest => decide (digest = expectedHash), builder)

/-- **A hash** is there after `build`, and depends on the salt and on the canonical form. -/
theorem hash_build (params : List (String × Value φ)) (builder : CanonicalRequestBuilder φ) :
    (builder.build env params).2.hash env =
      .ok (env.sha256 (builder.salt ++ env.dumps (builder.build env params).1)) :=
  rfl

/-- Params of one canonical form have one hash, which `verify` accepts. -/
theorem verify_of_build_eq {params params' : List (String × Value φ)}
    {builder builder' : CanonicalRequestBuilder φ} (hsalt : builder.salt = builder'.salt)
    (hform : (builder.build env params).1 = (builder'.build env params').1) :
    (builder.build env params).2.hash env = (builder'.build env params').2.hash env ∧
      ∀ digest, (builder.build env params).2.hash env = .ok digest →
        (builder'.verify env params' digest).1 = .ok true := by
  have hhash : (builder.build env params).2.hash env =
      (builder'.build env params').2.hash env := by
    rw [hash_build, hash_build, hsalt, hform]
  refine ⟨hhash, ?_⟩
  intro digest hdigest
  rw [hhash] at hdigest
  unfold verify
  dsimp only
  rw [hdigest]
  show Except.ok (decide (digest = digest)) = .ok true
  rw [decide_eq_true rfl]

end CanonicalRequestBuilder

end NocIq.Contract
