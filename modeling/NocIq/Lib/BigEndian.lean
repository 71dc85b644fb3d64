import Mathlib.Data.List.Basic
import Mathlib.Data.Nat.Digits.Defs

/-!
# BigEndian — a number in bytes, the most significant first

* **`value_inj`** — as many bytes, and the same number: the same bytes.
* **`value_cons`** — what the first byte stands for.
-/

namespace BigEndian

/-- `int.from_bytes(bytes, byteorder="big", signed=False)`. -/
def value (bytes : List UInt8) : ℕ := bytes.foldl (fun n byte => n * 256 + byte.toNat) 0

/-- The digits of the number, the least significant first. -/
def digits (bytes : List UInt8) : List ℕ := (bytes.map UInt8.toNat).reverse

variable {bytes bytes' : List UInt8}

theorem length_digits : (digits bytes).length = bytes.length := by
  unfold digits
  rw [List.length_reverse, List.length_map]

theorem digits_lt : ∀ digit ∈ digits bytes, digit < 256 := by
  intro digit hdigit
  obtain ⟨byte, -, rfl⟩ := List.mem_map.mp (List.mem_reverse.mp hdigit)
  exact byte.toNat_lt

theorem digits_inj (h : digits bytes = digits bytes') : bytes = bytes' :=
  List.map_injective_iff.mpr (fun _ _ => UInt8.toNat_inj.mp) (List.reverse_injective h)

theorem value_eq_ofDigits (bytes : List UInt8) : value bytes = Nat.ofDigits 256 (digits bytes) := by
  unfold value digits
  rw [Nat.ofDigits_eq_foldr, List.foldr_reverse, List.foldl_map]
  congr 1
  funext n byte
  rw [Nat.cast_id, Nat.mul_comm, Nat.add_comm]

theorem value_lt (bytes : List UInt8) : value bytes < 256 ^ bytes.length := by
  rw [value_eq_ofDigits, ← length_digits]
  exact Nat.ofDigits_lt_base_pow_length (by decide) digits_lt

/-- **The number determines the bytes**, if their number is known. -/
theorem value_inj (hlength : bytes.length = bytes'.length) (h : value bytes = value bytes') :
    bytes = bytes' := by
  rw [value_eq_ofDigits, value_eq_ofDigits] at h
  refine digits_inj (Nat.ofDigits_inj_of_len_eq (by decide) ?_ digits_lt digits_lt h)
  rw [length_digits, length_digits, hlength]

/-- **The first byte** is worth the most. -/
theorem value_cons (byte : UInt8) (bytes : List UInt8) :
    value (byte :: bytes) = byte.toNat * 256 ^ bytes.length + value bytes := by
  have hdigits : digits (byte :: bytes) = digits bytes ++ [byte.toNat] := by
    unfold digits
    rw [List.map_cons, List.reverse_cons]
  rw [value_eq_ofDigits, value_eq_ofDigits, hdigits, Nat.ofDigits_append, Nat.ofDigits_singleton,
    length_digits, Nat.add_comm, Nat.mul_comm]

theorem value_cons_lt_iff (byte : UInt8) (bytes : List UInt8) :
    value (byte :: bytes) < 128 * 256 ^ bytes.length ↔ byte.toNat < 128 := by
  have hlt := value_lt bytes
  rw [value_cons]
  constructor
  · intro h
    by_contra hno
    have hle := Nat.mul_le_mul_right (256 ^ bytes.length) (Nat.not_lt.mp hno)
    omega
  · intro h
    have hle := Nat.mul_le_mul_right (256 ^ bytes.length) (Nat.succ_le_of_lt h)
    rw [Nat.succ_mul] at hle
    omega

end BigEndian
