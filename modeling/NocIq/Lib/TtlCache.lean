import Mathlib.Algebra.Order.Group.Basic

/-!
# TtlCache — entries that expire

A cache maps keys to values, each with the time after which it counts as absent. Looking an entry up
drops it if it has expired, so that what a lookup sees, `live`, is a function of the time and of the
cache before it, and a lookup changes nothing of it.

* **`get_fst`**, **`live_get`** — what a lookup returns, and what it leaves.
* **`live_set`**, **`live_invalidate`** — what writing and invalidating a key leave.
* **`live_of_later`** — what is alive later is alive now.
* **`Meta.isExpired_iff`** — a lookup that drops nothing says whether the value has expired.
-/

namespace TtlCache

variable {κ ν τ : Type} [DecidableEq κ] [LinearOrder τ]

/-- A value, and the last time at which it may be used. -/
structure Entry (ν τ : Type) where
  value : ν
  expiresAt : τ

abbrev Cache (κ ν τ : Type) := κ → Option (Entry ν τ)

/-- The value of a key at `now`. -/
def live (now : τ) (cache : Cache κ ν τ) (k : κ) : Option ν :=
  match cache k with
  | none => none
  | some entry => if entry.expiresAt < now then none else some entry.value

def get (now : τ) (k : κ) (cache : Cache κ ν τ) : Option ν × Cache κ ν τ :=
  match cache k with
  | none => (none, cache)
  | some entry =>
    if entry.expiresAt < now then (none, Function.update cache k none)
    else (some entry.value, cache)

def set (expiresAt : τ) (k : κ) (value : ν) (cache : Cache κ ν τ) : Cache κ ν τ :=
  Function.update cache k (some { value, expiresAt })

def invalidate (k : κ) (cache : Cache κ ν τ) : Cache κ ν τ := Function.update cache k none

/-- Invalidating all keys of a kind. -/
def invalidateWhere (gone : κ → Bool) (cache : Cache κ ν τ) : Cache κ ν τ := fun k =>
  if gone k then none else cache k

variable {now : τ} {cache : Cache κ ν τ} {k k' : κ} {v : ν}

theorem live_update_of_ne (h : k' ≠ k) (entry : Option (Entry ν τ)) :
    live now (Function.update cache k entry) k' = live now cache k' := by
  unfold live
  rw [Function.update_of_ne h]

theorem get_fst : (get now k cache).1 = live now cache k := by
  unfold get live
  cases cache k with
  | none => rfl
  | some entry =>
    dsimp only
    split
    · rfl
    · rfl

theorem live_get : live now (get now k cache).2 k' = live now cache k' := by
  unfold get
  cases hentry : cache k with
  | none => rfl
  | some entry =>
    dsimp only
    split
    · rename_i hexpired
      by_cases hk : k' = k
      · subst hk
        show live now (Function.update cache k' none) k' = live now cache k'
        unfold live
        rw [Function.update_self, hentry]
        exact (if_pos hexpired).symm
      · exact live_update_of_ne hk none
    · rfl

theorem live_set {expiresAt : τ} {value : ν}
    (h : live now (set expiresAt k value cache) k' = some v) :
    (k' = k ∧ v = value) ∨ live now cache k' = some v := by
  by_cases hk : k' = k
  · subst hk
    left
    unfold live set at h
    rw [Function.update_self] at h
    dsimp only at h
    split at h
    · cases h
    · exact ⟨rfl, (Option.some.inj h).symm⟩
  · exact .inr ((live_update_of_ne hk _).symm.trans h)

theorem live_invalidate (h : live now (invalidate k cache) k' = some v) :
    k' ≠ k ∧ live now cache k' = some v := by
  by_cases hk : k' = k
  · subst hk
    unfold live invalidate at h
    rw [Function.update_self] at h
    cases h
  · exact ⟨hk, (live_update_of_ne hk none).symm.trans h⟩

omit [DecidableEq κ] in
theorem live_of_later {later : τ} (hle : now ≤ later) (h : live later cache k = some v) :
    live now cache k = some v := by
  unfold live at h ⊢
  cases hentry : cache k with
  | none =>
    rw [hentry] at h
    cases h
  | some entry =>
    rw [hentry] at h
    dsimp only at h ⊢
    split at h
    · cases h
    · rename_i halive
      rw [if_neg fun hexpired => halive (lt_of_lt_of_le hexpired hle)]
      exact h

/-! ## Values with their age -/

/-- A value, how long ago it was written, and how long it may still be used. -/
structure Meta (ν τ : Type) where
  value : ν
  age : τ
  remaining : τ

/-- The entry of a key, expired or not. -/
def getWithMeta [Sub τ] [Zero τ] (ttl now : τ) (k : κ) (cache : Cache κ ν τ) : Option (Meta ν τ) :=
  (cache k).map fun entry =>
    { value := entry.value
      age := now - (entry.expiresAt - ttl)
      remaining := max 0 (entry.expiresAt - now) }

def Meta.isExpired [Zero τ] (m : Meta ν τ) : Bool := decide (m.remaining ≤ 0)

section Age

variable [AddCommGroup τ] [IsOrderedAddMonoid τ] {ttl : τ} {m : Meta ν τ}

omit [DecidableEq κ] [IsOrderedAddMonoid τ] in
theorem getWithMeta_value (ttl now : τ) :
    (getWithMeta ttl now k cache).map Meta.value = (cache k).map Entry.value := by
  unfold getWithMeta
  rw [Option.map_map]
  rfl

omit [DecidableEq κ] in
/-- **Expired** is what is not used strictly before its end. -/
theorem Meta.isExpired_iff {entry : Entry ν τ} (hentry : cache k = some entry)
    (h : getWithMeta ttl now k cache = some m) :
    m.isExpired = true ↔ entry.expiresAt ≤ now := by
  unfold getWithMeta at h
  rw [hentry] at h
  obtain rfl := Option.some.inj h
  unfold Meta.isExpired
  simp

end Age

end TtlCache
