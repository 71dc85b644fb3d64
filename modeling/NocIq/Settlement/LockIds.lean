import NocIq.Lib.BigEndian
import NocIq.Settlement.Exclusion

/-!
# NocIq — the ids of advisory locks

`app/core/lock.py`: a lock key is hashed, and the first eight bytes of the digest, read as a number
without a sign, are the id of the lock. PostgreSQL takes a number with a sign, of as many bytes.

* **`lockId_inj`** — keys with one id have digests with the same first bytes.
* **`advisoryLockWith_unusable`** — half of the ids are too large, and fail in both functions.
* **`lock_id_usable_iff`** — which keys can be locked.
-/

namespace NocIq

namespace AdvisoryLock

/-- `hashlib.sha256(key.encode("utf-8")).digest()`. -/
structure Sha256 where
  digest : String → List UInt8
  length_digest : ∀ key, (digest key).length = 32

/-! ## The database -/

/-- `bigint`. -/
def IsBigint (id : Int) : Prop := -2 ^ 63 ≤ id ∧ id ≤ 2 ^ 63 - 1

instance (id : Int) : Decidable (IsBigint id) := inferInstanceAs (Decidable (_ ∧ _))

/-- The advisory locks and the transactions that hold them. -/
abbrev Locks (τ : Type) := Int → Option τ

/-- What a function of the module raises; the body of the `with` may raise something else. -/
inductive LockError (ε : Type) where
  /-- the statement fails: its argument is no `bigint` -/
  | outOfRange
  | concurrencyLockError (message : String)
  | body (e : ε)
  deriving DecidableEq, Repr

/-- `SELECT pg_try_advisory_xact_lock(:lock_id)`. A transaction may take its own lock again. -/
def tryAdvisoryXactLock {τ : Type} [DecidableEq τ] (transaction : τ) (id : Int)
    (locks : Locks τ) : Option (Bool × Locks τ) :=
  if IsBigint id then
    if locks id = none ∨ locks id = some transaction then
      some (true, Function.update locks id (some transaction))
    else some (false, locks)
  else none

/-! ## The two functions -/

section Functions

variable {τ ε α : Type} [DecidableEq τ] (sha256 : Sha256)

/-- `with advisory_lock…(db, lock_key): body`. The lock is kept until the transaction ends. -/
def advisoryLockWith (refusal : String → String) (transaction : τ) (lockKey : String)
    (body : Locks τ → Except ε α) (locks : Locks τ) : Except (LockError ε) α :=
  let lockId := lockIdFromKey sha256.digest lockKey
  match tryAdvisoryXactLock transaction lockId locks with
  | none => .error .outOfRange
  | some (false, _) => .error (.concurrencyLockError (refusal lockKey))
  | some (true, locks) =>
    match body locks with
    | .ok a => .ok a
    | .error e => .error (.body e)

/-- `timeout_seconds` is not used. -/
def advisoryLock (transaction : τ) (lockKey : String) (body : Locks τ → Except ε α)
    (locks : Locks τ) : Except (LockError ε) α :=
  advisoryLockWith sha256
    (fun lockKey => s!"Could not acquire lock for '{lockKey}'. Another operation is in progress.")
    transaction lockKey body locks

def advisoryLockNowait (transaction : τ) (lockKey : String) (body : Locks τ → Except ε α)
    (locks : Locks τ) : Except (LockError ε) α :=
  advisoryLockWith sha256 lockedMessage transaction lockKey body locks

/-- The id of the key is one that PostgreSQL takes, no other key has it unless the first eight bytes
of their digests agree, and neither function ever fails with an id out of range. -/
structure Usable (lockKey : String) : Prop where
  inRange : IsBigint (lockIdFromKey sha256.digest lockKey)
  distinct : ∀ other, lockIdFromKey sha256.digest other = lockIdFromKey sha256.digest lockKey →
    (sha256.digest other).take 8 = (sha256.digest lockKey).take 8
  advisoryLock : ∀ {τ ε α : Type} [DecidableEq τ] (transaction : τ) (body : Locks τ → Except ε α)
    (locks : Locks τ), advisoryLock sha256 transaction lockKey body locks ≠ .error .outOfRange
  advisoryLockNowait : ∀ {τ ε α : Type} [DecidableEq τ] (transaction : τ)
    (body : Locks τ → Except ε α) (locks : Locks τ),
    advisoryLockNowait sha256 transaction lockKey body locks ≠ .error .outOfRange

end Functions

/-! ## Ids -/

section Ids

variable {sha256 : Sha256} {lockKey : String}

theorem lockIdFromKey_eq (sha256 : Sha256) (lockKey : String) :
    lockIdFromKey sha256.digest lockKey = BigEndian.value ((sha256.digest lockKey).take 8) := rfl

theorem length_take_digest (sha256 : Sha256) (lockKey : String) :
    ((sha256.digest lockKey).take 8).length = 8 := by
  rw [List.length_take, sha256.length_digest]
  rfl

/-- **Keys with one id** have digests that begin alike. -/
theorem lockId_inj {other : String}
    (h : lockIdFromKey sha256.digest other = lockIdFromKey sha256.digest lockKey) :
    (sha256.digest other).take 8 = (sha256.digest lockKey).take 8 := by
  refine BigEndian.value_inj ?_ h
  rw [length_take_digest, length_take_digest]

/-- The digest begins with a byte whose first bit is not set. -/
def FirstBitUnset (bytes : List UInt8) : Prop := ∀ byte ∈ bytes.head?, byte.toNat < 128

theorem isBigint_lockId_iff (sha256 : Sha256) (lockKey : String) :
    IsBigint (lockIdFromKey sha256.digest lockKey) ↔ FirstBitUnset (sha256.digest lockKey) := by
  have hlength := length_take_digest sha256 lockKey
  have hrange : IsBigint (lockIdFromKey sha256.digest lockKey) ↔
      lockIdFromKey sha256.digest lockKey < 128 * 256 ^ 7 := by
    unfold IsBigint
    omega
  rw [hrange, lockIdFromKey_eq]
  cases hdigest : sha256.digest lockKey with
  | nil =>
    have hnone := sha256.length_digest lockKey
    rw [hdigest] at hnone
    cases hnone
  | cons byte bytes =>
    rw [hdigest, List.take_succ_cons, List.length_cons] at hlength
    have hbyte := BigEndian.value_cons_lt_iff byte (bytes.take 7)
    rw [Nat.succ.inj hlength] at hbyte
    rw [List.take_succ_cons, hbyte]
    unfold FirstBitUnset
    rw [List.head?_cons]
    simp only [Option.mem_some_iff, forall_eq']

/-! ## Locks -/

section Locks

variable {τ ε α : Type} [DecidableEq τ] (refusal : String → String) (transaction : τ)
  (body : Locks τ → Except ε α) (locks : Locks τ)

theorem advisoryLockWith_usable (h : IsBigint (lockIdFromKey sha256.digest lockKey)) :
    advisoryLockWith sha256 refusal transaction lockKey body locks ≠ .error .outOfRange := by
  unfold advisoryLockWith tryAdvisoryXactLock
  simp only [if_pos h]
  split
  · rename_i hnone
    split at hnone
    · cases hnone
    · cases hnone
  · nofun
  · split
    · nofun
    · nofun

/-- **With one that is not**, the statement fails before the body runs. -/
theorem advisoryLockWith_unusable (h : ¬ IsBigint (lockIdFromKey sha256.digest lockKey)) :
    advisoryLockWith sha256 refusal transaction lockKey body locks = .error .outOfRange := by
  unfold advisoryLockWith tryAdvisoryXactLock
  simp only [if_neg h]

end Locks

/-- **The lock ids**, for every key and every value of the digests: the key can be locked exactly if
the first bit of its digest is not set. -/
theorem lock_id_usable_iff (sha256 : Sha256) (lockKey : String) :
    Usable sha256 lockKey ↔ FirstBitUnset (sha256.digest lockKey) := by
  rw [← isBigint_lockId_iff]
  constructor
  · exact Usable.inRange
  · intro h
    refine ⟨h, fun _ => lockId_inj, ?_, ?_⟩
    · intro τ ε α _ transaction body locks
      exact advisoryLockWith_usable _ transaction body locks h
    · intro τ ε α _ transaction body locks
      exact advisoryLockWith_usable _ transaction body locks h

end Ids

/-! ### A digest of ones -/

def allOnes : Sha256 where
  digest _ := List.replicate 32 255
  length_digest _ := List.length_replicate

/-- **Every statement fails** for a key with this digest. -/
theorem all_ones_cannot_be_locked :
    advisoryLockNowait allOnes 0 "resolve:OUT-1" (fun _ : Locks Nat => (.ok () : Except Unit Unit))
        (fun _ => none) = .error .outOfRange ∧
      ¬ ∀ (sha256 : Sha256) (lockKey : String), Usable sha256 lockKey := by
  have hno : ¬ IsBigint (lockIdFromKey allOnes.digest "resolve:OUT-1") := by decide
  constructor
  · exact advisoryLockWith_unusable _ _ _ _ hno
  · intro hall
    exact hno (hall allOnes "resolve:OUT-1").inRange

end AdvisoryLock

end NocIq
