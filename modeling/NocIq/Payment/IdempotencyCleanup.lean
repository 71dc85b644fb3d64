import NocIq.Lib.LastWrite
import NocIq.Payment.IdempotencyKeys

/-!
# NocIq — the cleanup of idempotency keys

`cleanup_expired` of `app/services/idempotency_service.py`, which a periodic task calls, between the
requests that use the keys. The database compares its wall clocks with an instant, at the offset
from UTC of its session.

* **`mem_keys_iff`** — the rows that are stored, by the history of the calls.
* **`keyed_requests_of_run`** — which keyed requests fail, and what becomes of the others.
-/

namespace NocIq

open IdempotencyService

/-- `IdempotencyKeyORM.expires_at < now`. -/
def IdempotencyKeyORM.isExpired (utcOffset : Int) (now : Time) (row : IdempotencyKeyORM) : Bool :=
  decide (row.expiresAt - utcOffset < now)

/-- The number of the deleted rows, and what is left. -/
def cleanupExpired (utcOffset : Int) (now : Time) (s : PaymentStore) : Nat × PaymentStore :=
  let expired := s.idempotencyKeys.filter (·.isExpired utcOffset now)
  (expired.length,
    { s with idempotencyKeys := s.idempotencyKeys.filter fun row => !row.isExpired utcOffset now })

inductive KeyCall where
  | create (r : CreatePaymentRequest)
  | cleanup (now : Time)

variable (settings : IdempotencySettings) (utcOffset : Int)

def serveKeyCall (s : PaymentStore) : KeyCall → PaymentStore
  | .create r => (createWithKey settings r s).2
  | .cleanup now => (cleanupExpired utcOffset now s).2

abbrev KeyRun :=
  Runs.Run fun (s : PaymentStore) call s' => serveKeyCall settings utcOffset s call = s'

def StoresKey (row : IdempotencyKeyORM) (x : PaymentStore × KeyCall) : Prop :=
  ∃ r, x.2 = .create r ∧ StoresRow settings (x.1, r) row

def CleansKey (row : IdempotencyKeyORM) (x : PaymentStore × KeyCall) : Prop :=
  ∃ now, x.2 = .cleanup now ∧ row.isExpired utcOffset now = true

variable {settings utcOffset} {s t : PaymentStore} {steps : List (PaymentStore × KeyCall)}

/-- **The rows that are stored**: a request has stored them, and no cleanup since then has come
after their expiry. Induction on the calls. -/
theorem mem_keys_iff (hempty : s.idempotencyKeys = []) (hrun : KeyRun settings utcOffset s steps t)
    (row : IdempotencyKeyORM) :
    row ∈ t.idempotencyKeys ↔
      Runs.Since (StoresKey settings row) (CleansKey utcOffset row) steps := by
  induction hrun with
  | nil =>
    rw [hempty]
    exact iff_of_false List.not_mem_nil Runs.not_since_nil
  | @snoc steps u t call _ hstep ih =>
    rw [Runs.since_concat_iff, ← ih, ← hstep]
    cases call with
    | create r =>
      have hkeeps := createWithKey_rows settings r u (a := row)
      constructor
      · intro hrow
        by_cases hold : row ∈ u.idempotencyKeys
        · refine .inr ⟨?_, hold⟩
          rintro ⟨now, hcall, -⟩
          cases hcall
        · exact .inl ⟨r, rfl, hrow, hold⟩
      · rintro (⟨r', hcall, hrow, -⟩ | ⟨-, hold⟩)
        · cases hcall
          exact hrow
        · exact hkeeps hold
    | cleanup now =>
      show row ∈ List.filter _ _ ↔ _
      rw [List.mem_filter, Bool.not_eq_true', ← Bool.not_eq_true]
      constructor
      · rintro ⟨hold, hexpired⟩
        refine .inr ⟨?_, hold⟩
        rintro ⟨now', hcall, hnow⟩
        cases hcall
        exact hexpired hnow
      · rintro (⟨r, hcall, -⟩ | ⟨hnot, hold⟩)
        · cases hcall
        · exact ⟨hold, fun hexpired => hnot ⟨now, rfl, hexpired⟩⟩

/-- **Keyed requests among cleanups.** A request fails on its key exactly if an earlier request has
stored a response for it, and no cleanup in between has come after its expiry; any other one is
executed. Its response is stored if the key fits its column; a key that does not fit ends the
request with the payment committed and no response stored. -/
theorem keyed_requests_of_run (hempty : s.idempotencyKeys = [])
    (hrun : KeyRun settings utcOffset s steps t) {earlier later : List (PaymentStore × KeyCall)}
    {u : PaymentStore} {r : CreatePaymentRequest} {key : String}
    (hsteps : steps = earlier ++ (u, .create r) :: later) (hkey : r.key = some key) :
    let stored := ∃ row, row.key = key ∧
      Runs.Since (StoresKey settings row) (CleansKey utcOffset row) earlier
    (stored ↔ createWithKey settings r u =
      (.error (.raised (.typeError "can't compare offset-naive and offset-aware datetimes")), u)) ∧
    (¬ stored → (createWithKey settings r u).2.db = (r.execute u.db).2 ∧
      ∀ created, (r.execute u.db).1 = .ok created →
        if key.length ≤ idempotencyKeyWidth then
          (createWithKey settings r u).1 = .ok ⟨201, created⟩ ∧
          StoresKey settings ⟨key, created, 201, r.now, r.now + settings.ttl⟩ (u, .create r)
        else
          (createWithKey settings r u).1 = .error .stringDataRightTruncation ∧
          (createWithKey settings r u).2.idempotencyKeys = u.idempotencyKeys) := by
  intro stored
  subst hsteps
  obtain ⟨-, hbefore, -, -⟩ := hrun.split
  have hrows : stored ↔ ∃ row ∈ u.idempotencyKeys, row.key = key := by
    refine exists_congr fun row => ?_
    rw [mem_keys_iff hempty hbefore row, and_comm]
  have hfresh : ¬ stored → createWithKey settings r u = _ := fun hnot =>
    createWithKey_of_fresh settings hkey fun row hrow hsame => hnot (hrows.mpr ⟨row, hrow, hsame⟩)
  refine ⟨⟨fun hstored => ?_, fun herror => ?_⟩, fun hnot => ?_⟩
  · obtain hrow := hrows.mp hstored
    exact createWithKey_of_stored ⟨key, hkey, hrow⟩
  · by_contra hnot
    rw [hfresh hnot] at herror
    cases hexec : r.execute u.db with
    | mk result db =>
      rw [hexec] at herror
      cases result with
      | ok created =>
        dsimp only at herror
        split at herror
        · cases congrArg Prod.fst herror
        · cases congrArg Prod.fst herror
      | error e =>
        -- a refusal of the payment is no `TypeError`
        have hsame : e = _ := Except.error.inj (congrArg Prod.fst herror)
        rw [hsame] at hexec
        exact execute_ne_typeError (congrArg Prod.fst hexec)
  · rw [hfresh hnot]
    cases hexec : r.execute u.db with
    | mk result db =>
      cases result with
      | error e => exact ⟨rfl, fun created h => by cases h⟩
      | ok created =>
        dsimp only
        by_cases hfits : key.length ≤ idempotencyKeyWidth
        · rw [if_pos hfits]
          refine ⟨rfl, fun created' heq => ?_⟩
          obtain rfl := Except.ok.inj heq
          rw [if_pos hfits]
          refine ⟨rfl, r, rfl, ?_, fun hmem => hnot (hrows.mpr ⟨_, hmem, rfl⟩)⟩
          rw [hfresh hnot, hexec]
          dsimp only
          rw [if_pos hfits]
          exact List.mem_append_right _ List.mem_cons_self
        · rw [if_neg hfits]
          refine ⟨rfl, fun created' heq => ?_⟩
          rw [if_neg hfits]
          exact ⟨rfl, rfl⟩

/-- A key is used, cleaned up after a day, and used again. -/
def cleanedUp : List KeyCall :=
  [.create (keyedRequest 0), .cleanup 86400000001, .create (keyedRequest 86400000002)]

theorem second_use_after_cleanup :
    let u := (cleanedUp.take 2).foldl (serveKeyCall {} 0) unusedKeys
    let r := keyedRequest 86400000002
    let earlier := (Runs.replay (serveKeyCall {} 0) unusedKeys cleanedUp).take 2
    (∃ row, row.key = "key-1" ∧ Runs.Since (StoresKey {} row) (CleansKey 0 row) earlier) ↔
      createWithKey {} r u =
        (.error (.raised (.typeError "can't compare offset-naive and offset-aware datetimes")), u) := by
  intro u r earlier
  have hlast : Runs.replay (serveKeyCall {} 0) unusedKeys cleanedUp =
    earlier ++ [(u, .create r)] := rfl
  exact (keyed_requests_of_run rfl (Runs.replay_run _ _ cleanedUp) hlast rfl).1

end NocIq
