import NocIq.Datetime
import NocIq.Lib.Runs
import NocIq.Payment.DistinctOutages

/-!
# NocIq — idempotency keys

`IdempotencyService` of `app/services/idempotency_service.py` and the endpoint that uses it,
`create_payment_for_outage`, on the payment tables and `idempotency_keys`. The column `expires_at`
has no time zone and is read back naive, while `lookup` compares it with an aware `now`; and a key
that is too long for its column is refused only when the payment is committed.

* **`lookup_of_stored`** — looking up a stored key raises.
* **`createWithKey_of_fresh`** — a request with a key that is not stored is executed, and stored if
  the key fits.
* **`idempotency_keys_of_run`** — when the requests of a run replay and execute as they should.
-/

namespace NocIq

open Relational PaymentRepository

/-! ## The table and the service -/

/-- A row of `idempotency_keys`, without its autoincremented primary key. `responseJson` is the
payment whose dump the text column holds; `expiresAt` is the wall clock of a column without time
zone. -/
structure IdempotencyKeyORM where
  key : String
  responseJson : PaymentTransaction
  statusCode : Nat
  createdAt : Time
  expiresAt : Time
  deriving DecidableEq, Repr

/-- The declared width of the column `key`. -/
def idempotencyKeyWidth : Nat := 255

structure PaymentStore where
  db : Db
  idempotencyKeys : List IdempotencyKeyORM := []
  deriving DecidableEq, Repr

/-- A status code with the payment in its body. -/
structure PaymentResponse where
  statusCode : Nat
  responseJson : PaymentTransaction
  deriving DecidableEq, Repr

structure IdempotencySettings where
  keyTtlHours : Nat := 24
  deriving DecidableEq, Repr

def IdempotencySettings.ttl (settings : IdempotencySettings) : Int :=
  timedelta settings.keyTtlHours 0 0

namespace IdempotencyService

def findKey (s : PaymentStore) (key : String) : Option IdempotencyKeyORM :=
  s.idempotencyKeys.find? fun row => decide (row.key = key)

/-- The cached response of a key, if there is one; an expired row is deleted. -/
def lookup (key : String) (now : Time) (s : PaymentStore) :
    Except Exc (Option PaymentResponse) × PaymentStore :=
  match findKey s key with
  | none => (.ok none, s)
  | some row =>
    -- the column gives back a naive datetime
    match (Datetime.naive row.expiresAt).lt (Datetime.now now) with
    | .error e => (.error e, s)
    | .ok true =>
      (.ok none, { s with idempotencyKeys := s.idempotencyKeys.filter fun r => decide (r.key ≠ key) })
    | .ok false => (.ok (some ⟨row.statusCode, row.responseJson⟩), s)

/-- `merge` of a row without primary key inserts it; the database refuses a key that is too long,
and the key is unique. -/
def store (settings : IdempotencySettings) (key : String) (responseBody : PaymentTransaction)
    (statusCode : Nat) (now : Time) (s : PaymentStore) :
    Except PaymentFailure Unit × PaymentStore :=
  if key.length ≤ idempotencyKeyWidth then
    match findKey s key with
    | some _ => (.error (.raised (.integrityError "ix_idempotency_keys_key")), s)
    | none =>
      let row : IdempotencyKeyORM :=
        { key, responseJson := responseBody, statusCode, createdAt := now,
          expiresAt := now + settings.ttl }
      (.ok (), { s with idempotencyKeys := s.idempotencyKeys ++ [row] })
  else (.error .stringDataRightTruncation, s)

end IdempotencyService

open IdempotencyService

/-! ## The endpoint -/

/-- A request to `create_payment_for_outage`, and when it arrives. -/
structure CreatePaymentRequest where
  outageId : String
  xIdempotencyKey : Option String := none
  now : Time
  deriving DecidableEq, Repr

/-- The key of a request; an empty header counts as none. -/
def CreatePaymentRequest.key (r : CreatePaymentRequest) : Option String := given r.xIdempotencyKey

def CreatePaymentRequest.execute (r : CreatePaymentRequest) (db : Db) :
    Except PaymentFailure PaymentTransaction × Db :=
  createOutagePayment r.outageId r.now db

/-- `create_payment_for_outage`, with its idempotency key. The payment is committed before the key
is stored. -/
def createWithKey (settings : IdempotencySettings) (r : CreatePaymentRequest) (s : PaymentStore) :
    Except PaymentFailure PaymentResponse × PaymentStore :=
  match r.key with
  | none =>
    match r.execute s.db with
    | (.error e, db) => (.error e, { s with db })
    | (.ok created, db) => (.ok ⟨201, created⟩, { s with db })
  | some key =>
    match lookup key r.now s with
    | (.error e, s) => (.error (.raised e), s)
    | (.ok (some cached), s) => (.ok cached, s)
    | (.ok none, s) =>
      match r.execute s.db with
      | (.error e, db) => (.error e, { s with db })
      | (.ok created, db) =>
        match store settings key created 201 r.now { s with db } with
        | (.error e, s) => (.error e, s)
        | (.ok (), s) => (.ok ⟨201, created⟩, s)

/-! ## What a request does -/

def KeyStored (s : PaymentStore) (r : CreatePaymentRequest) : Prop :=
  ∃ key, r.key = some key ∧ ∃ row ∈ s.idempotencyKeys, row.key = key

def KeyTooLong (r : CreatePaymentRequest) : Prop :=
  ∃ key, r.key = some key ∧ idempotencyKeyWidth < key.length

variable {s : PaymentStore} {key : String}

theorem findKey_eq_none : findKey s key = none ↔ ∀ row ∈ s.idempotencyKeys, row.key ≠ key := by
  unfold findKey
  simp [List.find?_eq_none]

/-- **Looking up a stored key raises**, whatever its age: a naive datetime meets an aware one. -/
theorem lookup_of_stored (now : Time) (hstored : ∃ row ∈ s.idempotencyKeys, row.key = key) :
    lookup key now s =
      (.error (.typeError "can't compare offset-naive and offset-aware datetimes"), s) := by
  cases hfind : findKey s key with
  | none =>
    obtain ⟨row, hrow, hkey⟩ := hstored
    exact absurd hkey (findKey_eq_none.mp hfind row hrow)
  | some row =>
    unfold lookup
    rw [hfind]
    rfl

/-- The database takes the payment of a request: its hash fits, and the tables with the new row
violate no constraint. -/
def AcceptsPayment (db : Db) (r : CreatePaymentRequest) : Prop :=
  HashFits r.outageId ∧ Satisfies schema (insertPayment (newRow (outagePayment r.outageId r.now)) db)

variable {r : CreatePaymentRequest}

theorem execute_of_accepts {db : Db} (h : AcceptsPayment db r) :
    r.execute db = (.ok (ormToPydantic (newRow (outagePayment r.outageId r.now))),
      insertPayment (newRow (outagePayment r.outageId r.now)) db) := by
  unfold CreatePaymentRequest.execute createOutagePayment
  rw [if_pos h.1, createPaymentForOutage_eq, create_of_satisfies h.2]

theorem execute_of_not_accepts {db : Db} (h : ¬ AcceptsPayment db r) :
    ∃ e, r.execute db = (.error e, db) ∧
      (e = .stringDataRightTruncation ∨ ∃ name, e = .raised (.integrityError name)) := by
  unfold CreatePaymentRequest.execute createOutagePayment
  by_cases hfits : HashFits r.outageId
  · obtain ⟨name, hname⟩ := create_of_violation fun hsat => h ⟨hfits, hsat⟩
    rw [if_pos hfits, createPaymentForOutage_eq, hname]
    exact ⟨_, rfl, .inr ⟨name, rfl⟩⟩
  · rw [if_neg hfits]
    exact ⟨_, rfl, .inl rfl⟩

theorem execute_ne_typeError {db : Db} {message : String} :
    (r.execute db).1 ≠ .error (.raised (.typeError message)) := by
  intro herror
  by_cases haccepts : AcceptsPayment db r
  · rw [execute_of_accepts haccepts] at herror
    cases herror
  · obtain ⟨e, hexec, htruncation | ⟨name, hname⟩⟩ := execute_of_not_accepts haccepts
    · rw [hexec, htruncation] at herror
      cases herror
    · rw [hexec, hname] at herror
      cases herror

/-- What a request with a fresh key does: it creates the payment, and stores what it returns if the
key fits its column. -/
theorem createWithKey_of_fresh (settings : IdempotencySettings) (hkey : r.key = some key)
    (hfresh : ∀ row ∈ s.idempotencyKeys, row.key ≠ key) :
    createWithKey settings r s =
      match r.execute s.db with
      | (.error e, db) => (.error e, { s with db })
      | (.ok created, db) =>
        if key.length ≤ idempotencyKeyWidth then
          (.ok ⟨201, created⟩,
            { db, idempotencyKeys := s.idempotencyKeys ++
                [⟨key, created, 201, r.now, r.now + settings.ttl⟩] })
        else (.error .stringDataRightTruncation, { s with db }) := by
  have hnone : findKey s key = none := findKey_eq_none.mpr hfresh
  have hlookup : lookup key r.now s = (.ok none, s) := by
    unfold lookup
    rw [hnone]
  unfold createWithKey
  rw [hkey]
  dsimp only
  rw [hlookup]
  dsimp only
  cases hexec : r.execute s.db with
  | mk result db =>
    cases result with
    | error e => rfl
    | ok created =>
      dsimp only
      -- executing the request does not touch the table of keys
      have hstore : findKey { s with db } key = none := hnone
      unfold store
      by_cases hfits : key.length ≤ idempotencyKeyWidth
      · rw [if_pos hfits, if_pos hfits, hstore]
      · rw [if_neg hfits, if_neg hfits]

variable {settings : IdempotencySettings}

theorem createWithKey_of_stored (hstored : KeyStored s r) :
    createWithKey settings r s =
      (.error (.raised (.typeError "can't compare offset-naive and offset-aware datetimes")), s) := by
  obtain ⟨key, hkey, hrow⟩ := hstored
  unfold createWithKey
  rw [hkey]
  dsimp only
  rw [lookup_of_stored r.now hrow]

/-! ## The law of the keys -/

abbrev CreateRun (settings : IdempotencySettings) :=
  Runs.Run fun (s : PaymentStore) r s' => (createWithKey settings r s).2 = s'

/-- The request `y` stored a row of the table. -/
def StoresRow (settings : IdempotencySettings) (y : PaymentStore × CreatePaymentRequest)
    (row : IdempotencyKeyORM) : Prop :=
  row ∈ (createWithKey settings y.2 y.1).2.idempotencyKeys ∧ row ∉ y.1.idempotencyKeys

/-- What is asked of a request `x` with a key, after the requests `earlier`. It raises only what it
would raise without the key. If a request for the same outage stored the key less than the TTL ago,
it returns that response and leaves everything as it is. If no request for the outage did, or the
key has expired, it is executed, and its response stored. -/
structure IdempotencyLaw (settings : IdempotencySettings)
    (earlier : List (PaymentStore × CreatePaymentRequest))
    (x : PaymentStore × CreatePaymentRequest) (key : String) : Prop where
  noError : ∀ e, (createWithKey settings x.2 x.1).1 = .error e →
    (x.2.execute x.1.db).1 = .error e
  replays : ∀ y ∈ earlier, ∀ row, StoresRow settings y row → row.key = key →
    y.2.outageId = x.2.outageId → x.2.now < y.2.now + settings.ttl →
    createWithKey settings x.2 x.1 = (.ok ⟨row.statusCode, row.responseJson⟩, x.1)
  executes : (∀ y ∈ earlier, ∀ row, StoresRow settings y row → row.key = key →
      y.2.outageId = x.2.outageId → y.2.now + settings.ttl < x.2.now) →
    (createWithKey settings x.2 x.1).2.db = (x.2.execute x.1.db).2 ∧
    ∀ created, (x.2.execute x.1.db).1 = .ok created →
      (createWithKey settings x.2 x.1).1 = .ok ⟨201, created⟩ ∧
      StoresRow settings x ⟨key, created, 201, x.2.now, x.2.now + settings.ttl⟩

/-- Every keyed request of a run obeys the law. -/
def KeysReplay (settings : IdempotencySettings)
    (steps : List (PaymentStore × CreatePaymentRequest)) : Prop :=
  ∀ earlier x later key, steps = earlier ++ x :: later → x.2.key = some key →
    IdempotencyLaw settings earlier x key

theorem createWithKey_rows (settings : IdempotencySettings) (r : CreatePaymentRequest)
    (s : PaymentStore) :
    s.idempotencyKeys ⊆ (createWithKey settings r s).2.idempotencyKeys := by
  cases hkey : r.key with
  | none =>
    unfold createWithKey
    rw [hkey]
    dsimp only
    split <;> exact List.Subset.refl _
  | some key =>
    by_cases hstored : ∃ row ∈ s.idempotencyKeys, row.key = key
    · rw [createWithKey_of_stored ⟨key, hkey, hstored⟩]
      exact List.Subset.refl _
    · push Not at hstored
      rw [createWithKey_of_fresh settings hkey hstored]
      split
      · exact List.Subset.refl _
      · split
        · exact List.subset_append_left _ _
        · exact List.Subset.refl _

theorem rows_of_run {t : PaymentStore} {steps : List (PaymentStore × CreatePaymentRequest)}
    (hrun : CreateRun settings s steps t) {y : PaymentStore × CreatePaymentRequest} (hy : y ∈ steps)
    {row : IdempotencyKeyORM} (hrow : StoresRow settings y row) : row ∈ t.idempotencyKeys := by
  induction hrun with
  | nil => cases hy
  | snoc _ hstep ih =>
    rw [← hstep]
    rcases List.mem_append.mp hy with hy | hy
    · exact createWithKey_rows settings _ _ (ih hy)
    · rw [List.mem_singleton.mp hy] at hrow
      exact hrow.1

variable {earlier : List (PaymentStore × CreatePaymentRequest)}
  {x : PaymentStore × CreatePaymentRequest}

theorem law_of_fresh (hrun : CreateRun settings s earlier x.1) (hkey : x.2.key = some key)
    (hfresh : ¬ KeyStored x.1 x.2) (hfits : ¬ (KeyTooLong x.2 ∧ AcceptsPayment x.1.db x.2)) :
    IdempotencyLaw settings earlier x key := by
  have hnone : ∀ row ∈ x.1.idempotencyKeys, row.key ≠ key := by
    intro row hrow heq
    exact hfresh ⟨key, hkey, row, hrow, heq⟩
  have hcreate := createWithKey_of_fresh settings hkey hnone
  -- a payment is created for a key that fits
  have hlength : ∀ created db, x.2.execute x.1.db = (.ok created, db) →
      key.length ≤ idempotencyKeyWidth := by
    intro created db hexec
    by_contra hlong
    by_cases haccepts : AcceptsPayment x.1.db x.2
    · exact hfits ⟨⟨key, hkey, Nat.lt_of_not_le hlong⟩, haccepts⟩
    · obtain ⟨e, he, -⟩ := execute_of_not_accepts haccepts
      rw [he] at hexec
      cases hexec
  refine ⟨?_, ?_, ?_⟩
  · intro e he
    rw [hcreate] at he
    cases hexec : x.2.execute x.1.db with
    | mk result db =>
      rw [hexec] at he
      cases result with
      | error e' =>
        have hsame : e' = e := Except.error.inj he
        rw [hsame]
      | ok created =>
        dsimp only at he
        rw [if_pos (hlength created db hexec)] at he
        cases he
  · -- what an earlier request stored is still there, so the key would be taken
    intro y hy row hrow hrowkey
    exact absurd hrowkey (hnone row (rows_of_run hrun hy hrow))
  · intro _
    rw [hcreate]
    cases hexec : x.2.execute x.1.db with
    | mk result db =>
      cases result with
      | error e => exact ⟨rfl, fun created h => by cases h⟩
      | ok created =>
        have hle := hlength created db hexec
        dsimp only
        rw [if_pos hle]
        refine ⟨rfl, ?_⟩
        intro created' heq
        obtain rfl := Except.ok.inj heq
        refine ⟨rfl, ?_, ?_⟩
        · rw [hcreate, hexec]
          dsimp only
          rw [if_pos hle]
          exact List.mem_append_right _ (List.mem_singleton_self _)
        · intro hmem
          exact hnone _ hmem rfl

/-- A request whose key is stored breaks the law: no execution of the request raises a `TypeError`. -/
theorem not_law_of_stored (hstored : KeyStored x.1 x.2) :
    ¬ IdempotencyLaw settings earlier x key := by
  intro hlaw
  have herror := hlaw.noError _ (congrArg Prod.fst (createWithKey_of_stored hstored))
  exact execute_ne_typeError herror

/-- So does a request with a key that is too long and a payment that is created: the key is refused
when the payment is committed already. -/
theorem not_law_of_tooLong (hfresh : ¬ KeyStored x.1 x.2) (hlong : KeyTooLong x.2)
    (haccepts : AcceptsPayment x.1.db x.2) : ¬ IdempotencyLaw settings earlier x key := by
  intro hlaw
  obtain ⟨key', hkey', hlength⟩ := hlong
  have hnone : ∀ row ∈ x.1.idempotencyKeys, row.key ≠ key' := by
    intro row hrow heq
    exact hfresh ⟨key', hkey', row, hrow, heq⟩
  have hexec := execute_of_accepts haccepts
  have hcreate := createWithKey_of_fresh settings hkey' hnone
  rw [hexec] at hcreate
  dsimp only at hcreate
  rw [if_neg (Nat.not_le.mpr hlength)] at hcreate
  have herror := hlaw.noError _ (congrArg Prod.fst hcreate)
  rw [hexec] at herror
  cases herror

/-- **Idempotency keys.** The keyed requests of a run obey the law exactly if none of them arrives
while its key is stored, and none has a key that is too long and a payment that is created. -/
theorem idempotency_keys_of_run {settings : IdempotencySettings} {s t : PaymentStore}
    {steps : List (PaymentStore × CreatePaymentRequest)} (hrun : CreateRun settings s steps t) :
    KeysReplay settings steps ↔
      ∀ x ∈ steps, ¬ KeyStored x.1 x.2 ∧ ¬ (KeyTooLong x.2 ∧ AcceptsPayment x.1.db x.2) := by
  constructor
  · intro hlaw x hx
    obtain ⟨earlier, later, rfl⟩ := List.append_of_mem hx
    have hfresh : ¬ KeyStored x.1 x.2 := by
      rintro ⟨key, hkey, hrow⟩
      exact not_law_of_stored ⟨key, hkey, hrow⟩ (hlaw earlier x later key rfl hkey)
    refine ⟨hfresh, ?_⟩
    rintro ⟨⟨key, hkey, hlength⟩, haccepts⟩
    exact not_law_of_tooLong hfresh ⟨key, hkey, hlength⟩ haccepts (hlaw earlier x later key rfl hkey)
  · intro hgood earlier x later key hsteps hkey
    subst hsteps
    obtain ⟨-, hbefore, -, -⟩ := Runs.Run.split hrun
    obtain ⟨hfresh, hfits⟩ := hgood x (List.mem_append_right _ List.mem_cons_self)
    exact law_of_fresh hbefore hkey hfresh hfits

/-! ## A key used twice -/

/-- Outage `outage-1` is stored; no payments and no keys yet. -/
def unusedKeys : PaymentStore where
  db := { outages := [⟨"outage-1", "high", none⟩] }

def keyedRequest (now : Time) : CreatePaymentRequest where
  outageId := "outage-1"
  xIdempotencyKey := some "key-1"
  now := now

def usedKeys : PaymentStore := (createWithKey {} (keyedRequest 0) unusedKeys).2

theorem idempotency_keys_of_single_request :
    KeysReplay {} [(unusedKeys, keyedRequest 0)] ↔
      ∀ x ∈ [(unusedKeys, keyedRequest 0)],
        ¬ KeyStored x.1 x.2 ∧ ¬ (KeyTooLong x.2 ∧ AcceptsPayment x.1.db x.2) := by
  have hrun : CreateRun {} unusedKeys ([] ++ [(unusedKeys, keyedRequest 0)]) usedKeys :=
    .snoc .nil rfl
  exact idempotency_keys_of_run hrun

/-- The repeated request, one second later, raises instead of returning the stored response. -/
theorem idempotency_key_raises :
    (createWithKey {} (keyedRequest 0) unusedKeys).1.isOk = true ∧
    (createWithKey {} (keyedRequest 1000000) usedKeys).1 =
      .error (.raised (.typeError "can't compare offset-naive and offset-aware datetimes")) ∧
    ¬ IdempotencyLaw {} [(unusedKeys, keyedRequest 0)] (usedKeys, keyedRequest 1000000) "key-1" := by
  have hstored : KeyStored usedKeys (keyedRequest 1000000) :=
    ⟨"key-1", by decide +kernel, by decide +kernel⟩
  exact ⟨by decide +kernel, congrArg Prod.fst (createWithKey_of_stored hstored),
    not_law_of_stored hstored⟩

end NocIq
