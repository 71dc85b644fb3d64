import Mathlib.Algebra.Order.Group.Unbundled.Int
import NocIq.Payment.Status
import NocIq.Schema

/-!
# NocIq — `PaymentRepository`

The operations of `app/repositories/payment_repository.py` that write `payment_transactions`.
Random UUIDs and clock readings are arguments, the `PAYMENT_*` settings a parameter.

An operation on an existing payment finds the row, checks, and only then assigns and commits. What
it may assign is `applyAction`; the rest of the file shows that the operations do that and nothing
else:

* **`setStatus_effect` / `retry_effect` / `replayDeadLetter_effect`** — each operation writes the
  row `applyAction` gives, or refuses and writes nothing (`ActionEffect`). The commit never fails,
  because no key of the row changes.
* **`ActionEffect.findPayment`** — what looking up a payment finds afterwards.
-/

namespace NocIq

open Relational

/-- The `PAYMENT_*` settings a new payment takes over. -/
structure PaymentSettings where
  assetCode : String := "USDC"
  fromAddress : String := "SYSTEM_POOL"
  toAddress : String := "OUTAGE_SETTLEMENT"
  deriving DecidableEq, Repr

/-- The pydantic model `PaymentTransaction`. -/
structure PaymentTransaction where
  id : String
  transactionHash : String
  type : String
  amount : ℚ
  assetCode : String
  fromAddress : String
  toAddress : String
  status : String
  outageId : String
  slaResultId : Option Nat := none
  createdAt : Time
  confirmedAt : Option Time := none
  retryCount : Nat := 0
  lastRetriedAt : Option Time := none
  failureTaxonomy : Option String := none
  idempotencyKey : Option String := none
  deadLetterReason : Option String := none
  deadLetteredAt : Option Time := none
  residual : ℚ := 0
  deriving DecidableEq, Repr

namespace PaymentRepository

def ormToPydantic (orm : PaymentTransactionORM) : PaymentTransaction where
  id := orm.id
  transactionHash := orm.transactionHash
  type := orm.type
  amount := orm.amount
  assetCode := orm.assetCode
  fromAddress := orm.fromAddress
  toAddress := orm.toAddress
  status := orm.status
  outageId := orm.outageId
  slaResultId := orm.slaResultId
  createdAt := orm.createdAt
  confirmedAt := orm.confirmedAt
  retryCount := orm.retryCount
  lastRetriedAt := orm.lastRetriedAt
  failureTaxonomy := orm.failureTaxonomy
  idempotencyKey := orm.idempotencyKey
  deadLetterReason := orm.deadLetterReason
  deadLetteredAt := orm.deadLetteredAt

/-- The row `create` builds; the columns it does not set take their defaults. -/
def newRow (data : PaymentTransaction) : PaymentTransactionORM where
  id := data.id
  transactionHash := data.transactionHash
  type := data.type
  amount := data.amount
  assetCode := data.assetCode
  fromAddress := data.fromAddress
  toAddress := data.toAddress
  status := data.status
  outageId := data.outageId
  slaResultId := data.slaResultId
  createdAt := data.createdAt
  confirmedAt := data.confirmedAt
  idempotencyKey := data.idempotencyKey

def insertPayment (row : PaymentTransactionORM) : Statement Db := fun db =>
  { db with paymentTransactions := db.paymentTransactions ++ [row] }

def replacePayment (orm p : PaymentTransactionORM) : PaymentTransactionORM :=
  if p.id = orm.id then orm else p

/-- `UPDATE payment_transactions SET … WHERE id = …`. -/
def updatePayment (orm : PaymentTransactionORM) : Statement Db := fun db =>
  { db with paymentTransactions := db.paymentTransactions.map (replacePayment orm) }

def create (data : PaymentTransaction) (db : Db) : Except Exc PaymentTransaction × Db :=
  db.commit [insertPayment (newRow data)] (ormToPydantic (newRow data))

def findPayment (db : Db) (transactionId : String) : Option PaymentTransactionORM :=
  db.paymentTransactions.find? fun p => decide (p.id = transactionId)

def get (db : Db) (transactionId : String) : Option PaymentTransaction :=
  (findPayment db transactionId).map ormToPydantic

def getBySlaResult (db : Db) (slaResultId : Nat) : Option PaymentTransaction :=
  (db.paymentTransactions.find? fun p => decide (p.slaResultId = some slaResultId)).map
    ormToPydantic

/-- The payment `create_for_sla_result` builds for the result with the given database id. -/
def paymentFor (settings : PaymentSettings) (uuidHex : String) (now : Time) (outageId : String)
    (slaResult : SLAResult) (id : Nat) : PaymentTransaction where
  id := "pay_" ++ String.ofList (uuidHex.toList.take 12)
  transactionHash := s!"sla-{id}-{slaResult.paymentType.value}"
  type := slaResult.paymentType.value
  amount := (|slaResult.amount| : ℤ)
  assetCode := settings.assetCode
  fromAddress := settings.fromAddress
  toAddress := settings.toAddress
  status := "pending"
  outageId := outageId
  slaResultId := some id
  createdAt := now
  confirmedAt := none
  idempotencyKey := some s!"sla_result_{id}_{slaResult.paymentType.value}"

def createForSlaResult (settings : PaymentSettings) (uuidHex : String) (now : Time)
    (outageId : String) (slaResult : SLAResult) (db : Db) : Except Exc PaymentTransaction × Db :=
  match slaResult.id with
  | none => (.error (.valueError "SLA result id is required to generate a payment record"), db)
  | some id =>
    match getBySlaResult db id with
    | some existing => (.ok existing, db)
    | none => create (paymentFor settings uuidHex now outageId slaResult id) db

def maxRetries : Nat := 3

/-- `update_status` and `reconcile` have one body. -/
def setStatus (transactionId status : String) (now : Time) (db : Db) :
    Except Exc (Option PaymentTransaction) × Db :=
  match findPayment db transactionId with
  | none => (.ok none, db)
  | some orm =>
    match validateTransition orm.status status with
    | .error e => (.error e, db)
    | .ok () =>
      let orm :=
        { orm with
          status := status
          confirmedAt := if status = "confirmed" then some now else orm.confirmedAt }
      db.commit [updatePayment orm] (some (ormToPydantic orm))

def updateStatus := setStatus

def reconcile := setStatus

def replayDeadLetter (transactionId : String) (now : Time) (db : Db) :
    Except Exc (Option PaymentTransaction) × Db :=
  match findPayment db transactionId with
  | none => (.ok none, db)
  | some orm =>
    if orm.status ≠ "dead_letter" then (.ok none, db)
    else
      match validateTransition orm.status "pending" with
      | .error e => (.error e, db)
      | .ok () =>
        let orm :=
          { orm with
            status := "pending"
            retryCount := 0
            lastRetriedAt := some now
            deadLetterReason := none
            deadLetteredAt := none }
        db.commit [updatePayment orm] (some (ormToPydantic orm))

def retry (transactionId : String) (now : Time) (db : Db) :
    Except Exc (Option PaymentTransaction) × Db :=
  match findPayment db transactionId with
  | none => (.ok none, db)
  | some orm =>
    if orm.retryCount ≥ maxRetries then (.ok none, db)
    else
      match validateTransition orm.status "pending" with
      | .error e => (.error e, db)
      | .ok () =>
        let orm :=
          { orm with
            retryCount := orm.retryCount + 1
            lastRetriedAt := some now
            status := "pending" }
        db.commit [updatePayment orm] (some (ormToPydantic orm))

variable {db : Db} {data : PaymentTransaction}

theorem create_of_satisfies (h : Satisfies schema (insertPayment (newRow data) db)) :
    create data db = (.ok (ormToPydantic (newRow data)), insertPayment (newRow data) db) := by
  have heach : SatisfiesEach schema [insertPayment (newRow data)] db := ⟨h, trivial⟩
  exact Db.commit_eq heach _

theorem create_of_violation (h : ¬ Satisfies schema (insertPayment (newRow data) db)) :
    ∃ name, create data db = (.error (.integrityError name), db) := by
  have heach : ¬ SatisfiesEach schema [insertPayment (newRow data)] db := fun heach => h heach.1
  exact Db.commit_violation heach _

theorem create_eq_ok {created : PaymentTransaction} {db' : Db}
    (h : create data db = (.ok created, db')) :
    created = ormToPydantic (newRow data) ∧ db' = insertPayment (newRow data) db ∧
      Satisfies schema db' := by
  obtain ⟨hsat, hcreated, hdb⟩ := Db.commit_eq_ok h
  refine ⟨hcreated, hdb, ?_⟩
  rw [hdb]
  exact hsat.1

/-- A row none of whose keys is taken by the stored ones. -/
structure KeysFree (rows : List PaymentTransactionORM) (row : PaymentTransactionORM) : Prop where
  id : ∀ x ∈ rows, x.id ≠ row.id
  hash : ∀ x ∈ rows, x.transactionHash ≠ row.transactionHash
  slaResult : ∀ x ∈ rows, ∀ i, row.slaResultId = some i → x.slaResultId ≠ some i
  idempotency : ∀ x ∈ rows, ∀ k, row.idempotencyKey = some k → x.idempotencyKey ≠ some k
  outageType : ∀ x ∈ rows, ¬ (x.outageId = row.outageId ∧ x.type = row.type)

variable {rows : List PaymentTransactionORM}

theorem KeysFree.subset {rows' : List PaymentTransactionORM} {row : PaymentTransactionORM}
    (h : KeysFree rows row) (hsub : rows' ⊆ rows) :
    KeysFree rows' row where
  id x hx := h.id x (hsub hx)
  hash x hx := h.hash x (hsub hx)
  slaResult x hx := h.slaResult x (hsub hx)
  idempotency x hx := h.idempotency x (hsub hx)
  outageType x hx := h.outageType x (hsub hx)

variable {outageIds : List String}

/-- **Inserting a payment** keeps the constraints exactly if its keys are free and it refers to
stored rows. -/
theorem inserted_payment_valid_iff {slaIds : List Nat} {row : PaymentTransactionORM} :
    PaymentTablesValid outageIds slaIds (rows ++ [row]) ↔
      PaymentTablesValid outageIds slaIds rows ∧ KeysFree rows row ∧ row.outageId ∈ outageIds ∧
        ∀ i, row.slaResultId = some i → i ∈ slaIds := by
  constructor
  · -- each unique key splits into the stored rows and the new one
    intro h
    obtain ⟨hpkey, hid⟩ := nodup_keys_concat.mp h.pkey
    obtain ⟨hhash, hhashFree⟩ := nodup_keys_concat.mp h.hash
    obtain ⟨hsla, hslaFree⟩ := nodup_keys_concat.mp h.slaResult
    obtain ⟨hidem, hidemFree⟩ := nodup_keys_concat.mp h.idempotency
    obtain ⟨htype, htypeFree⟩ := nodup_keys_concat.mp h.outageType
    have hsub : ∀ x ∈ rows, x ∈ rows ++ [row] := fun x hx => List.mem_append_left _ hx
    have hnew : row ∈ rows ++ [row] := List.mem_append_right _ (List.mem_singleton_self row)
    refine ⟨⟨hpkey, hhash, hsla, hidem, htype, fun x hx => h.outageFkey x (hsub x hx),
      fun x hx => h.slaFkey x (hsub x hx)⟩, ⟨?_, ?_, hslaFree, hidemFree, ?_⟩,
      h.outageFkey row hnew, h.slaFkey row hnew⟩
    · intro x hx hkey
      exact hid x hx row.id rfl (congrArg some hkey)
    · intro x hx hkey
      exact hhashFree x hx row.transactionHash rfl (congrArg some hkey)
    · intro x hx hkey
      refine htypeFree x hx (row.outageId, row.type) rfl ?_
      rw [← hkey.1, ← hkey.2]
      rfl
  · intro h
    obtain ⟨hv, hfree, hout, hsla⟩ := h
    constructor
    case pkey =>
      refine nodup_keys_concat.mpr ⟨hv.pkey, fun x hx k hk hxk => hfree.id x hx ?_⟩
      exact Option.some.inj (hxk.trans hk.symm)
    case hash =>
      refine nodup_keys_concat.mpr ⟨hv.hash, fun x hx k hk hxk => hfree.hash x hx ?_⟩
      exact Option.some.inj (hxk.trans hk.symm)
    case slaResult => exact nodup_keys_concat.mpr ⟨hv.slaResult, hfree.slaResult⟩
    case idempotency => exact nodup_keys_concat.mpr ⟨hv.idempotency, hfree.idempotency⟩
    case outageType =>
      refine nodup_keys_concat.mpr ⟨hv.outageType, fun x hx k hk hxk => ?_⟩
      exact hfree.outageType x hx (Prod.mk.inj (Option.some.inj (hxk.trans hk.symm)))
    case outageFkey =>
      intro x hx
      rcases List.mem_append.mp hx with hx | hx
      · exact hv.outageFkey x hx
      · rw [List.mem_singleton.mp hx]
        exact hout
    case slaFkey =>
      intro x hx
      rcases List.mem_append.mp hx with hx | hx
      · exact hv.slaFkey x hx
      · rw [List.mem_singleton.mp hx]
        exact hsla

/-! ## What an operation may assign -/

/-- What the operations ask of a payment. -/
inductive RowAction where
  | setStatus (status : String) (now : Time)
  | retry (now : Time)
  | replay (now : Time)
  deriving DecidableEq, Repr

instance (current nextStatus : String) : Decidable (AllowedTransition current nextStatus) :=
  decidable_of_iff _ validateTransition_eq_ok

/-- The row an action leads to; `none` when it is refused. -/
def applyAction (p : PaymentTransactionORM) : RowAction → Option PaymentTransactionORM
  | .setStatus status now =>
    if AllowedTransition p.status status then
      some { p with
        status := status
        confirmedAt := if status = "confirmed" then some now else p.confirmedAt }
    else none
  | .retry now =>
    if p.retryCount < maxRetries ∧ AllowedTransition p.status "pending" then
      some { p with
        retryCount := p.retryCount + 1
        lastRetriedAt := some now
        status := "pending" }
    else none
  | .replay now =>
    if p.status = "dead_letter" then
      some { p with
        status := "pending"
        retryCount := 0
        lastRetriedAt := some now
        deadLetterReason := none
        deadLetteredAt := none }
    else none

theorem mem_replacePayment {orm x : PaymentTransactionORM} (h : x ∈ rows.map (replacePayment orm)) :
    x = orm ∨ (x ∈ rows ∧ x.id ≠ orm.id) := by
  obtain ⟨y, hy, rfl⟩ := List.mem_map.mp h
  unfold replacePayment
  by_cases hid : y.id = orm.id
  · exact .inl (if_pos hid)
  · rw [if_neg hid]
    exact .inr ⟨hy, hid⟩

theorem payment_unique {slaIds : List Nat} (h : PaymentTablesValid outageIds slaIds rows)
    {a b : PaymentTransactionORM} (ha : a ∈ rows) (hb : b ∈ rows) (hid : a.id = b.id) : a = b :=
  eq_of_key_eq h.pkey ha hb (k := a.id) rfl (by rw [hid])

variable {p : PaymentTransactionORM} {i : String}

theorem findPayment_eq_some (h : Satisfies schema db) :
    findPayment db i = some p ↔ p ∈ db.paymentTransactions ∧ p.id = i := by
  have hv := ((satisfies_schema_iff db).mp h).2.2
  constructor
  · intro hfind
    exact ⟨List.mem_of_find?_eq_some hfind, by simpa using List.find?_some hfind⟩
  · intro hmem
    obtain ⟨hmem, rfl⟩ := hmem
    have hfind := find_of_key_eq hv.pkey hmem (k := p.id) rfl
    simpa [findPayment] using hfind

/-- Two versions of a row that agree in every column under a key. -/
structure SameKeys (p p' : PaymentTransactionORM) : Prop where
  id : p'.id = p.id
  hash : p'.transactionHash = p.transactionHash
  type : p'.type = p.type
  amount : p'.amount = p.amount
  outageId : p'.outageId = p.outageId
  slaResultId : p'.slaResultId = p.slaResultId
  idempotencyKey : p'.idempotencyKey = p.idempotencyKey

variable {p' : PaymentTransactionORM} {a : RowAction}

theorem applyAction_keys (h : applyAction p a = some p') : SameKeys p p' := by
  unfold applyAction at h
  split at h
  all_goals
    split at h
    · obtain rfl := Option.some.inj h
      exact ⟨rfl, rfl, rfl, rfl, rfl, rfl, rfl⟩
    · cases h

theorem replaced_payments_valid {slaIds : List Nat} (h : PaymentTablesValid outageIds slaIds rows)
    (hp : p ∈ rows) (hkeys : SameKeys p p') :
    PaymentTablesValid outageIds slaIds (rows.map (replacePayment p')) := by
  -- the replaced row is `p`, so every row keeps its keys
  have hsame : ∀ x ∈ rows, SameKeys x (replacePayment p' x) := by
    intro x hx
    unfold replacePayment
    by_cases hid : x.id = p'.id
    · obtain rfl := payment_unique h hx hp (hid.trans hkeys.id)
      rw [if_pos hid]
      exact hkeys
    · rw [if_neg hid]
      exact ⟨rfl, rfl, rfl, rfl, rfl, rfl, rfl⟩
  constructor
  case pkey =>
    rw [keys_map_of_eq fun x hx => by rw [(hsame x hx).id]]
    exact h.pkey
  case hash =>
    rw [keys_map_of_eq fun x hx => by rw [(hsame x hx).hash]]
    exact h.hash
  case slaResult =>
    rw [keys_map_of_eq fun x hx => (hsame x hx).slaResultId]
    exact h.slaResult
  case idempotency =>
    rw [keys_map_of_eq fun x hx => (hsame x hx).idempotencyKey]
    exact h.idempotency
  case outageType =>
    have hkey : ∀ x ∈ rows, (replacePayment p' x).outageTypeKey = x.outageTypeKey := by
      intro x hx
      unfold PaymentTransactionORM.outageTypeKey
      rw [(hsame x hx).outageId, (hsame x hx).type]
    rw [keys_map_of_eq hkey]
    exact h.outageType
  case outageFkey =>
    intro x hx
    obtain ⟨y, hy, rfl⟩ := List.mem_map.mp hx
    rw [(hsame y hy).outageId]
    exact h.outageFkey y hy
  case slaFkey =>
    intro x hx i hi
    obtain ⟨y, hy, rfl⟩ := List.mem_map.mp hx
    rw [(hsame y hy).slaResultId] at hi
    exact h.slaFkey y hy i hi

theorem updatePayment_satisfies (h : Satisfies schema db) (hp : p ∈ db.paymentTransactions)
    (hkeys : SameKeys p p') : Satisfies schema (updatePayment p' db) := by
  obtain ⟨hsla, hdisp, hv⟩ := (satisfies_schema_iff db).mp h
  exact (satisfies_schema_iff _).mpr ⟨hsla, hdisp, replaced_payments_valid hv hp hkeys⟩

/-! ## The operations refine the actions -/

/-- An operation either refuses and writes nothing, or writes the row of its action. -/
inductive ActionEffect (db : Db) (transactionId : String) (a : RowAction) :
    Except Exc (Option PaymentTransaction) × Db → Prop where
  | refused {result : Except Exc (Option PaymentTransaction)}
      (hresult : result = .ok none ∨
        ∃ current nextStatus allowed,
          result = .error (.paymentTransitionError current nextStatus allowed))
      (hrefused : ∀ p, findPayment db transactionId = some p → applyAction p a = none) :
      ActionEffect db transactionId a (result, db)
  | changed {p p' : PaymentTransactionORM} (hfind : findPayment db transactionId = some p)
      (haction : applyAction p a = some p') :
      ActionEffect db transactionId a (.ok (some (ormToPydantic p')), updatePayment p' db)

theorem commit_action (h : Satisfies schema db) (hfind : findPayment db i = some p)
    (haction : applyAction p a = some p') :
    ActionEffect db i a (db.commit [updatePayment p'] (some (ormToPydantic p'))) := by
  have hp := ((findPayment_eq_some h).mp hfind).1
  have hsat := updatePayment_satisfies h hp (applyAction_keys haction)
  have hcommit : SatisfiesEach schema [updatePayment p'] db := ⟨hsat, trivial⟩
  rw [Db.commit_eq hcommit]
  exact .changed hfind haction

theorem refused_transition {nextStatus : String} {e : Exc} (hfind : findPayment db i = some p)
    (he : validateTransition p.status nextStatus = .error e) (ha : applyAction p a = none) :
    ActionEffect db i a (.error e, db) := by
  obtain ⟨allowed, rfl⟩ := validateTransition_error he
  refine .refused (.inr ⟨_, _, _, rfl⟩) ?_
  intro q hq
  rw [hfind] at hq
  rw [← Option.some.inj hq]
  exact ha

theorem not_allowed_of_error {current nextStatus : String} {e : Exc}
    (he : validateTransition current nextStatus = .error e) :
    ¬ AllowedTransition current nextStatus := by
  intro hallowed
  rw [validateTransition_eq_ok.mpr hallowed] at he
  cases he

/-- **`update_status` and `reconcile`.** -/
theorem setStatus_effect (h : Satisfies schema db) (i status : String) (now : Time) :
    ActionEffect db i (.setStatus status now) (setStatus i status now db) := by
  unfold setStatus
  cases hfind : findPayment db i with
  | none => exact .refused (.inl rfl) fun p hp => by rw [hfind] at hp; cases hp
  | some p =>
    dsimp only
    cases hval : validateTransition p.status status with
    | error e => exact refused_transition hfind hval (if_neg (not_allowed_of_error hval))
    | ok u => exact commit_action h hfind (if_pos (validateTransition_eq_ok.mp hval))

/-- **`retry`.** -/
theorem retry_effect (h : Satisfies schema db) (i : String) (now : Time) :
    ActionEffect db i (.retry now) (retry i now db) := by
  unfold retry
  cases hfind : findPayment db i with
  | none => exact .refused (.inl rfl) fun p hp => by rw [hfind] at hp; cases hp
  | some p =>
    dsimp only
    by_cases hbudget : p.retryCount ≥ maxRetries
    · rw [if_pos hbudget]
      refine .refused (.inl rfl) ?_
      intro q hq
      rw [hfind] at hq
      rw [← Option.some.inj hq]
      exact if_neg fun hboth => absurd hboth.1 (Nat.not_lt.mpr hbudget)
    · rw [if_neg hbudget]
      cases hval : validateTransition p.status "pending" with
      | error e =>
        exact refused_transition hfind hval
          (if_neg fun hboth => not_allowed_of_error hval hboth.2)
      | ok u =>
        exact commit_action h hfind
          (if_pos ⟨Nat.not_le.mp hbudget, validateTransition_eq_ok.mp hval⟩)

/-- **`replay_dead_letter`.** -/
theorem replayDeadLetter_effect (h : Satisfies schema db) (i : String) (now : Time) :
    ActionEffect db i (.replay now) (replayDeadLetter i now db) := by
  unfold replayDeadLetter
  cases hfind : findPayment db i with
  | none => exact .refused (.inl rfl) fun p hp => by rw [hfind] at hp; cases hp
  | some p =>
    dsimp only
    by_cases hdead : p.status = "dead_letter"
    · have hval : validateTransition p.status "pending" = .ok () := by
        rw [hdead]
        decide
      rw [if_neg (not_not.mpr hdead), hval]
      exact commit_action h hfind (if_pos hdead)
    · rw [if_pos hdead]
      refine .refused (.inl rfl) ?_
      intro q hq
      rw [hfind] at hq
      rw [← Option.some.inj hq]
      exact if_neg hdead

theorem ActionEffect.satisfies (h : Satisfies schema db)
    {outcome : Except Exc (Option PaymentTransaction) × Db} (heffect : ActionEffect db i a outcome)
    :
    Satisfies schema outcome.2 := by
  cases heffect with
  | refused => exact h
  | changed hfind haction =>
    exact updatePayment_satisfies h ((findPayment_eq_some h).mp hfind).1 (applyAction_keys haction)

/-- **The row of an operation.** Looking up any payment afterwards finds the row of the action, if
it is the operation's payment and the action is not refused, and the old row otherwise. -/
theorem ActionEffect.findPayment (h : Satisfies schema db)
    {outcome : Except Exc (Option PaymentTransaction) × Db} (heffect : ActionEffect db i a outcome)
    (j : String) :
    findPayment outcome.2 j =
      (findPayment db j).map fun p => if j = i then (applyAction p a).getD p else p := by
  cases heffect with
  | refused hresult hrefused =>
    cases hfind : PaymentRepository.findPayment db j with
    | none => rfl
    | some p =>
      rw [Option.map_some]
      split
      · rename_i hji
        rw [hji] at hfind
        rw [hrefused p hfind, Option.getD_none]
      · rfl
  | @changed p p' hfind haction =>
    obtain ⟨hp, hpi⟩ := (findPayment_eq_some h).mp hfind
    have hkeys := applyAction_keys haction
    have hsat := updatePayment_satisfies h hp hkeys
    -- the action keeps the id, so it shows under `i` and nowhere else
    by_cases hji : j = i
    · subst hji
      rw [hfind, Option.map_some, if_pos rfl, haction, Option.getD_some,
        findPayment_eq_some hsat]
      have hrow : replacePayment p' p = p' := if_pos hkeys.id.symm
      exact ⟨List.mem_map.mpr ⟨p, hp, hrow⟩, by rw [hkeys.id, hpi]⟩
    · simp only [if_neg hji, Option.map_id']
      apply Option.ext
      intro q
      rw [findPayment_eq_some hsat, findPayment_eq_some h]
      constructor
      · intro hq
        obtain ⟨hq, hqj⟩ := hq
        rcases mem_replacePayment hq with rfl | ⟨hq, -⟩
        · exact absurd (by rw [← hqj, hkeys.id, hpi]) hji
        · exact ⟨hq, hqj⟩
      · intro hq
        obtain ⟨hq, hqj⟩ := hq
        have hne : ¬ q.id = p'.id := by
          rw [hqj, hkeys.id, hpi]
          exact hji
        exact ⟨List.mem_map.mpr ⟨q, hq, if_neg hne⟩, hqj⟩

end PaymentRepository

end NocIq
