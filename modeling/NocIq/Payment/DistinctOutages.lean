import NocIq.Payment.Endpoints

/-!
# NocIq — one payment for each outage

`create_payment_for_outage` gives a payment the first twelve characters of its outage's id, under
`pay_`, while the hash of the transaction carries the id in full, in a column of 255 characters.

* **`create_succeeds_iff`** — on the tables these calls build, which outages a payment can be
  created for.
* **`distinct_outages_distinct_payments_iff`** — when two outages get two payments.
-/

namespace NocIq

open Relational PaymentRepository

/-! ## The call -/

/-- The declared width of `transaction_hash`. The other texts of the payment are constants, or in
columns without a width. -/
def transactionHashWidth : Nat := 255

inductive PaymentFailure where
  /-- a text is too long for its column -/
  | stringDataRightTruncation
  | raised (e : Exc)
  deriving DecidableEq, Repr

/-- The transaction hash of an outage's payment fits its column. -/
def HashFits (outageId : String) : Prop :=
  (s!"outage-{outageId}" : String).length ≤ transactionHashWidth

instance (outageId : String) : Decidable (HashFits outageId) := by unfold HashFits; infer_instance

/-- `create_payment_for_outage` without an idempotency key, on columns of their declared width. -/
def createOutagePayment (outageId : String) (now : Time) (db : Db) :
    Except PaymentFailure PaymentTransaction × Db :=
  if HashFits outageId then
    match createPaymentForOutage outageId now db with
    | (.ok created, db) => (.ok created, db)
    | (.error e, db) => (.error (.raised e), db)
  else (.error .stringDataRightTruncation, db)

/-- The part of an outage's id that goes into the id of its payment. -/
def idPart (outageId : String) : List Char := outageId.toList.take 12

def outagePayment (outageId : String) (now : Time) : PaymentTransaction where
  id := "pay_" ++ String.ofList (outageId.toList.take 12)
  transactionHash := s!"outage-{outageId}"
  type := "sla_settlement"
  amount := 0
  assetCode := "USDC"
  fromAddress := "SYSTEM_POOL"
  toAddress := "OUTAGE_SETTLEMENT"
  status := "pending"
  outageId := outageId
  createdAt := now

theorem createPaymentForOutage_eq (outageId : String) (now : Time) (db : Db) :
    createPaymentForOutage outageId now db = create (outagePayment outageId now) db := rfl

/-! ## The tables these calls build -/

/-- The databases whose payments were all made by `create_payment_for_outage`. What else is
stored may change between two calls, the outages among it. -/
inductive BuiltByCreate : Db → Prop where
  | empty {db : Db} : Satisfies schema db → db.paymentTransactions = [] → BuiltByCreate db
  | create {db : Db} (outageId : String) (now : Time) :
      BuiltByCreate db → BuiltByCreate (createOutagePayment outageId now db).2
  | elsewhere {db db' : Db} : BuiltByCreate db → Satisfies schema db' →
      db'.paymentTransactions = db.paymentTransactions → BuiltByCreate db'

/-- A row as `create_payment_for_outage` writes it. -/
structure OfOutage (row : PaymentTransactionORM) : Prop where
  id : row.id = "pay_" ++ String.ofList (idPart row.outageId)
  hash : row.transactionHash = "outage-" ++ row.outageId

structure OutagePayments (db : Db) : Prop where
  satisfies : Satisfies schema db
  rows : ∀ row ∈ db.paymentTransactions, OfOutage row

theorem ofOutage_newRow (outageId : String) (now : Time) :
    OfOutage (newRow (outagePayment outageId now)) where
  id := rfl
  hash := rfl

/-- What a payment can be created for: a stored outage with a hash that fits, whose part of the id
no payment has taken. -/
structure PaymentCreatable (db : Db) (outageId : String) : Prop where
  stored : outageId ∈ db.outageIds
  fits : HashFits outageId
  free : ∀ row ∈ db.paymentTransactions, idPart row.outageId ≠ idPart outageId

theorem paymentId_inj {a b : List Char}
    (h : "pay_" ++ String.ofList a = "pay_" ++ String.ofList b) : a = b := by
  have hlist := congrArg String.toList h
  rw [String.toList_append, String.toList_append] at hlist
  exact String.ofList_injective (String.toList_inj.mp (List.append_cancel_left hlist))

theorem transactionHash_inj {a b : String} (h : "outage-" ++ a = "outage-" ++ b) : a = b := by
  have hlist := congrArg String.toList h
  rw [String.toList_append, String.toList_append] at hlist
  exact String.toList_inj.mp (List.append_cancel_left hlist)

theorem keysFree_outagePayment_iff {rows : List PaymentTransactionORM}
    (hrows : ∀ row ∈ rows, OfOutage row)
    (outageId : String) (now : Time) :
    KeysFree rows (newRow (outagePayment outageId now)) ↔
      ∀ row ∈ rows, idPart row.outageId ≠ idPart outageId := by
  constructor
  · intro hfree row hrow hpart
    apply hfree.id row hrow
    rw [(hrows row hrow).id, hpart]
    rfl
  · intro hpart
    -- the hash and the outage of another row are those of an outage with another part
    have houtage : ∀ row ∈ rows, row.outageId ≠ outageId := by
      rintro row hrow rfl
      exact hpart row hrow rfl
    refine ⟨?_, ?_, (fun _ _ _ h => nomatch h), (fun _ _ _ h => nomatch h), ?_⟩
    · intro row hrow hid
      rw [(hrows row hrow).id] at hid
      exact hpart row hrow (paymentId_inj hid)
    · intro row hrow hhash
      rw [(hrows row hrow).hash] at hhash
      exact houtage row hrow (transactionHash_inj hhash)
    · intro row hrow hkey
      exact houtage row hrow hkey.1

variable {db : Db}

theorem satisfies_insert_iff (h : OutagePayments db) (outageId : String) (now : Time) :
    Satisfies schema (insertPayment (newRow (outagePayment outageId now)) db) ↔
      outageId ∈ db.outageIds ∧
        ∀ row ∈ db.paymentTransactions, idPart row.outageId ≠ idPart outageId := by
  obtain ⟨hsla, hdisputes, hpayments⟩ := (satisfies_schema_iff db).mp h.satisfies
  rw [satisfies_schema_iff, ← keysFree_outagePayment_iff h.rows outageId now]
  constructor
  · intro hsat
    obtain ⟨-, hfree, houtage, -⟩ := inserted_payment_valid_iff.mp hsat.2.2
    exact ⟨houtage, hfree⟩
  · rintro ⟨houtage, hfree⟩
    refine ⟨hsla, hdisputes, inserted_payment_valid_iff.mpr ⟨hpayments, hfree, houtage, ?_⟩⟩
    exact fun _ h => nomatch h

/-! ## One call -/

theorem createOutagePayment_of_creatable (h : OutagePayments db) {outageId : String}
    (hcreatable : PaymentCreatable db outageId) (now : Time) :
    createOutagePayment outageId now db =
      (.ok (ormToPydantic (newRow (outagePayment outageId now))),
        insertPayment (newRow (outagePayment outageId now)) db) := by
  have hsat := (satisfies_insert_iff h outageId now).mpr ⟨hcreatable.stored, hcreatable.free⟩
  unfold createOutagePayment
  rw [if_pos hcreatable.fits, createPaymentForOutage_eq, create_of_satisfies hsat]

theorem createOutagePayment_of_not_creatable (h : OutagePayments db) {outageId : String}
    (hcreatable : ¬ PaymentCreatable db outageId) (now : Time) :
    ∃ e, createOutagePayment outageId now db = (.error e, db) := by
  unfold createOutagePayment
  by_cases hfits : HashFits outageId
  · have hsat : ¬ Satisfies schema (insertPayment (newRow (outagePayment outageId now)) db) := by
      intro hsat
      obtain ⟨hstored, hfree⟩ := (satisfies_insert_iff h outageId now).mp hsat
      exact hcreatable ⟨hstored, hfits, hfree⟩
    obtain ⟨name, hname⟩ := create_of_violation hsat
    rw [if_pos hfits, createPaymentForOutage_eq, hname]
    exact ⟨_, rfl⟩
  · rw [if_neg hfits]
    exact ⟨_, rfl⟩

theorem OutagePayments.create (h : OutagePayments db) (outageId : String) (now : Time) :
    OutagePayments (createOutagePayment outageId now db).2 := by
  by_cases hcreatable : PaymentCreatable db outageId
  · rw [createOutagePayment_of_creatable h hcreatable now]
    refine ⟨(satisfies_insert_iff h outageId now).mpr ⟨hcreatable.stored, hcreatable.free⟩, ?_⟩
    intro row hrow
    rcases List.mem_append.mp hrow with hrow | hrow
    · exact h.rows row hrow
    · rw [List.mem_singleton.mp hrow]
      exact ofOutage_newRow outageId now
  · obtain ⟨e, he⟩ := createOutagePayment_of_not_creatable h hcreatable now
    rw [he]
    exact h

/-- Induction on how the table was built. -/
theorem BuiltByCreate.outagePayments (h : BuiltByCreate db) : OutagePayments db := by
  induction h with
  | empty hsat hempty =>
    refine ⟨hsat, ?_⟩
    rw [hempty]
    exact fun row hrow => absurd hrow List.not_mem_nil
  | create outageId now _ ih => exact ih.create outageId now
  | elsewhere _ hsat hsame ih =>
    refine ⟨hsat, ?_⟩
    rw [hsame]
    exact ih.rows

/-- **Which outages a payment can be created for.** -/
theorem create_succeeds_iff (h : BuiltByCreate db) (outageId : String) (now : Time) :
    (∃ payment, (createOutagePayment outageId now db).1 = .ok payment) ↔
      PaymentCreatable db outageId := by
  constructor
  · rintro ⟨payment, hpayment⟩
    by_contra hcreatable
    obtain ⟨e, he⟩ := createOutagePayment_of_not_creatable h.outagePayments hcreatable now
    rw [he] at hpayment
    cases hpayment
  · intro hcreatable
    rw [createOutagePayment_of_creatable h.outagePayments hcreatable now]
    exact ⟨_, rfl⟩

/-- After a payment for one outage, one can be created for another if it could be before and the
parts of the two ids differ. -/
theorem paymentCreatable_insert_iff (a b : String) (now : Time) :
    PaymentCreatable (insertPayment (newRow (outagePayment a now)) db) b ↔
      PaymentCreatable db b ∧ idPart a ≠ idPart b := by
  constructor
  · intro h
    refine ⟨⟨h.stored, h.fits, fun row hrow => h.free row (List.mem_append_left _ hrow)⟩, ?_⟩
    exact h.free _ (List.mem_append_right _ (List.mem_singleton_self _))
  · rintro ⟨h, hpart⟩
    refine ⟨h.stored, h.fits, fun row hrow => ?_⟩
    rcases List.mem_append.mp hrow with hrow | hrow
    · exact h.free row hrow
    · rw [List.mem_singleton.mp hrow]
      exact hpart

/-! ## Two outages -/

theorem get_of_mem (h : Satisfies schema db) {row : PaymentTransactionORM}
    (hrow : row ∈ db.paymentTransactions) :
    get db (ormToPydantic row).id = some (ormToPydantic row) := by
  have hfind : findPayment db row.id = some row := (findPayment_eq_some h).mpr ⟨hrow, rfl⟩
  exact congrArg (Option.map ormToPydantic) hfind

/-- Two calls succeed, one after the other, and store two payments with different ids, each with
its own outage. -/
def PaidApart (db : Db) (a b : String) (now now' : Time) : Prop :=
  let first := createOutagePayment a now db
  let second := createOutagePayment b now' first.2
  ∃ p q, first.1 = .ok p ∧ second.1 = .ok q ∧ p.id ≠ q.id ∧ p.outageId = a ∧ q.outageId = b ∧
    get second.2 p.id = some p ∧ get second.2 q.id = some q

/-- **Two outages get two payments** exactly if a payment can be created for each and the first
twelve characters of their ids differ. -/
theorem distinct_outages_distinct_payments_iff {db : Db} (h : BuiltByCreate db) (a b : String)
    (now now' : Time) :
    PaidApart db a b now now' ↔
      PaymentCreatable db a ∧ PaymentCreatable db b ∧ idPart a ≠ idPart b := by
  constructor
  · rintro ⟨p, q, hp, hq, -⟩
    have ha := (create_succeeds_iff h a now).mp ⟨p, hp⟩
    have hb := (create_succeeds_iff (h.create a now) b now').mp ⟨q, hq⟩
    rw [createOutagePayment_of_creatable h.outagePayments ha now] at hb
    exact ⟨ha, (paymentCreatable_insert_iff a b now).mp hb⟩
  · rintro ⟨ha, hb⟩
    have hfirst := createOutagePayment_of_creatable h.outagePayments ha now
    have htables := h.outagePayments.create a now
    rw [hfirst] at htables
    have hcreatable := (paymentCreatable_insert_iff a b now).mpr hb
    have hsecond := createOutagePayment_of_creatable htables hcreatable now'
    have hafter := htables.create b now'
    rw [hsecond] at hafter
    show ∃ p q, _
    rw [hfirst, hsecond]
    refine ⟨_, _, rfl, rfl, fun hid => hb.2 (paymentId_inj hid), rfl, rfl, ?_, ?_⟩
    -- both rows are at the end of the table
    · apply get_of_mem hafter.satisfies
      exact List.mem_append_left _ (List.mem_append_right _ (List.mem_singleton_self _))
    · apply get_of_mem hafter.satisfies
      exact List.mem_append_right _ (List.mem_singleton_self _)

/-! ## Two outages of one day -/

def dailyOutages : Db where
  outages := [⟨"OUT-20240115-001", "high", none⟩, ⟨"OUT-20240115-002", "low", none⟩,
    ⟨"NET-20240115-003", "low", none⟩]

theorem builtByCreate_dailyOutages : BuiltByCreate dailyOutages := .empty (by decide) rfl

/-- Outages of two kinds are told apart. -/
theorem kinds_paid_apart :
    PaidApart dailyOutages "OUT-20240115-001" "NET-20240115-003" 0 1 := by
  apply (distinct_outages_distinct_payments_iff builtByCreate_dailyOutages _ _ _ _).mpr
  exact ⟨⟨by decide, by decide, fun _ h => absurd h List.not_mem_nil⟩,
    ⟨by decide, by decide, fun _ h => absurd h List.not_mem_nil⟩, by decide⟩

/-- Two outages of one day, neither of them paid for: the second gets no payment. -/
theorem daily_outages_not_paid_apart :
    BuiltByCreate dailyOutages ∧ dailyOutages.paymentTransactions = [] ∧
      "OUT-20240115-001" ∈ dailyOutages.outageIds ∧ "OUT-20240115-002" ∈ dailyOutages.outageIds ∧
      "OUT-20240115-001" ≠ "OUT-20240115-002" ∧
      ¬ PaidApart dailyOutages "OUT-20240115-001" "OUT-20240115-002" 0 1 := by
  refine ⟨builtByCreate_dailyOutages, rfl, by decide, by decide, by decide, ?_⟩
  rintro ⟨p, q, -, hq, -⟩
  have hfail : (createOutagePayment "OUT-20240115-002" 1
      (createOutagePayment "OUT-20240115-001" 0 dailyOutages).2).1 =
        .error (.raised (.integrityError "payment_transactions_pkey")) := by decide
  rw [hfail] at hq
  cases hq

end NocIq
