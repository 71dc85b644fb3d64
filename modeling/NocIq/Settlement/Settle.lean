import NocIq.Payment.Repository
import NocIq.Sla.Effective

/-!
# NocIq — the settlement step

What `resolve_outage` and `recompute_sla` of `app/api/v1/endpoints/outages.py` do with a calculated
result: `create_if_changed` stores it, `create_for_sla_result` pays the stored row. Each of the two
commits on its own.

* **`createIfChanged_of_new`** — a result without a database id is never recognised as unchanged.
* **`settle_eq`** — so a settlement appends a row, and then creates its payment.
* **`settle_outcome`** — so a settlement ends in one of three ways.
-/

namespace NocIq

open Relational SLARepository

/-- The settings and random values a settlement uses. -/
structure SettleEnv where
  settings : PaymentSettings := {}
  uuidHex : String
  started : Time
  now : Time
  deriving DecidableEq, Repr

def settle (env : SettleEnv) (outageId : String) (sla : SLAResult) (db : Db) :
    Except Exc (SLAResult × PaymentTransaction) × Db :=
  match createIfChanged sla env.started db with
  | (.error e, db) => (.error e, db)
  | (.ok storedSla, db) =>
    match PaymentRepository.createForSlaResult env.settings env.uuidHex env.now outageId storedSla
        db with
    | (.error e, db) => (.error e, db)
    | (.ok payment, db) => (.ok (storedSla, payment), db)

variable {sla : SLAResult}

/-- The stored row `get_by_outage` returns carries its id, and a calculated result carries none. -/
theorem createIfChanged_of_new (hid : sla.id = none) (started : Time) (db : Db) :
    createIfChanged sla started db = create sla started db := by
  unfold createIfChanged
  cases hlatest : getByOutage db sla.outageId with
  | none => rfl
  | some latest =>
    have hne : latest ≠ sla := by
      intro heq
      have hsome : latest.id.isSome := by
        unfold getByOutage at hlatest
        split at hlatest
        · rw [← Option.some.inj hlatest]
          rfl
        · obtain ⟨orm, -, horm⟩ := Option.map_eq_some_iff.mp hlatest
          rw [← horm]
          rfl
      rw [heq, hid] at hsome
      cases hsome
    exact if_neg hne

/-- The row a settlement inserts, and the result it returns for it. -/
def settledRow (env : SettleEnv) (sla : SLAResult) (db : Db) : SLAResultORM :=
  newRow sla (db.slaResultsSeq + 1) true env.started

def settledPayment (env : SettleEnv) (outageId : String) (sla : SLAResult) (db : Db) :
    PaymentTransaction :=
  PaymentRepository.paymentFor env.settings env.uuidHex env.now outageId
    (ormToPydantic (settledRow env sla db)) (db.slaResultsSeq + 1)

variable {db : Db}

theorem next_id_not_paid (h : db.WellFormed) {p : PaymentTransactionORM}
    (hp : p ∈ db.paymentTransactions) : p.slaResultId ≠ some (db.slaResultsSeq + 1) := by
  intro hid
  obtain ⟨r, hr, hrid⟩ := List.mem_map.mp (h.payments.slaFkey p hp _ hid)
  have hle := (h.seq r hr).2
  rw [hrid] at hle
  omega

/-- **The settlement of a new result.** For a stored outage the row is appended; what remains is
the commit of its payment. -/
theorem settle_eq (h : db.WellFormed) (env : SettleEnv) {outageId : String} (hid : sla.id = none)
    (hout : sla.outageId ∈ db.outageIds) :
    settle env outageId sla db =
      match PaymentRepository.create (settledPayment env outageId sla db)
          (created sla env.started db) with
      | (.error e, db') => (.error e, db')
      | (.ok payment, db') => (.ok (ormToPydantic (settledRow env sla db), payment), db') := by
  -- the row is new, so `create_for_sla_result` finds no payment of it
  have hunpaid : PaymentRepository.getBySlaResult (created sla env.started db)
      (db.slaResultsSeq + 1) = none := by
    unfold PaymentRepository.getBySlaResult
    rw [Option.map_eq_none_iff, List.find?_eq_none]
    intro p hp
    simpa using next_id_not_paid h hp
  unfold settle
  rw [createIfChanged_of_new hid, create_eq h hout]
  dsimp only
  have hpaid : PaymentRepository.createForSlaResult env.settings env.uuidHex env.now outageId
      (ormToPydantic (newRow sla (db.slaResultsSeq + 1) true env.started))
      (created sla env.started db)
      = PaymentRepository.create (settledPayment env outageId sla db)
          (created sla env.started db) := by
    unfold PaymentRepository.createForSlaResult
    dsimp only [ormToPydantic, newRow]
    rw [hunpaid]
    rfl
  rw [hpaid]
  rfl

theorem settle_unknown_outage (h : db.WellFormed) (env : SettleEnv) (outageId : String)
    (hid : sla.id = none) (hout : sla.outageId ∉ db.outageIds) :
    ∃ name, settle env outageId sla db =
      (.error (.integrityError name), { db with slaResultsSeq := db.slaResultsSeq + 1 }) := by
  obtain ⟨name, hname⟩ := create_unknown_outage h env.started hout
  refine ⟨name, ?_⟩
  unfold settle
  rw [createIfChanged_of_new hid, hname]

/-- The database after a settlement that returned. -/
def settled (env : SettleEnv) (outageId : String) (sla : SLAResult) (db : Db) : Db :=
  PaymentRepository.insertPayment
    (PaymentRepository.newRow (settledPayment env outageId sla db)) (created sla env.started db)

def settledResult (env : SettleEnv) (outageId : String) (sla : SLAResult) (db : Db) :
    SLAResult × PaymentTransaction :=
  (ormToPydantic (settledRow env sla db),
    PaymentRepository.ormToPydantic
      (PaymentRepository.newRow (settledPayment env outageId sla db)))

/-- **The three outcomes of a settlement.** The outage is not stored; or the row is stored and its
payment violates a constraint; or both are stored. -/
inductive SettleOutcome (env : SettleEnv) (outageId : String) (sla : SLAResult) (db : Db) :
    Except Exc (SLAResult × PaymentTransaction) × Db → Prop where
  | unknownOutage {name : String} (hout : sla.outageId ∉ db.outageIds) :
      SettleOutcome env outageId sla db
        (.error (.integrityError name), { db with slaResultsSeq := db.slaResultsSeq + 1 })
  | unpaid {name : String} (hout : sla.outageId ∈ db.outageIds)
      (hviolates : ¬ Satisfies schema (settled env outageId sla db)) :
      SettleOutcome env outageId sla db
        (.error (.integrityError name), created sla env.started db)
  | paid (hout : sla.outageId ∈ db.outageIds)
      (hsat : Satisfies schema (settled env outageId sla db)) :
      SettleOutcome env outageId sla db
        (.ok (settledResult env outageId sla db), settled env outageId sla db)

theorem settle_outcome (h : db.WellFormed) (env : SettleEnv) (outageId : String)
    (hid : sla.id = none) : SettleOutcome env outageId sla db (settle env outageId sla db) := by
  by_cases hout : sla.outageId ∈ db.outageIds
  · rw [settle_eq h env hid hout]
    by_cases hsat : Satisfies schema (settled env outageId sla db)
    · rw [PaymentRepository.create_of_satisfies hsat]
      exact .paid hout hsat
    · obtain ⟨name, hname⟩ := PaymentRepository.create_of_violation hsat
      rw [hname]
      exact .unpaid hout hsat
  · obtain ⟨name, hname⟩ := settle_unknown_outage h env outageId hid hout
    rw [hname]
    exact .unknownOutage hout

theorem SettleOutcome.wellFormed (h : db.WellFormed) {env : SettleEnv} {outageId : String}
    {outcome : Except Exc (SLAResult × PaymentTransaction) × Db}
    (houtcome : SettleOutcome env outageId sla db outcome) : outcome.2.WellFormed := by
  cases houtcome with
  | unknownOutage => exact wellFormed_seq h
  | unpaid hout => exact created_wellFormed h env.started hout
  | paid hout hsat =>
    obtain ⟨hsla, hdisp, hpay⟩ := (satisfies_schema_iff _).mp hsat
    exact ⟨hsla, hdisp, hpay, (created_wellFormed h env.started hout).seq⟩

/-- **A settlement that returned** has appended the flagged row and its payment. -/
theorem settle_eq_ok {db' : Db} (h : db.WellFormed) {env : SettleEnv} {outageId : String}
    (hid : sla.id = none) {result : SLAResult × PaymentTransaction}
    (hok : settle env outageId sla db = (.ok result, db')) :
    sla.outageId ∈ db.outageIds ∧ db' = settled env outageId sla db ∧ db'.WellFormed := by
  have houtcome := settle_outcome h env outageId hid
  have hwf := houtcome.wellFormed h
  rw [hok] at houtcome hwf
  cases houtcome with
  | paid hout hsat => exact ⟨hout, rfl, hwf⟩

end NocIq
