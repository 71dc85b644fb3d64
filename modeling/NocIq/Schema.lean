import Mathlib.Data.Rat.Defs
import NocIq.Lib.Relational
import NocIq.Sla.Calculator

/-!
# NocIq — the settlement tables and their constraints

The rows of `app/models/orm/{sla,payment}.py` and `app/models/sla_dispute.py`, the database they
live in, and the constraints declared on them by the models and by the Alembic migrations
(`schema`). `Db.WellFormed` states the constraints table by table; `Db.commit` is a session's
commit: every pending statement is checked, and a violated constraint rolls all of them back.
-/

namespace NocIq

open Relational

/-! ## Rows -/

/-- The columns of `outages` that the SLA queries read. -/
structure OutageRow where
  id : String
  severity : String
  siteId : Option String
  deriving DecidableEq, Repr

/-- A row of `sla_results`. -/
structure SLAResultORM where
  id : Nat
  outageId : String
  status : SLAStatus
  mttrMinutes : Int
  thresholdMinutes : Int
  amount : Int
  paymentType : PaymentType
  rating : Rating
  policyVersion : String
  thresholdSource : String
  createdAt : Time
  isLatest : Bool
  reasonCode : Option String
  decisionTrace : Option String
  deriving DecidableEq, Repr

/-- A row of `payment_transactions`. No modelled operation deletes an outage, so the nullable
`outage_id` column always holds one. -/
structure PaymentTransactionORM where
  id : String
  transactionHash : String
  type : String
  amount : ℚ
  assetCode : String
  fromAddress : String
  toAddress : String
  status : String
  outageId : String
  slaResultId : Option Nat
  createdAt : Time
  confirmedAt : Option Time
  retryCount : Nat := 0
  lastRetriedAt : Option Time := none
  failureTaxonomy : Option String := none
  idempotencyKey : Option String
  deadLetterReason : Option String := none
  deadLetteredAt : Option Time := none
  deriving DecidableEq, Repr

inductive DisputeStatus where
  | pending
  | resolved
  | rejected
  deriving DecidableEq, Repr

@[inherit_doc SLAStatus.value]
def DisputeStatus.value : DisputeStatus → String
  | .pending => "pending"
  | .resolved => "resolved"
  | .rejected => "rejected"

/-- A row of `sla_disputes`. -/
structure SLADispute where
  id : String
  slaResultId : Nat
  baselineSlaResultId : Option Nat
  proposedSlaResultId : Option Nat := none
  flaggedBy : String
  disputeReason : String
  flaggedAt : Time
  status : DisputeStatus := .pending
  resolvedBy : Option String := none
  resolutionNotes : Option String := none
  resolvedAt : Option Time := none
  deriving DecidableEq, Repr

/-- A row of `dispute_audit_logs`, without its random primary key. -/
structure DisputeAuditLog where
  disputeId : String
  action : String
  actor : String
  notes : Option String
  recordedAt : Time
  deriving DecidableEq, Repr

/-- A scalar value of an audit entry's `details` dictionary. -/
inductive DetailValue where
  | null
  | int (n : Int)
  | str (s : String)
  /-- the text of a transition error, as data -/
  | transitionText (current nextStatus : String) (allowed : List String)
  deriving DecidableEq, Repr

/-- A row of `audit_logs`, without the actor columns the payment endpoints leave empty. -/
structure AuditLogORM where
  eventType : String
  details : List (String × DetailValue)
  createdAt : Time
  deriving DecidableEq, Repr

/-- The database. `slaResultsSeq` is the last value drawn from the sequence behind
`sla_results.id`. -/
structure Db where
  outages : List OutageRow := []
  slaResults : List SLAResultORM := []
  slaResultsSeq : Nat := 0
  slaDisputes : List SLADispute := []
  disputeAuditLogs : List DisputeAuditLog := []
  paymentTransactions : List PaymentTransactionORM := []
  auditLogs : List AuditLogORM := []
  deriving DecidableEq, Repr

/-! ## Keys of the indexes -/

/-- The key of the partial unique index `uq_sla_results_outage_latest`. -/
def SLAResultORM.latestKey (r : SLAResultORM) : Option String :=
  if r.isLatest then some r.outageId else none

/-- The key of `uq_payment_outage_type`. -/
def PaymentTransactionORM.outageTypeKey (p : PaymentTransactionORM) : Option (String × String) :=
  some (p.outageId, p.type)

def Db.outageIds (db : Db) : List String := db.outages.map (·.id)

def Db.slaIds (db : Db) : List Nat := db.slaResults.map (·.id)

def Db.disputeIds (db : Db) : List String := db.slaDisputes.map (·.id)

/-! ## The declared constraints -/

/-- Primary keys, unique columns and indexes, and foreign keys of the settlement tables. -/
def schema : List (Constraint Db) :=
  [ unique "outages_pkey" Db.outages (fun o => some o.id),
    unique "sla_results_pkey" Db.slaResults (fun r => some r.id),
    foreignKey "sla_results_outage_id_fkey" Db.slaResults (fun r => some r.outageId) Db.outageIds,
    unique "uq_sla_results_outage_latest" Db.slaResults SLAResultORM.latestKey,
    unique "sla_disputes_pkey" Db.slaDisputes (fun d => some d.id),
    foreignKey "sla_disputes_sla_result_id_fkey" Db.slaDisputes (fun d => some d.slaResultId)
      Db.slaIds,
    foreignKey "sla_disputes_baseline_sla_result_id_fkey" Db.slaDisputes
      SLADispute.baselineSlaResultId Db.slaIds,
    foreignKey "sla_disputes_proposed_sla_result_id_fkey" Db.slaDisputes
      SLADispute.proposedSlaResultId Db.slaIds,
    foreignKey "dispute_audit_logs_dispute_id_fkey" Db.disputeAuditLogs
      (fun l => some l.disputeId) Db.disputeIds,
    unique "payment_transactions_pkey" Db.paymentTransactions (fun p => some p.id),
    unique "payment_transactions_transaction_hash_key" Db.paymentTransactions
      (fun p => some p.transactionHash),
    unique "uq_payment_sla_result_id" Db.paymentTransactions PaymentTransactionORM.slaResultId,
    unique "ix_payment_transactions_idempotency_key" Db.paymentTransactions
      PaymentTransactionORM.idempotencyKey,
    unique "uq_payment_outage_type" Db.paymentTransactions PaymentTransactionORM.outageTypeKey,
    foreignKey "payment_transactions_outage_id_fkey" Db.paymentTransactions
      (fun p => some p.outageId) Db.outageIds,
    foreignKey "payment_transactions_sla_result_id_fkey" Db.paymentTransactions
      PaymentTransactionORM.slaResultId Db.slaIds ]

/-- The constraints on `outages` and `sla_results`. -/
structure SlaTablesValid (outages : List OutageRow) (rows : List SLAResultORM) : Prop where
  outagesPkey : (outages.filterMap (fun o => some o.id)).Nodup
  pkey : (rows.filterMap (fun r => some r.id)).Nodup
  outageFkey : ∀ r ∈ rows, r.outageId ∈ outages.map (·.id)
  latest : (rows.filterMap SLAResultORM.latestKey).Nodup

/-- The constraints on the dispute tables, over the ids of `sla_results`. -/
structure DisputeTablesValid (slaIds : List Nat) (disputes : List SLADispute)
    (logs : List DisputeAuditLog) : Prop where
  pkey : (disputes.filterMap (fun d => some d.id)).Nodup
  slaFkey : ∀ d ∈ disputes, d.slaResultId ∈ slaIds
  baselineFkey : ∀ d ∈ disputes, ∀ i, d.baselineSlaResultId = some i → i ∈ slaIds
  proposedFkey : ∀ d ∈ disputes, ∀ i, d.proposedSlaResultId = some i → i ∈ slaIds
  logFkey : ∀ l ∈ logs, l.disputeId ∈ disputes.map (·.id)

/-- The constraints on `payment_transactions`, over the ids of the tables it refers to. -/
structure PaymentTablesValid (outageIds : List String) (slaIds : List Nat)
    (payments : List PaymentTransactionORM) : Prop where
  pkey : (payments.filterMap (fun p => some p.id)).Nodup
  hash : (payments.filterMap (fun p => some p.transactionHash)).Nodup
  slaResult : (payments.filterMap PaymentTransactionORM.slaResultId).Nodup
  idempotency : (payments.filterMap PaymentTransactionORM.idempotencyKey).Nodup
  outageType : (payments.filterMap PaymentTransactionORM.outageTypeKey).Nodup
  outageFkey : ∀ p ∈ payments, p.outageId ∈ outageIds
  slaFkey : ∀ p ∈ payments, ∀ i, p.slaResultId = some i → i ∈ slaIds

/-- The declared constraints hold, and stored SLA ids come from the sequence: they are positive
and it is ahead of them. -/
structure Db.WellFormed (db : Db) : Prop where
  sla : SlaTablesValid db.outages db.slaResults
  disputes : DisputeTablesValid db.slaIds db.slaDisputes db.disputeAuditLogs
  payments : PaymentTablesValid db.outageIds db.slaIds db.paymentTransactions
  seq : ∀ r ∈ db.slaResults, 0 < r.id ∧ r.id ≤ db.slaResultsSeq

theorem satisfies_schema_iff (db : Db) :
    Satisfies schema db ↔ SlaTablesValid db.outages db.slaResults ∧
      DisputeTablesValid db.slaIds db.slaDisputes db.disputeAuditLogs ∧
      PaymentTablesValid db.outageIds db.slaIds db.paymentTransactions := by
  simp only [Satisfies, schema, List.forall_mem_cons, unique_holds, foreignKey_holds,
    Option.some.injEq, forall_eq']
  constructor
  · rintro ⟨h1, h2, h3, h4, h5, h6, h7, h8, h9, h10, h11, h12, h13, h14, h15, h16, -⟩
    exact ⟨⟨h1, h2, h3, h4⟩, ⟨h5, h6, h7, h8, h9⟩, ⟨h10, h11, h12, h13, h14, h15, h16⟩⟩
  · rintro ⟨⟨h1, h2, h3, h4⟩, ⟨h5, h6, h7, h8, h9⟩, ⟨h10, h11, h12, h13, h14, h15, h16⟩⟩
    exact ⟨h1, h2, h3, h4, h5, h6, h7, h8, h9, h10, h11, h12, h13, h14, h15, h16, by simp⟩

theorem Db.WellFormed.satisfies {db : Db} (h : db.WellFormed) : Satisfies schema db :=
  (satisfies_schema_iff db).mpr ⟨h.sla, h.disputes, h.payments⟩

theorem DisputeTablesValid.mono {ids ids' : List Nat} {disputes : List SLADispute}
    {logs : List DisputeAuditLog} (h : DisputeTablesValid ids disputes logs) (hsub : ids ⊆ ids') :
    DisputeTablesValid ids' disputes logs where
  pkey := h.pkey
  slaFkey d hd := hsub (h.slaFkey d hd)
  baselineFkey d hd i hi := hsub (h.baselineFkey d hd i hi)
  proposedFkey d hd i hi := hsub (h.proposedFkey d hd i hi)
  logFkey := h.logFkey

theorem PaymentTablesValid.mono {outageIds : List String} {ids ids' : List Nat}
    {payments : List PaymentTransactionORM} (h : PaymentTablesValid outageIds ids payments)
    (hsub : ids ⊆ ids') : PaymentTablesValid outageIds ids' payments :=
  { h with slaFkey := fun p hp i hi => hsub (h.slaFkey p hp i hi) }

/-! ## Commit -/

/-- `session.commit()` with the given pending statements: all of them, or none and an
`IntegrityError`. Values drawn from a sequence stay drawn. -/
def Db.commit {α : Type} (db : Db) (pending : List (Statement Db)) (result : α) :
    Except Exc α × Db :=
  match execAll schema pending db with
  | .ok db' => (.ok result, db')
  | .error name => (.error (.integrityError name), db)

variable {pending : List (Statement Db)}

theorem Db.commit_eq {α : Type} {db : Db} (h : SatisfiesEach schema pending db) (result : α) :
    db.commit pending result = (.ok result, pending.foldl (fun s f => f s) db) := by
  unfold Db.commit
  rw [execAll_of_satisfiesEach h]

theorem Db.commit_violation {α : Type} {db : Db} (h : ¬ SatisfiesEach schema pending db)
    (result : α) : ∃ name, db.commit pending result = (.error (.integrityError name), db) := by
  obtain ⟨name, hname⟩ := execAll_of_not_satisfiesEach h
  exact ⟨name, by simp [Db.commit, hname]⟩

theorem Db.commit_eq_ok {α : Type} {db db' : Db} {result r : α}
    (h : db.commit pending result = (.ok r, db')) :
    SatisfiesEach schema pending db ∧ r = result ∧ db' = pending.foldl (fun s f => f s) db := by
  by_cases hsat : SatisfiesEach schema pending db
  · rw [Db.commit_eq hsat] at h
    obtain ⟨hr, hdb⟩ := Prod.mk.inj h
    exact ⟨hsat, (Except.ok.inj hr).symm, hdb.symm⟩
  · obtain ⟨name, hname⟩ := Db.commit_violation hsat result
    rw [hname] at h
    cases (Prod.mk.inj h).1

/-! ## Storing an outage -/

def insertOutage (row : OutageRow) : Statement Db := fun db =>
  { db with outages := db.outages ++ [row] }

/-- A new outage, as far as the settlement tables see it. -/
def storeOutage (row : OutageRow) (db : Db) : Except Exc OutageRow × Db :=
  db.commit [insertOutage row] row

theorem storeOutage_eq {db : Db} (h : db.WellFormed) (row : OutageRow) :
    ∃ outages, (storeOutage row db).2 = { db with outages } ∧ db.outages ⊆ outages ∧
      Db.WellFormed { db with outages } := by
  by_cases hsat : SatisfiesEach schema [insertOutage row] db
  · have hstored : (storeOutage row db).2 = insertOutage row db :=
      congrArg Prod.snd (Db.commit_eq hsat row)
    obtain ⟨hsla, hdisp, hpay⟩ := (satisfies_schema_iff _).mp (hsat.foldl h.satisfies)
    exact ⟨db.outages ++ [row], hstored, List.subset_append_left _ _, hsla, hdisp, hpay, h.seq⟩
  · obtain ⟨name, hname⟩ := Db.commit_violation hsat row
    exact ⟨db.outages, congrArg Prod.snd hname, List.Subset.refl _, h⟩

end NocIq
