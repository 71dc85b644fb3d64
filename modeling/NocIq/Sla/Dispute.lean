import NocIq.Json
import NocIq.Sla.Repository

/-!
# NocIq — SLA disputes

The requests of `app/api/v1/endpoints/sla_dispute.py` that write: `flag_dispute`,
`create_proposed_sla` and `resolve_dispute`. The session has `autoflush=False`, so the pending
changes of a request reach the database at its explicit `flush` and at its `commit`; the order of
the statements a flush emits is part of the model (`flushFlags`).

A request's random UUIDs and clock readings are arguments.
-/

namespace NocIq

open Relational

/-! ## Request models -/

structure DisputeFlagRequest where
  flaggedBy : String
  disputeReason : String
  disputeReason_length : 10 ≤ disputeReason.length

structure CreateProposedSLARequest where
  createdBy : String
  severity : String
  mttrMinutes : Int
  policyVersion : String := "1.0"
  thresholdSource : String := "config"
  notes : Option String := none

structure DisputeResolveRequest where
  resolvedBy : String
  resolutionNotes : String
  status : DisputeStatus
  applyProposed : Bool := false
  resolutionNotes_length : 10 ≤ resolutionNotes.length

/-! ## Statements -/

def insertDispute (dispute : SLADispute) : Statement Db := fun db =>
  { db with slaDisputes := db.slaDisputes ++ [dispute] }

def replaceDispute (dispute d : SLADispute) : SLADispute := if d.id = dispute.id then dispute else d

/-- `UPDATE sla_disputes SET … WHERE id = …`. -/
def updateDispute (dispute : SLADispute) : Statement Db := fun db =>
  { db with slaDisputes := db.slaDisputes.map (replaceDispute dispute) }

def insertDisputeLog (log : DisputeAuditLog) : Statement Db := fun db =>
  { db with disputeAuditLogs := db.disputeAuditLogs ++ [log] }

def setFlag (id : Nat) (value : Bool) (r : SLAResultORM) : SLAResultORM :=
  if r.id = id then { r with isLatest := value } else r

/-- `UPDATE sla_results SET is_latest = … WHERE id = …`. -/
def updateFlag (id : Nat) (value : Bool) : Statement Db := fun db =>
  { db with slaResults := db.slaResults.map (setFlag id value) }

/-- The UPDATEs a flush emits for pending assignments to `is_latest`: none for a value that does
not change, and the others in ascending primary-key order, not in the order of assignment. -/
def flushFlags (assigned : List (SLAResultORM × Bool)) : List (Statement Db) :=
  ((assigned.filter fun a => a.1.isLatest != a.2).insertionSort fun a b => a.1.id ≤ b.1.id).map
    fun a => updateFlag a.1.id a.2

/-! ## Requests -/

def findSlaResult (db : Db) (id : Nat) : Option SLAResultORM :=
  db.slaResults.find? fun r => decide (r.id = id)

def pendingDispute (db : Db) (slaResultId : Nat) : Option SLADispute :=
  db.slaDisputes.find? fun d => decide (d.slaResultId = slaResultId ∧ d.status = .pending)

def flagDispute (disputeId : String) (slaResultId : Nat) (payload : DisputeFlagRequest) (now : Time)
    (db : Db) : Except Exc SLADispute × Db :=
  match findSlaResult db slaResultId with
  | none => (.error (.http 404 "SLA result not found"), db)
  | some _ =>
    match pendingDispute db slaResultId with
    | some _ =>
      (.error (.http 409 "An active dispute already exists for this SLA result."), db)
    | none =>
      let dispute : SLADispute :=
        { id := disputeId, slaResultId, baselineSlaResultId := some slaResultId,
          flaggedBy := payload.flaggedBy, disputeReason := payload.disputeReason, flaggedAt := now }
      let log : DisputeAuditLog :=
        { disputeId, action := "flagged", actor := payload.flaggedBy,
          notes := some payload.disputeReason, recordedAt := now }
      db.commit [insertDispute dispute, insertDisputeLog log] dispute

/-- The audit note of a proposal; an empty note of the request is not appended. -/
def proposalNotes (newSla : SLAResult) (notes : Option String) : String :=
  let auditNotes := s!"Proposed SLA created: {Json.dumpsSLAResult newSla}"
  match notes with
  | some text => if text = "" then auditNotes else auditNotes ++ s!" | Notes: {text}"
  | none => auditNotes

def createProposedSla (config : SLAConfig) (slaResultId : Nat) (payload : CreateProposedSLARequest)
    (started now : Time) (db : Db) : Except Exc SLADispute × Db :=
  match pendingDispute db slaResultId with
  | none => (.error (.http 404 "No pending dispute found for this SLA result."), db)
  | some dispute =>
    match db.slaResults.find? fun r => decide (dispute.baselineSlaResultId = some r.id) with
    | none => (.error (.http 404 "Baseline SLA not found"), db)
    | some baselineSla =>
      match SLACalculator.calculate config baselineSla.outageId payload.severity
          payload.mttrMinutes payload.policyVersion payload.thresholdSource with
      | .error e => (.error e, db)
      | .ok newSla =>
        let id := db.slaResultsSeq + 1
        let proposedSlaOrm := SLARepository.newRow newSla id false started
        let dispute := { dispute with proposedSlaResultId := some id }
        let log : DisputeAuditLog :=
          { disputeId := dispute.id, action := "proposed_sla_created", actor := payload.createdBy,
            notes := some (proposalNotes newSla payload.notes), recordedAt := now }
        Db.commit { db with slaResultsSeq := id }
          [SLARepository.insertResult proposedSlaOrm, updateDispute dispute, insertDisputeLog log]
          dispute

/-- The dispute as `resolve_dispute` leaves it. -/
def closeDispute (dispute : SLADispute) (payload : DisputeResolveRequest) (now : Time) :
    SLADispute :=
  { dispute with
    status := payload.status
    resolvedBy := some payload.resolvedBy
    resolutionNotes := some payload.resolutionNotes
    resolvedAt := some now }

def closingLog (dispute : SLADispute) (payload : DisputeResolveRequest) (now : Time) :
    DisputeAuditLog :=
  { disputeId := dispute.id, action := payload.status.value, actor := payload.resolvedBy,
    notes := some payload.resolutionNotes, recordedAt := now }

/-- The `is_latest` values the applying branch assigns. The effective row and the proposed one
are one object when they are the same row, and then the last assignment stands. -/
def assignedFlags (existingLatest : Option SLAResultORM) (proposedSla : SLAResultORM) :
    List (SLAResultORM × Bool) :=
  match existingLatest with
  | some e => if e.id = proposedSla.id then [(proposedSla, true)] else [(e, false), (proposedSla, true)]
  | none => [(proposedSla, true)]

def resolveDispute (slaResultId : Nat) (payload : DisputeResolveRequest) (now : Time) (db : Db) :
    Except Exc SLADispute × Db :=
  if payload.status ≠ .resolved ∧ payload.status ≠ .rejected then
    (.error (.http 400 "Resolution status must be 'resolved' or 'rejected'."), db)
  else
    match pendingDispute db slaResultId with
    | none => (.error (.http 404 "No pending dispute found for this SLA result."), db)
    | some dispute =>
      let closed := closeDispute dispute payload now
      let closing := [updateDispute closed, insertDisputeLog (closingLog dispute payload now)]
      if payload.status = .resolved ∧ payload.applyProposed = true then
        match dispute.proposedSlaResultId with
        | none => (.error (.http 400 "No proposed SLA result to apply."), db)
        | some proposedId =>
          -- `not dispute.proposed_sla_result_id` also rejects the id 0
          if proposedId = 0 then (.error (.http 400 "No proposed SLA result to apply."), db)
          else
            match findSlaResult db proposedId with
            | none => (.error (.http 404 "Proposed SLA not found"), db)
            | some proposedSla =>
              let existingLatest := SLARepository.effectiveRow db proposedSla.outageId
              db.commit (flushFlags (assignedFlags existingLatest proposedSla) ++ closing) closed
      else db.commit closing closed

/-- What an applying request would promote: the pending dispute and its proposed row. -/
def proposalToApply (slaResultId : Nat) (payload : DisputeResolveRequest) (db : Db) :
    Option (SLADispute × SLAResultORM) :=
  if payload.status = .resolved ∧ payload.applyProposed = true then do
    let dispute ← pendingDispute db slaResultId
    let proposedId ← dispute.proposedSlaResultId
    let proposedSla ← findSlaResult db proposedId
    return (dispute, proposedSla)
  else none

/-- Every effective row of the proposed row's outage was inserted before it. -/
def NewestProposal (db : Db) (proposedSla : SLAResultORM) : Prop :=
  ∀ e ∈ db.slaResults, SLARepository.isEffective proposedSla.outageId e = true →
    e.id ≤ proposedSla.id

instance (db : Db) (proposedSla : SLAResultORM) : Decidable (NewestProposal db proposedSla) := by
  unfold NewestProposal; infer_instance

end NocIq
