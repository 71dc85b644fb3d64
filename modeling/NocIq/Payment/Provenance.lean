import NocIq.Exceptions
import NocIq.Lib.Batch
import NocIq.Lib.LastWrite

/-!
# NocIq — the provenance of transactions

`TxProvenanceService` of `app/services/tx_provenance.py` and its endpoints in
`app/api/v1/endpoints/transactions.py`. A transaction that is submitted again starts over, but keeps
the times of its earlier confirmation and verification.

* **`serve_eq`** — a call changes the row of its hash by one event, and no other row.
* **`tx_provenance_of_run`** — what a row says after any calls.
-/

namespace NocIq

inductive TxStatus where
  | submitted
  | confirmed
  | verified
  | failed
  deriving DecidableEq, Repr

/-- A row of `tx_provenance`, without its autoincremented primary key. -/
structure TxProvenanceORM where
  txHash : String
  network : String
  submittedAt : Option Time := none
  confirmedAt : Option Time := none
  verifiedAt : Option Time := none
  status : TxStatus := .submitted
  blockNumber : Option Int := none
  verificationNotes : Option String := none
  deriving DecidableEq, Repr

abbrev TxTable := List TxProvenanceORM

inductive TxCall where
  | recordSubmission (txHash network : String) (blockNumber : Option Int) (now : Time)
  | confirm (txHash : String) (blockNumber : Option Int) (now : Time)
  | verify (txHash : String) (now : Time)
  /-- the endpoint `get_tx_provenance` -/
  | getTxProvenance (txHash : String)
  /-- the endpoint `verify_tx` -/
  | verifyTx (txHash : String) (force : Bool) (now : Time)

/-- The row of the response, and the message of `verify_tx`. -/
abbrev TxAnswer := Except Exc (TxProvenanceORM × String)

namespace TxTable

def find (rows : TxTable) (txHash : String) : Option TxProvenanceORM :=
  Batch.lookup TxProvenanceORM.txHash rows txHash

def commit (rows : TxTable) (row : TxProvenanceORM) : TxTable :=
  Batch.put TxProvenanceORM.txHash row rows

def recordSubmission (txHash network : String) (blockNumber : Option Int) (now : Time)
    (rows : TxTable) : TxProvenanceORM × TxTable :=
  match rows.find txHash with
  | some existing =>
    let row := { existing with status := .submitted, submittedAt := some now, network, blockNumber }
    (row, rows.commit row)
  | none =>
    let record : TxProvenanceORM := { txHash, network, submittedAt := some now, blockNumber }
    (record, rows ++ [record])

def notFound (txHash : String) : Exc :=
  .valueError s!"Transaction provenance not found for hash: {txHash}"

def confirm (txHash : String) (blockNumber : Option Int) (now : Time) (rows : TxTable) :
    Except Exc TxProvenanceORM × TxTable :=
  match rows.find txHash with
  | none => (.error (notFound txHash), rows)
  | some record =>
    let row :=
      { record with
        status := .confirmed
        confirmedAt := some now
        blockNumber := blockNumber.or record.blockNumber }
    (.ok row, rows.commit row)

def verify (txHash : String) (now : Time) (rows : TxTable) : Except Exc TxProvenanceORM × TxTable :=
  match rows.find txHash with
  | none => (.error (notFound txHash), rows)
  | some record =>
    let row :=
      { record with
        status := .verified
        verifiedAt := some now
        verificationNotes := some "On-chain verification completed" }
    (.ok row, rows.commit row)

def unknownTx : Exc := .http 404 "Transaction provenance not found"

def verifyTx (txHash : String) (force : Bool) (now : Time) (rows : TxTable) : TxAnswer × TxTable :=
  match rows.find txHash with
  | none => (.error unknownTx, rows)
  | some provenance =>
    if provenance.status = .verified ∧ force = false then
      (.ok (provenance, "Transaction already verified"), rows)
    else
      let (updated, rows) := rows.verify txHash now
      (updated.map fun row => (row, "Transaction verification completed"), rows)

def serve (rows : TxTable) : TxCall → TxAnswer × TxTable
  | .recordSubmission txHash network blockNumber now =>
    let (row, rows) := rows.recordSubmission txHash network blockNumber now
    (.ok (row, ""), rows)
  | .confirm txHash blockNumber now =>
    let (row, rows) := rows.confirm txHash blockNumber now
    (row.map (·, ""), rows)
  | .verify txHash now =>
    let (row, rows) := rows.verify txHash now
    (row.map (·, ""), rows)
  | .getTxProvenance txHash =>
    match rows.find txHash with
    | none => (.error unknownTx, rows)
    | some provenance => (.ok (provenance, ""), rows)
  | .verifyTx txHash force now => rows.verifyTx txHash force now

abbrev Run := Runs.Run fun (rows : TxTable) call rows' => (rows.serve call).2 = rows'

/-! ## Events -/

/-- What happens to a transaction. -/
inductive Event where
  | submitted (network : String) (blockNumber : Option Int) (time : Time)
  | confirmed (blockNumber : Option Int) (time : Time)
  | verified (time : Time)

/-- The event of a call, and its transaction. -/
def eventOf (rows : TxTable) : TxCall → Option (String × Event)
  | .recordSubmission txHash network blockNumber now =>
    some (txHash, .submitted network blockNumber now)
  | .confirm txHash blockNumber now =>
    (rows.find txHash).map fun _ => (txHash, .confirmed blockNumber now)
  | .verify txHash now => (rows.find txHash).map fun _ => (txHash, .verified now)
  | .getTxProvenance _ => none
  | .verifyTx txHash force now =>
    (rows.find txHash).bind fun row =>
      if row.status = .verified ∧ force = false then none else some (txHash, .verified now)

namespace Event

def apply : Event → TxProvenanceORM → TxProvenanceORM
  | submitted network blockNumber time, row =>
    { row with status := .submitted, submittedAt := some time, network, blockNumber }
  | confirmed blockNumber time, row =>
    { row with
      status := .confirmed
      confirmedAt := some time
      blockNumber := blockNumber.or row.blockNumber }
  | verified time, row =>
    { row with
      status := .verified
      verifiedAt := some time
      verificationNotes := some "On-chain verification completed" }

def status : Event → TxStatus
  | submitted .. => .submitted
  | confirmed .. => .confirmed
  | verified _ => .verified

def submittedAt : Event → Option (String × Time)
  | submitted network _ time => some (network, time)
  | _ => none

def confirmedAt : Event → Option Time
  | confirmed _ time => some time
  | _ => none

def verifiedAt : Event → Option Time
  | verified time => some time
  | _ => none

/-- A submission sets the block, or clears it; a confirmation sets it if it names one. -/
def blockNumber : Event → Option (Option Int)
  | submitted _ blockNumber _ => some blockNumber
  | confirmed blockNumber _ => blockNumber.map some
  | verified _ => none

end Event

/-- The calls whose event says `a` of a transaction. -/
def Says {α : Type} (txHash : String) (field : Event → Option α) (x : TxTable × TxCall) (a : α) :
    Prop :=
  ∃ event, x.1.eventOf x.2 = some (txHash, event) ∧ field event = some a

/-- What is asked of the row of a transaction: each column says what the last event that sets it has
said. A transaction has a row from its first submission on. -/
structure ProvenanceLaw (steps : List (TxTable × TxCall)) (rows : TxTable) (txHash : String) :
    Prop where
  status : ∀ a, (rows.find txHash).map (·.status) = some a ↔
    Runs.LastWritten (Says txHash fun event => some event.status) steps a
  submitted : ∀ a, (rows.find txHash).bind (fun row => row.submittedAt.map (row.network, ·)) =
    some a ↔ Runs.LastWritten (Says txHash Event.submittedAt) steps a
  confirmed : ∀ a, (rows.find txHash).bind (·.confirmedAt) = some a ↔
    Runs.LastWritten (Says txHash Event.confirmedAt) steps a
  verified : ∀ a, (rows.find txHash).bind (·.verifiedAt) = some a ↔
    Runs.LastWritten (Says txHash Event.verifiedAt) steps a
  blockNumber : ∀ a, (rows.find txHash).map (·.blockNumber) = some a ↔
    Runs.LastWritten (Says txHash Event.blockNumber) steps a
  /-- one row for each transaction -/
  unique : (rows.map TxProvenanceORM.txHash).Nodup

variable {rows : TxTable} {txHash : String} {row : TxProvenanceORM}

/-! ## One call -/

def blank (txHash : String) : TxProvenanceORM := { txHash, network := "" }

def record (rows : TxTable) (txHash : String) (event : Event) : TxTable :=
  match rows.find txHash with
  | some row => rows.commit (event.apply row)
  | none => rows ++ [event.apply (blank txHash)]

/-- **One call** records its event. -/
theorem serve_eq (call : TxCall) :
    (rows.serve call).2 =
      match rows.eventOf call with
      | none => rows
      | some (txHash, event) => rows.record txHash event := by
  cases call with
  | recordSubmission txHash network blockNumber now =>
    dsimp only [serve, eventOf, recordSubmission, record]
    cases rows.find txHash <;> rfl
  | confirm txHash blockNumber now =>
    dsimp only [serve, eventOf, confirm]
    cases h : rows.find txHash with
    | none => rfl
    | some row =>
      dsimp only [Option.map_some, record]
      rw [h]
      rfl
  | verify txHash now =>
    dsimp only [serve, eventOf, verify]
    cases h : rows.find txHash with
    | none => rfl
    | some row =>
      dsimp only [Option.map_some, record]
      rw [h]
      rfl
  | getTxProvenance txHash =>
    dsimp only [serve, eventOf]
    cases rows.find txHash <;> rfl
  | verifyTx txHash force now =>
    dsimp only [serve, eventOf, verifyTx, verify]
    cases h : rows.find txHash with
    | none => rfl
    | some row =>
      dsimp only [Option.bind_some]
      split
      · rfl
      · dsimp only [record]
        rw [h]
        rfl

theorem submitted_of_eventOf {call : TxCall} {event : Event}
    (h : rows.eventOf call = some (txHash, event)) (hnone : rows.find txHash = none) :
    ∃ network blockNumber now, event = .submitted network blockNumber now := by
  cases call with
  | recordSubmission _ network blockNumber now =>
    cases h
    exact ⟨network, blockNumber, now, rfl⟩
  | getTxProvenance => cases h
  | confirm | verify =>
    obtain ⟨row, hrow, hpair⟩ := Option.map_eq_some_iff.mp h
    cases hpair
    cases hnone.symm.trans hrow
  | verifyTx =>
    obtain ⟨row, hrow, hpair⟩ := Option.bind_eq_some_iff.mp h
    split at hpair
    · cases hpair
    · cases hpair
      cases hnone.symm.trans hrow

theorem apply_txHash (event : Event) (row : TxProvenanceORM) :
    (event.apply row).txHash = row.txHash := by
  cases event <;> rfl

theorem find_record (event : Event) (k : String) :
    (rows.record txHash event).find k =
      if k = txHash then some (event.apply ((rows.find txHash).getD (blank txHash)))
      else rows.find k := by
  unfold record
  cases h : rows.find txHash with
  | some row =>
    have hkey : (event.apply row).txHash = txHash :=
      (apply_txHash event row).trans (Batch.lookup_eq_some h).2
    dsimp only [commit, find]
    rw [Batch.lookup_put, hkey]
    split
    · rename_i hk
      rw [hk, show Batch.lookup _ rows txHash = some row from h]
      rfl
    · rfl
  | none =>
    have hkey : (event.apply (blank txHash)).txHash = txHash := apply_txHash event _
    show List.find? _ (rows ++ [_]) = _
    rw [List.find?_append]
    split
    · rename_i hk
      rw [hk, show List.find? _ rows = none from h, List.find?_cons_of_pos (by simp [hkey])]
      rfl
    · rename_i hk
      rw [List.find?_cons_of_neg (by simpa [hkey] using Ne.symm hk), List.find?_nil, Option.or_none]
      rfl

theorem nodup_record (h : (rows.map TxProvenanceORM.txHash).Nodup) (event : Event) :
    ((rows.record txHash event).map TxProvenanceORM.txHash).Nodup := by
  unfold record
  cases hfind : rows.find txHash with
  | some row =>
    dsimp only [commit]
    rw [Batch.keys_put]
    exact h
  | none =>
    have hnew : txHash ∉ rows.map TxProvenanceORM.txHash := by
      intro hmem
      obtain ⟨row, hrow, rfl⟩ := List.mem_map.mp hmem
      have hsome := Batch.lookup_of_mem h hrow
      rw [show Batch.lookup _ rows row.txHash = none from hfind] at hsome
      cases hsome
    dsimp only
    rw [List.map_append, List.map_singleton, apply_txHash, ← List.concat_eq_append]
    exact h.concat hnew

/-! ## Runs -/

/-- A column over a run. Calls set it by what their events say. -/
theorem column_iff {α : Type} (column : TxProvenanceORM → Option α) (field : Event → Option α)
    (hcolumn : ∀ event row, column (event.apply row) = (field event).or (column row))
    (hblank : ∀ network blockNumber now, field (.submitted network blockNumber now) = none →
      column (blank txHash) = none)
    {steps : List (TxTable × TxCall)} (hrun : Run [] steps rows) (a : α) :
    (rows.find txHash).bind column = some a ↔ Runs.LastWritten (Says txHash field) steps a := by
  refine hrun.register_iff (r := fun rows : TxTable => (rows.find txHash).bind column) rfl ?_ ?_
  · rintro rows call rows' rfl a ⟨event, hevent, hfield⟩
    show Option.bind _ column = some a
    rw [serve_eq, hevent]
    dsimp only
    rw [find_record, if_pos rfl, Option.bind_some, hcolumn, hfield, Option.some_or]
  · rintro rows call rows' rfl hnot
    show Option.bind _ column = Option.bind _ column
    rw [serve_eq]
    cases hevent : rows.eventOf call with
    | none => rfl
    | some x =>
      obtain ⟨k, event⟩ := x
      dsimp only
      rw [find_record]
      split
      · rename_i hk
        subst hk
        have hfield : field event = none :=
          Option.eq_none_iff_forall_ne_some.mpr fun a ha => hnot a ⟨event, hevent, ha⟩
        rw [Option.bind_some, hcolumn, hfield, Option.none_or]
        cases hfind : rows.find txHash with
        | some row => rfl
        | none =>
          obtain ⟨_, _, _, rfl⟩ := submitted_of_eventOf hevent hfind
          exact hblank _ _ _ hfield
      · rfl

/-- **The provenance of transactions.** After any calls each column of a row says what the last
event that sets it has said. -/
theorem tx_provenance_of_run {steps : List (TxTable × TxCall)} (hrun : Run [] steps rows)
    (txHash : String) : ProvenanceLaw steps rows txHash where
  status a := by
    rw [Option.map_eq_bind]
    exact column_iff (some ∘ TxProvenanceORM.status) (fun event => some event.status)
      (fun event row => by cases event <;> rfl) (fun _ _ _ h => by cases h) hrun a
  submitted a := column_iff (fun row => row.submittedAt.map (row.network, ·)) Event.submittedAt
    (fun event row => by cases event <;> rfl) (fun _ _ _ h => by cases h) hrun a
  confirmed a := column_iff TxProvenanceORM.confirmedAt Event.confirmedAt
    (fun event row => by cases event <;> rfl) (fun _ _ _ _ => rfl) hrun a
  verified a := column_iff TxProvenanceORM.verifiedAt Event.verifiedAt
    (fun event row => by cases event <;> rfl) (fun _ _ _ _ => rfl) hrun a
  blockNumber a := by
    rw [Option.map_eq_bind]
    refine column_iff (some ∘ TxProvenanceORM.blockNumber) Event.blockNumber (fun event row => ?_)
      (fun _ _ _ h => by cases h) hrun a
    cases event with
    | confirmed blockNumber _ => cases blockNumber <;> rfl
    | submitted | verified => rfl
  unique := by
    refine hrun.invariant (I := fun rows : TxTable => (rows.map TxProvenanceORM.txHash).Nodup)
      ?_ ?_
    · exact List.nodup_nil
    · rintro rows call rows' h rfl
      rw [serve_eq]
      split
      · exact h
      · exact nodup_record h _

/-- A transaction that is verified, and then submitted again. -/
theorem resubmitted_tx :
    let calls : List TxCall := [.recordSubmission "h" "testnet" (some 7) 0, .confirm "h" none 1,
      .verifyTx "h" false 2, .recordSubmission "h" "public" none 3]
    let serve := fun (rows : TxTable) call => (rows.serve call).2
    ProvenanceLaw (Runs.replay serve [] calls) (calls.foldl serve []) "h" :=
  tx_provenance_of_run (Runs.replay_run _ _ _) "h"

end TxTable

end NocIq
