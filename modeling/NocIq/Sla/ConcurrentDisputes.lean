import NocIq.Lib.BufferedSessions
import NocIq.Sla.DisputeSteps

/-!
# NocIq — disputes under concurrent requests

The requests of `Sla/Dispute.lean`, statement by statement. A request looks for a pending dispute
and commits later, and nothing that it commits is checked against what others have committed since.
`get_db` closes the session of a request that raises, and what it has flushed is rolled back. The
UPDATE of an object sets the columns that the request has assigned.

* **`endsAlone_serve`** — a request with no other in between is the one of `Sla/Dispute.lean`.
* **`commits_law`** — a commit that finds what its request has read keeps the workflow.
* **`dispute_workflow`** — so does a run of such commits; and a request that fails changes nothing.
-/

namespace NocIq

open Relational SLARepository Runs BufferedSessions

/-! ## Requests, statement by statement -/

/-- `UPDATE sla_disputes SET … WHERE id = …` with the columns that were assigned. -/
def setColumns (disputeId : String) (set : SLADispute → SLADispute) : Statement Db := fun db =>
  { db with slaDisputes := db.slaDisputes.map fun d => if d.id = disputeId then set d else d }

/-- The session's transactions. -/
def disputeEngine : Engine Db (Statement Db) Exc where
  commit pending db :=
    match db.commit pending () with
    | (.ok _, db') => .ok db'
    | (.error e, _) => .error e
  draw db := (db.slaResultsSeq + 1, { db with slaResultsSeq := db.slaResultsSeq + 1 })

abbrev DisputeProg := Prog Db (Statement Db) Exc SLADispute

def flaggedLog (disputeId : String) (payload : DisputeFlagRequest) (now : Time) :
    DisputeAuditLog where
  disputeId
  action := "flagged"
  actor := payload.flaggedBy
  notes := some payload.disputeReason
  recordedAt := now

def flagProgram (disputeId : String) (slaResultId : Nat) (payload : DisputeFlagRequest)
    (now : Time) : DisputeProg :=
  .read fun db =>
    match findSlaResult db slaResultId with
    | none => .fail (.http 404 "SLA result not found")
    | some _ => .read fun db =>
      match pendingDispute db slaResultId with
      | some _ => .fail (.http 409 "An active dispute already exists for this SLA result.")
      | none =>
        let dispute := flaggedDispute disputeId slaResultId payload now
        .writes [insertDispute dispute, insertDisputeLog (flaggedLog disputeId payload now)]
          (.commit dispute)

def proposeProgram (config : SLAConfig) (slaResultId : Nat) (payload : CreateProposedSLARequest)
    (started now : Time) : DisputeProg :=
  .read fun db =>
    match pendingDispute db slaResultId with
    | none => .fail (.http 404 "No pending dispute found for this SLA result.")
    | some dispute => .read fun db =>
      match db.slaResults.find? fun r => decide (dispute.baselineSlaResultId = some r.id) with
      | none => .fail (.http 404 "Baseline SLA not found")
      | some baselineSla =>
        match SLACalculator.calculate config baselineSla.outageId payload.severity
            payload.mttrMinutes payload.policyVersion payload.thresholdSource with
        | .error e => .fail e
        | .ok newSla => .draw fun id =>
          .writes
            [insertResult (newRow newSla id false started),
              setColumns dispute.id fun d => proposedDispute d id,
              insertDisputeLog (proposalLog dispute newSla payload now)]
            (.commit (proposedDispute dispute id))

def closing (dispute : SLADispute) (payload : DisputeResolveRequest) (now : Time) :
    List (Statement Db) :=
  [setColumns dispute.id fun d => closeDispute d payload now,
    insertDisputeLog (closingLog dispute payload now)]

/-- The lock of the effective row is not modelled: it only takes interleavings away. -/
def resolveProgram (slaResultId : Nat) (payload : DisputeResolveRequest) (now : Time) :
    DisputeProg :=
  if payload.status ≠ .resolved ∧ payload.status ≠ .rejected then
    .fail (.http 400 "Resolution status must be 'resolved' or 'rejected'.")
  else .read fun db =>
    match pendingDispute db slaResultId with
    | none => .fail (.http 404 "No pending dispute found for this SLA result.")
    | some dispute =>
      let closed := closeDispute dispute payload now
      if payload.status = .resolved ∧ payload.applyProposed = true then
        match dispute.proposedSlaResultId with
        | none => .fail (.http 400 "No proposed SLA result to apply.")
        | some proposedId =>
          if proposedId = 0 then .fail (.http 400 "No proposed SLA result to apply.")
          else .read fun db =>
            match findSlaResult db proposedId with
            | none => .fail (.http 404 "Proposed SLA not found")
            | some proposedSla => .read fun db =>
              let existingLatest := effectiveRow db proposedSla.outageId
              .writes (flushFlags (assignedFlags existingLatest proposedSla) ++
                closing dispute payload now) (.commit closed)
      else .writes (closing dispute payload now) (.commit closed)

namespace DisputeRequest

def program : DisputeRequest → DisputeProg
  | .flag disputeId slaResultId payload now => flagProgram disputeId slaResultId payload now
  | .propose config slaResultId payload started now =>
    proposeProgram config slaResultId payload started now
  | .resolve slaResultId payload now => resolveProgram slaResultId payload now

/-- The request as `Sla/Dispute.lean` has it. -/
def serve (db : Db) : DisputeRequest → Except Exc SLADispute × Db
  | .flag disputeId slaResultId payload now => flagDispute disputeId slaResultId payload now db
  | .propose config slaResultId payload started now =>
    createProposedSla config slaResultId payload started now db
  | .resolve slaResultId payload now => resolveDispute slaResultId payload now db

end DisputeRequest

/-! ## A request alone -/

theorem alone_commit (pending : List (Statement Db)) (result : SLADispute) (db : Db) :
    (Prog.commit result : DisputeProg).alone disputeEngine pending db
      = db.commit pending result := by
  unfold Prog.alone disputeEngine Db.commit
  dsimp only
  cases execAll schema pending db <;> rfl

theorem execAll_cons_congr {f g : Statement Db} {fs gs : List (Statement Db)} {db : Db}
    (h : f db = g db) (hrest : execAll schema fs (f db) = execAll schema gs (f db)) :
    execAll schema (f :: fs) db = execAll schema (g :: gs) db := by
  have hexec : exec schema f db = exec schema g db := by
    unfold exec
    rw [h]
  unfold execAll
  rw [← hexec]
  cases hf : exec schema f db with
  | error name => rfl
  | ok db' =>
    have hdb' : db' = f db := by
      unfold exec at hf
      split at hf
      · cases hf
      · exact (Except.ok.inj hf).symm
    subst hdb'
    exact hrest

/-- A statement that leaves the disputes as they are. -/
def KeepsDisputes (f : Statement Db) : Prop := ∀ db, (f db).slaDisputes = db.slaDisputes

theorem execAll_append_congr {fs gs gs' : List (Statement Db)} (hfs : ∀ f ∈ fs, KeepsDisputes f)
    {db : Db} (h : ∀ db', db'.slaDisputes = db.slaDisputes →
      execAll schema gs db' = execAll schema gs' db') :
    execAll schema (fs ++ gs) db = execAll schema (fs ++ gs') db := by
  induction fs generalizing db with
  | nil => exact h db rfl
  | cons f fs ih =>
    refine execAll_cons_congr rfl (ih (fun g hg => hfs g (List.mem_cons_of_mem f hg)) ?_)
    intro db' hdb'
    exact h db' (hdb'.trans (hfs f List.mem_cons_self db))

theorem updateDispute_eq_setColumns (set : SLADispute → SLADispute) {db : Db}
    (hpkey : (db.slaDisputes.filterMap fun d => some d.id).Nodup) {d : SLADispute}
    (hd : d ∈ db.slaDisputes) (hset : (set d).id = d.id) :
    updateDispute (set d) db = setColumns d.id set db := by
  have hrows : db.slaDisputes.map (replaceDispute (set d)) =
      db.slaDisputes.map fun x => if x.id = d.id then set x else x := by
    apply List.map_congr_left
    intro x hx
    unfold replaceDispute
    rw [hset]
    split
    · next hid => rw [eq_of_key_eq hpkey hx hd rfl (congrArg some hid.symm)]
    · rfl
  unfold updateDispute setColumns
  rw [hrows]

theorem flushFlags_keepDisputes (assigned : List (SLAResultORM × Bool)) :
    ∀ f ∈ flushFlags assigned, KeepsDisputes f := by
  intro f hf db
  obtain ⟨a, -, rfl⟩ := List.mem_map.mp hf
  rfl

theorem alone_flag (disputeId : String) (slaResultId : Nat) (payload : DisputeFlagRequest)
    (now : Time) (db : Db) :
    (flagProgram disputeId slaResultId payload now).alone disputeEngine [] db =
      flagDispute disputeId slaResultId payload now db := by
  unfold flagProgram flagDispute
  rw [Prog.alone]
  cases findSlaResult db slaResultId with
  | none => rfl
  | some row =>
    dsimp only
    rw [Prog.alone]
    cases pendingDispute db slaResultId with
    | some d => rfl
    | none =>
      dsimp only
      rw [Prog.alone_writes, alone_commit]
      rfl

theorem alone_propose {db : Db} (h : db.WellFormed) (config : SLAConfig) (slaResultId : Nat)
    (payload : CreateProposedSLARequest) (started now : Time) :
    (proposeProgram config slaResultId payload started now).alone disputeEngine [] db =
      createProposedSla config slaResultId payload started now db := by
  unfold proposeProgram createProposedSla
  rw [Prog.alone]
  cases hpending : pendingDispute db slaResultId with
  | none => rfl
  | some d =>
    dsimp only
    rw [Prog.alone]
    cases db.slaResults.find? fun r => decide (d.baselineSlaResultId = some r.id) with
    | none => rfl
    | some baseline =>
      dsimp only
      cases SLACalculator.calculate config baseline.outageId payload.severity
          payload.mttrMinutes payload.policyVersion payload.thresholdSource with
      | error e => rfl
      | ok newSla =>
        dsimp only
        rw [Prog.alone, Prog.alone_writes, alone_commit]
        unfold Db.commit
        rw [List.nil_append]
        -- the UPDATE of the assigned columns is that of the whole row
        have hcommit : execAll schema
            [insertResult (newRow newSla (disputeEngine.draw db).1 false started),
              setColumns d.id fun d => proposedDispute d (disputeEngine.draw db).1,
              insertDisputeLog (proposalLog d newSla payload now)] (disputeEngine.draw db).2 =
            execAll schema
              [insertResult (newRow newSla (db.slaResultsSeq + 1) false started),
                updateDispute (proposedDispute d (db.slaResultsSeq + 1)),
                insertDisputeLog (proposalLog d newSla payload now)]
              { db with slaResultsSeq := db.slaResultsSeq + 1 } := by
          refine execAll_cons_congr rfl (execAll_cons_congr ?_ rfl)
          refine (updateDispute_eq_setColumns (fun d => proposedDispute d _) ?_ ?_ rfl).symm
          · exact h.disputes.pkey
          · exact (pendingDispute_mem hpending).1
        rw [hcommit]
        rfl

variable {slaResultId : Nat}

theorem execAll_closing {db db' : Db} (h : db.WellFormed) {d : SLADispute}
    (hpending : pendingDispute db slaResultId = some d) (payload : DisputeResolveRequest)
    (now : Time) (hdb' : db'.slaDisputes = db.slaDisputes) :
    execAll schema (closing d payload now) db' = execAll schema
      [updateDispute (closeDispute d payload now),
        insertDisputeLog (closingLog d payload now)] db' := by
  refine execAll_cons_congr ?_ rfl
  refine (updateDispute_eq_setColumns (fun d => closeDispute d payload now) ?_ ?_ rfl).symm
  · rw [hdb']
    exact h.disputes.pkey
  · rw [hdb']
    exact (pendingDispute_mem hpending).1

theorem alone_resolve {db : Db} (h : db.WellFormed) (slaResultId : Nat)
    (payload : DisputeResolveRequest) (now : Time) :
    (resolveProgram slaResultId payload now).alone disputeEngine [] db =
      resolveDispute slaResultId payload now db := by
  unfold resolveProgram resolveDispute
  split
  · rfl
  · rw [Prog.alone]
    cases hpending : pendingDispute db slaResultId with
    | none => rfl
    | some d =>
      dsimp only
      split
      · cases d.proposedSlaResultId with
        | none => rfl
        | some proposedId =>
          dsimp only
          split
          · rfl
          · rw [Prog.alone]
            cases findSlaResult db proposedId with
            | none => rfl
            | some proposedSla =>
              dsimp only
              rw [Prog.alone, Prog.alone_writes, alone_commit]
              unfold Db.commit
              rw [List.nil_append, execAll_append_congr (flushFlags_keepDisputes _)
                fun db' => execAll_closing h hpending payload now]
      · rw [Prog.alone_writes, alone_commit]
        unfold Db.commit
        rw [List.nil_append, execAll_closing h hpending payload now rfl]

/-- **A request alone** is the one of the sequential model. -/
theorem alone_program {db : Db} (h : db.WellFormed) (req : DisputeRequest) :
    req.program.alone disputeEngine [] db = req.serve db := by
  cases req with
  | flag disputeId slaResultId payload now => exact alone_flag disputeId slaResultId payload now db
  | propose config slaResultId payload started now =>
    exact alone_propose h config slaResultId payload started now
  | resolve slaResultId payload now => exact alone_resolve h slaResultId payload now

/-! ## The workflow -/

/-- `action` of an entry that closes a dispute. -/
def DisputeAuditLog.closes (log : DisputeAuditLog) : Bool :=
  decide (log.action = DisputeStatus.resolved.value ∨ log.action = DisputeStatus.rejected.value)

theorem flaggedLog_closes (disputeId : String) (payload : DisputeFlagRequest) (now : Time) :
    (flaggedLog disputeId payload now).closes = false := by
  show decide ("flagged" = "resolved" ∨ "flagged" = "rejected") = false
  decide

theorem proposalLog_closes (d : SLADispute) (newSla : SLAResult)
    (payload : CreateProposedSLARequest)
    (now : Time) : (proposalLog d newSla payload now).closes = false := by
  show decide ("proposed_sla_created" = "resolved" ∨ "proposed_sla_created" = "rejected") = false
  decide

theorem closingLog_closes (d : SLADispute) {payload : DisputeResolveRequest} (now : Time)
    (h : payload.status ≠ .pending) : (closingLog d payload now).closes = true := by
  show decide (payload.status.value = "resolved" ∨ payload.status.value = "rejected") = true
  cases hstatus : payload.status with
  | pending => exact absurd hstatus h
  | resolved => decide
  | rejected => decide

def closings (logs : List DisputeAuditLog) (disputeId : String) : List DisputeAuditLog :=
  logs.filter fun log => decide (log.disputeId = disputeId) && log.closes

/-- **What the workflow promises** of a state: a result has one pending dispute at most, and a
dispute one closing entry if it is closed, and none before. -/
structure DisputeLaw (db : Db) : Prop where
  tables : Satisfies schema db
  onePending : ∀ d ∈ db.slaDisputes, ∀ d' ∈ db.slaDisputes, d.slaResultId = d'.slaResultId →
    d.status = .pending → d'.status = .pending → d = d'
  closed : ∀ d ∈ db.slaDisputes,
    (closings db.disputeAuditLogs d.id).length = if d.status = .pending then 0 else 1

/-- Closed disputes stay as they are. -/
def Frozen (db db' : Db) : Prop := ∀ d ∈ db.slaDisputes, d.status ≠ .pending → d ∈ db'.slaDisputes

theorem closings_append (logs : List DisputeAuditLog) (log : DisputeAuditLog) (disputeId : String) :
    closings (logs ++ [log]) disputeId =
      closings logs disputeId
        ++ if log.disputeId = disputeId ∧ log.closes = true then [log] else [] := by
  unfold closings
  rw [List.filter_append]
  congr 1
  by_cases h : log.disputeId = disputeId ∧ log.closes = true
  · rw [if_pos h]
    simp [h.1, h.2]
  · rw [if_neg h]
    simpa using h

namespace DisputeLaw

variable {db db' : Db} {log : DisputeAuditLog}

theorem disputesPkey (h : DisputeLaw db) : (db.slaDisputes.filterMap fun d => some d.id).Nodup :=
  ((satisfies_schema_iff db).mp h.tables).2.1.pkey

theorem eq_of_id_eq (h : DisputeLaw db) {d d' : SLADispute} (hd : d ∈ db.slaDisputes)
    (hd' : d' ∈ db.slaDisputes) (hid : d.id = d'.id) : d = d' :=
  eq_of_key_eq h.disputesPkey hd hd' rfl (congrArg some hid.symm)

theorem closings_of_new (h : DisputeLaw db) {disputeId : String}
    (hnew : ∀ d ∈ db.slaDisputes, d.id ≠ disputeId) :
    closings db.disputeAuditLogs disputeId = [] := by
  refine List.filter_eq_nil_iff.mpr ?_
  intro log hlog hmatch
  have hid : log.disputeId = disputeId := by simp at hmatch; exact hmatch.1
  have hmem := ((satisfies_schema_iff db).mp h.tables).2.1.logFkey log hlog
  obtain ⟨d, hd, hdid⟩ := List.mem_map.mp hmem
  exact hnew d hd (hdid.trans hid)

/-- **A dispute more**, where the result has no pending one. -/
theorem insert (h : DisputeLaw db) (htables : Satisfies schema db') {d : SLADispute}
    (hdisputes : db'.slaDisputes = db.slaDisputes ++ [d])
    (hlogs : db'.disputeAuditLogs = db.disputeAuditLogs ++ [log]) (hopen : log.closes = false)
    (hstatus : d.status = .pending) (hnone : pendingDispute db d.slaResultId = none) :
    DisputeLaw db' ∧ Frozen db db' := by
  have hfree : ∀ x ∈ db.slaDisputes, x.slaResultId = d.slaResultId → x.status ≠ .pending := by
    intro x hx hresult hpending
    have hnot := List.find?_eq_none.mp hnone x hx
    simp [hresult, hpending] at hnot
  have hnew : ∀ x ∈ db.slaDisputes, x.id ≠ d.id := by
    intro x hx hid
    have hpkey := ((satisfies_schema_iff db').mp htables).2.1.pkey
    rw [hdisputes, nodup_keys_concat] at hpkey
    exact hpkey.2 x hx d.id rfl (congrArg some hid)
  refine ⟨⟨htables, ?_, ?_⟩, ?_⟩
  · intro x hx y hy hresult hxp hyp
    rw [hdisputes] at hx hy
    rcases List.mem_append.mp hx with hx | hx <;> rcases List.mem_append.mp hy with hy | hy
    · exact h.onePending x hx y hy hresult hxp hyp
    · rw [List.mem_singleton.mp hy] at hresult
      exact absurd hxp (hfree x hx hresult)
    · rw [List.mem_singleton.mp hx] at hresult
      exact absurd hyp (hfree y hy hresult.symm)
    · rw [List.mem_singleton.mp hx, List.mem_singleton.mp hy]
  · intro x hx
    rw [hlogs, closings_append, hopen, if_neg (by simp), List.append_nil]
    rw [hdisputes] at hx
    rcases List.mem_append.mp hx with hx | hx
    · exact h.closed x hx
    · rw [List.mem_singleton.mp hx, h.closings_of_new hnew, hstatus]
      rfl
  · intro x hx _
    rw [hdisputes]
    exact List.mem_append_left _ hx

/-- **The row of a pending dispute** changes, and its entry says whether it closes it. -/
theorem setColumns (set : SLADispute → SLADispute) (h : DisputeLaw db)
    (htables : Satisfies schema db') {d : SLADispute} (hd : d ∈ db.slaDisputes)
    (hpending : d.status = .pending)
    (hkeys : ∀ x, (set x).id = x.id ∧ (set x).slaResultId = x.slaResultId)
    (hdisputes : db'.slaDisputes = db.slaDisputes.map fun x => if x.id = d.id then set x else x)
    (hlogs : db'.disputeAuditLogs = db.disputeAuditLogs ++ [log]) (hlog : log.disputeId = d.id)
    (hcloses : log.closes = true ↔ (set d).status ≠ .pending) : DisputeLaw db' ∧ Frozen db db' := by
  have hmem : ∀ x ∈ db'.slaDisputes, x = set d ∨ x ∈ db.slaDisputes ∧ x.id ≠ d.id := by
    intro x hx
    rw [hdisputes] at hx
    obtain ⟨y, hy, rfl⟩ := List.mem_map.mp hx
    by_cases hid : y.id = d.id
    · rw [if_pos hid, h.eq_of_id_eq hy hd hid]
      exact .inl rfl
    · rw [if_neg hid]
      exact .inr ⟨hy, hid⟩
  have hother : ∀ x ∈ db.slaDisputes, x.id ≠ d.id → x ∈ db'.slaDisputes := by
    intro x hx hid
    rw [hdisputes]
    exact List.mem_map.mpr ⟨x, hx, if_neg hid⟩
  -- the result of a pending dispute has no other pending one
  have hsame : ∀ x ∈ db.slaDisputes, x.id ≠ d.id → x.status = .pending →
      x.slaResultId ≠ d.slaResultId := by
    intro x hx hid hxp hresult
    exact hid (congrArg SLADispute.id (h.onePending x hx d hd hresult hxp hpending))
  refine ⟨⟨htables, ?_, ?_⟩, ?_⟩
  · intro x hx y hy hresult hxp hyp
    rcases hmem x hx with rfl | ⟨hx, hxid⟩ <;> rcases hmem y hy with rfl | ⟨hy, hyid⟩
    · rfl
    · rw [(hkeys d).2] at hresult
      exact absurd hresult.symm (hsame y hy hyid hyp)
    · rw [(hkeys d).2] at hresult
      exact absurd hresult (hsame x hx hxid hxp)
    · exact h.onePending x hx y hy hresult hxp hyp
  · intro x hx
    rw [hlogs, closings_append, hlog]
    rcases hmem x hx with rfl | ⟨hx, hxid⟩
    · -- the entry is the first one of the dispute that can close it
      have hnone := h.closed d hd
      rw [if_pos hpending] at hnone
      rw [(hkeys d).1, List.length_append, hnone]
      by_cases hstatus : (set d).status = .pending
      · rw [if_neg fun hlast => hcloses.mp hlast.2 hstatus, if_pos hstatus]
        rfl
      · rw [if_pos ⟨rfl, hcloses.mpr hstatus⟩, if_neg hstatus]
        rfl
    · rw [if_neg fun hlast => hxid hlast.1.symm, List.append_nil]
      exact h.closed x hx
  · intro x hx hclosed
    refine hother x hx ?_
    intro hid
    rw [h.eq_of_id_eq hx hd hid] at hclosed
    exact hclosed hpending

end DisputeLaw

/-! ## What a request commits -/

variable {ws : List (Statement Db)}

theorem flagProgram_mayCommit {disputeId : String} {payload : DisputeFlagRequest} {now : Time}
    {r : SLADispute} (h : (flagProgram disputeId slaResultId payload now).MayCommit ws r) :
    ws = [insertDispute (flaggedDispute disputeId slaResultId payload now),
      insertDisputeLog (flaggedLog disputeId payload now)] := by
  obtain ⟨db, h⟩ := h
  dsimp only at h
  split at h
  · cases h
  · obtain ⟨db', h⟩ := h
    dsimp only at h
    split at h
    · cases h
    · obtain ⟨rest, rfl, rfl, -⟩ := Prog.mayCommit_writes.mp h
      rfl

theorem proposeProgram_mayCommit {config : SLAConfig} {payload : CreateProposedSLARequest}
    {started now : Time} {r : SLADispute}
    (h : (proposeProgram config slaResultId payload started now).MayCommit ws r) :
    ∃ d id row newSla, r.id = d.id ∧ ws = [insertResult row,
      setColumns d.id fun d => proposedDispute d id,
      insertDisputeLog (proposalLog d newSla payload now)] := by
  obtain ⟨db, h⟩ := h
  dsimp only at h
  split at h
  · cases h
  · next d _ =>
    obtain ⟨db', h⟩ := h
    dsimp only at h
    split at h
    · cases h
    · split at h
      · cases h
      · next newSla _ =>
        obtain ⟨id, h⟩ := h
        obtain ⟨rest, rfl, rfl, rfl⟩ := Prog.mayCommit_writes.mp h
        exact ⟨d, id, _, newSla, rfl, rfl⟩

theorem resolveProgram_mayCommit {payload : DisputeResolveRequest} {now : Time} {r : SLADispute}
    (h : (resolveProgram slaResultId payload now).MayCommit ws r) :
    payload.status ≠ .pending ∧ ∃ d assigned, r.id = d.id ∧
      ws = flushFlags assigned ++ closing d payload now := by
  unfold resolveProgram at h
  split at h
  · cases h
  · next hstatus =>
    refine ⟨fun hpending => hstatus (by rw [hpending]; decide), ?_⟩
    obtain ⟨db, h⟩ := h
    dsimp only at h
    split at h
    · cases h
    · next d _ =>
      split at h
      · split at h
        · cases h
        · split at h
          · cases h
          · obtain ⟨db', h⟩ := h
            dsimp only at h
            split at h
            · cases h
            · obtain ⟨db'', h⟩ := h
              obtain ⟨rest, rfl, rfl, rfl⟩ := Prog.mayCommit_writes.mp h
              exact ⟨d, _, rfl, List.append_nil _⟩
      · obtain ⟨rest, rfl, rfl, rfl⟩ := Prog.mayCommit_writes.mp h
        exact ⟨d, [], rfl, rfl⟩

theorem foldl_flushFlags (assigned : List (SLAResultORM × Bool)) (db : Db) :
    ((flushFlags assigned).foldl (fun db f => f db) db).slaDisputes = db.slaDisputes ∧
      ((flushFlags assigned).foldl (fun db f => f db) db).disputeAuditLogs =
        db.disputeAuditLogs := by
  unfold flushFlags
  generalize List.insertionSort (fun a b : SLAResultORM × Bool => a.1.id ≤ b.1.id)
    (assigned.filter fun a => a.1.isLatest != a.2) = sorted
  induction sorted generalizing db with
  | nil => exact ⟨rfl, rfl⟩
  | cons a rest ih => exact ih (updateFlag a.1.id a.2 db)

theorem disputeEngine_commit_ok {pending : List (Statement Db)} {db db' : Db}
    (htables : Satisfies schema db) (h : disputeEngine.commit pending db = .ok db') :
    Satisfies schema db' ∧ db' = pending.foldl (fun db f => f db) db := by
  unfold disputeEngine at h
  dsimp only at h
  split at h
  · next result db'' hcommit =>
    obtain ⟨hsat, -, hfold⟩ := Db.commit_eq_ok hcommit
    obtain rfl := Except.ok.inj h
    exact ⟨hfold ▸ hsat.foldl htables, hfold⟩
  · cases h

/-- **What a request has read is still so**: a flag finds no pending dispute of its result, and a
proposal or a resolution finds the dispute that it returns pending. -/
def DisputeRequest.Undisturbed (db : Db) (result : SLADispute) : DisputeRequest → Prop
  | .flag _ slaResultId _ _ => pendingDispute db slaResultId = none
  | .propose .. | .resolve .. => ∃ d ∈ db.slaDisputes, d.id = result.id ∧ d.status = .pending

instance (db : Db) (result : SLADispute) (req : DisputeRequest) :
    Decidable (req.Undisturbed db result) :=
  match req with
  | .flag _ slaResultId _ _ => inferInstanceAs (Decidable (pendingDispute db slaResultId = none))
  | .propose .. | .resolve .. =>
    inferInstanceAs (Decidable (∃ d ∈ db.slaDisputes, d.id = result.id ∧ d.status = .pending))

/-- **A commit** of a request that is undisturbed keeps the workflow. -/
theorem commits_law {req : DisputeRequest} {pending : List (Statement Db)} {result : SLADispute}
    {db db' : Db} (h : DisputeLaw db) (hmay : req.program.MayCommit pending result)
    (hcommit : disputeEngine.commit pending db = .ok db') (hfound : req.Undisturbed db result) :
    DisputeLaw db' ∧ Frozen db db' := by
  obtain ⟨htables, hfold⟩ := disputeEngine_commit_ok h.tables hcommit
  cases req with
  | flag disputeId slaResultId payload now =>
    obtain rfl := flagProgram_mayCommit hmay
    subst hfold
    exact h.insert htables rfl rfl (flaggedLog_closes disputeId payload now) rfl hfound
  | propose config slaResultId payload started now =>
    obtain ⟨d, id, row, newSla, hid, rfl⟩ := proposeProgram_mayCommit hmay
    obtain ⟨d', hd', hdid, hpending⟩ := hfound
    rw [hid] at hdid
    subst hfold
    refine DisputeLaw.setColumns (fun d => proposedDispute d id) h htables hd' hpending
      (fun _ => ⟨rfl, rfl⟩) ?_ rfl hdid.symm ?_
    · rw [hdid]
      rfl
    · show _ ↔ d'.status ≠ .pending
      rw [proposalLog_closes, hpending]
      decide
  | resolve slaResultId payload now =>
    obtain ⟨hstatus, d, assigned, hid, rfl⟩ := resolveProgram_mayCommit hmay
    obtain ⟨d', hd', hdid, hpending⟩ := hfound
    rw [hid] at hdid
    rw [List.foldl_append] at hfold
    obtain ⟨hdisputes, hlogs⟩ := foldl_flushFlags assigned db
    generalize (flushFlags assigned).foldl (fun db f => f db) db = flagged at hfold hdisputes hlogs
    subst hfold
    refine DisputeLaw.setColumns (fun d => closeDispute d payload now) h htables hd' hpending
      (fun _ => ⟨rfl, rfl⟩) ?_ (congrArg (· ++ [closingLog d payload now]) hlogs) hdid.symm ?_
    · rw [hdid, ← hdisputes]
      rfl
    · show _ ↔ payload.status ≠ .pending
      rw [closingLog_closes d now hstatus]
      exact iff_of_true rfl hstatus

/-! ## Runs -/

section Requests

variable {ι : Type} [DecidableEq ι]

/-- Requests over one database. -/
abbrev Disputes (ι : Type) := State Db (Statement Db) Exc SLADispute ι

def startDisputes (requests : ι → DisputeRequest) (db : Db) : Disputes ι :=
  .start (fun i => (requests i).program) db

/-- If the request is about to commit, what it has read is still so. -/
def Undisturbed (requests : ι → DisputeRequest) (s : Disputes ι) (i : ι) : Prop :=
  ∀ pending result, s.session i = .running (.commit result) pending →
    (requests i).Undisturbed s.committed result

instance (requests : ι → DisputeRequest) (s : Disputes ι) (i : ι) :
    Decidable (Undisturbed requests s i) :=
  match hsession : s.session i with
  | .running (.commit result) _ =>
    decidable_of_iff ((requests i).Undisturbed s.committed result)
      ⟨fun h _ _ hcommit => by cases hsession.symm.trans hcommit; exact h, fun h => h _ _ hsession⟩
  | .running (.read _) _ | .running (.draw _) _ | .running (.write ..) _ | .running (.fail _) _
  | .ended _ => isTrue fun _ _ hcommit => nomatch hsession.symm.trans hcommit

/-- The tables that a request writes. -/
def disputeTables (db : Db) : List SLAResultORM × List SLADispute × List DisputeAuditLog :=
  (db.slaResults, db.slaDisputes, db.disputeAuditLogs)

variable {requests : ι → DisputeRequest} {s : Disputes ι} {i : ι}

/-- **A request that takes all turns** is the one of the sequential model. -/
theorem endsAlone_serve {db : Db} (h : db.WellFormed) (requests : ι → DisputeRequest) (i : ι) :
    EndsAlone disputeEngine (startDisputes requests db) i ((requests i).serve db) := by
  rw [← alone_program h]
  exact endsAlone disputeEngine rfl

theorem step_law (h : DisputeLaw s.committed)
    (hfollows : (s.session i).Follows (requests i).program) (hfound : Undisturbed requests s i) :
    DisputeLaw (step disputeEngine s i).committed ∧
      Frozen s.committed (step disputeEngine s i).committed := by
  obtain ⟨pending, result, hcommits⟩ | hdrawn | hsame := step_committed disputeEngine s i
  · rw [hcommits.session] at hfollows
    exact commits_law h (mayCommit_of_follows hfollows) hcommits.accepted
      (hfound pending result hcommits.session)
  · rw [hdrawn]
    refine ⟨⟨?_, h.onePending, h.closed⟩, fun _ hd _ => hd⟩
    exact (satisfies_schema_iff _).mpr ((satisfies_schema_iff s.committed).mp h.tables)
  · rw [hsame]
    exact ⟨h, fun _ hd _ => hd⟩

/-- **The workflow** holds in every state of a run none of whose commits is disturbed, and closed
disputes stay as they are; in every run, a request that fails has changed nothing. -/
theorem dispute_workflow {db : Db} (hdb : DisputeLaw db) {steps : List (Disputes ι × ι)}
    {t : Disputes ι} (hrun : Turns disputeEngine (startDisputes requests db) steps t) :
    ((∀ x ∈ steps, Undisturbed requests x.1 x.2) →
      (∀ u ∈ visited steps t, DisputeLaw u.committed) ∧
        (visited steps t).Pairwise fun u u' => Frozen u.committed u'.committed) ∧
      ∀ i e, t.session i = .ended (.error e) → ∀ x ∈ steps, x.2 = i →
        disputeTables (step disputeEngine x.1 i).committed = disputeTables x.1.committed := by
  constructor
  · intro hfound
    have hlaw : ∀ u ∈ visited steps t, DisputeLaw u.committed ∧
        Follow (fun i => (requests i).program) u := by
      have hrestricted := hrun.restrict (A := fun s i => Undisturbed requests s i) hfound
      refine hrestricted.invariant_visited
        (I := fun u => DisputeLaw u.committed ∧ Follow (fun i => (requests i).program) u)
        ⟨hdb, follow_start _ db⟩ ?_
      intro s i u hs hstep
      obtain ⟨rfl, hundisturbed⟩ := hstep
      exact ⟨(step_law hs.1 (hs.2 i) hundisturbed).1, step_follow hs.2 i⟩
    refine ⟨fun u hu => (hlaw u hu).1, ?_⟩
    refine (hrun.pairwise_iff (R := fun u u' => Frozen u.committed u'.committed) ?_).mpr ?_
    · intro u v w huv hvw d hd hclosed
      exact hvw d (huv d hd hclosed) hclosed
    · intro x hx
      have hu := (forall_mem_visited.mp hlaw).1 x hx
      exact (step_law hu.1 (hu.2 x.2) (hfound x hx)).2
  · intro i e hfailed
    exact unchanged_of_failed (f := disputeTables) (fun _ => rfl) hrun hfailed

end Requests

/-! ## Two requests -/

def disputedRow : SLAResultORM where
  id := 1
  outageId := "outage"
  status := .violated
  mttrMinutes := 90
  thresholdMinutes := 60
  amount := -100
  paymentType := .penalty
  rating := .poor
  policyVersion := "1.0"
  thresholdSource := "config"
  createdAt := 0
  isLatest := true
  reasonCode := none
  decisionTrace := none

def undisputed : Db where
  outages := [⟨"outage", "high", none⟩]
  slaResults := [disputedRow]
  slaResultsSeq := 1

def doubt : DisputeFlagRequest := ⟨"engineer", "wrong threshold", by decide⟩

theorem undisputed_wellFormed : undisputed.WellFormed :=
  ⟨⟨by decide, by decide, by decide, by decide⟩,
    ⟨by decide, by decide, by decide, by decide, by decide⟩,
    ⟨by decide, by decide, by decide, by decide, by decide, by decide, by decide⟩, by decide⟩

def twoFlags (second : Bool) : DisputeRequest := .flag (if second then "d2" else "d1") 1 doubt 0

theorem first_flag_alone :
    EndsAlone disputeEngine (startDisputes twoFlags undisputed) false
      ((twoFlags false).serve undisputed) :=
  endsAlone_serve undisputed_wellFormed twoFlags false

/-- The requests take their statements in the order. -/
def serveInOrder (requests : Bool → DisputeRequest) (db : Db) (order : List Bool) : Disputes Bool :=
  order.foldl (step disputeEngine) (startDisputes requests db)

/-- The second flag comes after the first one, and is refused. -/
theorem dispute_workflow_second_flag :
    let order := List.replicate 5 false ++ List.replicate 3 true
    DisputeLaw (serveInOrder twoFlags undisputed order).committed := by
  intro order
  have hdb : DisputeLaw undisputed :=
    ⟨by decide +kernel, fun _ hd => absurd hd List.not_mem_nil,
      fun _ hd => absurd hd List.not_mem_nil⟩
  have hrun := replay_run (step disputeEngine) (startDisputes twoFlags undisputed) order
  obtain ⟨hlaw, -⟩ := (dispute_workflow hdb hrun).1 (by decide +kernel)
  exact hlaw _ (List.mem_append_right _ (List.mem_singleton_self _))

def disputed : Db :=
  { undisputed with
    slaDisputes := [flaggedDispute "d1" 1 doubt 0]
    disputeAuditLogs := [flaggedLog "d1" doubt 0] }

def twoResolutions (second : Bool) : DisputeRequest :=
  .resolve 1 ⟨if second then "bob" else "alice", "checked by hand", .rejected, false, by decide⟩ 1

/-- **Two requests look** before either of them commits: two flags leave two pending disputes, and
two resolutions leave two closing entries. -/
theorem two_flags_pending :
    let flagged := serveInOrder twoFlags undisputed
      [false, false, true, true, false, false, false, true, true, true]
    let resolved := serveInOrder twoResolutions disputed
      [false, true, false, false, false, true, true, true]
    flagged.committed.slaDisputes = [flaggedDispute "d1" 1 doubt 0, flaggedDispute "d2" 1 doubt 0] ∧
      ¬ DisputeLaw flagged.committed ∧
      (closings resolved.committed.disputeAuditLogs "d1").map DisputeAuditLog.actor =
        ["alice", "bob"] := by
  intro flagged resolved
  have htwo : flagged.committed.slaDisputes =
      [flaggedDispute "d1" 1 doubt 0, flaggedDispute "d2" 1 doubt 0] := by decide +kernel
  refine ⟨htwo, ?_, by decide +kernel⟩
  intro hlaw
  have hone := hlaw.onePending
  rw [htwo] at hone
  have hsame := hone (flaggedDispute "d1" 1 doubt 0) (by simp) (flaggedDispute "d2" 1 doubt 0)
    (by simp) rfl rfl rfl
  exact absurd (congrArg SLADispute.id hsame) (by decide)

end NocIq
