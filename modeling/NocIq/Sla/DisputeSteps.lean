import NocIq.Sla.Dispute

/-!
# NocIq — what the dispute requests do

One lemma per request, each saying everything the request can do on a well-formed database:

* **`flagDispute_cases`** — refuses, or stores a new pending dispute;
* **`createProposedSla_cases`** — refuses, or appends an unflagged row and points the pending
  dispute at it (`proposalOf` is the guard);
* **`resolveDispute_close`** — without a proposal to apply it refuses or closes the dispute;
* **`resolveDispute_apply`** — with one it closes the dispute and moves the flag to the proposed
  row exactly when that is newer than the effective row (`NewestProposal`). An older one fails on
  the unique index, because the flush promotes the row with the smaller id before it demotes the
  other.

The databases they lead to are `withDispute`, `withProposal`, `withClosed` and `withApplied`;
**`disputeStep_effect`** puts the cases together for one step of a run.
-/

namespace NocIq

open Relational SLARepository

/-! ## The databases the requests lead to -/

def withDispute (dispute : SLADispute) (log : DisputeAuditLog) (db : Db) : Db :=
  { db with
    slaDisputes := db.slaDisputes ++ [dispute]
    disputeAuditLogs := db.disputeAuditLogs ++ [log] }

def withClosed (dispute : SLADispute) (log : DisputeAuditLog) (db : Db) : Db :=
  { db with
    slaDisputes := db.slaDisputes.map (replaceDispute dispute)
    disputeAuditLogs := db.disputeAuditLogs ++ [log] }

def withProposal (row : SLAResultORM) (dispute : SLADispute) (log : DisputeAuditLog) (db : Db) :
    Db :=
  { db with
    slaResults := db.slaResults ++ [row]
    slaResultsSeq := row.id
    slaDisputes := db.slaDisputes.map (replaceDispute dispute)
    disputeAuditLogs := db.disputeAuditLogs ++ [log] }

/-- Moving the flag of an outage to the row `id`. -/
def promote (outageId : String) (id : Nat) (r : SLAResultORM) : SLAResultORM :=
  if r.id = id then { r with isLatest := true } else demote outageId r

def withApplied (proposedSla : SLAResultORM) (dispute : SLADispute) (log : DisputeAuditLog)
    (db : Db) : Db :=
  { db with
    slaResults := db.slaResults.map (promote proposedSla.outageId proposedSla.id)
    slaDisputes := db.slaDisputes.map (replaceDispute dispute)
    disputeAuditLogs := db.disputeAuditLogs ++ [log] }

/-! ## Dispute tables -/

@[simp] theorem replaceDispute_id (d x : SLADispute) : (replaceDispute d x).id = x.id := by
  unfold replaceDispute
  split
  · rename_i h
    exact h.symm
  · rfl

variable {d : SLADispute} {disputes : List SLADispute}

theorem mem_replaceDispute {x : SLADispute} (h : x ∈ disputes.map (replaceDispute d)) :
    x = d ∨ (x ∈ disputes ∧ x.id ≠ d.id) := by
  obtain ⟨y, hy, rfl⟩ := List.mem_map.mp h
  unfold replaceDispute
  by_cases hid : y.id = d.id
  · exact .inl (if_pos hid)
  · rw [if_neg hid]
    exact .inr ⟨hy, hid⟩

variable {logs : List DisputeAuditLog}

theorem replaced_disputes_valid {ids : List Nat} (h : DisputeTablesValid ids disputes logs)
    (hsla : d.slaResultId ∈ ids) (hbase : ∀ i, d.baselineSlaResultId = some i → i ∈ ids)
    (hprop : ∀ i, d.proposedSlaResultId = some i → i ∈ ids) :
    DisputeTablesValid ids (disputes.map (replaceDispute d)) logs where
  pkey := by
    rw [keys_map_of_eq (by simp)]
    exact h.pkey
  slaFkey x hx := by
    rcases mem_replaceDispute hx with rfl | ⟨hx, -⟩
    · exact hsla
    · exact h.slaFkey x hx
  baselineFkey x hx := by
    rcases mem_replaceDispute hx with rfl | ⟨hx, -⟩
    · exact hbase
    · exact h.baselineFkey x hx
  proposedFkey x hx := by
    rcases mem_replaceDispute hx with rfl | ⟨hx, -⟩
    · exact hprop
    · exact h.proposedFkey x hx
  logFkey l hl := by
    simpa [Function.comp_def] using h.logFkey l hl

theorem logged_valid {ids : List Nat} {log : DisputeAuditLog}
    (h : DisputeTablesValid ids disputes logs) (hlog : log.disputeId ∈ disputes.map (·.id)) :
    DisputeTablesValid ids disputes (logs ++ [log]) :=
  { h with
    logFkey := fun l hl => by
      rcases List.mem_append.mp hl with hl | hl
      · exact h.logFkey l hl
      · rw [List.mem_singleton.mp hl]
        exact hlog }

variable {db : Db}

theorem wellFormed_disputes (h : db.WellFormed) (hv : DisputeTablesValid db.slaIds disputes logs) :
    Db.WellFormed { db with slaDisputes := disputes, disputeAuditLogs := logs } where
  sla := h.sla
  disputes := hv
  payments := h.payments
  seq := h.seq

variable {slaResultId : Nat}

theorem pendingDispute_mem (h : pendingDispute db slaResultId = some d) :
    d ∈ db.slaDisputes ∧ d.slaResultId = slaResultId ∧ d.status = .pending := by
  have hp := List.find?_some h
  simp only [decide_eq_true_eq] at hp
  exact ⟨List.mem_of_find?_eq_some h, hp⟩

theorem findSlaResult_mem {id : Nat} {r : SLAResultORM} (h : findSlaResult db id = some r) :
    r ∈ db.slaResults ∧ r.id = id :=
  ⟨List.mem_of_find?_eq_some h, by simpa using List.find?_some h⟩

theorem findSlaResult_of_mem (h : db.WellFormed) {r : SLAResultORM} (hr : r ∈ db.slaResults) :
    findSlaResult db r.id = some r := by
  have := find_of_key_eq h.sla.pkey hr (k := r.id) rfl
  simpa [findSlaResult] using this

/-! ## `flag_dispute` -/

/-- The dispute `flag_dispute` stores. -/
def flaggedDispute (disputeId : String) (slaResultId : Nat) (payload : DisputeFlagRequest)
    (now : Time) : SLADispute :=
  { id := disputeId, slaResultId, baselineSlaResultId := some slaResultId,
    flaggedBy := payload.flaggedBy, disputeReason := payload.disputeReason, flaggedAt := now }

/-- **`flag_dispute`.** It refuses and changes nothing, or stores a pending dispute with a new id
for a stored result that has no pending one. -/
theorem flagDispute_cases (h : db.WellFormed) (disputeId : String) (slaResultId : Nat)
    (payload : DisputeFlagRequest) (now : Time) :
    (∃ e, flagDispute disputeId slaResultId payload now db = (.error e, db)) ∨
      ∃ log, flagDispute disputeId slaResultId payload now db =
          (.ok (flaggedDispute disputeId slaResultId payload now),
            withDispute (flaggedDispute disputeId slaResultId payload now) log db) ∧
        (withDispute (flaggedDispute disputeId slaResultId payload now) log db).WellFormed ∧
        pendingDispute db slaResultId = none := by
  unfold flagDispute
  cases hrow : findSlaResult db slaResultId with
  | none => exact .inl ⟨_, rfl⟩
  | some row =>
    cases hpend : pendingDispute db slaResultId with
    | some d => exact .inl ⟨_, rfl⟩
    | none =>
      set log : DisputeAuditLog :=
        { disputeId, action := "flagged", actor := payload.flaggedBy,
          notes := some payload.disputeReason, recordedAt := now } with hlog
      set dispute := flaggedDispute disputeId slaResultId payload now
      -- the only thing left to fail is the commit
      by_cases hsat : SatisfiesEach schema [insertDispute dispute, insertDisputeLog log] db
      · refine .inr ⟨log, Db.commit_eq hsat dispute, ?_, rfl⟩
        obtain ⟨hsla, hdisp, hpay⟩ := (satisfies_schema_iff _).mp (hsat.foldl h.satisfies)
        exact ⟨hsla, hdisp, hpay, h.seq⟩
      · obtain ⟨name, hname⟩ := Db.commit_violation hsat dispute
        exact .inl ⟨_, hname⟩

/-! ## `create_proposed_sla` -/

/-- What `create_proposed_sla` proposes: the pending dispute, its baseline row and the newly
calculated result; `none` when it refuses. -/
def proposalOf (config : SLAConfig) (slaResultId : Nat) (payload : CreateProposedSLARequest)
    (db : Db) : Option (SLADispute × SLAResultORM × SLAResult) := do
  let dispute ← pendingDispute db slaResultId
  let baselineSla ← db.slaResults.find? fun r => decide (dispute.baselineSlaResultId = some r.id)
  match SLACalculator.calculate config baselineSla.outageId payload.severity payload.mttrMinutes
      payload.policyVersion payload.thresholdSource with
  | .error _ => none
  | .ok newSla => return (dispute, baselineSla, newSla)

variable {payload : CreateProposedSLARequest} {config : SLAConfig} {newSla : SLAResult}

theorem proposalOf_lookups {b : SLAResultORM}
    (hp : proposalOf config slaResultId payload db = some (d, b, newSla)) :
    pendingDispute db slaResultId = some d ∧
      (db.slaResults.find? fun r => decide (d.baselineSlaResultId = some r.id)) = some b ∧
      SLACalculator.calculate config b.outageId payload.severity payload.mttrMinutes
        payload.policyVersion payload.thresholdSource = .ok newSla := by
  unfold proposalOf at hp
  simp only [Option.bind_eq_bind, Option.bind_eq_some_iff] at hp
  obtain ⟨d', hd, b', hb, hp⟩ := hp
  cases hcalc : SLACalculator.calculate config b'.outageId payload.severity payload.mttrMinutes
      payload.policyVersion payload.thresholdSource with
  | error e =>
    rw [hcalc] at hp
    cases hp
  | ok r =>
    rw [hcalc] at hp
    obtain ⟨rfl, hrest⟩ := Prod.mk.inj (Option.some.inj hp)
    obtain ⟨rfl, rfl⟩ := Prod.mk.inj hrest
    exact ⟨hd, hb, hcalc⟩

theorem proposalOf_eq_some {b : SLAResultORM}
    (hp : proposalOf config slaResultId payload db = some (d, b, newSla)) :
    pendingDispute db slaResultId = some d ∧ b ∈ db.slaResults ∧
      newSla.Calculated b.outageId := by
  obtain ⟨hd, hb, hcalc⟩ := proposalOf_lookups hp
  exact ⟨hd, List.mem_of_find?_eq_some hb, _, _, _, _, _, hcalc⟩

def proposedDispute (d : SLADispute) (id : Nat) : SLADispute :=
  { d with proposedSlaResultId := some id }

theorem insertProposal_wellFormed (h : db.WellFormed) (hout : newSla.outageId ∈ db.outageIds)
    (started : Time) :
    (insertResult (newRow newSla (db.slaResultsSeq + 1) false started)
      { db with slaResultsSeq := db.slaResultsSeq + 1 }).WellFormed := by
  set row := newRow newSla (db.slaResultsSeq + 1) false started with hrow
  have hfresh : ∀ x ∈ db.slaResults, x.id ≠ row.id := by
    intro x hx hid
    have hle := (h.seq x hx).2
    have hrid : row.id = db.slaResultsSeq + 1 := rfl
    omega
  refine wellFormed_with h _ _ (inserted_valid h.sla hfresh hout ?_) ?_ ?_
  · intro hflag
    simp [hrow, newRow] at hflag
  · intro i hi
    rw [List.map_append]
    exact List.mem_append_left _ hi
  · intro r hr
    rcases List.mem_append.mp hr with hr | hr
    · exact ⟨(h.seq r hr).1, (h.seq r hr).2.trans (Nat.le_succ _)⟩
    · rw [List.mem_singleton.mp hr]
      exact ⟨Nat.succ_pos _, Nat.le_refl _⟩

theorem updateDispute_wellFormed (h : db.WellFormed) (d' : SLADispute) (hd : d ∈ db.slaDisputes)
    (hsla : d'.slaResultId = d.slaResultId) (hbase : d'.baselineSlaResultId = d.baselineSlaResultId)
    (hprop : ∀ i, d'.proposedSlaResultId = some i → i ∈ db.slaIds) {log : DisputeAuditLog}
    (hlog : log.disputeId = d.id) :
    (updateDispute d' db).WellFormed ∧ (withClosed d' log db).WellFormed := by
  have hv : DisputeTablesValid db.slaIds (db.slaDisputes.map (replaceDispute d'))
      db.disputeAuditLogs := by
    refine replaced_disputes_valid h.disputes ?_ ?_ hprop
    · rw [hsla]
      exact h.disputes.slaFkey d hd
    · rw [hbase]
      exact h.disputes.baselineFkey d hd
  refine ⟨wellFormed_disputes h hv, wellFormed_disputes h (logged_valid hv ?_)⟩
  rw [hlog]
  simpa [Function.comp_def] using ⟨d, hd, rfl⟩

def proposalLog (d : SLADispute) (newSla : SLAResult) (payload : CreateProposedSLARequest)
    (now : Time) : DisputeAuditLog where
  disputeId := d.id
  action := "proposed_sla_created"
  actor := payload.createdBy
  notes := some (proposalNotes newSla payload.notes)
  recordedAt := now

theorem createProposedSla_eq {b : SLAResultORM}
    (hp : proposalOf config slaResultId payload db = some (d, b, newSla)) (started now : Time) :
    createProposedSla config slaResultId payload started now db =
      Db.commit { db with slaResultsSeq := db.slaResultsSeq + 1 }
        [insertResult (newRow newSla (db.slaResultsSeq + 1) false started),
          updateDispute (proposedDispute d (db.slaResultsSeq + 1)),
          insertDisputeLog (proposalLog d newSla payload now)]
        (proposedDispute d (db.slaResultsSeq + 1)) := by
  obtain ⟨hd, hb, hcalc⟩ := proposalOf_lookups hp
  unfold createProposedSla
  simp only [hd, hb, hcalc]
  rfl

theorem createProposedSla_refused (hp : proposalOf config slaResultId payload db = none)
    (started now : Time) :
    ∃ e, createProposedSla config slaResultId payload started now db = (.error e, db) := by
  unfold createProposedSla
  unfold proposalOf at hp
  cases hd : pendingDispute db slaResultId with
  | none => exact ⟨_, rfl⟩
  | some d =>
    dsimp only
    cases hb : db.slaResults.find? fun r => decide (d.baselineSlaResultId = some r.id) with
    | none => exact ⟨_, rfl⟩
    | some b =>
      dsimp only
      cases hcalc : SLACalculator.calculate config b.outageId payload.severity
          payload.mttrMinutes payload.policyVersion payload.thresholdSource with
      | error e => exact ⟨e, rfl⟩
      | ok newSla => simp [hd, hb, hcalc] at hp

/-- **`create_proposed_sla`.** It refuses and changes nothing, or appends the calculated result as
an unflagged row and points the pending dispute at it. -/
theorem createProposedSla_cases (h : db.WellFormed) (config : SLAConfig) (slaResultId : Nat)
    (payload : CreateProposedSLARequest) (started now : Time) :
    (proposalOf config slaResultId payload db = none ∧
      ∃ e, createProposedSla config slaResultId payload started now db = (.error e, db)) ∨
    ∃ d b newSla log, proposalOf config slaResultId payload db = some (d, b, newSla) ∧
      createProposedSla config slaResultId payload started now db =
        (.ok (proposedDispute d (db.slaResultsSeq + 1)),
          withProposal (newRow newSla (db.slaResultsSeq + 1) false started)
            (proposedDispute d (db.slaResultsSeq + 1)) log db) ∧
      (withProposal (newRow newSla (db.slaResultsSeq + 1) false started)
        (proposedDispute d (db.slaResultsSeq + 1)) log db).WellFormed := by
  cases hprop : proposalOf config slaResultId payload db with
  | none => exact .inl ⟨rfl, createProposedSla_refused hprop started now⟩
  | some p =>
    obtain ⟨d, b, newSla⟩ := p
    obtain ⟨hpend, hbmem, hcalculated⟩ := proposalOf_eq_some hprop
    have hd := (pendingDispute_mem hpend).1
    have hout : newSla.outageId ∈ db.outageIds := by
      rw [hcalculated.outageId_eq]
      exact h.sla.outageFkey b hbmem
    -- the three statements of the commit, each on a well-formed database
    set row := newRow newSla (db.slaResultsSeq + 1) false started
    set dispute := proposedDispute d (db.slaResultsSeq + 1)
    have hinserted := insertProposal_wellFormed h hout started
    have hnew : ∀ i, dispute.proposedSlaResultId = some i →
        i ∈ (db.slaResults ++ [row]).map (·.id) := by
      intro i hi
      obtain rfl := Option.some.inj hi
      exact List.mem_map_of_mem (List.mem_append_right _ (List.mem_singleton_self row))
    have hlog : (proposalLog d newSla payload now).disputeId = d.id := rfl
    obtain ⟨hupdated, hlogged⟩ :=
      updateDispute_wellFormed hinserted dispute hd rfl rfl hnew hlog
    have hsat : SatisfiesEach schema [insertResult row, updateDispute dispute,
        insertDisputeLog (proposalLog d newSla payload now)]
        { db with slaResultsSeq := db.slaResultsSeq + 1 } :=
      ⟨hinserted.satisfies, hupdated.satisfies, hlogged.satisfies, trivial⟩
    refine .inr ⟨d, b, newSla, proposalLog d newSla payload now, rfl, ?_, hlogged⟩
    rw [createProposedSla_eq hprop]
    exact Db.commit_eq hsat dispute

/-! ## `resolve_dispute` -/

@[simp] theorem promote_id (o : String) (i : Nat) (r : SLAResultORM) :
    (promote o i r).id = r.id := by
  unfold promote
  split
  · rfl
  · exact demote_id o r

@[simp] theorem promote_outageId (o : String) (i : Nat) (r : SLAResultORM) :
    (promote o i r).outageId = r.outageId := by
  unfold promote
  split
  · rfl
  · exact demote_outageId o r

@[simp] theorem promote_createdAt (o : String) (i : Nat) (r : SLAResultORM) :
    (promote o i r).createdAt = r.createdAt := by
  unfold promote
  split
  · rfl
  · exact demote_createdAt o r

theorem isEffective_promote (o o' : String) (i : Nat) (r : SLAResultORM) :
    isEffective o' (promote o i r) =
      if r.id = i then decide (r.outageId = o') else isEffective o' r && decide (o' ≠ o) := by
  unfold promote
  split
  · simp [isEffective]
  · exact isEffective_demote o o' r

variable {p : SLAResultORM} {outages : List OutageRow} {rows : List SLAResultORM}

theorem promoted_valid (h : SlaTablesValid outages rows) (hp : p ∈ rows) :
    SlaTablesValid outages (rows.map (promote p.outageId p.id)) where
  outagesPkey := h.outagesPkey
  pkey := by
    rw [keys_map_of_eq (by simp)]
    exact h.pkey
  outageFkey r hr := by
    obtain ⟨x, hx, rfl⟩ := List.mem_map.mp hr
    rw [promote_outageId]
    exact h.outageFkey x hx
  latest := by
    have hids := nodup_keys_iff_pairwise.mp h.pkey
    have hlatest := nodup_keys_iff_pairwise.mp h.latest
    rw [nodup_keys_iff_pairwise, List.pairwise_map]
    refine (hids.and hlatest).imp_of_mem ?_
    rintro a b ha hb ⟨hne, hkeys⟩ o ha' hb'
    rw [latestKey_eq_some, isEffective_promote] at ha' hb'
    have hab : a.id ≠ b.id := fun hid => hne a.id rfl (congrArg some hid.symm)
    by_cases hai : a.id = p.id
    · -- `a` is the promoted row, so `b` would have to be effective for another outage than `p`'s
      have hap : a = p := row_unique h ha hp hai
      have hbi : ¬ b.id = p.id := fun hbi => hab (hai.trans hbi.symm)
      rw [if_pos hai] at ha'
      rw [if_neg hbi] at hb'
      simp only [decide_eq_true_eq, Bool.and_eq_true] at ha' hb'
      exact hb'.2 (by rw [← ha', hap])
    · rw [if_neg hai] at ha'
      simp only [Bool.and_eq_true, decide_eq_true_eq] at ha'
      by_cases hbi : b.id = p.id
      · have hbp : b = p := row_unique h hb hp hbi
        rw [if_pos hbi] at hb'
        simp only [decide_eq_true_eq] at hb'
        exact ha'.2 (by rw [← hb', hbp])
      · rw [if_neg hbi] at hb'
        simp only [Bool.and_eq_true] at hb'
        exact hkeys o (latestKey_eq_some.mpr ha'.1) (latestKey_eq_some.mpr hb'.1)

theorem demote_then_flag (o : String) (i : Nat) (rows : List SLAResultORM) :
    (rows.map (demote o)).map (setFlag i true) = rows.map (promote o i) := by
  rw [List.map_map]
  apply List.map_congr_left
  intro r _
  unfold promote setFlag
  simp only [Function.comp_apply, demote_id]
  split
  · unfold demote
    split <;> rfl
  · rfl

theorem unflag_effective {o : String} {e : SLAResultORM} (h : SlaTablesValid outages rows)
    (he : e ∈ rows) (heff : isEffective o e = true) :
    rows.map (setFlag e.id false) = rows.map (demote o) := by
  apply List.map_congr_left
  intro r hr
  unfold setFlag demote
  by_cases hid : r.id = e.id
  · obtain rfl := row_unique h hr he hid
    rw [if_pos rfl, if_pos heff]
  · have hne : ¬ isEffective o r = true := by
      intro hre
      exact hid (congrArg _ (effective_unique h hr he hre heff))
    rw [if_neg hid, if_neg hne]

theorem promote_effective {e : SLAResultORM} (h : SlaTablesValid outages rows) (he : e ∈ rows)
    (heff : isEffective e.outageId e = true) : rows.map (promote e.outageId e.id) = rows := by
  have hlatest := (isEffective_iff.mp heff).2
  rw [← demote_then_flag, ← unflag_effective h he heff, List.map_map]
  conv_rhs => rw [← List.map_id rows]
  apply List.map_congr_left
  intro r hr
  by_cases hre : r.id = e.id
  · obtain rfl := row_unique h hr he hre
    simp only [Function.comp_apply, setFlag, if_true, id_eq]
    rw [← hlatest]
  · simp [setFlag, hre]

theorem flushFlags_newest {e : SLAResultORM} (helatest : e.isLatest = true)
    (hplatest : p.isLatest = false) (hid : e.id ≠ p.id) (hle : e.id ≤ p.id) :
    flushFlags (assignedFlags (some e) p) = [updateFlag e.id false, updateFlag p.id true] := by
  simp [flushFlags, assignedFlags, hid, hplatest, helatest, List.insertionSort, hle]

theorem flush_newest (h : db.WellFormed) (hp : p ∈ db.slaResults) (hnewest : NewestProposal db p) :
    let flags := flushFlags (assignedFlags (effectiveRow db p.outageId) p)
    let promoted := { db with slaResults := db.slaResults.map (promote p.outageId p.id) }
    SatisfiesEach schema flags db ∧ flags.foldl (fun s f => f s) db = promoted ∧
      Db.WellFormed promoted := by
  have hpromoted := wellFormed_map h (promote_id p.outageId p.id) (promoted_valid h.sla hp)
  cases he : effectiveRow db p.outageId with
  | none =>
    -- no row to demote: a single UPDATE
    have hnone := effectiveRow_eq_none.mp he
    have hflag : p.isLatest = false := by
      have hidle := hnone p hp
      simpa [isEffective] using hidle
    have hflush : flushFlags (assignedFlags none p) = [updateFlag p.id true] := by
      simp [flushFlags, assignedFlags, hflag]
    have hdb : updateFlag p.id true db
        = { db with slaResults := db.slaResults.map (promote p.outageId p.id) } := by
      unfold updateFlag
      rw [← demote_then_flag, demote_none hnone]
    dsimp only
    rw [hflush]
    refine ⟨⟨?_, trivial⟩, hdb, hpromoted⟩
    rw [hdb]
    exact hpromoted.satisfies
  | some e =>
    obtain ⟨hemem, heff⟩ := (effectiveRow_eq_some h).mp he
    have helatest := (isEffective_iff.mp heff).2
    have hle : e.id ≤ p.id := hnewest e hemem heff
    by_cases hid : e.id = p.id
    · -- the proposed row is effective already: nothing to write
      obtain rfl := row_unique h.sla hemem hp hid
      have hflush : flushFlags (assignedFlags (some e) e) = [] := by
        simp [flushFlags, assignedFlags, helatest]
      dsimp only
      rw [hflush, promote_effective h.sla hemem heff]
      exact ⟨trivial, rfl, h⟩
    · have hplatest : p.isLatest = false := by
        rw [Bool.eq_false_iff]
        intro hl
        have hpeff : isEffective p.outageId p = true := isEffective_iff.mpr ⟨rfl, hl⟩
        exact hid (congrArg _ (effective_unique h.sla hemem hp heff hpeff))
      have hunflag := unflag_effective h.sla hemem heff
      have hdemoted : Db.WellFormed (updateFlag e.id false db) := by
        unfold updateFlag
        rw [hunflag]
        exact wellFormed_map h (demote_id _) (demoted_valid h.sla _)
      have hdb : updateFlag p.id true (updateFlag e.id false db)
          = { db with slaResults := db.slaResults.map (promote p.outageId p.id) } := by
        unfold updateFlag
        rw [hunflag, demote_then_flag]
      dsimp only
      rw [flushFlags_newest helatest hplatest hid hle]
      refine ⟨⟨hdemoted.satisfies, ?_, trivial⟩, hdb, hpromoted⟩
      rw [hdb]
      exact hpromoted.satisfies

/-- Applying a proposal older than the effective row: its promotion comes first, and makes two
rows of the outage effective. -/
theorem flush_older (h : db.WellFormed) (hp : p ∈ db.slaResults) (holder : ¬ NewestProposal db p) :
    ¬ SatisfiesEach schema (flushFlags (assignedFlags (effectiveRow db p.outageId) p)) db := by
  unfold NewestProposal at holder
  push Not at holder
  obtain ⟨e, hemem, heff, hlt⟩ := holder
  have he := (effectiveRow_eq_some h).mpr ⟨hemem, heff⟩
  obtain ⟨heout, helatest⟩ := isEffective_iff.mp heff
  have hid : e.id ≠ p.id := Nat.ne_of_gt hlt
  have hplatest : p.isLatest = false := by
    rw [Bool.eq_false_iff]
    intro hl
    have hpeff : isEffective p.outageId p = true := isEffective_iff.mpr ⟨rfl, hl⟩
    exact hid (congrArg _ (effective_unique h.sla hemem hp heff hpeff))
  -- the flush goes by primary key, so the smaller id of the proposal comes first
  have hflush : flushFlags (assignedFlags (some e) p)
      = [updateFlag p.id true, updateFlag e.id false] := by
    simp [flushFlags, assignedFlags, hid, hplatest, helatest, List.insertionSort,
      List.orderedInsert, Nat.not_le.mpr hlt]
  rw [he, hflush]
  intro hsat
  have hv : SlaTablesValid db.outages (db.slaResults.map (setFlag p.id true)) :=
    ((satisfies_schema_iff _).mp hsat.1).1
  have hemem' : e ∈ db.slaResults.map (setFlag p.id true) :=
    List.mem_map.mpr ⟨e, hemem, by simp [setFlag, hid]⟩
  have hpmem' : { p with isLatest := true } ∈ db.slaResults.map (setFlag p.id true) :=
    List.mem_map.mpr ⟨p, hp, by simp [setFlag]⟩
  have hsame := effective_unique hv hemem' hpmem' heff (isEffective_iff.mpr ⟨rfl, rfl⟩)
  have hsameId : e.id = p.id := by rw [hsame]
  exact hid hsameId

theorem proposalToApply_eq_some {payload : DisputeResolveRequest}
    (hp : proposalToApply slaResultId payload db = some (d, p)) :
    payload.status = .resolved ∧ payload.applyProposed = true ∧
      pendingDispute db slaResultId = some d ∧ d.proposedSlaResultId = some p.id ∧
      p ∈ db.slaResults := by
  unfold proposalToApply at hp
  split at hp
  · rename_i hreq
    simp only [Option.bind_eq_bind, Option.bind_eq_some_iff] at hp
    obtain ⟨d', hd', i, hi, p', hp', heq⟩ := hp
    obtain ⟨rfl, rfl⟩ : d' = d ∧ p' = p := by simpa using heq
    obtain ⟨hmem, hid⟩ := findSlaResult_mem hp'
    exact ⟨hreq.1, hreq.2, hd', by rw [hi, hid], hmem⟩
  · cases hp

theorem closing_wellFormed (h : db.WellFormed) (hd : d ∈ db.slaDisputes)
    (payload : DisputeResolveRequest) (now : Time) :
    SatisfiesEach schema
      [updateDispute (closeDispute d payload now), insertDisputeLog (closingLog d payload now)] db ∧
    (withClosed (closeDispute d payload now) (closingLog d payload now) db).WellFormed := by
  obtain ⟨hupdated, hlogged⟩ :=
    updateDispute_wellFormed h (closeDispute d payload now) hd rfl rfl
      (h.disputes.proposedFkey d hd) (show (closingLog d payload now).disputeId = d.id from rfl)
  exact ⟨⟨hupdated.satisfies, hlogged.satisfies, trivial⟩, hlogged⟩

/-- **`resolve_dispute` applying a proposal.** With a pending dispute that has a proposed row the
request succeeds exactly if the proposal is newer than every effective row of the outage. -/
theorem resolveDispute_apply (h : db.WellFormed) {payload : DisputeResolveRequest} (now : Time)
    (hp : proposalToApply slaResultId payload db = some (d, p)) :
    (NewestProposal db p ∧
      resolveDispute slaResultId payload now db =
        (.ok (closeDispute d payload now),
          withApplied p (closeDispute d payload now) (closingLog d payload now) db) ∧
      (withApplied p (closeDispute d payload now) (closingLog d payload now) db).WellFormed) ∨
    (¬ NewestProposal db p ∧
      ∃ name, resolveDispute slaResultId payload now db = (.error (.integrityError name), db)) := by
  obtain ⟨hstatus, happly, hpend, hpid, hpmem⟩ := proposalToApply_eq_some hp
  have hd := (pendingDispute_mem hpend).1
  have hpos : p.id ≠ 0 := Nat.ne_of_gt (h.seq p hpmem).1
  have hfind := findSlaResult_of_mem h hpmem
  set closing := [updateDispute (closeDispute d payload now),
    insertDisputeLog (closingLog d payload now)] with hclosing
  have hcommit : resolveDispute slaResultId payload now db =
      db.commit (flushFlags (assignedFlags (effectiveRow db p.outageId) p) ++ closing)
        (closeDispute d payload now) := by
    simp [resolveDispute, hstatus, happly, hpend, hpid, hpos, hfind, hclosing]
  rw [hcommit]
  -- the rest of the flush is the same in both cases
  by_cases hnewest : NewestProposal db p
  · obtain ⟨hflags, hfold, hpromoted⟩ := flush_newest h hpmem hnewest
    obtain ⟨hclosed, hwf⟩ := closing_wellFormed hpromoted hd payload now
    have hsat : SatisfiesEach schema
        (flushFlags (assignedFlags (effectiveRow db p.outageId) p) ++ closing) db := by
      rw [satisfiesEach_append, hfold]
      exact ⟨hflags, hclosed⟩
    refine .inl ⟨hnewest, ?_, hwf⟩
    rw [Db.commit_eq hsat, List.foldl_append, hfold]
    rfl
  · refine .inr ⟨hnewest, Db.commit_violation ?_ _⟩
    rw [satisfiesEach_append]
    exact fun hsat => flush_older h hpmem hnewest hsat.1

/-- **`resolve_dispute` without an application.** It refuses and changes nothing, or closes the
pending dispute. -/
theorem resolveDispute_close (h : db.WellFormed) {payload : DisputeResolveRequest} (now : Time)
    (hp : proposalToApply slaResultId payload db = none) :
    (∃ e, resolveDispute slaResultId payload now db = (.error e, db)) ∨
      ∃ d, payload.status ≠ .pending ∧ pendingDispute db slaResultId = some d ∧
        resolveDispute slaResultId payload now db =
          (.ok (closeDispute d payload now),
            withClosed (closeDispute d payload now) (closingLog d payload now) db) ∧
        (withClosed (closeDispute d payload now) (closingLog d payload now) db).WellFormed := by
  unfold resolveDispute
  by_cases hstatus : payload.status ≠ .resolved ∧ payload.status ≠ .rejected
  · rw [if_pos hstatus]
    exact .inl ⟨_, rfl⟩
  · rw [if_neg hstatus]
    cases hpend : pendingDispute db slaResultId with
    | none => exact .inl ⟨_, rfl⟩
    | some d =>
      have hd := (pendingDispute_mem hpend).1
      dsimp only
      by_cases hreq : payload.status = .resolved ∧ payload.applyProposed = true
      · -- an applying request without a proposal is refused
        rw [if_pos hreq]
        cases hpid : d.proposedSlaResultId with
        | none => exact .inl ⟨_, rfl⟩
        | some i =>
          exfalso
          obtain ⟨r, hr, rfl⟩ := List.mem_map.mp (h.disputes.proposedFkey d hd i hpid)
          have hfind := findSlaResult_of_mem h hr
          simp [proposalToApply, hreq, hpend, hpid, hfind] at hp
      · rw [if_neg hreq]
        obtain ⟨hsat, hwf⟩ := closing_wellFormed h hd payload now
        refine .inr ⟨d, ?_, rfl, Db.commit_eq hsat _, hwf⟩
        intro hpending
        simp [hpending] at hstatus

/-! ## One dispute request

The three requests as one step function, and everything a step can do. Proofs about runs split
the effect and never unfold a request. -/

inductive DisputeRequest where
  | flag (disputeId : String) (slaResultId : Nat) (payload : DisputeFlagRequest) (now : Time)
  | propose (config : SLAConfig) (slaResultId : Nat) (payload : CreateProposedSLARequest)
      (started now : Time)
  | resolve (slaResultId : Nat) (payload : DisputeResolveRequest) (now : Time)

def disputeStep (db : Db) : DisputeRequest → Db
  | .flag disputeId slaResultId payload now => (flagDispute disputeId slaResultId payload now db).2
  | .propose config slaResultId payload started now =>
    (createProposedSla config slaResultId payload started now db).2
  | .resolve slaResultId payload now => (resolveDispute slaResultId payload now db).2

/-- A request that neither proposes nor applies anything. -/
def DisputeRequest.Idle (db : Db) : DisputeRequest → Prop
  | .flag .. => True
  | .propose config slaResultId payload _ _ => proposalOf config slaResultId payload db = none
  | .resolve slaResultId payload _ =>
    ∀ d p, proposalToApply slaResultId payload db = some (d, p) → ¬ NewestProposal db p

inductive DisputeEffect (db : Db) : DisputeRequest → Db → Prop where
  | refused {req : DisputeRequest} (hidle : req.Idle db) : DisputeEffect db req db
  | flagged {disputeId : String} {slaResultId : Nat} {payload : DisputeFlagRequest} {now : Time}
      (log : DisputeAuditLog) (hnone : pendingDispute db slaResultId = none) :
      DisputeEffect db (.flag disputeId slaResultId payload now)
        (withDispute (flaggedDispute disputeId slaResultId payload now) log db)
  | proposed {config : SLAConfig} {slaResultId : Nat} {payload : CreateProposedSLARequest}
      {started now : Time} {d : SLADispute} {b : SLAResultORM} {newSla : SLAResult}
      (log : DisputeAuditLog)
      (hprop : proposalOf config slaResultId payload db = some (d, b, newSla)) :
      DisputeEffect db (.propose config slaResultId payload started now)
        (withProposal (newRow newSla (db.slaResultsSeq + 1) false started)
          (proposedDispute d (db.slaResultsSeq + 1)) log db)
  | closed {slaResultId : Nat} {payload : DisputeResolveRequest} {now : Time} {d : SLADispute}
      (log : DisputeAuditLog) (hpend : pendingDispute db slaResultId = some d)
      (hstatus : payload.status ≠ .pending)
      (hnone : proposalToApply slaResultId payload db = none) :
      DisputeEffect db (.resolve slaResultId payload now)
        (withClosed (closeDispute d payload now) log db)
  | applied {slaResultId : Nat} {payload : DisputeResolveRequest} {now : Time} {d : SLADispute}
      {p : SLAResultORM} (log : DisputeAuditLog)
      (hprop : proposalToApply slaResultId payload db = some (d, p))
      (hnewest : NewestProposal db p) :
      DisputeEffect db (.resolve slaResultId payload now)
        (withApplied p (closeDispute d payload now) log db)

theorem disputeStep_effect (h : db.WellFormed) (req : DisputeRequest) :
    DisputeEffect db req (disputeStep db req) ∧ (disputeStep db req).WellFormed := by
  cases req with
  | flag disputeId slaResultId payload now =>
    simp only [disputeStep]
    rcases flagDispute_cases h disputeId slaResultId payload now with ⟨e, he⟩ | ⟨log, hok, hwf, hnone⟩
    · rw [he]
      exact ⟨.refused trivial, h⟩
    · rw [hok]
      exact ⟨.flagged log hnone, hwf⟩
  | propose config slaResultId payload started now =>
    simp only [disputeStep]
    rcases createProposedSla_cases h config slaResultId payload started now with
      ⟨hnone, e, he⟩ | ⟨d, b, newSla, log, hprop, hok, hwf⟩
    · rw [he]
      exact ⟨.refused hnone, h⟩
    · rw [hok]
      exact ⟨.proposed log hprop, hwf⟩
  | resolve slaResultId payload now =>
    simp only [disputeStep]
    cases hp : proposalToApply slaResultId payload db with
    | none =>
      -- nothing to apply: the dispute is closed, or the request refused
      rcases resolveDispute_close h now hp with ⟨e, he⟩ | ⟨d, hstatus, hpend, hok, hwf⟩
      · rw [he]
        refine ⟨.refused ?_, h⟩
        intro d p hdp
        rw [hp] at hdp
        cases hdp
      · rw [hok]
        exact ⟨.closed _ hpend hstatus hp, hwf⟩
    | some dp =>
      obtain ⟨d, p⟩ := dp
      rcases resolveDispute_apply h now hp with ⟨hnewest, hok, hwf⟩ | ⟨holder, name, hname⟩
      · rw [hok]
        exact ⟨.applied _ hp hnewest, hwf⟩
      · rw [hname]
        refine ⟨.refused ?_, h⟩
        intro d' p' hdp
        rw [hp] at hdp
        obtain ⟨rfl, rfl⟩ : d = d' ∧ p = p' := by simpa using hdp
        exact holder

end NocIq
