import NocIq.Lib.Runs
import NocIq.Sla.DisputeSteps

/-!
# NocIq — the effective SLA result of an outage

The writers of `sla_results` as a transition system over the whole database, the invariant all of
them keep, and what the flag `is_latest` means for it.

The flag implements a ledger: a partial map from outages to the result in force.

* **`effectiveId_slaStep`** — one step of a writer is one update of the ledger: `create` and an
  applied proposal set the outage's entry, everything else leaves the ledger alone.
* **`SlaInvariant.step`** — the invariant: the declared constraints hold, every outage with rows
  has an effective one, a result has at most one pending dispute, no two disputes share a
  proposed row, and a pending proposal is not effective.
* **`effective_flag_of_run`** — over every run, what holds of the flag, and exactly when all
  pending proposals can be applied.
-/

namespace NocIq

open Relational SLARepository

/-! ## The ledger behind the flag -/

/-- Which result is in force for each outage. -/
abbrev Ledger := String → Option Nat

/-- The ledger the flagged rows stand for. -/
def effectiveId (db : Db) : Ledger := fun o => (effectiveRow db o).map (·.id)

variable {db : Db}

theorem effectiveId_eq_some (h : db.WellFormed) {o : String} {i : Nat} :
    effectiveId db o = some i ↔ ∃ e ∈ db.slaResults, isEffective o e = true ∧ e.id = i := by
  unfold effectiveId
  rw [Option.map_eq_some_iff]
  constructor
  · intro hrow
    obtain ⟨e, he, hid⟩ := hrow
    obtain ⟨hmem, heff⟩ := (effectiveRow_eq_some h).mp he
    exact ⟨e, hmem, heff, hid⟩
  · intro hrow
    obtain ⟨e, hmem, heff, hid⟩ := hrow
    exact ⟨e, (effectiveRow_eq_some h).mpr ⟨hmem, heff⟩, hid⟩

theorem effectiveId_congr {db' : Db} (hrows : db'.slaResults = db.slaResults) :
    effectiveId db' = effectiveId db := by
  unfold effectiveId effectiveRow
  rw [hrows]

theorem effectiveId_created (h : db.WellFormed) {payload : SLAResult} (started : Time)
    (hout : payload.outageId ∈ db.outageIds) :
    effectiveId (created payload started db) =
      Function.update (effectiveId db) payload.outageId (some (db.slaResultsSeq + 1)) := by
  have hwf := created_wellFormed h started hout
  funext o
  -- the outage of the new row, and every other one
  by_cases ho : o = payload.outageId
  · subst ho
    rw [Function.update_self, effectiveId_eq_some hwf]
    have hmem : newRow payload (db.slaResultsSeq + 1) true started
        ∈ (created payload started db).slaResults :=
      List.mem_append_right _ (List.mem_singleton_self _)
    exact ⟨_, hmem, isEffective_iff.mpr ⟨rfl, rfl⟩, rfl⟩
  · rw [Function.update_of_ne ho]
    apply Option.ext
    intro i
    rw [effectiveId_eq_some hwf, effectiveId_eq_some h]
    constructor
    · rintro ⟨e, he, heff, hid⟩
      rcases List.mem_append.mp he with he | he
      · obtain ⟨x, hx, rfl⟩ := List.mem_map.mp he
        rw [isEffective_demote, Bool.and_eq_true] at heff
        exact ⟨x, hx, heff.1, by rw [← hid, demote_id]⟩
      · rw [List.mem_singleton.mp he] at heff
        exact absurd (isEffective_iff.mp heff).1.symm ho
    · rintro ⟨e, he, heff, hid⟩
      refine ⟨demote payload.outageId e, List.mem_append_left _ (List.mem_map_of_mem he), ?_, ?_⟩
      · rw [isEffective_demote, heff]
        simpa using ho
      · rw [demote_id, hid]

variable {d : SLADispute} {log : DisputeAuditLog}

theorem effectiveId_withProposal {row : SLAResultORM} (hflag : row.isLatest = false) :
    effectiveId (withProposal row d log db) = effectiveId db := by
  have hnot : ∀ o, isEffective o row = false := by
    intro o
    unfold isEffective
    rw [hflag, Bool.and_false]
  funext o
  unfold effectiveId effectiveRow withProposal
  rw [List.find?_append]
  simp [hnot]

theorem effectiveId_withApplied (h : db.WellFormed) {p : SLAResultORM} (hp : p ∈ db.slaResults)
    (hwf : (withApplied p d log db).WellFormed) :
    effectiveId (withApplied p d log db) =
      Function.update (effectiveId db) p.outageId (some p.id) := by
  funext o
  by_cases ho : o = p.outageId
  · subst ho
    rw [Function.update_self, effectiveId_eq_some hwf]
    refine ⟨promote p.outageId p.id p, List.mem_map_of_mem hp, ?_, promote_id _ _ _⟩
    rw [isEffective_promote, if_pos rfl]
    simp
  · rw [Function.update_of_ne ho]
    apply Option.ext
    intro i
    rw [effectiveId_eq_some hwf, effectiveId_eq_some h]
    constructor
    · rintro ⟨e, he, heff, hid⟩
      obtain ⟨x, hx, rfl⟩ := List.mem_map.mp he
      rw [isEffective_promote] at heff
      -- only the promoted row has its id
      by_cases hxp : x.id = p.id
      · obtain rfl := row_unique h.sla hx hp hxp
        rw [if_pos rfl, decide_eq_true_eq] at heff
        exact absurd heff.symm ho
      · rw [if_neg hxp, Bool.and_eq_true] at heff
        exact ⟨x, hx, heff.1, by rw [← hid, promote_id]⟩
    · rintro ⟨e, he, heff, hid⟩
      refine ⟨promote p.outageId p.id e, List.mem_map_of_mem he, ?_, ?_⟩
      · have hep : ¬ e.id = p.id := by
          intro hid
          have hsame := row_unique h.sla he hp hid
          rw [hsame] at heff
          exact ho (isEffective_iff.mp heff).1.symm
        rw [isEffective_promote, if_neg hep, heff]
        simpa using ho
      · rw [promote_id, hid]

/-! ## The writers -/

inductive SlaEvent where
  | storeOutage (row : OutageRow)
  | create (payload : SLAResult) (started : Time)
  | dispute (req : DisputeRequest)

def slaStep (db : Db) : SlaEvent → Db
  | .storeOutage row => (storeOutage row db).2
  | .create payload started => (create payload started db).2
  | .dispute req => disputeStep db req

abbrev SlaRun := Runs.Run fun db e db' => slaStep db e = db'

def ledgerChange (db : Db) : SlaEvent → Option (String × Nat)
  | .create payload _ =>
    if payload.outageId ∈ db.outageIds then some (payload.outageId, db.slaResultsSeq + 1) else none
  | .dispute (.resolve slaResultId payload _) =>
    match proposalToApply slaResultId payload db with
    | some (_, p) => if NewestProposal db p then some (p.outageId, p.id) else none
    | none => none
  | _ => none

def Ledger.set (ledger : Ledger) : Option (String × Nat) → Ledger
  | some (o, i) => Function.update ledger o (some i)
  | none => ledger

theorem ledgerChange_idle {req : DisputeRequest} (h : req.Idle db) :
    ledgerChange db (.dispute req) = none := by
  cases req with
  | flag => rfl
  | propose => rfl
  | resolve slaResultId payload now =>
    unfold ledgerChange
    dsimp only
    cases hp : proposalToApply slaResultId payload db with
    | none => rfl
    | some dp => exact if_neg (h dp.1 dp.2 hp)

/-- **The flag refines the ledger.** One step of a writer is one update of the ledger. -/
theorem effectiveId_slaStep (h : db.WellFormed) (e : SlaEvent) :
    effectiveId (slaStep db e) = (effectiveId db).set (ledgerChange db e) ∧
      (slaStep db e).WellFormed := by
  cases e with
  | storeOutage row =>
    obtain ⟨outages, heq, -, hwf⟩ := storeOutage_eq h row
    simp only [slaStep]
    rw [heq]
    exact ⟨effectiveId_congr rfl, hwf⟩
  | create payload started =>
    simp only [slaStep, ledgerChange]
    by_cases hout : payload.outageId ∈ db.outageIds
    · rw [create_eq h hout, if_pos hout]
      exact ⟨effectiveId_created h started hout, created_wellFormed h started hout⟩
    · -- a refused INSERT moves the sequence and nothing in the ledger
      obtain ⟨name, hname⟩ := create_unknown_outage h started hout
      rw [hname, if_neg hout]
      exact ⟨effectiveId_congr rfl, wellFormed_seq h⟩
  | dispute req =>
    obtain ⟨heffect, hwf⟩ := disputeStep_effect h req
    refine ⟨?_, hwf⟩
    simp only [slaStep]
    generalize disputeStep db req = db' at heffect hwf
    cases heffect with
    | refused hidle =>
      rw [ledgerChange_idle hidle]
      rfl
    | flagged log hnone => exact effectiveId_congr rfl
    | proposed log hprop => exact effectiveId_withProposal rfl
    | closed log hpend hstatus hnone =>
      simp only [ledgerChange, hnone]
      exact effectiveId_congr rfl
    | applied log hprop hnewest =>
      simp only [ledgerChange, hprop, if_pos hnewest]
      exact effectiveId_withApplied h (proposalToApply_eq_some hprop).2.2.2.2 hwf

theorem Ledger.isSome_set {ledger : Ledger} {o : String} (h : (ledger o).isSome)
    (change : Option (String × Nat)) : (ledger.set change o).isSome := by
  rcases change with _ | ⟨o', i⟩
  · exact h
  · show (Function.update ledger o' (some i) o).isSome
    by_cases ho : o = o'
    · subst ho
      rw [Function.update_self]
      rfl
    · rw [Function.update_of_ne ho]
      exact h

/-! ## The invariant -/

/-- What every writer keeps. -/
structure SlaInvariant (db : Db) : Prop where
  wellFormed : db.WellFormed
  effective : ∀ r ∈ db.slaResults, (effectiveId db r.outageId).isSome
  pendingOnce : ∀ d ∈ db.slaDisputes, ∀ d' ∈ db.slaDisputes, d.status = .pending →
    d'.status = .pending → d.slaResultId = d'.slaResultId → d = d'
  proposedOnce : ∀ d ∈ db.slaDisputes, ∀ d' ∈ db.slaDisputes, ∀ i,
    d.proposedSlaResultId = some i → d'.proposedSlaResultId = some i → d = d'
  proposedIdle : ∀ d ∈ db.slaDisputes, d.status = .pending → ∀ r ∈ db.slaResults,
    d.proposedSlaResultId = some r.id → r.isLatest = false

theorem SlaInvariant.empty : SlaInvariant {} where
  wellFormed :=
    { sla := ⟨by simp, by simp, by simp, by simp⟩
      disputes := ⟨by simp, by simp, by simp, by simp, by simp⟩
      payments := ⟨by simp, by simp, by simp, by simp, by simp, by simp, by simp⟩
      seq := by simp }
  effective := by simp
  pendingOnce := by simp
  proposedOnce := by simp
  proposedIdle := by simp

theorem SlaInvariant.congr {db' : Db} (h : SlaInvariant db) (hwf : db'.WellFormed)
    (hrows : db'.slaResults = db.slaResults) (hdisputes : db'.slaDisputes = db.slaDisputes) :
    SlaInvariant db' where
  wellFormed := hwf
  effective := by
    rw [hrows, effectiveId_congr hrows]
    exact h.effective
  pendingOnce := by
    rw [hdisputes]
    exact h.pendingOnce
  proposedOnce := by
    rw [hdisputes]
    exact h.proposedOnce
  proposedIdle := by
    rw [hrows, hdisputes]
    exact h.proposedIdle

theorem next_id_not_proposed (h : db.WellFormed) (hd : d ∈ db.slaDisputes) :
    d.proposedSlaResultId ≠ some (db.slaResultsSeq + 1) := by
  intro hprop
  obtain ⟨r, hr, hid⟩ := List.mem_map.mp (h.disputes.proposedFkey d hd _ hprop)
  have hle := (h.seq r hr).2
  rw [hid] at hle
  omega

theorem SlaInvariant.created (h : SlaInvariant db) {payload : SLAResult} (started : Time)
    (hout : payload.outageId ∈ db.outageIds) :
    SlaInvariant (created payload started db) where
  wellFormed := created_wellFormed h.wellFormed started hout
  effective r hr := by
    rw [effectiveId_created h.wellFormed started hout]
    rcases List.mem_append.mp hr with hr | hr
    · obtain ⟨x, hx, rfl⟩ := List.mem_map.mp hr
      rw [demote_outageId]
      exact Ledger.isSome_set (h.effective x hx) (some (_, _))
    · rw [List.mem_singleton.mp hr]
      simp [newRow]
  pendingOnce := h.pendingOnce
  proposedOnce := h.proposedOnce
  proposedIdle d hd hpending r hr hprop := by
    rcases List.mem_append.mp hr with hr | hr
    · obtain ⟨x, hx, rfl⟩ := List.mem_map.mp hr
      rw [demote_id] at hprop
      -- a demotion only takes flags away
      have hflag := h.proposedIdle d hd hpending x hx hprop
      unfold demote
      split
      · rfl
      · exact hflag
    · rw [List.mem_singleton.mp hr] at hprop
      exact absurd hprop (next_id_not_proposed h.wellFormed hd)

/-- Rewriting a stored dispute keeps the disputes unambiguous: the new value is closed or stays
pending for its result, and its proposed row is its own. -/
theorem disputes_replaced (h : SlaInvariant db) (d' : SLADispute) (hd : d ∈ db.slaDisputes)
    (hid : d'.id = d.id) (hsla : d'.slaResultId = d.slaResultId)
    (hpending : d'.status = .pending → d.status = .pending)
    (hprop : ∀ x ∈ db.slaDisputes, x.id ≠ d'.id → ∀ i, d'.proposedSlaResultId = some i →
      x.proposedSlaResultId ≠ some i)
    :
    (∀ x ∈ db.slaDisputes.map (replaceDispute d'), ∀ y ∈ db.slaDisputes.map (replaceDispute d'),
      x.status = .pending → y.status = .pending → x.slaResultId = y.slaResultId → x = y) ∧
    ∀ x ∈ db.slaDisputes.map (replaceDispute d'), ∀ y ∈ db.slaDisputes.map (replaceDispute d'),
      ∀ i, x.proposedSlaResultId = some i → y.proposedSlaResultId = some i → x = y := by
  -- a stored pending dispute of `d`'s result other than `d` would break `pendingOnce`
  have hclash : ∀ x ∈ db.slaDisputes, x.id ≠ d'.id → d'.status = .pending →
      x.status = .pending → x.slaResultId ≠ d'.slaResultId := by
    intro x hx hne hd' hxs hxr
    have hxd := h.pendingOnce x hx d hd hxs (hpending hd') (by rw [hxr, hsla])
    exact hne (by rw [hxd, hid])
  constructor
  · intro x hx y hy hxs hys hxy
    rcases mem_replaceDispute hx with hxd | ⟨hxmem, hxid⟩
    · rcases mem_replaceDispute hy with hyd | ⟨hymem, hyid⟩
      · rw [hxd, hyd]
      · rw [hxd] at hxs hxy
        exact absurd hxy.symm (hclash y hymem hyid hxs hys)
    · rcases mem_replaceDispute hy with hyd | ⟨hymem, hyid⟩
      · rw [hyd] at hys hxy
        exact absurd hxy (hclash x hxmem hxid hys hxs)
      · exact h.pendingOnce x hxmem y hymem hxs hys hxy
  · intro x hx y hy i hxi hyi
    rcases mem_replaceDispute hx with hxd | ⟨hxmem, hxid⟩
    · rcases mem_replaceDispute hy with hyd | ⟨hymem, hyid⟩
      · rw [hxd, hyd]
      · rw [hxd] at hxi
        exact absurd hyi (hprop y hymem hyid i hxi)
    · rcases mem_replaceDispute hy with hyd | ⟨hymem, hyid⟩
      · rw [hyd] at hyi
        exact absurd hxi (hprop x hxmem hxid i hyi)
      · exact h.proposedOnce x hxmem y hymem i hxi hyi

theorem closed_proposal_own (h : SlaInvariant db) (hd : d ∈ db.slaDisputes)
    (payload : DisputeResolveRequest) (now : Time) :
    ∀ x ∈ db.slaDisputes, x.id ≠ (closeDispute d payload now).id →
      ∀ i, (closeDispute d payload now).proposedSlaResultId = some i →
        x.proposedSlaResultId ≠ some i := by
  intro x hx hne i hi hxi
  have hxd : x = d := h.proposedOnce x hx d hd i hxi hi
  exact hne (by rw [hxd]; rfl)

theorem SlaInvariant.flagged (h : SlaInvariant db) {disputeId : String} {slaResultId : Nat}
    {payload : DisputeFlagRequest} {now : Time} (hnone : pendingDispute db slaResultId = none)
    (hwf : (withDispute (flaggedDispute disputeId slaResultId payload now) log db).WellFormed) :
    SlaInvariant (withDispute (flaggedDispute disputeId slaResultId payload now) log db) where
  wellFormed := hwf
  effective := h.effective
  pendingOnce x hx y hy hxs hys hxy := by
    -- `flag_dispute` has looked for a pending dispute of the result
    have hfree : ∀ x ∈ db.slaDisputes, x.status = .pending → x.slaResultId ≠ slaResultId := by
      intro x hx hxs hxr
      have hnot := List.find?_eq_none.mp hnone x hx
      simp [hxs, hxr] at hnot
    rcases List.mem_append.mp hx with hx | hx
    · rcases List.mem_append.mp hy with hy | hy
      · exact h.pendingOnce x hx y hy hxs hys hxy
      · rw [List.mem_singleton.mp hy] at hxy
        exact absurd hxy (hfree x hx hxs)
    · rcases List.mem_append.mp hy with hy | hy
      · rw [List.mem_singleton.mp hx] at hxy
        exact absurd hxy.symm (hfree y hy hys)
      · rw [List.mem_singleton.mp hx, List.mem_singleton.mp hy]
  proposedOnce x hx y hy i hxi hyi := by
    rcases List.mem_append.mp hx with hx | hx
    · rcases List.mem_append.mp hy with hy | hy
      · exact h.proposedOnce x hx y hy i hxi hyi
      · rw [List.mem_singleton.mp hy] at hyi
        cases hyi
    · rw [List.mem_singleton.mp hx] at hxi
      cases hxi
  proposedIdle x hx hxs r hr hxr := by
    rcases List.mem_append.mp hx with hx | hx
    · exact h.proposedIdle x hx hxs r hr hxr
    · rw [List.mem_singleton.mp hx] at hxr
      cases hxr

theorem SlaInvariant.proposed (h : SlaInvariant db) {config : SLAConfig} {slaResultId : Nat}
    {payload : CreateProposedSLARequest} {started : Time} {b : SLAResultORM} {newSla : SLAResult}
    (hprop : proposalOf config slaResultId payload db = some (d, b, newSla))
    (hwf : (withProposal (newRow newSla (db.slaResultsSeq + 1) false started)
      (proposedDispute d (db.slaResultsSeq + 1)) log db).WellFormed)
    :
    SlaInvariant (withProposal (newRow newSla (db.slaResultsSeq + 1) false started)
      (proposedDispute d (db.slaResultsSeq + 1)) log db) := by
  obtain ⟨hpend, hb, hcalc⟩ := proposalOf_eq_some hprop
  obtain ⟨hd, -, hdpending⟩ := pendingDispute_mem hpend
  have hown : ∀ x ∈ db.slaDisputes, x.id ≠ (proposedDispute d (db.slaResultsSeq + 1)).id →
      ∀ i, (proposedDispute d (db.slaResultsSeq + 1)).proposedSlaResultId = some i →
        x.proposedSlaResultId ≠ some i := by
    intro x hx _ i hi
    rw [← Option.some.inj hi]
    exact next_id_not_proposed h.wellFormed hx
  obtain ⟨honce, hpropOnce⟩ :=
    disputes_replaced h (proposedDispute d (db.slaResultsSeq + 1)) hd rfl rfl
      (fun _ => hdpending) hown
  refine ⟨hwf, ?_, honce, hpropOnce, ?_⟩
  · intro r hr
    rw [effectiveId_withProposal rfl]
    rcases List.mem_append.mp hr with hr | hr
    · exact h.effective r hr
    · rw [List.mem_singleton.mp hr]
      show (effectiveId db newSla.outageId).isSome
      rw [hcalc.outageId_eq]
      exact h.effective b hb
  · intro x hx hxs r hr hxr
    rcases List.mem_append.mp hr with hr | hr
    · rcases mem_replaceDispute hx with rfl | ⟨hx, -⟩
      · -- the dispute points at the new row, whose id is above the stored ones
        have hle := (h.wellFormed.seq r hr).2
        have hnext : db.slaResultsSeq + 1 = r.id := Option.some.inj hxr
        omega
      · exact h.proposedIdle x hx hxs r hr hxr
    · rw [List.mem_singleton.mp hr]
      rfl

theorem SlaInvariant.applied (h : SlaInvariant db) {slaResultId : Nat}
    {payload : DisputeResolveRequest} {now : Time} {p : SLAResultORM}
    (hprop : proposalToApply slaResultId payload db = some (d, p))
    (hwf : (withApplied p (closeDispute d payload now) log db).WellFormed) :
    SlaInvariant (withApplied p (closeDispute d payload now) log db) := by
  obtain ⟨hstatus, -, hpend, hdprop, hp⟩ := proposalToApply_eq_some hprop
  obtain ⟨hd, -, hdpending⟩ := pendingDispute_mem hpend
  have hown := closed_proposal_own h hd payload now
  obtain ⟨honce, hpropOnce⟩ := disputes_replaced h (closeDispute d payload now) hd rfl rfl
    (fun _ => hdpending) hown
  refine ⟨hwf, ?_, honce, hpropOnce, ?_⟩
  · intro r hr
    obtain ⟨x, hx, rfl⟩ := List.mem_map.mp hr
    rw [effectiveId_withApplied h.wellFormed hp hwf, promote_outageId]
    exact Ledger.isSome_set (h.effective x hx) (some (_, _))
  · intro x hx hxs r hr hxr
    rcases mem_replaceDispute hx with rfl | ⟨hx, hxid⟩
    · rw [show (closeDispute d payload now).status = payload.status from rfl, hstatus] at hxs
      cases hxs
    · obtain ⟨y, hy, rfl⟩ := List.mem_map.mp hr
      rw [promote_id] at hxr
      have hflag := h.proposedIdle x hx hxs y hy hxr
      -- another pending dispute does not share the proposal
      have hne : ¬ y.id = p.id := by
        intro hyp
        rw [hyp] at hxr
        exact hown x hx hxid p.id hdprop hxr
      unfold promote demote
      rw [if_neg hne]
      split
      · rfl
      · exact hflag

theorem SlaInvariant.disputed {db' : Db} (h : SlaInvariant db) {req : DisputeRequest}
    (heffect : DisputeEffect db req db') (hwf : db'.WellFormed) : SlaInvariant db' := by
  cases heffect with
  | refused => exact h
  | flagged log hnone => exact h.flagged hnone hwf
  | proposed log hprop => exact h.proposed hprop hwf
  | applied log hprop hnewest => exact h.applied hprop hwf
  | @closed slaResultId payload now d log hpend hstatus hnone =>
    obtain ⟨hd, -, hdpending⟩ := pendingDispute_mem hpend
    obtain ⟨honce, hpropOnce⟩ := disputes_replaced h (closeDispute d payload now) hd rfl rfl
      (fun _ => hdpending) (closed_proposal_own h hd payload now)
    refine ⟨hwf, h.effective, honce, hpropOnce, ?_⟩
    intro x hx hxs r hr hxr
    rcases mem_replaceDispute hx with rfl | ⟨hx, -⟩
    · exact absurd hxs hstatus
    · exact h.proposedIdle x hx hxs r hr hxr

/-- **One step of a writer keeps the invariant.** -/
theorem SlaInvariant.step (h : SlaInvariant db) (e : SlaEvent) : SlaInvariant (slaStep db e) := by
  cases e with
  | storeOutage row =>
    obtain ⟨outages, heq, -, hwf⟩ := storeOutage_eq h.wellFormed row
    simp only [slaStep]
    rw [heq]
    exact h.congr hwf rfl rfl
  | create payload started =>
    simp only [slaStep]
    by_cases hout : payload.outageId ∈ db.outageIds
    · rw [create_eq h.wellFormed hout]
      exact h.created started hout
    · obtain ⟨name, hname⟩ := create_unknown_outage h.wellFormed started hout
      rw [hname]
      exact h.congr (wellFormed_seq h.wellFormed) rfl rfl
  | dispute req =>
    obtain ⟨heffect, hwf⟩ := disputeStep_effect h.wellFormed req
    exact h.disputed heffect hwf

/-- **The invariant holds in every reachable state.** -/
theorem SlaRun.invariant {steps : List (Db × SlaEvent)} {t : Db} (hrun : SlaRun {} steps t) :
    SlaInvariant t := by
  refine Runs.Run.invariant SlaInvariant.empty ?_ hrun
  intro s e u hs hstep
  rw [← hstep]
  exact hs.step e

/-! ## What a run guarantees -/

theorem effectiveId_isSome_of_run {s t : Db} {steps : List (Db × SlaEvent)} {o : String}
    (hs : s.WellFormed) (ho : (effectiveId s o).isSome) (hrun : SlaRun s steps t) :
    (effectiveId t o).isSome := by
  have hboth : t.WellFormed ∧ (effectiveId t o).isSome := by
    refine Runs.Run.invariant (I := fun db => db.WellFormed ∧ (effectiveId db o).isSome)
      ⟨hs, ho⟩ ?_ hrun
    rintro db e db' ⟨hwf, hsome⟩ rfl
    obtain ⟨hledger, hwf'⟩ := effectiveId_slaStep hwf e
    refine ⟨hwf', ?_⟩
    rw [hledger]
    exact Ledger.isSome_set hsome _
  exact hboth.2

def effectiveRows (db : Db) (outageId : String) : List SLAResultORM :=
  db.slaResults.filter (isEffective outageId)

theorem effectiveRows_length_le_one (h : db.WellFormed) (o : String) :
    (effectiveRows db o).length ≤ 1 := by
  have hrows : effectiveRows db o
      = db.slaResults.filter fun r => decide (r.latestKey = some o) := by
    unfold effectiveRows
    congr 1
    funext r
    rw [Bool.eq_iff_iff, decide_eq_true_eq, latestKey_eq_some]
  rw [hrows]
  exact filter_key_length_le_one h.sla.latest o

theorem effectiveRows_length_eq_one (h : db.WellFormed) {o : String}
    (ho : (effectiveId db o).isSome) : (effectiveRows db o).length = 1 := by
  obtain ⟨i, hi⟩ := Option.isSome_iff_exists.mp ho
  obtain ⟨e, he, heff, -⟩ := (effectiveId_eq_some h).mp hi
  have hpos : 0 < (effectiveRows db o).length :=
    List.length_pos_of_mem (List.mem_filter.mpr ⟨he, heff⟩)
  have hle := effectiveRows_length_le_one h o
  omega

def ProposalsApplicable (db : Db) : Prop :=
  ∀ slaResultId payload now d p, proposalToApply slaResultId payload db = some (d, p) →
    (resolveDispute slaResultId payload now db).1 = .ok (closeDispute d payload now)

/-- No pending dispute proposes a row older than its outage's effective one. -/
def ProposalsNewest (db : Db) : Prop :=
  ∀ d ∈ db.slaDisputes, d.status = .pending → ∀ p ∈ db.slaResults,
    d.proposedSlaResultId = some p.id → NewestProposal db p

instance (db : Db) : Decidable (ProposalsNewest db) := by
  unfold ProposalsNewest; infer_instance

theorem SlaInvariant.proposalToApply_of_pending (h : SlaInvariant db) {p : SLAResultORM}
    (hd : d ∈ db.slaDisputes) (hpending : d.status = .pending) (hp : p ∈ db.slaResults)
    (hprop : d.proposedSlaResultId = some p.id) {payload : DisputeResolveRequest}
    (hstatus : payload.status = .resolved) (happly : payload.applyProposed = true) :
    proposalToApply d.slaResultId payload db = some (d, p) := by
  have hpend : pendingDispute db d.slaResultId = some d := by
    cases hfind : pendingDispute db d.slaResultId with
    | none =>
      have := List.find?_eq_none.mp hfind d hd
      simp [hpending] at this
    | some d' =>
      obtain ⟨hd', hsla, hpending'⟩ := pendingDispute_mem hfind
      rw [h.pendingOnce d' hd' d hd hpending' hpending hsla]
  have hfind := findSlaResult_of_mem h.wellFormed hp
  simp [proposalToApply, hstatus, happly, hpend, hprop, hfind]

theorem SlaInvariant.applicable_iff (h : SlaInvariant db) :
    ProposalsApplicable db ↔ ProposalsNewest db := by
  constructor
  · intro happlicable d hd hpending p hp hprop
    let payload : DisputeResolveRequest := ⟨"", "confirmed.", .resolved, true, by decide⟩
    have hcand := h.proposalToApply_of_pending hd hpending hp hprop
      (show payload.status = .resolved from rfl) rfl
    rcases resolveDispute_apply h.wellFormed 0 hcand with ⟨hnewest, -⟩ | ⟨-, name, hname⟩
    · exact hnewest
    · have hok := happlicable _ payload 0 d p hcand
      rw [hname] at hok
      cases hok
  · intro hnewest slaResultId payload now d p hcand
    obtain ⟨-, -, hpend, hprop, hp⟩ := proposalToApply_eq_some hcand
    obtain ⟨hd, -, hpending⟩ := pendingDispute_mem hpend
    rcases resolveDispute_apply h.wellFormed now hcand with ⟨-, hok, -⟩ | ⟨holder, -⟩
    · rw [hok]
    · exact absurd (hnewest d hd hpending p hp hprop) holder

/-- The flag in the state a run ends in: at most one effective row per outage, exactly one once a
`create` has succeeded for it, and every pending proposal can be applied. -/
def EffectiveFlag (steps : List (Db × SlaEvent)) (t : Db) : Prop :=
  (∀ o, (effectiveRows t o).length ≤ 1) ∧
  (∀ db payload started r, (db, .create payload started) ∈ steps →
    (create payload started db).1 = .ok r → (effectiveRows t payload.outageId).length = 1) ∧
  ProposalsApplicable t

/-- **The flag over runs.** The counts hold in every reachable state. All pending proposals can be
applied exactly if none of them is older than the effective row it would replace. -/
theorem effective_flag_of_run {steps : List (Db × SlaEvent)} {t : Db}
    (hrun : SlaRun {} steps t) : EffectiveFlag steps t ↔ ProposalsNewest t := by
  have hinv := hrun.invariant
  rw [EffectiveFlag, hinv.applicable_iff]
  refine ⟨fun h => h.2.2, fun hnewest => ⟨?_, ?_, hnewest⟩⟩
  · exact effectiveRows_length_le_one hinv.wellFormed
  · intro db payload started r hmem hok
    apply effectiveRows_length_eq_one hinv.wellFormed
    obtain ⟨l₁, l₂, rfl⟩ := List.append_of_mem hmem
    obtain ⟨db', hpre, hstep, hpost⟩ := Runs.Run.split hrun
    have hwf := (SlaRun.invariant hpre).wellFormed
    -- the step itself sets the entry, and the rest of the run keeps it
    have hout : payload.outageId ∈ db.outageIds := by
      by_contra hout
      obtain ⟨name, hname⟩ := create_unknown_outage hwf started hout
      rw [hname] at hok
      cases hok
    obtain ⟨hledger, hwf'⟩ := effectiveId_slaStep hwf (.create payload started)
    rw [hstep] at hledger hwf'
    refine effectiveId_isSome_of_run hwf' ?_ hpost
    rw [hledger]
    simp [ledgerChange, hout, Ledger.set]

/-! ## A proposal overtaken by a recomputation -/

def outage1 : OutageRow := ⟨"outage-1", "high", none⟩

def lateResult : SLAResult :=
  SLACalculator.violatedResult ⟨30, 50, 750⟩ "outage-1" 45 "1.0" "config"

def flagRequest : DisputeFlagRequest := ⟨"ops", "wrong mttr", by decide⟩

def proposalRequest : CreateProposedSLARequest :=
  { createdBy := "ops", severity := "high", mttrMinutes := 20 }

def applyRequest : DisputeResolveRequest := ⟨"ops", "confirmed.", .resolved, true, by decide⟩

/-- An outage is settled, its result disputed, and a new result proposed. -/
def disputedEvents : List SlaEvent :=
  [.storeOutage outage1, .create lateResult 0, .dispute (.flag "dispute-1" 1 flagRequest 10),
    .dispute (.propose slaConfig 1 proposalRequest 0 20)]

/-- Meanwhile the SLA is recomputed. -/
def overtakenEvents : List SlaEvent := disputedEvents ++ [.create lateResult 0]

theorem effective_flag_of_disputed_run :
    EffectiveFlag (Runs.replay slaStep {} disputedEvents) (disputedEvents.foldl slaStep {}) :=
  (effective_flag_of_run (Runs.replay_run slaStep {} disputedEvents)).mpr (by decide +kernel)

/-- The overtaken proposal cannot be applied: its promotion violates the unique index. -/
theorem effective_flag_overtaken :
    SlaRun {} (Runs.replay slaStep {} overtakenEvents) (overtakenEvents.foldl slaStep {}) ∧
      ¬ EffectiveFlag (Runs.replay slaStep {} overtakenEvents)
        (overtakenEvents.foldl slaStep {}) := by
  refine ⟨Runs.replay_run slaStep {} overtakenEvents, ?_⟩
  intro h
  set t := overtakenEvents.foldl slaStep {} with ht
  have hcand : (proposalToApply 1 applyRequest t).isSome := by decide +kernel
  obtain ⟨⟨d, p⟩, hdp⟩ := Option.isSome_iff_exists.mp hcand
  have hok := h.2.2 1 applyRequest 30 d p hdp
  have hfail : (resolveDispute 1 applyRequest 30 t).1
      = .error (.integrityError "uq_sla_results_outage_latest") := by decide +kernel
  rw [hfail] at hok
  cases hok

end NocIq
