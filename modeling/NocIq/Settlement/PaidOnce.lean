import NocIq.Settlement.Settle

/-!
# NocIq — every effective result is paid once

Completed settlements and the dispute requests, over whole runs. A settlement pays the row it
flags; a dispute that applies its proposal moves the flag to a row that was never paid.

* **`settledOnce_settled`** — a settlement keeps every effective row paid exactly once.
* **`settledOnce_dispute_iff`** — a dispute request does exactly if it applies nothing.
* **`settled_once_of_run`** — and hence the runs that do.
-/

namespace NocIq

open Relational SLARepository

/-! ## The system -/

inductive SettlementEvent where
  | storeOutage (row : OutageRow)
  | settle (env : SettleEnv) (outageId : String) (sla : SLAResult)
  | dispute (req : DisputeRequest)

/-- One step: an outage is stored, a settlement of a calculated result completes, or a dispute
request is served. -/
def SettlementStep (db : Db) : SettlementEvent → Db → Prop
  | .storeOutage row, db' => (storeOutage row db).2 = db'
  | .settle env outageId sla, db' =>
    sla.Calculated outageId ∧ ∃ result, settle env outageId sla db = (.ok result, db')
  | .dispute req, db' => disputeStep db req = db'

abbrev SettlementRun := Runs.Run SettlementStep

/-! ## Paid exactly once -/

def paymentsFor (db : Db) (slaResultId : Nat) : List PaymentTransactionORM :=
  db.paymentTransactions.filter fun p => decide (p.slaResultId = some slaResultId)

/-- Each effective row has one payment, of the right amount and type. -/
def SettledOnce (db : Db) : Prop :=
  ∀ r ∈ db.slaResults, r.isLatest = true →
    ∃ p, paymentsFor db r.id = [p] ∧ p.amount = (|r.amount| : ℤ) ∧ p.type = r.paymentType.value

/-- A pending proposal is not paid. -/
def ProposedUnpaid (db : Db) : Prop :=
  ∀ d ∈ db.slaDisputes, d.status = .pending → ∀ i, d.proposedSlaResultId = some i →
    paymentsFor db i = []

structure SettlementInvariant (db : Db) : Prop where
  sla : SlaInvariant db
  proposedUnpaid : ProposedUnpaid db

variable {db : Db}

theorem paymentsFor_eq_nil {i : Nat} :
    paymentsFor db i = [] ↔ ∀ p ∈ db.paymentTransactions, p.slaResultId ≠ some i := by
  unfold paymentsFor
  rw [List.filter_eq_nil_iff]
  simp

theorem paymentsFor_settled (h : db.WellFormed) (env : SettleEnv) (outageId : String)
    (sla : SLAResult) (i : Nat) :
    paymentsFor (settled env outageId sla db) i =
      if i = db.slaResultsSeq + 1 then
        [PaymentRepository.newRow (settledPayment env outageId sla db)]
      else paymentsFor db i := by
  have hnew : (PaymentRepository.newRow (settledPayment env outageId sla db)).slaResultId
      = some (db.slaResultsSeq + 1) := rfl
  have hsplit : paymentsFor (settled env outageId sla db) i = paymentsFor db i ++
      [PaymentRepository.newRow (settledPayment env outageId sla db)].filter
        (fun p => decide (p.slaResultId = some i)) := List.filter_append _ _
  rw [hsplit]
  by_cases hi : i = db.slaResultsSeq + 1
  · -- the id is new, so nothing was paid for it
    have hold : paymentsFor db i = [] := by
      rw [paymentsFor_eq_nil, hi]
      intro p hp
      exact next_id_not_paid h hp
    rw [if_pos hi, hold, List.nil_append, List.filter_cons_of_pos (by rw [hnew, hi]; simp)]
    rfl
  · have hne : ¬ some (db.slaResultsSeq + 1) = some i := by
      intro heq
      exact hi (Option.some.inj heq).symm
    rw [if_neg hi, List.filter_cons_of_neg (by rw [hnew]; simpa using hne), List.filter_nil,
      List.append_nil]

/-! ## Settlements -/

theorem SettlementInvariant.settled (h : SettlementInvariant db) {env : SettleEnv}
    {outageId : String} {sla : SLAResult} (hout : sla.outageId ∈ db.outageIds)
    (hwf : (settled env outageId sla db).WellFormed) :
    SettlementInvariant (settled env outageId sla db) where
  sla := (h.sla.created env.started hout).congr hwf rfl rfl
  proposedUnpaid := by
    intro d hd hpending i hprop
    have hne : i ≠ db.slaResultsSeq + 1 := by
      intro hi
      rw [hi] at hprop
      exact next_id_not_proposed h.sla.wellFormed hd hprop
    rw [paymentsFor_settled h.sla.wellFormed, if_neg hne]
    exact h.proposedUnpaid d hd hpending i hprop

/-- **A settlement pays the row it flags**, and changes no other payment. -/
theorem settledOnce_settled (h : SettlementInvariant db) (honce : SettledOnce db) (env : SettleEnv)
    (outageId : String) (sla : SLAResult) : SettledOnce (settled env outageId sla db) := by
  intro r hr hflag
  rw [paymentsFor_settled h.sla.wellFormed]
  rcases List.mem_append.mp hr with hr | hr
  · obtain ⟨x, hx, rfl⟩ := List.mem_map.mp hr
    have hle := (h.sla.wellFormed.seq x hx).2
    have hne : ¬ (demote sla.outageId x).id = db.slaResultsSeq + 1 := by
      rw [demote_id]
      omega
    -- a row that is still flagged was not demoted
    have hxflag : x.isLatest = true := by
      unfold demote at hflag
      split at hflag
      · cases hflag
      · exact hflag
    obtain ⟨p, hp, hamount, htype⟩ := honce x hx hxflag
    rw [if_neg hne, demote_id]
    refine ⟨p, hp, ?_, ?_⟩
    · rw [hamount]
      unfold demote
      split <;> rfl
    · rw [htype]
      unfold demote
      split <;> rfl
  · rw [List.mem_singleton.mp hr]
    have hid : (newRow sla (db.slaResultsSeq + 1) true env.started).id = db.slaResultsSeq + 1 := rfl
    rw [if_pos hid]
    exact ⟨_, rfl, rfl, rfl⟩

/-! ## Dispute requests -/

theorem SettledOnce.congr {db' : Db} (honce : SettledOnce db)
    (hpayments : db'.paymentTransactions = db.paymentTransactions)
    (hrows : ∀ r ∈ db'.slaResults, r.isLatest = true → r ∈ db.slaResults) : SettledOnce db' := by
  intro r hr hflag
  obtain ⟨p, hp, hamount, htype⟩ := honce r (hrows r hr hflag) hflag
  refine ⟨p, ?_, hamount, htype⟩
  unfold paymentsFor at hp ⊢
  rw [hpayments]
  exact hp

theorem SettlementInvariant.dispute (h : SettlementInvariant db) (req : DisputeRequest) :
    SettlementInvariant (disputeStep db req) := by
  obtain ⟨heffect, hwf⟩ := disputeStep_effect h.sla.wellFormed req
  refine ⟨h.sla.disputed heffect hwf, ?_⟩
  generalize disputeStep db req = db' at heffect hwf
  cases heffect with
  | refused => exact h.proposedUnpaid
  | flagged log hnone =>
    intro x hx hpending i hprop
    rcases List.mem_append.mp hx with hx | hx
    · exact h.proposedUnpaid x hx hpending i hprop
    · rw [List.mem_singleton.mp hx] at hprop
      cases hprop
  | proposed log hprop =>
    intro x hx hpending i hi
    rcases mem_replaceDispute hx with rfl | ⟨hx, -⟩
    · -- the proposed row is new
      rw [← Option.some.inj hi]
      exact paymentsFor_eq_nil.mpr fun p hp => next_id_not_paid h.sla.wellFormed hp
    · exact h.proposedUnpaid x hx hpending i hi
  | closed log hpend hstatus hnone =>
    intro x hx hpending i hi
    rcases mem_replaceDispute hx with rfl | ⟨hx, -⟩
    · exact absurd hpending hstatus
    · exact h.proposedUnpaid x hx hpending i hi
  | applied log hprop hnewest =>
    intro x hx hpending i hi
    rcases mem_replaceDispute hx with rfl | ⟨hx, -⟩
    · have hresolved := (proposalToApply_eq_some hprop).1
      change _ = DisputeStatus.pending at hpending
      simp [closeDispute, hresolved] at hpending
    · exact h.proposedUnpaid x hx hpending i hi

def AppliesProposal (db : Db) : DisputeRequest → Prop
  | .resolve slaResultId payload _ =>
    ∃ d p, proposalToApply slaResultId payload db = some (d, p) ∧ NewestProposal db p
  | _ => False

/-- **A dispute request** keeps every effective row paid once, exactly if it applies nothing: an
applied proposal was never paid, and no payment is created for it. -/
theorem settledOnce_dispute_iff (h : SettlementInvariant db) (honce : SettledOnce db)
    (req : DisputeRequest) : SettledOnce (disputeStep db req) ↔ ¬ AppliesProposal db req := by
  obtain ⟨heffect, -⟩ := disputeStep_effect h.sla.wellFormed req
  generalize disputeStep db req = db' at heffect
  cases heffect with
  | refused hidle =>
    refine iff_of_true honce ?_
    intro happlies
    cases req with
    | flag => exact happlies
    | propose => exact happlies
    | resolve slaResultId payload now =>
      obtain ⟨d, p, hprop, hnewest⟩ := happlies
      exact hidle d p hprop hnewest
  | flagged log hnone => exact iff_of_true (honce.congr rfl fun r hr _ => hr) id
  | proposed log hprop =>
    refine iff_of_true (honce.congr rfl ?_) id
    intro r hr hflag
    rcases List.mem_append.mp hr with hr | hr
    · exact hr
    · rw [List.mem_singleton.mp hr] at hflag
      cases hflag
  | closed log hpend hstatus hnone =>
    refine iff_of_true (honce.congr rfl fun r hr _ => hr) ?_
    intro happlies
    obtain ⟨d, p, hprop, -⟩ := happlies
    rw [hnone] at hprop
    cases hprop
  | @applied slaResultId payload now d p log hprop hnewest =>
    -- the promoted row would need a payment, and proposals have none
    refine iff_of_false ?_ (not_not.mpr ⟨d, p, hprop, hnewest⟩)
    obtain ⟨-, -, hpend, hdprop, hp⟩ := proposalToApply_eq_some hprop
    obtain ⟨hd, -, hpending⟩ := pendingDispute_mem hpend
    have hunpaid := h.proposedUnpaid d hd hpending p.id hdprop
    intro hafter
    have hflag : (promote p.outageId p.id p).isLatest = true := by simp [promote]
    obtain ⟨q, hq, -⟩ := hafter _ (List.mem_map_of_mem hp) hflag
    rw [promote_id] at hq
    have hsame : paymentsFor db p.id = [q] := hq
    rw [hunpaid] at hsame
    cases hsame

/-! ## Over runs -/

/-- The steps that keep every effective row paid once. -/
def AppliesNothing (db : Db) : SettlementEvent → Prop
  | .dispute req => ¬ AppliesProposal db req
  | _ => True

theorem SettlementInvariant.step {db' : Db} (h : SettlementInvariant db) {e : SettlementEvent}
    (hstep : SettlementStep db e db') : SettlementInvariant db' := by
  cases e with
  | storeOutage row =>
    obtain ⟨outages, heq, -, hwf⟩ := storeOutage_eq h.sla.wellFormed row
    change (storeOutage row db).2 = db' at hstep
    rw [← hstep, heq]
    exact ⟨h.sla.congr hwf rfl rfl, h.proposedUnpaid⟩
  | settle env outageId sla =>
    obtain ⟨hcalc, result, hok⟩ := hstep
    obtain ⟨hout, rfl, hwf⟩ := settle_eq_ok h.sla.wellFormed hcalc.id_eq hok
    exact h.settled hout hwf
  | dispute req =>
    change disputeStep db req = db' at hstep
    rw [← hstep]
    exact h.dispute req

/-- **Paid once, over runs.** Every state of a run from the empty database has its effective rows
paid exactly once, exactly if no step of the run applies a proposal. -/
theorem settled_once_of_run {steps : List (Db × SettlementEvent)} {t : Db}
    (hrun : SettlementRun {} steps t) :
    ((∀ x ∈ steps, SettledOnce x.1) ∧ SettledOnce t) ↔ ∀ x ∈ steps, AppliesNothing x.1 x.2 := by
  have hempty : SettlementInvariant {} := ⟨SlaInvariant.empty, by simp [ProposedUnpaid]⟩
  refine Runs.Run.forall_iff hempty (by simp [SettledOnce]) (fun s e u hs => hs.step) ?_ hrun
  intro s e u hs honce hstep
  cases e with
  | storeOutage row =>
    obtain ⟨outages, heq, -, -⟩ := storeOutage_eq hs.sla.wellFormed row
    change (storeOutage row s).2 = u at hstep
    rw [← hstep, heq]
    exact iff_of_true honce trivial
  | settle env outageId sla =>
    obtain ⟨hcalc, result, hok⟩ := hstep
    obtain ⟨-, rfl, -⟩ := settle_eq_ok hs.sla.wellFormed hcalc.id_eq hok
    exact iff_of_true (settledOnce_settled hs honce env outageId sla) trivial
  | dispute req =>
    change disputeStep s req = u at hstep
    rw [← hstep]
    exact settledOnce_dispute_iff hs honce req

/-! ## An applied proposal is not paid -/

def settleEnv1 : SettleEnv := { uuidHex := "a1b2c3d4e5f6", started := 0, now := 5 }

theorem lateResult_calculated : lateResult.Calculated "outage-1" :=
  ⟨slaConfig, "high", 45, "1.0", "config", by decide +kernel⟩

def settledOutage1 : Db := (settle settleEnv1 "outage-1" lateResult (storeOutage outage1 {}).2).2

def settlementSteps : List (Db × SettlementEvent) :=
  [({}, .storeOutage outage1),
    ((storeOutage outage1 {}).2, .settle settleEnv1 "outage-1" lateResult)]

theorem settlementSteps_run : SettlementRun {} settlementSteps settledOutage1 := by
  have hstored : SettlementRun {} [({}, .storeOutage outage1)] (storeOutage outage1 {}).2 :=
    .snoc .nil rfl
  refine hstored.snoc ⟨lateResult_calculated, ?_⟩
  have hok : (settle settleEnv1 "outage-1" lateResult (storeOutage outage1 {}).2).1.toOption.isSome
      = true := by decide +kernel
  unfold settledOutage1
  generalize settle settleEnv1 "outage-1" lateResult (storeOutage outage1 {}).2 = outcome at hok ⊢
  obtain ⟨result | result, db⟩ := outcome
  · cases hok
  · exact ⟨result, rfl⟩

/-- A settlement and a dispute that is only flagged. -/
theorem settled_once_of_flagged_run :
    let flag := DisputeRequest.flag "dispute-1" 1 flagRequest 10
    (∀ x ∈ settlementSteps ++ [(settledOutage1, .dispute flag)], SettledOnce x.1) ∧
      SettledOnce (disputeStep settledOutage1 flag) := by
  intro flag
  have hrun : SettlementRun {} (settlementSteps ++ [(settledOutage1, .dispute flag)])
      (disputeStep settledOutage1 flag) := settlementSteps_run.snoc rfl
  refine (settled_once_of_run hrun).mpr ?_
  simp [settlementSteps, AppliesNothing, AppliesProposal, flag]

/-- A run goes on with any list of dispute requests. Induction on the list. -/
theorem SettlementRun.disputes {s t : Db} {steps : List (Db × SettlementEvent)}
    (hrun : SettlementRun s steps t) (reqs : List DisputeRequest) :
    ∃ steps', SettlementRun s steps' (reqs.foldl disputeStep t) := by
  induction reqs generalizing steps t with
  | nil => exact ⟨steps, hrun⟩
  | cons req reqs ih =>
    have hnext : SettlementRun s (steps ++ [(t, .dispute req)]) (disputeStep t req) :=
      hrun.snoc rfl
    exact ih hnext

/-- The settled result is disputed, and a proposal takes its place. -/
def appliedRequests : List DisputeRequest :=
  [.flag "dispute-1" 1 flagRequest 10, .propose slaConfig 1 proposalRequest 0 20,
    .resolve 1 applyRequest 30]

/-- The effective row, the second one, has no payment. -/
theorem settled_once_fails_applied :
    (∃ steps, SettlementRun {} steps (appliedRequests.foldl disputeStep settledOutage1)) ∧
      ¬ SettledOnce (appliedRequests.foldl disputeStep settledOutage1) := by
  refine ⟨SettlementRun.disputes settlementSteps_run appliedRequests, ?_⟩
  intro honce
  have hunpaid : ∃ r ∈ (appliedRequests.foldl disputeStep settledOutage1).slaResults,
      r.isLatest = true ∧
        paymentsFor (appliedRequests.foldl disputeStep settledOutage1) r.id = [] := by
    decide +kernel
  obtain ⟨r, hr, hflag, hnone⟩ := hunpaid
  obtain ⟨p, hp, -⟩ := honce r hr hflag
  rw [hnone] at hp
  cases hp

end NocIq
