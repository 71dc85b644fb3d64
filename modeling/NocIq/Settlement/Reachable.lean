import NocIq.Lib.Text
import NocIq.Payment.StatusMachine
import NocIq.Settlement.Settle

/-!
# NocIq — the reachable states of the settlement

One system of all the operations on the settlement tables: outages are stored, results created,
disputed and settled, payments created by hand and moved through their statuses. A settlement takes
part whether it returns or raises.

The keys of a payment tell where it comes from (`KeyOrigin`), and a key made for an SLA result
carries that result's id. **`keys_free`** draws the conclusion: the keys a settlement makes for the
next result are free, up to the two that do not depend on it.
-/

namespace NocIq

open Relational SLARepository PaymentRepository

/-! ## The system -/

inductive SystemEvent where
  | sla (e : SlaEvent)
  | settle (env : SettleEnv) (outageId : String) (sla : SLAResult)
  | createPaymentForOutage (outageId : String) (now : Time)
  | service (e : ServiceEvent)

/-- One step. What is settled is the result of a calculation for the outage. -/
def SystemStep (d : Deployment) (s : Server) : SystemEvent → Server → Prop
  | .sla e, s' => { s with db := slaStep s.db e } = s'
  | .settle env outageId sla, s' =>
    sla.Calculated outageId ∧ { s with db := (settle env outageId sla s.db).2 } = s'
  | .createPaymentForOutage outageId now, s' =>
    { s with db := (createPaymentForOutage outageId now s.db).2 } = s'
  | .service e, s' => (serve d s e).2 = s'

abbrev SystemRun (d : Deployment) := Runs.Run (SystemStep d)

/-! ## Where the keys of a payment come from -/

/-- Hash and idempotency key name an SLA result the sequence has passed, or an outage. -/
inductive KeyOrigin (slaResultsSeq : Nat) (p : PaymentTransactionORM) : Prop where
  | slaResult (i : Nat) (type : String) (hle : i ≤ slaResultsSeq)
      (hhash : p.transactionHash = s!"sla-{i}-{type}")
      (hkey : p.idempotencyKey = some s!"sla_result_{i}_{type}")
  | outage (outageId : String) (hhash : p.transactionHash = s!"outage-{outageId}")
      (hkey : p.idempotencyKey = none)

theorem KeyOrigin.mono {seq seq' : Nat} {p : PaymentTransactionORM} (h : KeyOrigin seq p)
    (hle : seq ≤ seq') : KeyOrigin seq' p := by
  cases h with
  | slaResult i type hi hhash hkey => exact .slaResult i type (hi.trans hle) hhash hkey
  | outage o hhash hkey => exact .outage o hhash hkey

theorem KeyOrigin.congr {seq : Nat} {p p' : PaymentTransactionORM} (h : KeyOrigin seq p)
    (hkeys : SameKeys p p') : KeyOrigin seq p' := by
  cases h with
  | slaResult i type hi hhash hkey =>
    exact .slaResult i type hi (hkeys.hash.trans hhash) (hkeys.idempotencyKey.trans hkey)
  | outage o hhash hkey => exact .outage o (hkeys.hash.trans hhash) (hkeys.idempotencyKey.trans hkey)

/-- What holds in every reachable database. -/
structure TablesInvariant (db : Db) : Prop where
  wellFormed : db.WellFormed
  origin : ∀ p ∈ db.paymentTransactions, KeyOrigin db.slaResultsSeq p

theorem TablesInvariant.sameOrigin {db db' : Db} (h : TablesInvariant db) (hwf : db'.WellFormed)
    (hpayments : db'.paymentTransactions = db.paymentTransactions)
    (hseq : db.slaResultsSeq ≤ db'.slaResultsSeq) : TablesInvariant db' := by
  refine ⟨hwf, ?_⟩
  intro p hp
  rw [hpayments] at hp
  exact (h.origin p hp).mono hseq

theorem slaStep_payments {db : Db} (h : db.WellFormed) (e : SlaEvent) :
    (slaStep db e).paymentTransactions = db.paymentTransactions ∧
      db.slaResultsSeq ≤ (slaStep db e).slaResultsSeq := by
  cases e with
  | storeOutage row =>
    obtain ⟨outages, heq, -, -⟩ := storeOutage_eq h row
    have hstep : slaStep db (.storeOutage row) = { db with outages } := heq
    rw [hstep]
    exact ⟨rfl, Nat.le_refl _⟩
  | create payload started =>
    have hstep : slaStep db (.create payload started) = (create payload started db).2 := rfl
    by_cases hout : payload.outageId ∈ db.outageIds
    · rw [hstep, create_eq h hout]
      exact ⟨rfl, Nat.le_succ _⟩
    · -- the sequence is drawn even if the INSERT fails
      obtain ⟨name, hname⟩ := create_unknown_outage h started hout
      rw [hstep, hname]
      exact ⟨rfl, Nat.le_succ _⟩
  | dispute req =>
    have heffect := (disputeStep_effect h req).1
    have hstep : slaStep db (.dispute req) = disputeStep db req := rfl
    rw [hstep]
    generalize disputeStep db req = db' at heffect
    cases heffect with
    | refused => exact ⟨rfl, Nat.le_refl _⟩
    | flagged => exact ⟨rfl, Nat.le_refl _⟩
    | proposed => exact ⟨rfl, Nat.le_succ _⟩
    | closed => exact ⟨rfl, Nat.le_refl _⟩
    | applied => exact ⟨rfl, Nat.le_refl _⟩

theorem settled_origin (env : SettleEnv) (outageId : String) (sla : SLAResult) (db : Db) :
    KeyOrigin (db.slaResultsSeq + 1) (newRow (settledPayment env outageId sla db)) :=
  .slaResult (db.slaResultsSeq + 1) sla.paymentType.value (Nat.le_refl _) rfl rfl

theorem TablesInvariant.settle {db : Db} (h : TablesInvariant db) (env : SettleEnv)
    {outageId : String} {sla : SLAResult} (hid : sla.id = none) :
    TablesInvariant (settle env outageId sla db).2 := by
  have houtcome := settle_outcome h.wellFormed env outageId hid
  have hwf := houtcome.wellFormed h.wellFormed
  generalize NocIq.settle env outageId sla db = outcome at houtcome hwf
  cases houtcome with
  | unknownOutage => exact h.sameOrigin hwf rfl (Nat.le_succ _)
  | unpaid => exact h.sameOrigin hwf rfl (Nat.le_succ _)
  | paid =>
    refine ⟨hwf, ?_⟩
    intro p hp
    rcases List.mem_append.mp hp with hp | hp
    · exact (h.origin p hp).mono (Nat.le_succ _)
    · rw [List.mem_singleton.mp hp]
      exact settled_origin env outageId sla db

theorem TablesInvariant.createPaymentForOutage {db : Db} (h : TablesInvariant db)
    (outageId : String) (now : Time) :
    TablesInvariant (createPaymentForOutage outageId now db).2 := by
  generalize hcreate : NocIq.createPaymentForOutage outageId now db = outcome
  obtain ⟨result | payment, db'⟩ := outcome
  · -- a violated constraint rolls the insert back
    have hsame : db' = db := by
      unfold NocIq.createPaymentForOutage PaymentRepository.create Db.commit at hcreate
      split at hcreate
      · cases (Prod.mk.inj hcreate).1
      · exact (Prod.mk.inj hcreate).2.symm
    rw [show ((Except.error result, db') : Except Exc PaymentTransaction × Db).2 = db from hsame]
    exact h
  · obtain ⟨-, hdb, hsat⟩ := create_eq_ok hcreate
    obtain ⟨hsla, hdisp, hpay⟩ := (satisfies_schema_iff _).mp hsat
    have hseq : db'.slaResultsSeq = db.slaResultsSeq := by rw [hdb]; rfl
    have hrows : db'.slaResults = db.slaResults := by rw [hdb]; rfl
    refine ⟨⟨hsla, hdisp, hpay, ?_⟩, ?_⟩
    · show ∀ r ∈ db'.slaResults, 0 < r.id ∧ r.id ≤ db'.slaResultsSeq
      rw [hrows, hseq]
      exact h.wellFormed.seq
    · show ∀ p ∈ db'.paymentTransactions, KeyOrigin db'.slaResultsSeq p
      rw [hseq, hdb]
      intro p hp
      rcases List.mem_append.mp hp with hp | hp
      · exact h.origin p hp
      · rw [List.mem_singleton.mp hp]
        exact .outage outageId rfl rfl

theorem TablesInvariant.served {d : Deployment} {s : Server} (h : TablesInvariant s.db)
    (e : ServiceEvent) : TablesInvariant (serve d s e).2.db := by
  have hsat := h.wellFormed.satisfies
  obtain ⟨hsat', hrow, -, payments, logs, hdb⟩ := serve_effect (d := d) hsat e
  obtain ⟨hsla, hdisp, hpay⟩ := (satisfies_schema_iff _).mp hsat'
  have hseq : (serve d s e).2.db.slaResultsSeq = s.db.slaResultsSeq := by rw [hdb]
  have hrows : (serve d s e).2.db.slaResults = s.db.slaResults := by rw [hdb]
  refine ⟨⟨hsla, hdisp, hpay, ?_⟩, ?_⟩
  · rw [hrows, hseq]
    exact h.wellFormed.seq
  · intro p' hp'
    rw [hseq]
    -- every payment is a stored one, or what an action has made of a stored one
    have hfind := (findPayment_eq_some hsat').mpr ⟨hp', rfl⟩
    rw [hrow, Option.map_eq_some_iff] at hfind
    obtain ⟨p, hp, hafter⟩ := hfind
    have horigin := h.origin p ((findPayment_eq_some hsat).mp hp).1
    rcases rowAfter_cases (requestedAction d s e) p'.id p with hsame | ⟨a, -, haction⟩
    · rw [← hafter, hsame]
      exact horigin
    · rw [hafter] at haction
      exact horigin.congr (applyAction_keys haction)

theorem TablesInvariant.step {d : Deployment} {s s' : Server} (h : TablesInvariant s.db)
    {e : SystemEvent} (hstep : SystemStep d s e s') : TablesInvariant s'.db := by
  cases e with
  | sla e =>
    obtain ⟨hpayments, hseq⟩ := slaStep_payments h.wellFormed e
    have hwf := (effectiveId_slaStep h.wellFormed e).2
    change { s with db := slaStep s.db e } = s' at hstep
    rw [← hstep]
    exact h.sameOrigin hwf hpayments hseq
  | settle env outageId sla =>
    obtain ⟨hcalc, hsettle⟩ := hstep
    rw [← hsettle]
    exact h.settle env hcalc.id_eq
  | createPaymentForOutage outageId now =>
    change { s with db := (NocIq.createPaymentForOutage outageId now s.db).2 } = s' at hstep
    rw [← hstep]
    exact h.createPaymentForOutage outageId now
  | service e =>
    change (serve d s e).2 = s' at hstep
    rw [← hstep]
    exact h.served e

theorem TablesInvariant.empty : TablesInvariant {} := ⟨SlaInvariant.empty.wellFormed, by simp⟩

/-- **The reachable states.** -/
theorem SystemRun.invariant {d : Deployment} {steps : List (Server × SystemEvent)} {t : Server}
    (hrun : SystemRun d { db := {} } steps t) : TablesInvariant t.db :=
  Runs.Run.invariant (I := fun s : Server => TablesInvariant s.db) TablesInvariant.empty
    (fun _ _ _ hs => hs.step) hrun

/-! ## The keys of the next payment -/

theorem toList_interpolation (pre sep : String) (i : Nat) (type : String) :
    (toString pre ++ toString i ++ toString sep ++ toString type).toList
      = pre.toList ++ ((toString i).toList ++ (sep.toList ++ type.toList)) := by
  show (pre ++ toString i ++ sep ++ type).toList = _
  simp only [String.toList_append, List.append_assoc]

theorem id_of_hash {i j : Nat} {t u : String} (h : s!"sla-{i}-{t}" = s!"sla-{j}-{u}") : i = j := by
  have hlist := congrArg String.toList h
  rw [toList_interpolation, toList_interpolation] at hlist
  exact Text.number_of_composed_key '-' (by decide) hlist

theorem id_of_idempotencyKey {i j : Nat} {t u : String}
    (h : s!"sla_result_{i}_{t}" = s!"sla_result_{j}_{u}") : i = j := by
  have hlist := congrArg String.toList h
  rw [toList_interpolation, toList_interpolation] at hlist
  exact Text.number_of_composed_key '_' (by decide) hlist

theorem hash_origins_differ {o t : String} {i : Nat} : s!"outage-{o}" ≠ s!"sla-{i}-{t}" := by
  intro h
  have hhead := congrArg (fun text => text.toList.head?) h
  rw [toList_interpolation] at hhead
  have houtage : (s!"outage-{o}").toList = "outage-".toList ++ o.toList := String.toList_append
  rw [houtage] at hhead
  exact absurd hhead (by simp)

/-- **The keys of the next payment** are free, if its id and its outage and type are. -/
theorem keys_free {db : Db} (h : TablesInvariant db) (env : SettleEnv) (outageId : String)
    (sla : SLAResult)
    (hfree : ∀ p ∈ db.paymentTransactions,
      p.id ≠ (settledPayment env outageId sla db).id ∧
        ¬ (p.outageId = outageId ∧ p.type = sla.paymentType.value)) :
    KeysFree db.paymentTransactions (newRow (settledPayment env outageId sla db)) where
  id p hp := (hfree p hp).1
  hash p hp := by
    intro heq
    cases h.origin p hp with
    | slaResult i type hle hhash =>
      -- the key names the id of its row, and the next id is larger
      have hid := id_of_hash (hhash.symm.trans heq)
      omega
    | outage o hhash => exact hash_origins_differ (hhash.symm.trans heq)
  slaResult p hp i hi := by
    rw [← show some (db.slaResultsSeq + 1) = some i from hi]
    exact next_id_not_paid h.wellFormed hp
  idempotency p hp k hk := by
    intro heq
    cases h.origin p hp with
    | slaResult i type hle hhash hkey =>
      have hid := id_of_idempotencyKey (Option.some.inj (hkey.symm.trans (heq.trans hk.symm)))
      omega
    | outage o hhash hkey =>
      rw [hkey] at heq
      cases heq
  outageType p hp := (hfree p hp).2

end NocIq
