import Mathlib.Algebra.Field.Rat
import NocIq.Lib.Runs
import NocIq.Payment.Endpoints

/-!
# NocIq — the payment status machine over runs

Every event of the service asks at most one action of at most one payment (`requestedAction`).
`serve_effect` says that this is all an event does to the payments; the results about runs split
the action of a step and never unfold an endpoint.

* **`PaymentInvariant`** — what holds of a payment `create_for_sla_result` made, in every state.
* **`status_machine_of_run`** — the law of the status machine, over every run.
* **`retry_count_of_run`** — the retry counter counts all failed-to-pending changes exactly if no
  step other than a retry makes one.
-/

namespace NocIq

open Relational PaymentRepository

/-! ## What an event asks of the payments -/

/-- The signature and the nonce of the callback are accepted. -/
def callbackPasses (d : Deployment) (s : Server) (req : CallbackRequest) (worker : Nat)
    (pause : ℚ≥0) : Bool :=
  (rejectedSignature d req).isNone && !(checkNonce worker pause (effectiveNonce req) s).1

/-- The payment an event is about, and the action it asks for. -/
def requestedAction (d : Deployment) (s : Server) : ServiceEvent → Option (String × RowAction)
  | .updateStatus i status now => some (i, .setStatus status now)
  | .reconcile i status now => some (i, .setStatus status now)
  | .retry i now => some (i, .retry now)
  | .replayDeadLetter i now => some (i, .replay now)
  | .providerCallback req worker pause now =>
    if callbackPasses d s req worker pause then
      some (req.payload.transactionId, .setStatus req.payload.status now)
    else none
  | .retryPayment i now => some (i, .retry now)
  | .reconcilePayment i status now => some (i, .setStatus status now)
  | .wait .. => none
  | .restart .. => none

/-- What becomes of the payment `j`. -/
def rowAfter (requested : Option (String × RowAction)) (j : String) (p : PaymentTransactionORM) :
    PaymentTransactionORM :=
  match requested with
  | some (i, a) => if j = i then (applyAction p a).getD p else p
  | none => p

/-- An operation that raises or returns `None`. -/
def Refused (result : Except Exc (Option PaymentTransaction)) : Prop :=
  result = .ok none ∨ ∃ e, result = .error e

/-- What an event that asks for `requested` does to the payments. It writes no other table but
the audit log. -/
structure Serves (s : Server) (requested : Option (String × RowAction))
    (outcome : Except Exc (Option PaymentTransaction) × Server) : Prop where
  satisfies : Satisfies schema outcome.2.db
  row : ∀ j, findPayment outcome.2.db j = (findPayment s.db j).map (rowAfter requested j)
  refused : Refused outcome.1 → ∀ j, findPayment outcome.2.db j = findPayment s.db j
  tables : ∃ payments logs,
    outcome.2.db = { s.db with paymentTransactions := payments, auditLogs := logs }

theorem satisfies_auditLogs {db : Db} (h : Satisfies schema db) (logs : List AuditLogORM) :
    Satisfies schema { db with auditLogs := logs } :=
  (satisfies_schema_iff _).mpr ((satisfies_schema_iff db).mp h)

variable {s : Server}

theorem Serves.unchanged {s' : Server} {requested : Option (String × RowAction)}
    {result : Except Exc (Option PaymentTransaction)} (h : Satisfies schema s.db)
    (hdb : ∃ logs, s'.db = { s.db with auditLogs := logs })
    (hidle : ∀ i a p, requested = some (i, a) → findPayment s.db i = some p →
      applyAction p a = none) :
    Serves s requested (result, s') := by
  obtain ⟨logs, hlogs⟩ := hdb
  have hsat : Satisfies schema s'.db := by
    rw [hlogs]
    exact satisfies_auditLogs h logs
  have hfind : ∀ j, findPayment s'.db j = findPayment s.db j := by
    intro j
    rw [hlogs]
    rfl
  -- asking for nothing and being refused both leave the row of `rowAfter`
  refine ⟨hsat, ?_, fun _ => hfind, s.db.paymentTransactions, logs, hlogs⟩
  intro j
  rw [hfind]
  cases hp : findPayment s.db j with
  | none => rfl
  | some p =>
    rw [Option.map_some]
    congr 1
    unfold rowAfter
    split
    · rename_i i a
      split
      · rename_i hji
        rw [hidle i a p rfl (by rw [← hji, hp]), Option.getD_none]
      · rfl
    · rfl

variable {a : RowAction}

theorem idle_of_refused {i : String}
    (hrefused : ∀ p, findPayment s.db i = some p → applyAction p a = none) :
    ∀ j b p, some (i, a) = some (j, b) → findPayment s.db j = some p → applyAction p b = none := by
  intro j b p hreq hp
  obtain ⟨rfl, rfl⟩ := Prod.mk.inj (Option.some.inj hreq)
  exact hrefused p hp

theorem idle_of_missing {i : String} (hmissing : findPayment s.db i = none) :
    ∀ j b p, some (i, a) = some (j, b) → findPayment s.db j = some p → applyAction p b = none := by
  refine idle_of_refused ?_
  intro p hp
  rw [hmissing] at hp
  cases hp

variable {p : PaymentTransactionORM} {p' : PaymentTransactionORM}

theorem Serves.changed {s' : Server} {i : String} (h : Satisfies schema s.db)
    (hfind : findPayment s.db i = some p) (haction : applyAction p a = some p')
    (hdb : ∃ logs, s'.db = { updatePayment p' s.db with auditLogs := logs }) :
    Serves s (some (i, a)) (.ok (some (ormToPydantic p')), s') := by
  obtain ⟨logs, hlogs⟩ := hdb
  have heffect : ActionEffect s.db i a (.ok (some (ormToPydantic p')), updatePayment p' s.db) :=
    .changed hfind haction
  have hsat : Satisfies schema s'.db := by
    rw [hlogs]
    exact satisfies_auditLogs (heffect.satisfies h) logs
  refine ⟨hsat, ?_, ?_, (updatePayment p' s.db).paymentTransactions, logs, hlogs⟩
  · intro j
    have hfind' : findPayment s'.db j = findPayment (updatePayment p' s.db) j := by
      rw [hlogs]
      rfl
    rw [hfind', heffect.findPayment h j]
    rfl
  · intro hrefused
    rcases hrefused with hnone | ⟨e, herror⟩
    · cases hnone
    · cases herror

theorem Serves.onDb {i : String} {outcome : Except Exc (Option PaymentTransaction) × Db}
    (h : Satisfies schema s.db) (heffect : ActionEffect s.db i a outcome) :
    Serves s (some (i, a)) (s.onDb outcome) := by
  cases heffect with
  | refused hresult hrefused => exact Serves.unchanged h ⟨_, rfl⟩ (idle_of_refused hrefused)
  | changed hfind haction => exact Serves.changed h hfind haction ⟨_, rfl⟩

theorem reconcilePayment_effect (h : Satisfies schema s.db) (i status : String) (now : Time) :
    Serves s (some (i, .setStatus status now)) (reconcilePayment i status now s) := by
  unfold reconcilePayment PaymentRepository.get
  have heffect := setStatus_effect h i status now
  cases hfind : findPayment s.db i with
  | none => exact Serves.unchanged h ⟨_, rfl⟩ (idle_of_missing hfind)
  | some existing =>
    rw [Option.map_some]
    dsimp only
    rw [show reconcile = setStatus from rfl]
    generalize setStatus i status now s.db = outcome at heffect
    cases heffect with
    | refused hresult hrefused =>
      rcases hresult with rfl | ⟨_, _, _, rfl⟩
      · exact Serves.unchanged h ⟨_, rfl⟩ (idle_of_refused hrefused)
      · exact Serves.unchanged h ⟨_, rfl⟩ (idle_of_refused hrefused)
    | changed hfind haction =>
      exact Serves.changed h hfind haction ⟨_, rfl⟩

theorem retryPayment_effect (h : Satisfies schema s.db) (i : String) (now : Time) :
    Serves s (some (i, .retry now)) (retryPayment i now s) := by
  unfold retryPayment PaymentRepository.get
  have heffect := retry_effect h i now
  cases hfind : findPayment s.db i with
  | none => exact Serves.unchanged h ⟨_, rfl⟩ (idle_of_missing hfind)
  | some existing =>
    rw [Option.map_some]
    dsimp only
    generalize retry i now s.db = outcome at heffect
    cases heffect with
    | refused hresult hrefused =>
      rcases hresult with rfl | ⟨_, _, _, rfl⟩
      · exact Serves.unchanged h ⟨_, rfl⟩ (idle_of_refused hrefused)
      · exact Serves.unchanged h ⟨_, rfl⟩ (idle_of_refused hrefused)
    | changed hfind haction =>
      exact Serves.changed h hfind haction ⟨_, rfl⟩

theorem checkNonce_db (worker : Nat) (pause : ℚ≥0) (nonce : Option String) (s : Server) :
    (checkNonce worker pause nonce s).2.db = s.db := by
  unfold checkNonce
  split <;> rfl

theorem applyCallback_effect (h : Satisfies schema s.db) (req : CallbackRequest) (now : Time) :
    Serves s (some (req.payload.transactionId, .setStatus req.payload.status now))
      (applyCallback req now s) := by
  unfold applyCallback PaymentRepository.get
  dsimp only
  have heffect := setStatus_effect h req.payload.transactionId req.payload.status now
  cases hfind : findPayment s.db req.payload.transactionId with
  | none => exact Serves.unchanged h ⟨_, rfl⟩ (idle_of_missing hfind)
  | some existing =>
    rw [Option.map_some]
    dsimp only
    by_cases hsame : (ormToPydantic existing).status = req.payload.status
    · -- a status the payment already has; the policy would refuse it too
      rw [if_pos hsame]
      refine Serves.unchanged h ⟨_, rfl⟩ (idle_of_refused ?_)
      intro p hp
      rw [hfind] at hp
      rw [← Option.some.inj hp]
      refine if_neg fun hallowed => hallowed.ne.1 ?_
      exact hsame.symm
    · rw [if_neg hsame, show reconcile = setStatus from rfl]
      generalize setStatus req.payload.transactionId req.payload.status now s.db = outcome
        at heffect
      cases heffect with
      | refused hresult hrefused =>
        rcases hresult with rfl | ⟨_, _, _, rfl⟩
        · exact Serves.unchanged h ⟨_, rfl⟩ (idle_of_refused hrefused)
        · exact Serves.unchanged h ⟨_, rfl⟩ (idle_of_refused hrefused)
      | changed hfind haction =>
        exact Serves.changed h hfind haction ⟨_, rfl⟩

variable {d : Deployment}

theorem providerCallback_effect (h : Satisfies schema s.db) (req : CallbackRequest) (worker : Nat)
    (pause : ℚ≥0) (now : Time) :
    Serves s (requestedAction d s (.providerCallback req worker pause now))
      (providerCallback d req worker pause now s) := by
  unfold providerCallback requestedAction callbackPasses
  dsimp only
  have hdb := checkNonce_db worker pause (effectiveNonce req) s
  cases hsig : rejectedSignature d req with
  | some rejection =>
    obtain ⟨e, eventType⟩ := rejection
    cases eventType with
    | none => exact Serves.unchanged h ⟨_, rfl⟩ (by simp)
    | some eventType => exact Serves.unchanged h ⟨_, rfl⟩ (by simp)
  | none =>
    dsimp only
    -- the replay check changes the process only
    generalize checkNonce worker pause (effectiveNonce req) s = checked at hdb
    obtain ⟨replayed, s'⟩ := checked
    change s'.db = s.db at hdb
    cases replayed with
    | true =>
      refine Serves.unchanged h ?_ (by simp)
      simp only [Server.log, hdb]
      exact ⟨_, rfl⟩
    | false =>
      have h' : Satisfies schema s'.db := by
        rw [hdb]
        exact h
      obtain ⟨hsat, hrow, hrefused, htables⟩ := applyCallback_effect h' req now
      rw [hdb] at hrow hrefused htables
      exact ⟨hsat, hrow, hrefused, htables⟩

/-- **What an event does to the payments.** It carries out the action it asks for, or nothing. -/
theorem serve_effect (h : Satisfies schema s.db) (e : ServiceEvent) :
    Serves s (requestedAction d s e) (serve d s e) := by
  cases e with
  | updateStatus i status now => exact Serves.onDb h (setStatus_effect h i status now)
  | reconcile i status now => exact Serves.onDb h (setStatus_effect h i status now)
  | retry i now => exact Serves.onDb h (retry_effect h i now)
  | replayDeadLetter i now => exact Serves.onDb h (replayDeadLetter_effect h i now)
  | providerCallback req worker pause now => exact providerCallback_effect h req worker pause now
  | retryPayment i now => exact retryPayment_effect h i now
  | reconcilePayment i status now => exact reconcilePayment_effect h i status now
  | wait worker elapsed => exact Serves.unchanged h ⟨_, rfl⟩ (by simp [requestedAction])
  | restart worker monotonic => exact Serves.unchanged h ⟨_, rfl⟩ (by simp [requestedAction])

/-! ## A payment from its creation -/

/-- `create_for_sla_result` has just made the payment; it was not stored before. -/
def NewPayment (s : Server) (payment : PaymentTransaction) : Prop :=
  ∃ settings uuidHex now outageId slaResult db i, slaResult.id = some i ∧
    getBySlaResult db i = none ∧
    createForSlaResult settings uuidHex now outageId slaResult db = (.ok payment, s.db)

/-- What holds of such a payment from then on. No transition leads to `dead_letter`. -/
structure PaymentInvariant (p : PaymentTransactionORM) : Prop where
  confirmedAt : p.confirmedAt.isSome ↔ p.status = "confirmed"
  retryCount : p.retryCount ≤ maxRetries
  status : p.status = "pending" ∨ p.status = "confirmed" ∨ p.status = "failed"

theorem NewPayment.row {payment : PaymentTransaction} (h : NewPayment s payment) :
    Satisfies schema s.db ∧
      ∃ p, findPayment s.db payment.id = some p ∧ PaymentInvariant p ∧ p.retryCount = 0 := by
  obtain ⟨settings, uuidHex, now, outageId, slaResult, db, i, hid, hnone, hcreate⟩ := h
  unfold createForSlaResult at hcreate
  rw [hid] at hcreate
  dsimp only at hcreate
  rw [hnone] at hcreate
  obtain ⟨hpayment, hdb, hsat⟩ := create_eq_ok hcreate
  refine ⟨hsat, newRow (paymentFor settings uuidHex now outageId slaResult i), ?_, ?_, rfl⟩
  · rw [findPayment_eq_some hsat, hdb, hpayment]
    exact ⟨List.mem_append_right _ (List.mem_singleton_self _), rfl⟩
  · exact ⟨by simp [newRow, paymentFor], Nat.zero_le _, .inl rfl⟩

theorem PaymentInvariant.not_dead (h : PaymentInvariant p) : p.status ≠ "dead_letter" := by
  intro hdead
  have hstatus := h.status
  rw [hdead] at hstatus
  exact absurd hstatus (by decide)

theorem PaymentInvariant.applyAction (h : PaymentInvariant p) (haction : applyAction p a = some p') :
    PaymentInvariant p' := by
  cases a with
  | setStatus status now =>
    simp only [PaymentRepository.applyAction] at haction
    split at haction
    · rename_i hallowed
      obtain rfl := Option.some.inj haction
      obtain ⟨-, hlive⟩ := hallowed.ne
      -- the old status is no final one, so no confirmation is on record
      have hnone : p.confirmedAt = none := by
        rw [← Option.not_isSome_iff_eq_none, h.confirmedAt]
        exact hlive
      refine ⟨?_, h.retryCount, ?_⟩
      · by_cases hc : status = "confirmed"
        · simp [hc]
        · simp [hc, hnone]
      · rcases allowedTransition_iff.mp hallowed with ⟨-, hs | hs⟩ | ⟨-, hs⟩
        · exact .inr (.inl hs)
        · exact .inr (.inr hs)
        · exact .inl hs
    · cases haction
  | retry now =>
    simp only [PaymentRepository.applyAction] at haction
    split at haction
    · rename_i hboth
      obtain ⟨hbudget, hallowed⟩ := hboth
      obtain rfl := Option.some.inj haction
      obtain ⟨-, hlive⟩ := hallowed.ne
      refine ⟨?_, hbudget, .inl rfl⟩
      show p.confirmedAt.isSome ↔ "pending" = "confirmed"
      rw [h.confirmedAt]
      exact iff_of_false hlive (by decide)
    · cases haction
  | replay now =>
    simp only [PaymentRepository.applyAction] at haction
    split at haction
    · rename_i hdead
      exact absurd hdead h.not_dead
    · cases haction

theorem applyAction_confirmed (h : p.status = "confirmed") (a : RowAction) :
    PaymentRepository.applyAction p a = none := by
  cases a with
  | setStatus status now => exact if_neg fun hallowed => hallowed.ne.2 h
  | retry now => exact if_neg fun hboth => hboth.2.ne.2 h
  | replay now =>
    refine if_neg ?_
    rw [h]
    decide

theorem applyAction_allowed (h : PaymentRepository.applyAction p a = some p') :
    AllowedTransition p.status p'.status := by
  unfold PaymentRepository.applyAction at h
  split at h
  · split at h
    · rename_i hallowed
      obtain rfl := Option.some.inj h
      exact hallowed
    · cases h
  · split at h
    · rename_i hboth
      obtain rfl := Option.some.inj h
      exact hboth.2
    · cases h
  · split at h
    · rename_i hdead
      obtain rfl := Option.some.inj h
      exact allowedTransition_iff.mpr (.inr ⟨.inr hdead, rfl⟩)
    · cases h

theorem rowAfter_cases (requested : Option (String × RowAction)) (j : String)
    (p : PaymentTransactionORM) :
    rowAfter requested j p = p ∨
      ∃ a, requested = some (j, a) ∧ PaymentRepository.applyAction p a
        = some (rowAfter requested j p) := by
  unfold rowAfter
  split
  · rename_i i a
    by_cases hji : j = i
    · subst hji
      rw [if_pos rfl]
      cases haction : PaymentRepository.applyAction p a with
      | none => exact .inl rfl
      | some p' => exact .inr ⟨a, rfl, haction⟩
    · rw [if_neg hji]
      exact .inl rfl
  · exact .inl rfl

/-! ## The law of the status machine -/

abbrev ServiceRun (d : Deployment) := Runs.Run fun (s : Server) e s' => (serve d s e).2 = s'

/-- The payment is stored, and satisfies the invariant. -/
def Tracked (paymentId : String) (s : Server) : Prop :=
  Satisfies schema s.db ∧ ∃ p, findPayment s.db paymentId = some p ∧ PaymentInvariant p

variable {paymentId : String}

theorem Tracked.step (h : Tracked paymentId s) (e : ServiceEvent) :
    Tracked paymentId (serve d s e).2 := by
  obtain ⟨hsat, p, hfind, hinv⟩ := h
  have hserves := serve_effect (d := d) hsat e
  refine ⟨hserves.satisfies, rowAfter (requestedAction d s e) paymentId p, ?_, ?_⟩
  · rw [hserves.row, hfind, Option.map_some]
  · rcases rowAfter_cases (requestedAction d s e) paymentId p with hsame | ⟨a, -, haction⟩
    · rw [hsame]
      exact hinv
    · exact hinv.applyAction haction

theorem Tracked.run {t : Server} {steps : List (Server × ServiceEvent)} (h : Tracked paymentId s)
    (hrun : ServiceRun d s steps t) :
    (∀ x ∈ steps, Tracked paymentId x.1) ∧ Tracked paymentId t := by
  have hstep : ∀ u e u', Tracked paymentId u → (serve d u e).2 = u' → Tracked paymentId u' := by
    intro u e u' hu heq
    rw [← heq]
    exact hu.step e
  exact ⟨Runs.Run.invariant_steps h hstep hrun, Runs.Run.invariant h hstep hrun⟩

theorem confirmed_of_run {t : Server} {steps : List (Server × ServiceEvent)}
    (hsat : Satisfies schema s.db) (hfind : findPayment s.db paymentId = some p)
    (hconfirmed : p.status = "confirmed") (hrun : ServiceRun d s steps t) :
    findPayment t.db paymentId = some p := by
  have hboth : Satisfies schema t.db ∧ findPayment t.db paymentId = some p := by
    refine Runs.Run.invariant
      (I := fun u : Server => Satisfies schema u.db ∧ findPayment u.db paymentId = some p)
      ⟨hsat, hfind⟩ ?_ hrun
    rintro u e u' ⟨hu, hp⟩ rfl
    have hserves := serve_effect (d := d) hu e
    refine ⟨hserves.satisfies, ?_⟩
    rw [hserves.row, hp, Option.map_some]
    rcases rowAfter_cases (requestedAction d u e) paymentId p with hsame | ⟨a, -, haction⟩
    · rw [hsame]
    · rw [applyAction_confirmed hconfirmed a] at haction
      cases haction
  exact hboth.2

/-- The payment is stored, stamped exactly when confirmed, and within its retry budget. -/
def WithinBounds (paymentId : String) (s : Server) : Prop :=
  ∃ p, findPayment s.db paymentId = some p ∧
    (p.confirmedAt.isSome ↔ p.status = "confirmed") ∧ p.retryCount ≤ maxRetries

/-- The law of the status machine, for one payment over one run. -/
structure StatusMachineLaw (d : Deployment) (paymentId : String)
    (steps : List (Server × ServiceEvent)) (t : Server) : Prop where
  bounds : (∀ x ∈ steps, WithinBounds paymentId x.1) ∧ WithinBounds paymentId t
  confirmedFinal : ∀ x ∈ steps, ∀ p, findPayment x.1.db paymentId = some p →
    p.status = "confirmed" → findPayment t.db paymentId = some p
  transitions : ∀ x ∈ steps, ∀ p p', findPayment x.1.db paymentId = some p →
    findPayment (serve d x.1 x.2).2.db paymentId = some p' → p'.status ≠ p.status →
    AllowedTransition p.status p'.status
  refusedUnchanged : ∀ x ∈ steps, Refused (serve d x.1 x.2).1 →
    findPayment (serve d x.1 x.2).2.db paymentId = findPayment x.1.db paymentId

/-- **The status machine.** Every run from the creation of a payment obeys the law. -/
theorem status_machine_of_run {d : Deployment} {s t : Server} {payment : PaymentTransaction}
    {steps : List (Server × ServiceEvent)} (hnew : NewPayment s payment)
    (hrun : ServiceRun d s steps t) : StatusMachineLaw d payment.id steps t := by
  obtain ⟨hsat, p₀, hfind₀, hinv₀, -⟩ := hnew.row
  have htracked := Tracked.run ⟨hsat, p₀, hfind₀, hinv₀⟩ hrun
  have hbounds : ∀ u, Tracked payment.id u → WithinBounds payment.id u := by
    intro u hu
    obtain ⟨-, p, hfind, hinv⟩ := hu
    exact ⟨p, hfind, hinv.confirmedAt, hinv.retryCount⟩
  constructor
  case bounds => exact ⟨fun x hx => hbounds _ (htracked.1 x hx), hbounds _ htracked.2⟩
  case confirmedFinal =>
    intro x hx p hfind hconfirmed
    obtain ⟨l₁, l₂, rfl⟩ := List.append_of_mem hx
    -- the rest of the run starts from the confirmed payment
    obtain ⟨u, -, hstep, hpost⟩ := Runs.Run.split hrun
    have hrest : ServiceRun d x.1 ([(x.1, x.2)] ++ l₂) t :=
      Runs.Run.trans (.snoc .nil hstep) hpost
    exact confirmed_of_run (htracked.1 x hx).1 hfind hconfirmed hrest
  case transitions =>
    intro x hx p p' hfind hfind' hne
    have hserves := serve_effect (d := d) (htracked.1 x hx).1 x.2
    rw [hserves.row, hfind, Option.map_some] at hfind'
    obtain rfl := Option.some.inj hfind'
    rcases rowAfter_cases (requestedAction d x.1 x.2) payment.id p with hsame | ⟨a, -, haction⟩
    · rw [hsame] at hne
      exact absurd rfl hne
    · exact applyAction_allowed haction
  case refusedUnchanged =>
    intro x hx hrefused
    exact (serve_effect (d := d) (htracked.1 x hx).1 x.2).refused hrefused payment.id

/-! ## A payment of 750 for a late outage -/

def lateOutage : OutageRow := ⟨"outage-1", "high", none⟩

/-- The result of the outage, as the database returns it. -/
def lateSlaResult : SLAResult :=
  { SLACalculator.violatedResult ⟨30, 50, 750⟩ "outage-1" 45 "1.0" "config" with id := some 1 }

def unpaidDb : Db where
  outages := [lateOutage]
  slaResults := [{
    id := 1
    outageId := lateSlaResult.outageId
    status := lateSlaResult.status
    mttrMinutes := lateSlaResult.mttrMinutes
    thresholdMinutes := lateSlaResult.thresholdMinutes
    amount := lateSlaResult.amount
    paymentType := lateSlaResult.paymentType
    rating := lateSlaResult.rating
    policyVersion := lateSlaResult.policyVersion
    thresholdSource := lateSlaResult.thresholdSource
    createdAt := 0
    isLatest := true
    reasonCode := lateSlaResult.reasonCode
    decisionTrace := lateSlaResult.decisionTrace }]
  slaResultsSeq := 1

def latePayment : PaymentTransaction := paymentFor {} "0123456789abcdef" 0 "outage-1" lateSlaResult 1

/-- The service right after it created the payment. -/
def paidServer : Server where
  db := insertPayment (newRow latePayment) unpaidDb

theorem latePayment_new : NewPayment paidServer latePayment :=
  ⟨{}, "0123456789abcdef", 0, "outage-1", lateSlaResult, unpaidDb, 1, rfl, by decide +kernel,
    by decide +kernel⟩

def openDeployment : Deployment := ⟨"", fun _ _ => ""⟩

/-- The payment fails, is retried, and is confirmed by its provider. -/
def retriedEvents : List ServiceEvent :=
  [.updateStatus latePayment.id "failed" 1, .retryPayment latePayment.id 2,
    .providerCallback ⟨⟨latePayment.id, "confirmed", none, some "n-1"⟩, none, none⟩ 0 0 3]

theorem status_machine_of_retried_run :
    StatusMachineLaw openDeployment latePayment.id
      (Runs.replay (fun s e => (serve openDeployment s e).2) paidServer retriedEvents)
      (retriedEvents.foldl (fun s e => (serve openDeployment s e).2) paidServer) :=
  status_machine_of_run latePayment_new (Runs.replay_run _ _ _)

/-! ## The retry budget -/

def statusOf (s : Server) (paymentId : String) : Option String :=
  (findPayment s.db paymentId).map (·.status)

def ReplaysDeadLetter (paymentId : String) (s : Server) : ServiceEvent → Prop
  | .replayDeadLetter i _ => i = paymentId ∧ statusOf s paymentId = some "dead_letter"
  | _ => False

instance (paymentId : String) (s : Server) (e : ServiceEvent) :
    Decidable (ReplaysDeadLetter paymentId s e) := by
  unfold ReplaysDeadLetter
  split <;> infer_instance

/-- The failed-to-pending changes of a payment since its creation or its last replay, after one
more event. -/
def retriesAfter (d : Deployment) (paymentId : String) (retries : Nat) (s : Server)
    (e : ServiceEvent) : Nat :=
  if ReplaysDeadLetter paymentId s e then 0
  else if statusOf s paymentId = some "failed" ∧
      statusOf (serve d s e).2 paymentId = some "pending" then retries + 1
  else retries

/-- The service next to the count of those changes. -/
def countedStep (d : Deployment) (paymentId : String) (x : Server × Nat) (e : ServiceEvent) :
    Server × Nat :=
  ((serve d x.1 e).2, retriesAfter d paymentId x.2 x.1 e)

abbrev CountedRun (d : Deployment) (paymentId : String) :=
  Runs.Run fun (x : Server × Nat) e y => countedStep d paymentId x e = y

/-- The counter of the payment is the count, and within the budget. -/
def BudgetKept (paymentId : String) (x : Server × Nat) : Prop :=
  ∃ p, findPayment x.1.db paymentId = some p ∧ x.2 = p.retryCount ∧ x.2 ≤ maxRetries

/-- An event that sets a failed payment back to pending as a plain status change: an
`update_status`, a reconciliation, or a callback that passes its checks. -/
def BypassesRetry (d : Deployment) (paymentId : String) (s : Server) (e : ServiceEvent) : Prop :=
  statusOf s paymentId = some "failed" ∧
    ∃ now, requestedAction d s e = some (paymentId, .setStatus "pending" now)

theorem status_of_replays {e : ServiceEvent} (h : ReplaysDeadLetter paymentId s e) :
    statusOf s paymentId = some "dead_letter" := by
  unfold ReplaysDeadLetter at h
  split at h
  · exact h.2
  · exact h.elim

theorem retriesAfter_eq {e : ServiceEvent} {q : PaymentTransactionORM} (hinv : PaymentInvariant p)
    (hfind : findPayment s.db paymentId = some p)
    (hafter : findPayment (serve d s e).2.db paymentId = some q) (n : Nat) :
    retriesAfter d paymentId n s e
      = if p.status = "failed" ∧ q.status = "pending" then n + 1 else n := by
  have hstatus : statusOf s paymentId = some p.status := by rw [statusOf, hfind, Option.map_some]
  have hstatus' : statusOf (serve d s e).2 paymentId = some q.status := by
    rw [statusOf, hafter, Option.map_some]
  have hlive : ¬ ReplaysDeadLetter paymentId s e := by
    intro hreplays
    have hdead := status_of_replays hreplays
    rw [hstatus] at hdead
    exact hinv.not_dead (Option.some.inj hdead)
  unfold retriesAfter
  rw [if_neg hlive, hstatus, hstatus']
  simp only [Option.some.injEq]

/-- **One action.** The counter of the new row counts its change from failed to pending exactly if
the action is not a plain status change. -/
theorem counted_applyAction_iff {q : PaymentTransactionORM} (hinv : PaymentInvariant p)
    (haction : PaymentRepository.applyAction p a = some q) :
    (if p.status = "failed" ∧ q.status = "pending" then p.retryCount + 1 else p.retryCount)
        = q.retryCount ↔
      ¬ (p.status = "failed" ∧ ∃ now, a = .setStatus "pending" now) := by
  cases a with
  | setStatus status now =>
    simp only [PaymentRepository.applyAction] at haction
    split at haction
    · have hretries : q.retryCount = p.retryCount := by rw [← Option.some.inj haction]
      have hqstatus : q.status = status := by rw [← Option.some.inj haction]
      rw [hqstatus, hretries]
      by_cases hbypass : p.status = "failed" ∧ status = "pending"
      · rw [if_pos hbypass]
        refine iff_of_false (by omega) ?_
        rw [not_not, hbypass.2]
        exact ⟨hbypass.1, now, rfl⟩
      · rw [if_neg hbypass]
        refine iff_of_true rfl ?_
        intro hplain
        obtain ⟨hfailed, now', hset⟩ := hplain
        exact hbypass ⟨hfailed, (RowAction.setStatus.inj hset).1⟩
    · cases haction
  | retry now =>
    simp only [PaymentRepository.applyAction] at haction
    split at haction
    · rename_i hboth
      have hretries : q.retryCount = p.retryCount + 1 := by rw [← Option.some.inj haction]
      have hqstatus : q.status = "pending" := by rw [← Option.some.inj haction]
      -- only a failed payment may go back to pending
      have hfailed : p.status = "failed" := by
        rcases allowedTransition_iff.mp hboth.2 with ⟨-, hs | hs⟩ | ⟨hs | hs, -⟩
        · exact absurd hs (by decide)
        · exact absurd hs (by decide)
        · exact hs
        · exact absurd hs hinv.not_dead
      rw [if_pos ⟨hfailed, hqstatus⟩, hretries]
      refine iff_of_true rfl ?_
      intro hplain
      obtain ⟨-, now', hset⟩ := hplain
      cases hset
    · cases haction
  | replay now =>
    simp only [PaymentRepository.applyAction] at haction
    split at haction
    · rename_i hdead
      exact absurd hdead hinv.not_dead
    · cases haction

theorem rowAfter_bypass {requested : Option (String × RowAction)} {now : Time}
    (hfailed : p.status = "failed") (hreq : requested = some (paymentId, .setStatus "pending" now))
    :
    (rowAfter requested paymentId p).status = "pending" := by
  have hallowed : AllowedTransition p.status "pending" :=
    allowedTransition_iff.mpr (.inr ⟨.inl hfailed, rfl⟩)
  rw [hreq]
  simp [rowAfter, PaymentRepository.applyAction, hallowed]

/-- **One step.** The counter stays the count exactly if the step does not bypass `retry`. -/
theorem budgetKept_step_iff {x : Server × Nat} (htracked : Tracked paymentId x.1)
    (hkept : BudgetKept paymentId x) (e : ServiceEvent) :
    BudgetKept paymentId (countedStep d paymentId x e) ↔ ¬ BypassesRetry d paymentId x.1 e := by
  obtain ⟨s, n⟩ := x
  obtain ⟨hsat, p, hfind, hinv⟩ := htracked
  obtain ⟨p', hfind', hn, -⟩ := hkept
  obtain rfl : p = p' := Option.some.inj (hfind.symm.trans hfind')
  change n = p.retryCount at hn
  set q := rowAfter (requestedAction d s e) paymentId p with hq
  have hafter : findPayment (serve d s e).2.db paymentId = some q := by
    rw [(serve_effect (d := d) hsat e).row, hfind, Option.map_some]
  -- the budget follows from the invariant of the new row
  have hinv' : PaymentInvariant q := by
    rcases rowAfter_cases (requestedAction d s e) paymentId p with hsame | ⟨a, -, haction⟩
    · rw [hq, hsame]
      exact hinv
    · exact hinv.applyAction haction
  have hkept : BudgetKept paymentId (countedStep d paymentId (s, n) e) ↔
      (if p.status = "failed" ∧ q.status = "pending" then p.retryCount + 1 else p.retryCount)
        = q.retryCount := by
    rw [← hn, ← retriesAfter_eq (d := d) (e := e) hinv hfind hafter]
    constructor
    · intro hbounds
      obtain ⟨r, hr, hcount, -⟩ := hbounds
      obtain rfl : q = r := Option.some.inj (hafter.symm.trans hr)
      exact hcount
    · intro hcount
      have hbudget := hinv'.retryCount
      rw [← hcount] at hbudget
      exact ⟨q, hafter, hcount, hbudget⟩
  have hbypass : BypassesRetry d paymentId s e ↔
      p.status = "failed" ∧ ∃ now, requestedAction d s e = some (paymentId, .setStatus "pending" now) := by
    unfold BypassesRetry
    rw [statusOf, hfind, Option.map_some, Option.some.injEq]
  rw [hkept, hbypass]
  rcases rowAfter_cases (requestedAction d s e) paymentId p with hsame | ⟨a, hreq, haction⟩
  · -- nothing changed, so the step was no bypass
    have hneither : ¬ (p.status = "failed" ∧ q.status = "pending") := by
      rw [hq, hsame]
      intro hboth
      exact absurd (hboth.1.symm.trans hboth.2) (by decide)
    rw [if_neg hneither, hq, hsame]
    refine iff_of_true rfl ?_
    intro hby
    obtain ⟨hfailed, now, hreq⟩ := hby
    exact hneither ⟨hfailed, rowAfter_bypass hfailed hreq⟩
  · rw [counted_applyAction_iff hinv haction]
    simp only [hreq, Option.some.injEq, Prod.mk.injEq, true_and]

/-- **The retry budget over runs.** In every state of a run the counter is the number of
failed-to-pending changes, exactly if no step of the run bypasses `retry`. -/
theorem retry_count_of_run {d : Deployment} {s : Server} {payment : PaymentTransaction}
    {steps : List ((Server × Nat) × ServiceEvent)} {t : Server × Nat}
    (hnew : NewPayment s payment) (hrun : CountedRun d payment.id (s, 0) steps t) :
    ((∀ x ∈ steps, BudgetKept payment.id x.1) ∧ BudgetKept payment.id t) ↔
      ∀ x ∈ steps, ¬ BypassesRetry d payment.id x.1.1 x.2 := by
  obtain ⟨hsat, p, hfind, hinv, hzero⟩ := hnew.row
  refine Runs.Run.forall_iff (I := fun x : Server × Nat => Tracked payment.id x.1)
    (C := fun x e => ¬ BypassesRetry d payment.id x.1 e)
    ⟨hsat, p, hfind, hinv⟩ ⟨p, hfind, hzero.symm, Nat.zero_le _⟩ ?_ ?_ hrun
  · rintro x e y hx rfl
    exact hx.step e
  · rintro x e y hx hkept rfl
    exact budgetKept_step_iff hx hkept e

/-- A failed payment that is retried once keeps its budget. -/
theorem retry_count_of_retried_run :
    (∀ x ∈ Runs.replay (countedStep openDeployment latePayment.id) (paidServer, 0) retriedEvents,
        BudgetKept latePayment.id x.1) ∧
      BudgetKept latePayment.id
        (retriedEvents.foldl (countedStep openDeployment latePayment.id) (paidServer, 0)) := by
  refine (retry_count_of_run latePayment_new (Runs.replay_run _ _ _)).mpr ?_
  unfold retriedEvents
  simp only [Runs.replay, List.forall_mem_cons]
  refine ⟨?_, ?_, ?_, by simp⟩
  · rintro ⟨hfailed, -⟩
    exact absurd hfailed (by decide +kernel)
  · rintro ⟨-, now, hreq⟩
    simp [requestedAction] at hreq
  · rintro ⟨hfailed, -⟩
    exact absurd hfailed (by decide +kernel)

/-- The payment fails, and an operator reconciles it back to pending. -/
def bypassEvents : List ServiceEvent :=
  [.updateStatus latePayment.id "failed" 1, .reconcilePayment latePayment.id "pending" 2]

/-- The counter misses that change. -/
theorem retry_count_bypassed :
    CountedRun openDeployment latePayment.id (paidServer, 0)
        (Runs.replay (countedStep openDeployment latePayment.id) (paidServer, 0) bypassEvents)
        (bypassEvents.foldl (countedStep openDeployment latePayment.id) (paidServer, 0)) ∧
      ¬ BudgetKept latePayment.id
        (bypassEvents.foldl (countedStep openDeployment latePayment.id) (paidServer, 0)) := by
  refine ⟨Runs.replay_run _ _ _, ?_⟩
  intro hkept
  obtain ⟨p, hfind, hcount, -⟩ := hkept
  set t := bypassEvents.foldl (countedStep openDeployment latePayment.id) (paidServer, 0)
  have hcounted : t.2 = 1 := by decide +kernel
  have hretries : (findPayment t.1.db latePayment.id).map (·.retryCount) = some 0 := by
    decide +kernel
  rw [hfind] at hretries
  have hzero : p.retryCount = 0 := Option.some.inj hretries
  omega

end NocIq
