import NocIq.Lib.ReadCommitted
import NocIq.Payment.StatusMachine

/-!
# NocIq — concurrent calls of `PaymentRepository.create_for_sla_result`

Any number of calls for one SLA result, each in a transaction of its own, in any interleaving.

* **`exec_createForSlaResultTxn`** — on its own, the transaction does what
  `create_for_sla_result` does.
* **`onePayment_of_uncontended`** — the calls return one payment, as if one of them alone had run,
  if each of them finds it or is alone, with free keys, when it selects.
* **`TwoAuthors.step`** — two calls that both found nothing both insert a row or fail.
* **`concurrent_payment_iff`** — so the calls return one payment exactly in the first case.
-/

namespace NocIq

open Relational (Satisfies SatisfiesEach)
open PaymentRepository ReadCommitted

/-! ## The transaction -/

/-- The unique indexes of `payment_transactions`. -/
def sharesPaymentKey (a b : PaymentTransactionORM) : Bool :=
  decide (a.id = b.id ∨ a.transactionHash = b.transactionHash ∨
    (a.slaResultId.isSome ∧ a.slaResultId = b.slaResultId) ∨
    (a.idempotencyKey.isSome ∧ a.idempotencyKey = b.idempotencyKey) ∨
    a.outageTypeKey = b.outageTypeKey)

def paymentTable : Table PaymentTransactionORM String where
  id := PaymentTransactionORM.id
  conflict := sharesPaymentKey
  pkey a b h := by simp [sharesPaymentKey, h]

theorem keysFree_iff {rows : List PaymentTransactionORM} {row : PaymentTransactionORM} :
    KeysFree rows row ↔ rows.any (paymentTable.conflict row) = false := by
  rw [List.any_eq_false]
  constructor
  · intro h r hr hshares
    simp only [paymentTable, sharesPaymentKey, decide_eq_true_eq] at hshares
    rcases hshares with hid | hhash | ⟨hsome, hsla⟩ | ⟨hsome, hkey⟩ | htype
    · exact h.id r hr hid.symm
    · exact h.hash r hr hhash.symm
    · obtain ⟨i, hi⟩ := Option.isSome_iff_exists.mp hsome
      exact h.slaResult r hr i hi (hsla.symm.trans hi)
    · obtain ⟨k, hk⟩ := Option.isSome_iff_exists.mp hsome
      exact h.idempotency r hr k hk (hkey.symm.trans hk)
    · have hpair := Prod.mk.inj (Option.some.inj htype)
      exact h.outageType r hr ⟨hpair.1.symm, hpair.2.symm⟩
  · intro h
    -- one disjunct for each unique key of the table
    have hfree : ∀ r ∈ rows, ¬ (row.id = r.id ∨ row.transactionHash = r.transactionHash ∨
        (row.slaResultId.isSome ∧ row.slaResultId = r.slaResultId) ∨
        (row.idempotencyKey.isSome ∧ row.idempotencyKey = r.idempotencyKey) ∨
        row.outageTypeKey = r.outageTypeKey) := by
      intro r hr hshares
      exact h r hr (decide_eq_true hshares)
    refine ⟨?_, ?_, ?_, ?_, ?_⟩
    · intro r hr hid
      exact hfree r hr (.inl hid.symm)
    · intro r hr hhash
      exact hfree r hr (.inr (.inl hhash.symm))
    · intro r hr i hi hsla
      refine hfree r hr (.inr (.inr (.inl ⟨?_, hi.trans hsla.symm⟩)))
      rw [hi]
      rfl
    · intro r hr k hk hkey
      refine hfree r hr (.inr (.inr (.inr (.inl ⟨?_, hk.trans hkey.symm⟩))))
      rw [hk]
      rfl
    · intro r hr hboth
      refine hfree r hr (.inr (.inr (.inr (.inr ?_))))
      unfold PaymentTransactionORM.outageTypeKey
      rw [hboth.1, hboth.2]

/-- The arguments of one call, next to the SLA result. -/
structure PaymentCall where
  settings : PaymentSettings := {}
  uuidHex : String
  now : Time
  outageId : String
  deriving DecidableEq, Repr

def paysFor (id : Nat) (p : PaymentTransactionORM) : Bool := decide (p.slaResultId = some id)

namespace PaymentCall

variable (c : PaymentCall) (slaResult : SLAResult) (id : Nat)

def row : PaymentTransactionORM :=
  newRow (paymentFor c.settings c.uuidHex c.now c.outageId slaResult id)

/-- `self.create(transaction)`. The `refresh` after the commit reads a row that no other call
writes. -/
def insertRow : Prog paymentTable PaymentTransaction :=
  .insert (c.row slaResult id) (.commit (ormToPydantic (c.row slaResult id)))

/-- An existing payment is returned as it is; its lock is kept until the session closes. -/
def afterSelect : Option PaymentTransactionORM → Prog paymentTable PaymentTransaction
  | some existing => .close (ormToPydantic existing)
  | none => c.insertRow slaResult id

/-- The statements of `create_for_sla_result`. -/
def createForSlaResultTxn : Prog paymentTable PaymentTransaction :=
  match slaResult.id with
  | none => .raise
  | some id => .selectForUpdate (paysFor id) (c.afterSelect slaResult id)

/-- The call as a sequential operation. -/
def alone (db : Db) : Except Exc PaymentTransaction × Db :=
  createForSlaResult c.settings c.uuidHex c.now c.outageId slaResult db

end PaymentCall

section Alone

variable {slaResult : SLAResult} {i : Nat} {rows : List PaymentTransactionORM}

theorem createForSlaResultTxn_eq (hid : slaResult.id = some i) (c : PaymentCall) :
    c.createForSlaResultTxn slaResult =
      .selectForUpdate (paysFor i) (c.afterSelect slaResult i) := by
  unfold PaymentCall.createForSlaResultTxn
  rw [hid]

theorem exec_of_found (hid : slaResult.id = some i) (c : PaymentCall) {p : PaymentTransactionORM}
    (hfind : rows.find? (paysFor i) = some p) (seq : Nat) :
    exec (c.createForSlaResultTxn slaResult) rows rows seq =
      (some (ormToPydantic p), rows, seq) := by
  rw [createForSlaResultTxn_eq hid]
  show exec (c.afterSelect slaResult i (rows.find? (paysFor i))) rows rows seq = _
  rw [hfind]
  rfl

theorem exec_of_absent (hid : slaResult.id = some i) (c : PaymentCall)
    (hfind : rows.find? (paysFor i) = none) (seq : Nat) :
    exec (c.createForSlaResultTxn slaResult) rows rows seq =
      if rows.any (paymentTable.conflict (c.row slaResult i)) then (none, rows, seq)
      else (some (ormToPydantic (c.row slaResult i)), rows ++ [c.row slaResult i], seq) := by
  rw [createForSlaResultTxn_eq hid]
  show exec (c.afterSelect slaResult i (rows.find? (paysFor i))) rows rows seq = _
  rw [hfind]
  show exec (c.insertRow slaResult i) rows rows seq = _
  simp only [PaymentCall.insertRow, exec]

theorem exec_of_free (hid : slaResult.id = some i) {c : PaymentCall}
    (hfind : rows.find? (paysFor i) = none) (hfree : KeysFree rows (c.row slaResult i))
    (seq : Nat) :
    exec (c.createForSlaResultTxn slaResult) rows rows seq =
      (some (ormToPydantic (c.row slaResult i)), rows ++ [c.row slaResult i], seq) := by
  rw [exec_of_absent hid c hfind, keysFree_iff.mp hfree]
  rfl

theorem satisfies_insertRow_iff {db : Db} (h : Satisfies schema db) {c : PaymentCall}
    (hout : c.outageId ∈ db.outageIds) (hstored : i ∈ db.slaIds) :
    Satisfies schema (insertPayment (c.row slaResult i) db) ↔
      KeysFree db.paymentTransactions (c.row slaResult i) := by
  constructor
  · intro hsat
    have hvalid := ((satisfies_schema_iff _).mp hsat).2.2
    exact (inserted_payment_valid_iff.mp hvalid).2.1
  · intro hfree
    obtain ⟨hsla, hdisputes, hpayments⟩ := (satisfies_schema_iff db).mp h
    refine (satisfies_schema_iff _).mpr ⟨hsla, hdisputes, ?_⟩
    refine inserted_payment_valid_iff.mpr ⟨hpayments, hfree, hout, ?_⟩
    intro j hj
    rw [← show i = j from Option.some.inj hj]
    exact hstored

/-- **The transaction on its own** does what `create_for_sla_result` does, for a stored outage and
a stored result. -/
theorem exec_createForSlaResultTxn {db : Db} (h : Satisfies schema db) (c : PaymentCall)
    (hid : slaResult.id = some i) (hout : c.outageId ∈ db.outageIds) (hstored : i ∈ db.slaIds)
    (seq : Nat) :
    exec (c.createForSlaResultTxn slaResult) db.paymentTransactions db.paymentTransactions seq =
      ((c.alone slaResult db).1.toOption, (c.alone slaResult db).2.paymentTransactions, seq) := by
  unfold PaymentCall.alone createForSlaResult getBySlaResult
  rw [hid]
  have hlookup : db.paymentTransactions.find? (fun p => decide (p.slaResultId = some i)) =
      db.paymentTransactions.find? (paysFor i) := rfl
  dsimp only
  rw [hlookup]
  cases hfind : db.paymentTransactions.find? (paysFor i) with
  | some p =>
    rw [exec_of_found hid c hfind]
    rfl
  | none =>
    rw [exec_of_absent hid c hfind]
    show _ = ((create (paymentFor c.settings c.uuidHex c.now c.outageId slaResult i) db).1.toOption,
      (create (paymentFor c.settings c.uuidHex c.now c.outageId slaResult i)
        db).2.paymentTransactions, seq)
    have hvalid : Satisfies schema (insertPayment (c.row slaResult i) db) ↔ _ :=
      satisfies_insertRow_iff h hout hstored
    by_cases hfree : KeysFree db.paymentTransactions (c.row slaResult i)
    · rw [create_of_satisfies (hvalid.mpr hfree), keysFree_iff.mp hfree]
      rfl
    · obtain ⟨name, hname⟩ := create_of_violation (mt hvalid.mp hfree)
      rw [hname, Bool.not_eq_false _ |>.mp (mt keysFree_iff.mpr hfree)]
      rfl

end Alone

/-! ## The calls -/

section PaymentCalls

set_option linter.unusedSectionVars false

variable {τ : Type} [DecidableEq τ] [Fintype τ] {call : τ → PaymentCall} {slaResult : SLAResult}
  {i : Nat}

/-- The calls for one result, on the table as it is. -/
def payments {τ : Type} (db : Db) (call : τ → PaymentCall) (slaResult : SLAResult) :
    State τ paymentTable PaymentTransaction where
  committed := db.paymentTransactions
  seq := 0
  session t := { control := .running ((call t).createForSlaResultTxn slaResult) }

/-- All calls have returned the one payment of the result, and the table is as if one of them alone
had run. -/
structure OnePayment (db : Db) (call : τ → PaymentCall) (slaResult : SLAResult) (i : Nat)
    (s : State τ paymentTable PaymentTransaction) (p : PaymentTransactionORM) : Prop where
  row : s.committed.filter (paysFor i) = [p]
  returned : ∀ t, (s.session t).control = .ended (some (ormToPydantic p))
  alone : ∃ t, ((call t).alone slaResult db).1.toOption = some (ormToPydantic p) ∧
    ((call t).alone slaResult db).2.paymentTransactions = s.committed

/-- Every call opens its transaction when the payment is stored, or while no other call's
transaction is open and the keys of its payment are free. -/
def Uncontended (call : τ → PaymentCall) (slaResult : SLAResult) (i : Nat)
    (steps : List (State τ paymentTable PaymentTransaction × τ)) : Prop :=
  ∀ x ∈ steps, Begins x → (∃ p ∈ x.1.committed, paysFor i p = true) ∨
    (NoneOpen x.1 ∧ KeysFree x.1.committed ((call x.2).row slaResult i))

theorem paysFor_row (c : PaymentCall) : paysFor i (c.row slaResult i) = true :=
  decide_eq_true rfl

/-! ## A call that has found no payment -/

/-- The call has found no payment: it will insert its row, or has inserted it next to `rows`. -/
inductive Author (c : PaymentCall) (slaResult : SLAResult) (i : Nat)
    (rows : List PaymentTransactionORM) : Session paymentTable PaymentTransaction → Prop where
  | selecting : Author c slaResult i rows
      { control := .locking (paysFor i) [] (c.afterSelect slaResult i), isOpen := true }
  | creating : Author c slaResult i rows
      { control := .running (c.insertRow slaResult i), isOpen := true }
  | inserted (hfree : KeysFree rows (c.row slaResult i)) : Author c slaResult i rows
      { control := .running (.commit (ormToPydantic (c.row slaResult i))), isOpen := true,
        inserted := [c.row slaResult i] }

/-- What the step of such a call comes to. -/
inductive AuthorEffect (c : PaymentCall) (slaResult : SLAResult) (i : Nat)
    (rows : List PaymentTransactionORM) (s s' : State τ paymentTable PaymentTransaction) (t : τ) :
    Prop where
  | goesOn (hrows : s'.committed = s.committed) (hauthor : Author c slaResult i rows (s'.session t))
  | fails (hrows : s'.committed = s.committed)
      (htaken : ¬ KeysFree s.committed (c.row slaResult i))
      (hended : s'.session t = { control := .ended none })
  | stores (hfree : KeysFree rows (c.row slaResult i))
      (hrows : s'.committed = s.committed ++ [c.row slaResult i])
      (hended : s'.session t =
        { control := .ended (some (ormToPydantic (c.row slaResult i))) })

theorem Author.isOpen {c : PaymentCall} {rows : List PaymentTransactionORM}
    {x : Session paymentTable PaymentTransaction} (h : Author c slaResult i rows x) :
    x.isOpen = true := by
  cases h <;> rfl

variable {s s' : State τ paymentTable PaymentTransaction} {t : τ}

/-- **The step of a call that has found no payment.** It inserts its row exactly if the keys are
free. -/
theorem author_step {c : PaymentCall} {rows : List PaymentTransactionORM}
    (hrows : rows ⊆ s.committed) (h : Author c slaResult i rows (s.session t))
    (hstep : step s t = some s') : AuthorEffect c slaResult i rows s s' t := by
  generalize hx : s.session t = x at h
  cases h with
  | selecting =>
    rw [step_locking_nil (by rw [hx]), hx] at hstep
    obtain rfl := Option.some.inj hstep
    refine .goesOn rfl ?_
    rw [set_session_self]
    exact .creating
  | creating =>
    -- it has read that nothing is paid, and has not looked again
    have hview : s.view t = s.committed := view_eq_committed (by rw [hx]) (by rw [hx])
    rcases (insert_inv (by rw [hx]; rfl) hstep).2 with ⟨htaken, rfl⟩ | ⟨hany, rfl⟩
    · refine .fails rfl ?_ (set_session_self _)
      rw [keysFree_iff, ← hview, htaken]
      decide
    · rw [hview] at hany
      refine .goesOn rfl ?_
      rw [set_session_self, hx]
      exact .inserted ((keysFree_iff.mpr hany).subset hrows)
  | inserted hfree =>
    have hview : s.view t = s.committed ++ [c.row slaResult i] := by
      rw [view_eq_append (by rw [hx]), hx]
    rw [step_commit (by rw [hx])] at hstep
    obtain rfl := Option.some.inj hstep
    exact .stores hfree hview (set_session_self _)

/-! ## A call that finds a payment -/

theorem select_step (hid : slaResult.id = some i) {c : PaymentCall}
    (hidle : s.session t = { control := .running (c.createForSlaResultTxn slaResult) })
    (hstep : step s t = some s') :
    s' = s.set t
      { control := .locking (paysFor i) (s.committed.filter (paysFor i)) (c.afterSelect slaResult i)
        isOpen := true } := by
  have hview : s.view t = s.committed := view_eq_committed (by rw [hidle]) (by rw [hidle])
  rw [step_select (by rw [hidle, createForSlaResultTxn_eq hid]), hidle, hview] at hstep
  exact (Option.some.inj hstep).symm

theorem lock_step {c : PaymentCall} {k : PaymentTransactionORM} {cs : List PaymentTransactionORM}
    (hk : k ∈ s.committed) (hpays : paysFor i k = true)
    (hlocking : s.session t =
      { control := .locking (paysFor i) (k :: cs) (c.afterSelect slaResult i), isOpen := true })
    (hstep : step s t = some s') :
    ∃ r ∈ s.committed, paysFor i r = true ∧
      s' = s.set t
        { control := .running (.close (ormToPydantic r)), isOpen := true, locked := {r.id} } := by
  have hview : s.view t = s.committed := view_eq_committed (by rw [hlocking]) (by rw [hlocking])
  rcases (locking_inv (by rw [hlocking]) hstep).2 with ⟨r, hr, hid, hrpays, rfl⟩ | ⟨hnone, -⟩
  · rw [hview] at hr
    refine ⟨r, hr, hrpays, ?_⟩
    have hlocked : insert (paymentTable.id k) (∅ : Finset String) = {r.id} := by
      rw [← hid, insert_empty_eq]
      rfl
    simp only [hlocking, hlocked]
    rfl
  · rw [hview] at hnone
    rw [hnone k hk rfl] at hpays
    cases hpays

/-! ## Uncontended calls -/

/-- Where a call stands when `p` is the payment of the result. -/
inductive Served (c : PaymentCall) (slaResult : SLAResult) (i : Nat) (p : PaymentTransactionORM) :
    Session paymentTable PaymentTransaction → Prop where
  | idle : Served c slaResult i p { control := .running (c.createForSlaResultTxn slaResult) }
  | selecting : Served c slaResult i p
      { control := .locking (paysFor i) [p] (c.afterSelect slaResult i), isOpen := true }
  | found : Served c slaResult i p
      { control := .running (.close (ormToPydantic p)), isOpen := true, locked := {p.id} }
  | ended : Served c slaResult i p { control := .ended (some (ormToPydantic p)) }

variable {p : PaymentTransactionORM}

theorem served_step (hid : slaResult.id = some i) {c : PaymentCall}
    (hpaid : s.committed.filter (paysFor i) = [p]) (h : Served c slaResult i p (s.session t))
    (hstep : step s t = some s') :
    s'.committed = s.committed ∧ Served c slaResult i p (s'.session t) := by
  -- there is one payment to find
  have honly : ∀ r, (r ∈ s.committed ∧ paysFor i r = true) ↔ r = p := by
    intro r
    rw [← List.mem_filter, hpaid, List.mem_singleton]
  generalize hx : s.session t = x at h
  cases h with
  | idle =>
    obtain rfl := select_step hid hx hstep
    refine ⟨rfl, ?_⟩
    rw [set_session_self, hpaid]
    exact .selecting
  | selecting =>
    obtain ⟨hp, hpays⟩ := (honly p).mpr rfl
    obtain ⟨r, hr, hrpays, rfl⟩ := lock_step hp hpays hx hstep
    refine ⟨rfl, ?_⟩
    rw [set_session_self, (honly r).mp ⟨hr, hrpays⟩]
    exact .found
  | found =>
    rw [step_close (by rw [hx])] at hstep
    obtain rfl := Option.some.inj hstep
    refine ⟨rfl, ?_⟩
    rw [set_session_self]
    exact .ended
  | ended =>
    rw [step_ended (by rw [hx])] at hstep
    cases hstep

/-- The phases of an uncontended run: nothing is paid, one call is about to pay, the payment is
stored. -/
inductive PaymentPhase (db : Db) (call : τ → PaymentCall) (slaResult : SLAResult) (i : Nat)
    (s : State τ paymentTable PaymentTransaction) : Prop where
  | unpaid (hrows : s.committed = db.paymentTransactions)
      (hnone : s.committed.filter (paysFor i) = [])
      (hidle : ∀ t, s.session t =
        { control := .running ((call t).createForSlaResultTxn slaResult) })
  | paying (t : τ) (hrows : s.committed = db.paymentTransactions)
      (hnone : s.committed.filter (paysFor i) = [])
      (hfree : KeysFree s.committed ((call t).row slaResult i))
      (hauthor : Author (call t) slaResult i s.committed (s.session t))
      (hidle : ∀ u, u ≠ t → s.session u =
        { control := .running ((call u).createForSlaResultTxn slaResult) })
  | paid (p : PaymentTransactionORM) (hpaid : s.committed.filter (paysFor i) = [p])
      (halone : ∃ t, exec ((call t).createForSlaResultTxn slaResult) db.paymentTransactions
        db.paymentTransactions 0 = (some (ormToPydantic p), s.committed, 0))
      (hserved : ∀ t, Served (call t) slaResult i p (s.session t))

theorem alone_of_unpaid {row : PaymentTransactionORM} (hnone : s.committed.filter (paysFor i) = [])
    (h : (∃ p ∈ s.committed, paysFor i p = true) ∨ (NoneOpen s ∧ KeysFree s.committed row)) :
    NoneOpen s ∧ KeysFree s.committed row := by
  rcases h with hpaid | halone
  · obtain ⟨p, hp, hpays⟩ := hpaid
    exact absurd hpays (List.filter_eq_nil_iff.mp hnone p hp)
  · exact halone

/-- **The step of an uncontended run** stays in the phases. -/
theorem PaymentPhase.step (hid : slaResult.id = some i) {db : Db}
    (h : PaymentPhase db call slaResult i s)
    (hbegin : Begins (s, t) → (∃ p ∈ s.committed, paysFor i p = true) ∨
      (NoneOpen s ∧ KeysFree s.committed ((call t).row slaResult i)))
    (hstep : ReadCommitted.step s t = some s') : PaymentPhase db call slaResult i s' := by
  cases h with
  | unpaid hrows hnone hidle =>
    have hx := hidle t
    -- a first call begins, and from now on is the only one that is open
    obtain ⟨-, hfree⟩ := alone_of_unpaid hnone (hbegin (by rw [Begins, hx]))
    obtain rfl := select_step hid hx hstep
    refine .paying t hrows hnone hfree ?_ ?_
    · rw [set_session_self, hnone]
      exact .selecting
    · intro u hu
      rw [set_session_other _ hu]
      exact hidle u
  | paying v hrows hnone hfree hauthor hidle =>
    by_cases htv : t = v
    · subst htv
      have hothers : ∀ u, u ≠ t → s'.session u =
          { control := .running ((call u).createForSlaResultTxn slaResult) } := by
        intro u hu
        rw [step_other hstep hu]
        exact hidle u hu
      -- it goes on, or stores its row; its keys are free, so that it does not fail
      cases author_step (List.Subset.refl _) hauthor hstep with
      | goesOn hrows' hauthor' =>
        rw [← hrows'] at hnone hfree hauthor'
        exact .paying t (hrows'.trans hrows) hnone hfree hauthor' hothers
      | fails _ htaken => exact absurd hfree htaken
      | stores _ hrows' hended =>
        refine .paid ((call t).row slaResult i) ?_ ⟨t, ?_⟩ ?_
        · rw [hrows', List.filter_append, hnone, List.nil_append,
            List.filter_singleton, paysFor_row]
          rfl
        · have hfind : s.committed.find? (paysFor i) = none := by
            rw [← List.head?_filter, hnone]
            rfl
          rw [← hrows, exec_of_free hid hfind hfree, hrows']
        · intro u
          by_cases hu : u = t
          · rw [hu, hended]
            exact .ended
          · rw [hothers u hu]
            exact .idle
    · -- another call would begin while `v`'s transaction is open
      have hx := hidle t htv
      obtain ⟨hopen, -⟩ := alone_of_unpaid hnone (hbegin (by rw [Begins, hx]))
      have hv := hopen v
      rw [hauthor.isOpen] at hv
      cases hv
  | paid p hpaid halone hserved =>
    obtain ⟨hrows, hself⟩ := served_step hid hpaid (hserved t) hstep
    refine .paid p (by rw [hrows]; exact hpaid) (by rw [hrows]; exact halone) ?_
    intro u
    by_cases hu : u = t
    · rw [hu]
      exact hself
    · rw [step_other hstep hu]
      exact hserved u

theorem PaymentPhase.init (hid : slaResult.id = some i) [Nonempty τ] {db : Db}
    (h : Satisfies schema db) : PaymentPhase db call slaResult i (payments db call slaResult) := by
  have hvalid := ((satisfies_schema_iff db).mp h).2.2
  have hle : (db.paymentTransactions.filter (paysFor i)).length ≤ 1 :=
    Relational.filter_key_length_le_one hvalid.slaResult i
  rcases hfilter : db.paymentTransactions.filter (paysFor i) with - | ⟨p, - | ⟨q, rest⟩⟩
  · exact .unpaid rfl hfilter fun _ => rfl
  · obtain ⟨t⟩ := (inferInstance : Nonempty τ)
    refine .paid p hfilter ⟨t, ?_⟩ fun _ => .idle
    have hfind : db.paymentTransactions.find? (paysFor i) = some p := by
      rw [← List.head?_filter, hfilter]
      rfl
    exact exec_of_found hid (call t) hfind 0
  · rw [hfilter] at hle
    simp at hle

theorem Author.progress {c : PaymentCall} {rows : List PaymentTransactionORM}
    (h : Author c slaResult i rows (s.session t)) (hwait : s.mustWait t (c.row slaResult i) = false) :
    ReadCommitted.step s t ≠ none := by
  generalize hx : s.session t = x at h
  cases h with
  | selecting =>
    rw [step_locking_nil (by rw [hx])]
    exact Option.some_ne_none _
  | creating =>
    rw [step_insert (by rw [hx]; rfl), hwait]
    simp only [Bool.false_eq_true, if_false]
    split
    · exact Option.some_ne_none _
    · exact Option.some_ne_none _
  | inserted =>
    rw [step_commit (by rw [hx])]
    exact Option.some_ne_none _

/-- When no call can go on, the calls that the stored payment serves have ended: one that holds
its lock could go on. -/
theorem served_of_stuck (hid : slaResult.id = some i)
    (hserved : ∀ t, Served (call t) slaResult i p (s.session t)) (hstuck : Stuck s) (t : τ) :
    (s.session t).control = .ended (some (ormToPydantic p)) := by
  have hnotFound : ∀ u, (s.session u).control ≠ .running (.close (ormToPydantic p)) := by
    intro u hc
    have hstep := hstuck u
    rw [step_close hc] at hstep
    cases hstep
  have hstep := hstuck t
  have ht := hserved t
  generalize hx : s.session t = x at ht
  cases ht with
  | idle =>
    rw [step_select (by rw [hx, createForSlaResultTxn_eq hid])] at hstep
    cases hstep
  | selecting =>
    -- the lock would belong to a call that has found the payment, which can close
    have hlocked : s.lockedByOther t (paymentTable.id p) = false := by
      unfold State.lockedByOther
      rw [decide_eq_false_iff_not]
      intro hex
      obtain ⟨u, -, hmem⟩ := hex
      have hu := hserved u
      generalize hy : s.session u = y at hu hmem
      cases hu with
      | found => exact hnotFound u (by rw [hy])
      | idle => exact absurd hmem (Finset.notMem_empty _)
      | selecting => exact absurd hmem (Finset.notMem_empty _)
      | ended => exact absurd hmem (Finset.notMem_empty _)
    rw [step_locking_cons (by rw [hx]) hlocked] at hstep
    split at hstep
    · cases hstep
    · cases hstep
  | found => exact absurd (by rw [hx]) (hnotFound t)
  | ended => rfl

theorem PaymentPhase.ended_of_stuck (hid : slaResult.id = some i) [Nonempty τ] {db : Db}
    (h : PaymentPhase db call slaResult i s) (hstuck : Stuck s) :
    ∃ p, s.committed.filter (paysFor i) = [p] ∧
      (∀ t, (s.session t).control = .ended (some (ormToPydantic p))) ∧
      ∃ t, exec ((call t).createForSlaResultTxn slaResult) db.paymentTransactions
        db.paymentTransactions 0 = (some (ormToPydantic p), s.committed, 0) := by
  have hnotIdle : ∀ t, s.session t ≠
      { control := .running ((call t).createForSlaResultTxn slaResult) } := by
    intro t hx
    have hstep := hstuck t
    rw [step_select (by rw [hx, createForSlaResultTxn_eq hid])] at hstep
    cases hstep
  cases h with
  | unpaid _ _ hidle =>
    obtain ⟨t⟩ := (inferInstance : Nonempty τ)
    exact absurd (hidle t) (hnotIdle t)
  | paying v _ _ _ hauthor hidle =>
    -- the other calls have not begun
    have hwait : s.mustWait v ((call v).row slaResult i) = false := by
      unfold State.mustWait
      rw [decide_eq_false_iff_not]
      intro hex
      obtain ⟨u, hu, -⟩ := hex
      exact hnotIdle u (hidle u hu)
    exact absurd (hstuck v) (hauthor.progress hwait)
  | paid p hpaid halone hserved =>
    exact ⟨p, hpaid, served_of_stuck hid hserved hstuck, halone⟩

/-- **Calls that each find the payment, or are alone when they select**, return one payment. -/
theorem onePayment_of_uncontended (hid : slaResult.id = some i) [Nonempty τ] {db : Db}
    (h : Satisfies schema db) (hout : ∀ t, (call t).outageId ∈ db.outageIds)
    (hstored : i ∈ db.slaIds) {steps : List (State τ paymentTable PaymentTransaction × τ)}
    (hrun : ReadCommitted.Run τ paymentTable PaymentTransaction (payments db call slaResult) steps s)
    (huncontended : Uncontended call slaResult i steps) (hstuck : Stuck s) :
    ∃ p, OnePayment db call slaResult i s p := by
  have hphase : PaymentPhase db call slaResult i s := by
    refine Runs.Run.invariant_of_steps (I := PaymentPhase db call slaResult i) (.init hid h) hrun ?_
    intro x hx s' hphase hstep
    exact hphase.step hid (huncontended x hx) hstep
  obtain ⟨p, hrow, hreturned, t, hexec⟩ := hphase.ended_of_stuck hid hstuck
  refine ⟨p, hrow, hreturned, t, ?_⟩
  rw [exec_createForSlaResultTxn h (call t) hid (hout t) hstored] at hexec
  obtain ⟨hresult, hrest⟩ := Prod.mk.inj hexec
  exact ⟨hresult, (Prod.mk.inj hrest).1⟩

/-! ## Any interleaving -/

/-- Where a call stands, over the committed rows. -/
inductive PayStage (c : PaymentCall) (slaResult : SLAResult) (i : Nat)
    (rows : List PaymentTransactionORM) : Session paymentTable PaymentTransaction → Prop where
  | idle : PayStage c slaResult i rows { control := .running (c.createForSlaResultTxn slaResult) }
  | author (x : Session paymentTable PaymentTransaction) (h : Author c slaResult i [] x) :
      PayStage c slaResult i rows x
  | selecting (k : PaymentTransactionORM) (cs : List PaymentTransactionORM) (hk : k ∈ rows)
      (hpays : paysFor i k = true) : PayStage c slaResult i rows
        { control := .locking (paysFor i) (k :: cs) (c.afterSelect slaResult i), isOpen := true }
  | found (p : PaymentTransactionORM) (hp : p ∈ rows) (hpays : paysFor i p = true) :
      PayStage c slaResult i rows
        { control := .running (.close (ormToPydantic p)), isOpen := true, locked := {p.id} }
  | ended (result : Option PaymentTransaction) :
      PayStage c slaResult i rows { control := .ended result }

def PayInvariant (call : τ → PaymentCall) (slaResult : SLAResult) (i : Nat)
    (s : State τ paymentTable PaymentTransaction) : Prop :=
  ∀ t, PayStage (call t) slaResult i s.committed (s.session t)

theorem PayStage.subset {c : PaymentCall} {rows rows' : List PaymentTransactionORM}
    {x : Session paymentTable PaymentTransaction} (h : PayStage c slaResult i rows x)
    (hsub : rows ⊆ rows') : PayStage c slaResult i rows' x := by
  cases h with
  | idle => exact .idle
  | author _ hauthor => exact .author x hauthor
  | selecting k cs hk hpays => exact .selecting k cs (hsub hk) hpays
  | found p hp hpays => exact .found p (hsub hp) hpays
  | ended result => exact .ended result

theorem payStage_step (hid : slaResult.id = some i) {c : PaymentCall}
    (h : PayStage c slaResult i s.committed (s.session t)) (hstep : step s t = some s') :
    (s'.committed = s.committed ∨ s'.committed = s.committed ++ [c.row slaResult i]) ∧
      PayStage c slaResult i s'.committed (s'.session t) := by
  generalize hx : s.session t = x at h
  cases h with
  | idle =>
    obtain rfl := select_step hid hx hstep
    refine ⟨.inl rfl, ?_⟩
    rw [set_session_self, set_committed]
    -- what the SELECT returns decides which of the two the call is
    rcases hfilter : s.committed.filter (paysFor i) with - | ⟨k, cs⟩
    · exact .author _ .selecting
    · have hk : k ∈ s.committed.filter (paysFor i) := by
        rw [hfilter]
        exact List.mem_cons_self
      obtain ⟨hmem, hpays⟩ := List.mem_filter.mp hk
      exact .selecting k cs hmem hpays
  | author x hauthor =>
    rw [← hx] at hauthor
    cases author_step (List.nil_subset _) hauthor hstep with
    | goesOn hrows hauthor' => exact ⟨.inl hrows, .author _ hauthor'⟩
    | fails hrows _ hended =>
      rw [hended]
      exact ⟨.inl hrows, .ended none⟩
    | stores _ hrows hended =>
      rw [hended]
      exact ⟨.inr hrows, .ended _⟩
  | selecting k cs hk hpays =>
    obtain ⟨r, hr, hrpays, rfl⟩ := lock_step hk hpays hx hstep
    refine ⟨.inl rfl, ?_⟩
    rw [set_session_self]
    exact .found r hr hrpays
  | found p hp hpays =>
    rw [step_close (by rw [hx])] at hstep
    obtain rfl := Option.some.inj hstep
    refine ⟨.inl rfl, ?_⟩
    rw [set_session_self]
    exact .ended _
  | ended result =>
    rw [step_ended (by rw [hx])] at hstep
    cases hstep

/-- **Every interleaving** keeps the invariant, and the rows that are committed. -/
theorem PayInvariant.step (hid : slaResult.id = some i) (h : PayInvariant call slaResult i s)
    (hstep : ReadCommitted.step s t = some s') :
    PayInvariant call slaResult i s' ∧ s.committed <+: s'.committed := by
  obtain ⟨hrows, hself⟩ := payStage_step hid (h t) hstep
  have hprefix : s.committed <+: s'.committed := by
    rcases hrows with hrows | hrows
    · rw [hrows]
    · rw [hrows]
      exact List.prefix_append _ _
  refine ⟨?_, hprefix⟩
  intro u
  by_cases hu : u = t
  · rw [hu]
    exact hself
  · rw [step_other hstep hu]
    exact (h u).subset hprefix.subset

theorem author_of_open (h : PayInvariant call slaResult i s)
    (hnone : ∀ r ∈ s.committed, paysFor i r ≠ true) (hopen : (s.session t).isOpen = true) :
    Author (call t) slaResult i [] (s.session t) := by
  have hstage := h t
  generalize s.session t = x at hstage hopen
  cases hstage with
  | author _ hauthor => exact hauthor
  | idle => cases hopen
  | selecting k cs hk hpays => exact absurd hpays (hnone k hk)
  | found p hp hpays => exact absurd hpays (hnone p hp)
  | ended => cases hopen

def paidCount (i : Nat) (s : State τ paymentTable PaymentTransaction) : Nat :=
  (s.committed.filter (paysFor i)).length

theorem paidCount_append {c : PaymentCall}
    (hrows : s'.committed = s.committed ++ [c.row slaResult i]) :
    paidCount i s' = paidCount i s + 1 := by
  unfold paidCount
  rw [hrows, List.filter_append, List.length_append, List.filter_singleton, paysFor_row]
  rfl

theorem paidCount_mono (h : s.committed <+: s'.committed) : paidCount i s ≤ paidCount i s' :=
  (h.sublist.filter (paysFor i)).length_le

/-- Two calls that both found no payment: one has failed, or each of them has stored a row or is
about to. -/
inductive TwoAuthors (call : τ → PaymentCall) (slaResult : SLAResult) (i : Nat) (t u : τ)
    (s : State τ paymentTable PaymentTransaction) : Prop where
  | failed (v : τ) (hv : v = t ∨ v = u) (hended : s.session v = { control := .ended none })
  | both (ht : Author (call t) slaResult i [] (s.session t))
      (hu : Author (call u) slaResult i [] (s.session u))
  | one (v : τ) (hv : v = t ∨ v = u) (hauthor : Author (call v) slaResult i [] (s.session v))
      (hpaid : 1 ≤ paidCount i s)
  | stored (hpaid : 2 ≤ paidCount i s)

theorem TwoAuthors.symm {u : τ} (h : TwoAuthors call slaResult i t u s) :
    TwoAuthors call slaResult i u t s := by
  cases h with
  | failed v hv hended => exact .failed v hv.symm hended
  | both ht hu => exact .both hu ht
  | one v hv hauthor hpaid => exact .one v hv.symm hauthor hpaid
  | stored hpaid => exact .stored hpaid

theorem twoAuthors_of_both {u : τ} (hut : u ≠ t) (ht : Author (call t) slaResult i [] (s.session t))
    (hu : Author (call u) slaResult i [] (s.session u)) (hstep : step s t = some s') :
    TwoAuthors call slaResult i t u s' := by
  rw [← step_other hstep hut] at hu
  cases author_step (List.nil_subset _) ht hstep with
  | goesOn _ ht' => exact .both ht' hu
  | fails _ _ hended => exact .failed t (.inl rfl) hended
  | stores _ hrows _ =>
    have hcount := paidCount_append hrows
    have hpaid : 1 ≤ paidCount i s' := by omega
    exact .one u (.inr rfl) hu hpaid

/-- **Two calls that both found no payment** both insert a row, or one of them fails. -/
theorem TwoAuthors.step (hid : slaResult.id = some i) (hinv : PayInvariant call slaResult i s)
    {u v : τ} (hut : u ≠ t) (h : TwoAuthors call slaResult i t u s)
    (hstep : ReadCommitted.step s v = some s') : TwoAuthors call slaResult i t u s' := by
  have hmono := paidCount_mono (i := i) (hinv.step hid hstep).2
  cases h with
  | failed w hw hended =>
    by_cases hwv : w = v
    · rw [step_ended (by rw [← hwv, hended])] at hstep
      cases hstep
    · exact .failed w hw (by rw [step_other hstep hwv]; exact hended)
  | both ht hu =>
    by_cases hvt : v = t
    · rw [hvt] at hstep
      exact twoAuthors_of_both hut ht hu hstep
    · by_cases hvu : v = u
      · rw [hvu] at hstep
        exact (twoAuthors_of_both hut.symm hu ht hstep).symm
      · -- a third call leaves both as they are
        rw [← step_other hstep (Ne.symm hvt)] at ht
        rw [← step_other hstep (Ne.symm hvu)] at hu
        exact .both ht hu
  | one w hw hauthor hpaid =>
    by_cases hwv : w = v
    · rw [← hwv] at hstep
      cases author_step (List.nil_subset _) hauthor hstep with
      | goesOn _ hauthor' => exact .one w hw hauthor' (by omega)
      | fails _ _ hended => exact .failed w hw hended
      | stores _ hrows _ =>
        have hcount := paidCount_append hrows
        exact .stored (by omega)
    · rw [← step_other hstep hwv] at hauthor
      exact .one w hw hauthor (by omega)
  | stored hpaid => exact .stored (by omega)

theorem TwoAuthors.not_onePayment {db : Db} {u : τ} (h : TwoAuthors call slaResult i t u s) :
    ¬ OnePayment db call slaResult i s p := by
  intro hone
  have hnotAuthor : ∀ v, ¬ Author (call v) slaResult i [] (s.session v) := by
    intro v hauthor
    have hv := hone.returned v
    generalize s.session v = x at hauthor hv
    cases hauthor <;> cases hv
  cases h with
  | failed v _ hended =>
    have hv := hone.returned v
    rw [hended] at hv
    cases hv
  | both ht _ => exact hnotAuthor _ ht
  | one v _ hauthor _ => exact hnotAuthor v hauthor
  | stored hpaid =>
    have hcount : paidCount i s = 1 := by
      unfold paidCount
      rw [hone.row]
      rfl
    omega

/-- A call that found no payment next to `rows`: it has failed, or its keys were free there. -/
inductive Tried (c : PaymentCall) (slaResult : SLAResult) (i : Nat)
    (rows : List PaymentTransactionORM) (x : Session paymentTable PaymentTransaction) : Prop where
  | failed (hended : x = { control := .ended none })
  | author (hauthor : Author c slaResult i rows x)
  | stored (hfree : KeysFree rows (c.row slaResult i))

theorem Tried.step {rows : List PaymentTransactionORM} {v : τ} (hrows : rows ⊆ s.committed)
    (h : Tried (call t) slaResult i rows (s.session t)) (hstep : ReadCommitted.step s v = some s') :
    Tried (call t) slaResult i rows (s'.session t) := by
  cases h with
  | failed hended =>
    by_cases htv : t = v
    · rw [step_ended (by rw [← htv, hended])] at hstep
      cases hstep
    · rw [step_other hstep htv]
      exact .failed hended
  | author hauthor =>
    by_cases htv : t = v
    · rw [← htv] at hstep
      cases author_step hrows hauthor hstep with
      | goesOn _ hauthor' => exact .author hauthor'
      | fails _ _ hended => exact .failed hended
      | stores hfree _ _ => exact .stored hfree
    · rw [step_other hstep htv]
      exact .author hauthor
  | stored hfree => exact .stored hfree

/-! ## What a run obeys -/

theorem author_of_begins (hid : slaResult.id = some i) (hinv : PayInvariant call slaResult i s)
    (hnone : ∀ r ∈ s.committed, paysFor i r ≠ true) (hbegins : Begins (s, t))
    (hstep : step s t = some s') (rows : List PaymentTransactionORM) :
    Author (call t) slaResult i rows (s'.session t) := by
  have hstage := hinv t
  have hclosed : (s.session t).isOpen = false := hbegins
  generalize hx : s.session t = x at hstage hclosed
  cases hstage with
  | idle =>
    obtain rfl := select_step hid hx hstep
    rw [set_session_self, List.filter_eq_nil_iff.mpr hnone]
    exact .selecting
  | author _ hauthor =>
    rw [hauthor.isOpen] at hclosed
    cases hclosed
  | selecting => cases hclosed
  | found => cases hclosed
  | ended =>
    rw [step_ended (by rw [hx])] at hstep
    cases hstep

/-- **Concurrent calls for one result.** When no call can go on, all of them have returned the one
payment of the result exactly if each of them began when the payment was stored, or alone and with
free keys. -/
theorem concurrent_payment_iff [Nonempty τ] {db : Db} (h : Satisfies schema db)
    (hid : slaResult.id = some i) (hstored : i ∈ db.slaIds)
    (hout : ∀ t, (call t).outageId ∈ db.outageIds)
    {steps : List (State τ paymentTable PaymentTransaction × τ)}
    {s : State τ paymentTable PaymentTransaction}
    (hrun : ReadCommitted.Run τ paymentTable PaymentTransaction (payments db call slaResult) steps s)
    (hstuck : Stuck s) :
    (∃ p, OnePayment db call slaResult i s p) ↔ Uncontended call slaResult i steps := by
  refine ⟨?_, fun hun => onePayment_of_uncontended hid h hout hstored hrun hun hstuck⟩
  intro hone
  obtain ⟨p, hp⟩ := hone
  intro x hx hbegins
  obtain ⟨before, t⟩ := x
  by_cases hpaid : ∃ p ∈ before.committed, paysFor i p = true
  · exact .inl hpaid
  · right
    have hnone : ∀ r ∈ before.committed, paysFor i r ≠ true :=
      fun r hr hpays => hpaid ⟨r, hr, hpays⟩
    -- the run goes on from the step at which `t` finds no payment
    obtain ⟨l₁, l₂, rfl⟩ := List.append_of_mem hx
    obtain ⟨after, hpre, hstep, hpost⟩ := Runs.Run.split hrun
    have hbefore : PayInvariant call slaResult i before :=
      Runs.Run.invariant (I := PayInvariant call slaResult i) (fun _ => .idle)
        (fun _ _ _ hs hv => (hs.step hid hv).1) hpre
    obtain ⟨hafter, hgrown⟩ := hbefore.step hid hstep
    constructor
    · intro u
      rw [← Bool.not_eq_true]
      intro hopen
      have hut : u ≠ t := by
        intro hut
        rw [hut, show (before.session t).isOpen = false from hbegins] at hopen
        cases hopen
      have hboth : TwoAuthors call slaResult i t u after := by
        refine .both (author_of_begins hid hbefore hnone hbegins hstep []) ?_
        rw [step_other hstep hut]
        exact author_of_open hbefore hnone hopen
      have hend : PayInvariant call slaResult i s ∧ TwoAuthors call slaResult i t u s := by
        refine Runs.Run.invariant
          (I := fun s => PayInvariant call slaResult i s ∧ TwoAuthors call slaResult i t u s)
          ⟨hafter, hboth⟩ ?_ hpost
        intro s₁ v s₂ hs hv
        exact ⟨(hs.1.step hid hv).1, hs.2.step hid hs.1 hut hv⟩
      exact hend.2.not_onePayment hp
    · have htried : Tried (call t) slaResult i before.committed (after.session t) :=
        .author (author_of_begins hid hbefore hnone hbegins hstep _)
      have hend : (PayInvariant call slaResult i s ∧ before.committed ⊆ s.committed) ∧
          Tried (call t) slaResult i before.committed (s.session t) := by
        refine Runs.Run.invariant
          (I := fun s => (PayInvariant call slaResult i s ∧ before.committed ⊆ s.committed) ∧
            Tried (call t) slaResult i before.committed (s.session t))
          ⟨⟨hafter, hgrown.subset⟩, htried⟩ ?_ hpost
        intro s₁ v s₂ hs hv
        obtain ⟨⟨hinv, hsub⟩, htried⟩ := hs
        obtain ⟨hinv', hgrown'⟩ := hinv.step hid hv
        exact ⟨⟨hinv', fun r hr => hgrown'.subset (hsub hr)⟩, htried.step hsub hv⟩
      have hreturned := hp.returned t
      cases hend.2 with
      | failed hended =>
        rw [hended] at hreturned
        cases hreturned
      | author hauthor =>
        generalize s.session t = x at hauthor hreturned
        cases hauthor <;> cases hreturned
      | stored hfree => exact hfree

end PaymentCalls

/-! ## Two calls -/

instance (rows : List PaymentTransactionORM) (row : PaymentTransactionORM) :
    Decidable (KeysFree rows row) := decidable_of_iff _ keysFree_iff.symm

instance {τ : Type} [Fintype τ] (call : τ → PaymentCall) (slaResult : SLAResult) (i : Nat)
    (steps : List (State τ paymentTable PaymentTransaction × τ)) :
    Decidable (Uncontended call slaResult i steps) := by
  unfold Uncontended Begins NoneOpen; infer_instance

def twoPaymentCalls : Bool → PaymentCall
  | false => { uuidHex := "0123456789abcdef", now := 0, outageId := "outage-1" }
  | true => { uuidHex := "fedcba9876543210", now := 1, outageId := "outage-1" }

/-- One call after the other: the second one finds the payment. -/
def secondFinds : List Bool := List.replicate 4 false ++ List.replicate 3 true

theorem concurrent_payment_second_finds :
    ∃ steps s, ReadCommitted.Run Bool paymentTable PaymentTransaction
      (payments unpaidDb twoPaymentCalls lateSlaResult) steps s ∧ Stuck s ∧
      ∃ p, OnePayment unpaidDb twoPaymentCalls lateSlaResult 1 s p := by
  have hfollow : ((follow (payments unpaidDb twoPaymentCalls lateSlaResult) secondFinds).any
      fun rest => decide (Uncontended twoPaymentCalls lateSlaResult 1 rest.1 ∧ Stuck rest.2))
        = true := by
    decide +kernel
  obtain ⟨rest, hrest, hboth⟩ := (Option.any_eq_true _ _).mp hfollow
  obtain ⟨huncontended, hstuck⟩ := of_decide_eq_true hboth
  have hout : ∀ t, (twoPaymentCalls t).outageId ∈ unpaidDb.outageIds := by decide +kernel
  exact ⟨rest.1, rest.2, follow_run hrest, hstuck,
    (concurrent_payment_iff (by decide +kernel) rfl (by decide +kernel) hout
      (follow_run hrest) hstuck).mpr huncontended⟩

/-- Both calls select before one of them commits. -/
def bothFindNothing : List Bool := [false, true] ++ List.replicate 3 false ++ List.replicate 2 true

/-- The insert of the second call violates the unique indexes, and the call fails. -/
theorem concurrent_payment_both_find_nothing :
    ∃ steps s, ReadCommitted.Run Bool paymentTable PaymentTransaction
      (payments unpaidDb twoPaymentCalls lateSlaResult) steps s ∧ Stuck s ∧
      ¬ ∃ p, OnePayment unpaidDb twoPaymentCalls lateSlaResult 1 s p := by
  have hfollow : ((follow (payments unpaidDb twoPaymentCalls lateSlaResult) bothFindNothing).any
      fun rest => decide (Stuck rest.2 ∧ (rest.2.session true).failed = true)) = true := by
    decide +kernel
  obtain ⟨rest, hrest, hboth⟩ := (Option.any_eq_true _ _).mp hfollow
  obtain ⟨hstuck, hfailed⟩ := of_decide_eq_true hboth
  refine ⟨rest.1, rest.2, follow_run hrest, hstuck, ?_⟩
  intro hone
  obtain ⟨p, hp⟩ := hone
  unfold Session.failed at hfailed
  rw [hp.returned true] at hfailed
  cases hfailed

end NocIq
