import NocIq.Lib.OffsetPages
import NocIq.Payment.StatusMachine

/-!
# NocIq — the reconciliation history of a payment

`get_reconciliation_history` rebuilds the history of a payment from the audit log, and the endpoint
`GET /payments/{id}/reconciliation-history` validates it with a response model. The writers are the
other payment endpoints, each with its own event type and its own details.

* **`historyComplete_iff`** — only the payment's own rows count, in any order the query may deliver
  them.
* **`serve_history`** — which rows an event adds to them.
* **`payment_history_of_run`** — the history stays readable and complete exactly if every change of
  the status goes through `reconcile_payment`, at a later time than the payment's entries before it.
-/

namespace NocIq

open Relational PaymentRepository OffsetPages

/-! ## `get_reconciliation_history` -/

def historyEventTypes : List String := ["payment_reconciled", "payment_retried"]

/-- `details.get(key)`. -/
def AuditLogORM.detail (r : AuditLogORM) (key : String) : Option DetailValue := r.details.lookup key

/-- `a or b` on what `details.get` returns: `None`, `0` and the empty string are falsy. -/
def detailOr (a b : Option DetailValue) : Option DetailValue :=
  match a with
  | none | some .null | some (.int 0) | some (.str "") => b
  | some value => some value

def historyQuery (db : Db) : List AuditLogORM :=
  db.auditLogs.filter fun r => decide (r.eventType ∈ historyEventTypes)

/-- `ORDER BY created_at ASC`; rows of one time may come in any order. -/
abbrev HistoryDelivers (rows order : List AuditLogORM) : Prop :=
  OffsetPages.Delivers (ascending AuditLogORM.createdAt) rows order

/-- The delivered rows about a payment. -/
def historyRows (rows : List AuditLogORM) (transactionId : String) : List AuditLogORM :=
  rows.filter fun r => decide (r.detail "id" = some (.str transactionId))

/-- One dictionary of `get_reconciliation_history`. The payment endpoints log without an actor. -/
structure HistoryItem where
  eventType : String
  actor : Option String := none
  previousStatus : Option DetailValue
  newStatus : Option DetailValue
  timestamp : Time
  details : Option (List (String × DetailValue))
  deriving DecidableEq, Repr

/-- `{k: v for … if k not in {…}} or None`. -/
def otherDetails (details : List (String × DetailValue)) : Option (List (String × DetailValue)) :=
  match details.filter fun kv => decide (kv.1 ∉ ["previous_status", "status", "new_status", "id"]) with
  | [] => none
  | other => some other

def historyItem (r : AuditLogORM) : HistoryItem where
  eventType := r.eventType
  previousStatus := r.detail "previous_status"
  newStatus := detailOr (r.detail "status") (r.detail "new_status")
  timestamp := r.createdAt
  details := otherDetails r.details

/-- What it makes of the rows that its query has delivered. -/
def getReconciliationHistory (rows : List AuditLogORM) (transactionId : String) : List HistoryItem :=
  (historyRows rows transactionId).map historyItem

/-! ## The endpoint and its response model -/

structure ReconciliationHistoryEntry where
  eventType : String
  actor : Option String
  previousStatus : Option String
  newStatus : String
  timestamp : Time
  details : Option (List (String × DetailValue))
  deriving DecidableEq, Repr

structure ReconciliationHistoryResponse where
  transactionId : String
  currentStatus : String
  history : List ReconciliationHistoryEntry
  deriving DecidableEq, Repr

/-- A field of type `str`. -/
def strField : Option DetailValue → Option String
  | some (.str text) => some text
  | _ => none

/-- A field of type `Optional[str]`. -/
def optionalStrField : Option DetailValue → Option (Option String)
  | none | some .null => some none
  | some (.str text) => some (some text)
  | _ => none

/-- The entry of the response, if the dictionary validates. -/
def historyEntry (item : HistoryItem) : Option ReconciliationHistoryEntry := do
  let previousStatus ← optionalStrField item.previousStatus
  let newStatus ← strField item.newStatus
  return { item with previousStatus, newStatus }

/-- The locations pydantic reports for the `i`-th dictionary. -/
def historyErrors (item : HistoryItem) (i : Nat) : List String :=
  (if (optionalStrField item.previousStatus).isNone then [s!"history.{i}.previous_status"] else []) ++
    if (strField item.newStatus).isNone then [s!"history.{i}.new_status"] else []

def getPaymentReconciliationHistory (rows : List AuditLogORM) (transactionId : String) (s : Server) :
    Except Exc ReconciliationHistoryResponse :=
  match get s.db transactionId with
  | none => .error (.http 404 "Payment not found")
  | some payment =>
    let history := getReconciliationHistory rows transactionId
    match history.mapM historyEntry with
    | some history => .ok { transactionId, currentStatus := payment.status, history }
    | none =>
      .error (.validationError (history.zipIdx.flatMap fun item => historyErrors item.1 item.2))

/-- `POST /payments/{id}/replay`. On the server it does what `replay_dead_letter` does. -/
def replayDeadLetterPayment (transactionId : String) (now : Time) (s : Server) :
    Except Exc (Option PaymentTransaction) × Server :=
  match replayDeadLetter transactionId now s.db with
  | (.ok none, db) =>
    (.error (.http 404 "Payment not found or not in dead_letter state"), { s with db })
  | (result, db) => (result, { s with db })

theorem replayDeadLetterPayment_server (d : Deployment) (transactionId : String) (now : Time)
    (s : Server) :
    (replayDeadLetterPayment transactionId now s).2 =
      (serve d s (.replayDeadLetter transactionId now)).2 := by
  unfold replayDeadLetterPayment
  show _ = { s with db := (replayDeadLetter transactionId now s.db).2 }
  split <;> simp_all

/-! ## Chains of status changes -/

/-- The pairs lead from `start` to `final`, each from where the one before it led. -/
def Chain : String → List (Option String × String) → String → Prop
  | start, [], final => start = final
  | start, (previous, next) :: rest, final => previous = some start ∧ Chain next rest final

variable {a b : String}

theorem Chain.end_unique {start : String} {l : List (Option String × String)} (ha : Chain start l a)
    (hb : Chain start l b) : a = b := by
  induction l generalizing start with
  | nil => exact ha.symm.trans hb
  | cons pair l ih => exact ih ha.2 hb.2

theorem chain_concat {start : String} {l : List (Option String × String)}
    {pair : Option String × String} (ha : Chain start l a) :
    Chain start (l ++ [pair]) b ↔ pair.1 = some a ∧ pair.2 = b := by
  induction l generalizing start with
  | nil =>
    obtain rfl : start = a := ha
    exact Iff.rfl
  | cons first l ih =>
    obtain ⟨hfirst, hrest⟩ := ha
    constructor
    · intro h
      exact (ih hrest).mp h.2
    · intro h
      exact ⟨hfirst, (ih hrest).mpr h⟩

/-- A pair that can stand before another one in a chain leads nowhere. Induction on what is before
them. -/
theorem Chain.of_inserted {start : String} {xs ys : List (Option String × String)}
    {pair next : Option String × String} (h : Chain start (xs ++ next :: ys) a)
    (h' : Chain start (xs ++ pair :: next :: ys) b) : pair.1 = some pair.2 := by
  induction xs generalizing start with
  | nil =>
    obtain ⟨hnext, -⟩ := h
    obtain ⟨hpair, hnext', -⟩ := h'
    rw [hpair, ← hnext, hnext']
  | cons first xs ih => exact ih h.2 h'.2

def ReconciliationHistoryEntry.link (e : ReconciliationHistoryEntry) : Option String × String :=
  (e.previousStatus, e.newStatus)

/-- The history of the payment can be read, and is the chain of its statuses from `pending` to the
current one, in whatever order the query delivers its rows. -/
def HistoryComplete (paymentId : String) (s : Server) : Prop :=
  ∀ rows, HistoryDelivers (historyQuery s.db) rows →
    ∃ response, getPaymentReconciliationHistory rows paymentId s = .ok response ∧
      Chain "pending" (response.history.map (·.link)) response.currentStatus

/-- The rows are a readable history that ends at the status. -/
def RowsComplete (rows : List AuditLogORM) (status : String) : Prop :=
  ∃ entries, (rows.map historyItem).mapM historyEntry = some entries ∧
    Chain "pending" (entries.map (·.link)) status

/-- The rows of the audit log that are entries of the payment's history. -/
def ownRows (db : Db) (transactionId : String) : List AuditLogORM :=
  historyRows (historyQuery db) transactionId

variable {rows : List AuditLogORM} {db : Db}

theorem delivers_ownRows (transactionId : String) (h : HistoryDelivers (historyQuery db) rows) :
    HistoryDelivers (ownRows db transactionId) (historyRows rows transactionId) :=
  ⟨h.perm.filter _, h.sorted.filter _⟩

/-- Every order of the payment's own rows is delivered: the other rows can be sorted into it. -/
theorem exists_delivers_ownRows {transactionId : String} {order : List AuditLogORM}
    (h : HistoryDelivers (ownRows db transactionId) order) :
    ∃ rows, HistoryDelivers (historyQuery db) rows ∧ historyRows rows transactionId = order := by
  have hown : historyRows order transactionId = order := by
    refine List.filter_eq_self.mpr fun r hr => ?_
    exact (List.mem_filter.mp (h.perm.mem_iff.mp hr)).2
  have hsplit := List.filter_append_perm
    (fun r : AuditLogORM => decide (r.detail "id" = some (.str transactionId))) (historyQuery db)
  generalize hothers : (historyQuery db).filter
    (fun r => !decide (r.detail "id" = some (.str transactionId))) = others at hsplit
  have hperm := List.perm_insertionSort (ascending AuditLogORM.createdAt) (order ++ others)
  have hall : (order ++ others).Perm (historyQuery db) := (h.perm.append_right others).trans hsplit
  refine ⟨_, ⟨hperm.trans hall, List.pairwise_insertionSort _ _⟩, ?_⟩
  -- the own rows are among the sorted ones in their order, and there are no more of them
  have hsublist := (List.sublist_insertionSort h.sorted (List.sublist_append_left order others)).filter
    fun r : AuditLogORM => decide (r.detail "id" = some (.str transactionId))
  have hlength := ((hperm.trans hall).filter
    fun r : AuditLogORM => decide (r.detail "id" = some (.str transactionId))).length_eq
  refine (hsublist.eq_of_length ?_).symm.trans hown
  exact ((congrArg List.length hown).trans h.perm.length_eq).trans hlength.symm

variable {p : PaymentTransactionORM} {paymentId : String} {s : Server}

/-- **Only the payment's own rows count**, in any order of their times. -/
theorem historyComplete_iff (hfind : findPayment s.db paymentId = some p) :
    HistoryComplete paymentId s ↔
      ∀ order, HistoryDelivers (ownRows s.db paymentId) order → RowsComplete order p.status := by
  have hget : get s.db paymentId = some (ormToPydantic p) := by
    unfold PaymentRepository.get
    rw [hfind]
    rfl
  have hrows : ∀ rows, (∃ response, getPaymentReconciliationHistory rows paymentId s = .ok response ∧
      Chain "pending" (response.history.map (·.link)) response.currentStatus) ↔
      RowsComplete (historyRows rows paymentId) p.status := by
    intro rows
    unfold getPaymentReconciliationHistory getReconciliationHistory RowsComplete
    rw [hget]
    dsimp only
    -- the response model refuses the whole list if one entry does not fit
    cases (List.map historyItem (historyRows rows paymentId)).mapM historyEntry with
    | none =>
      constructor
      · rintro ⟨response, hresponse, -⟩
        cases hresponse
      · rintro ⟨entries, hentries, -⟩
        cases hentries
    | some entries =>
      constructor
      · rintro ⟨response, hresponse, hchain⟩
        obtain rfl := Except.ok.inj hresponse
        exact ⟨entries, rfl, hchain⟩
      · rintro ⟨entries', hentries, hchain⟩
        obtain rfl := Option.some.inj hentries
        exact ⟨_, rfl, hchain⟩
  constructor
  · intro h order horder
    obtain ⟨rows, hdelivers, rfl⟩ := exists_delivers_ownRows horder
    exact (hrows rows).mp (h rows hdelivers)
  · intro h rows hdelivers
    exact (hrows rows).mpr (h _ (delivers_ownRows paymentId hdelivers))

variable {status : String}

theorem RowsComplete.status_iff {status' : String} (h : RowsComplete rows status) :
    RowsComplete rows status' ↔ status' = status := by
  constructor
  · intro h'
    obtain ⟨entries, hentries, hchain⟩ := h
    obtain ⟨entries', hentries', hchain'⟩ := h'
    rw [hentries] at hentries'
    obtain rfl := Option.some.inj hentries'
    exact hchain'.end_unique hchain
  · intro heq
    rw [heq]
    exact h

variable {r : AuditLogORM}

theorem RowsComplete.concat_iff {status' : String} (h : RowsComplete rows status) :
    RowsComplete (rows ++ [r]) status' ↔
      ∃ entry, historyEntry (historyItem r) = some entry ∧
        entry.link = (some status, status') := by
  obtain ⟨entries, hentries, hchain⟩ := h
  unfold RowsComplete
  rw [List.map_append, List.mapM_append, hentries]
  cases hentry : historyEntry (historyItem r) with
  | none => simp [hentry]
  | some entry => simp [hentry, chain_concat hchain, Prod.ext_iff]

theorem not_rowsComplete_of_mem (hr : r ∈ rows) (hnone : historyEntry (historyItem r) = none)
    (status : String) : ¬ RowsComplete rows status := by
  rintro ⟨entries, hentries, -⟩
  obtain ⟨xs, ys, rfl⟩ := List.append_of_mem hr
  rw [List.map_append, List.map_cons, List.mapM_append, List.mapM_cons, hnone] at hentries
  cases hxs : (xs.map historyItem).mapM historyEntry with
  | none => simp [hxs] at hentries
  | some before => simp [hxs] at hentries

theorem RowsComplete.not_inserted {xs ys : List AuditLogORM} {next : AuditLogORM}
    {entry : ReconciliationHistoryEntry} (h : RowsComplete (xs ++ next :: ys) a)
    (hentry : historyEntry (historyItem r) = some entry)
    (hchange : entry.previousStatus ≠ some entry.newStatus) :
    ¬ RowsComplete (xs ++ r :: next :: ys) b := by
  rintro ⟨entries', hentries', hchain'⟩
  obtain ⟨entries, hentries, hchain⟩ := h
  simp only [List.map_append, List.map_cons, List.mapM_append, List.mapM_cons, Option.bind_eq_bind,
    Option.bind_eq_some_iff, Option.pure_def, Option.some.injEq] at hentries hentries'
  obtain ⟨before, hbefore, _, ⟨first, hfirst, rest, hrest, rfl⟩, rfl⟩ := hentries
  obtain ⟨before', hbefore', _, ⟨entry', hentry', _, ⟨first', hfirst', rest', hrest', rfl⟩, rfl⟩,
    rfl⟩ := hentries'
  rw [hbefore] at hbefore'
  rw [hfirst] at hfirst'
  rw [hrest] at hrest'
  rw [hentry] at hentry'
  obtain rfl := Option.some.inj hbefore'
  obtain rfl := Option.some.inj hfirst'
  obtain rfl := Option.some.inj hrest'
  obtain rfl := Option.some.inj hentry'
  rw [List.map_append, List.map_cons] at hchain hchain'
  exact hchange (hchain.of_inserted hchain')

/-! ## Orders of the entries -/

/-- In every order the rows are a readable history that ends at the status. -/
def OrdersComplete (own : List AuditLogORM) (status : String) : Prop :=
  ∀ order, HistoryDelivers own order → RowsComplete order status

variable {own : List AuditLogORM}

theorem OrdersComplete.status_iff {status' : String} (h : OrdersComplete own status) :
    OrdersComplete own status' ↔ status' = status := by
  obtain ⟨order, horder⟩ := exists_delivers (ascending AuditLogORM.createdAt) own
  constructor
  · intro h'
    exact (h order horder).status_iff.mp (h' order horder)
  · intro heq
    rw [heq]
    exact h

theorem delivers_without {xs ys : List AuditLogORM}
    (h : HistoryDelivers (own ++ [r]) (xs ++ r :: ys)) : HistoryDelivers own (xs ++ ys) := by
  have hperm : (r :: (xs ++ ys)).Perm (r :: own) :=
    (List.perm_middle.symm.trans h.perm).trans (List.perm_append_singleton r own)
  exact ⟨hperm.cons_inv, h.sorted.sublist (List.Sublist.append_left (List.sublist_cons_self r ys) xs)⟩

/-- **One more entry.** If it records the change of the status, the history stays complete exactly
if the entry is later than all the others. -/
theorem OrdersComplete.concat_iff {entry : ReconciliationHistoryEntry} (h : OrdersComplete own a)
    (hentry : historyEntry (historyItem r) = some entry) (hlink : entry.link = (some a, b))
    (hab : a ≠ b) : OrdersComplete (own ++ [r]) b ↔ ∀ row ∈ own, row.createdAt < r.createdAt := by
  constructor
  · intro hall row hrow
    by_contra hlate
    -- the new row can stand before the late one, in the middle of a chain
    obtain ⟨xs, ys, hdelivers, hlength⟩ := exists_delivers_at_first
      (ascending AuditLogORM.createdAt) (List.mem_append_right own (List.mem_singleton_self r))
    have hothers := delivers_without hdelivers
    have hfew : xs.length < own.length := by
      rw [hlength, firstPlace, List.countP_append, List.countP_singleton, if_neg (by simp [le_self]),
        Nat.add_zero]
      refine lt_of_le_of_ne List.countP_le_length fun hevery => hlate ?_
      have hbefore := List.countP_eq_length.mp hevery row hrow
      simp only [Bool.not_eq_true', decide_eq_false_iff_not] at hbefore
      exact lt_of_not_ge hbefore
    have hsum := hothers.perm.length_eq
    rw [List.length_append] at hsum
    cases ys with
    | nil =>
      rw [List.length_nil] at hsum
      omega
    | cons next ys =>
      obtain ⟨hprevious, hnew⟩ := Prod.mk.inj hlink
      refine (h _ hothers).not_inserted hentry ?_ (hall _ hdelivers)
      rw [show entry.previousStatus = some a from hprevious, show entry.newStatus = b from hnew]
      exact fun heq => hab (Option.some.inj heq)
  · intro hlater order horder
    have hr : r ∈ order := horder.perm.mem_iff.mpr (List.mem_append_right _ (List.mem_singleton_self r))
    obtain ⟨xs, ys, rfl⟩ := List.append_of_mem hr
    have hothers := delivers_without horder
    cases ys with
    | nil =>
      rw [List.append_nil] at hothers
      exact (h xs hothers).concat_iff.mpr ⟨entry, hentry, hlink⟩
    | cons next ys =>
      -- nothing that is earlier than the new row comes after it
      have hnext : next ∈ own := hothers.perm.mem_iff.mp
        (List.mem_append_right _ List.mem_cons_self)
      have hle := (List.pairwise_cons.mp (List.pairwise_append.mp horder.sorted).2.1).1 next
        List.mem_cons_self
      exact absurd (hlater next hnext) (not_lt.mpr hle)

theorem not_ordersComplete_of_none (hnone : historyEntry (historyItem r) = none) (status : String) :
    ¬ OrdersComplete (own ++ [r]) status := by
  intro hall
  obtain ⟨order, horder⟩ := exists_delivers (ascending AuditLogORM.createdAt) (own ++ [r])
  have hr := horder.perm.mem_iff.mpr (List.mem_append_right own (List.mem_singleton_self r))
  exact not_rowsComplete_of_mem hr hnone status (hall order horder)

/-! ## What an audit row adds -/

/-- The row is an entry of the payment's history. -/
def AuditLogORM.about (r : AuditLogORM) (transactionId : String) : Prop :=
  r.eventType ∈ historyEventTypes ∧ r.detail "id" = some (.str transactionId)

instance (r : AuditLogORM) (transactionId : String) : Decidable (r.about transactionId) := by
  unfold AuditLogORM.about; infer_instance

/-- **One more audit row.** It is an entry of the payments it is about, and of none of the others. -/
theorem ownRows_concat {db' : Db} (hlogs : db'.auditLogs = db.auditLogs ++ [r])
    (transactionId : String) :
    ownRows db' transactionId =
      ownRows db transactionId ++ if r.about transactionId then [r] else [] := by
  unfold ownRows historyRows historyQuery
  rw [hlogs, List.filter_append, List.filter_append]
  unfold AuditLogORM.about
  by_cases htype : r.eventType ∈ historyEventTypes <;>
    by_cases hid : r.detail "id" = some (.str transactionId) <;> simp [htype, hid]

/-! ## What an event adds -/

/-- The clock of an event that writes to the audit log. -/
def ServiceEvent.now : ServiceEvent → Option Time
  | .updateStatus _ _ now | .reconcile _ _ now | .retry _ now | .replayDeadLetter _ now
  | .providerCallback _ _ _ now | .retryPayment _ now | .reconcilePayment _ _ now => some now
  | .wait .. | .restart .. => none

/-- The event is a request to an endpoint, or an event of the process; the repository is not called
past the endpoints. -/
def ServiceEvent.throughEndpoint : ServiceEvent → Prop
  | .updateStatus .. | .reconcile .. | .retry .. => False
  | _ => True

instance (e : ServiceEvent) : Decidable e.throughEndpoint := by
  unfold ServiceEvent.throughEndpoint
  split <;> infer_instance

/-- The event carries out its action on the payment. -/
def Acts (d : Deployment) (paymentId : String) (s : Server) (e : ServiceEvent) : Prop :=
  ∃ a p, requestedAction d s e = some (paymentId, a) ∧ findPayment s.db paymentId = some p ∧
    (PaymentRepository.applyAction p a).isSome

/-- The audit row of a `reconcile_payment` and of a `retry_payment` that go through. -/
def reconciledRow (paymentId previous status : String) (now : Time) : AuditLogORM where
  eventType := "payment_reconciled"
  details := [("id", .str paymentId), ("previous_status", .str previous), ("status", .str status)]
  createdAt := now

def retriedRow (paymentId : String) (retryCount : Nat) (now : Time) : AuditLogORM where
  eventType := "payment_retried"
  details := [("id", .str paymentId), ("retry_count", .int retryCount)]
  createdAt := now

theorem ownRows_congr {db' : Db}
    (h : db'.auditLogs.filter (fun r => decide (r.eventType ∈ historyEventTypes)) =
      db.auditLogs.filter fun r => decide (r.eventType ∈ historyEventTypes))
    (transactionId : String) : ownRows db' transactionId = ownRows db transactionId := by
  unfold ownRows historyQuery
  rw [h]

variable {i : String}

theorem auditLogs_of_effect {a : RowAction} {outcome : Except Exc (Option PaymentTransaction) × Db}
    (h : ActionEffect db i a outcome) : outcome.2.auditLogs = db.auditLogs := by
  cases h with
  | refused => rfl
  | changed => rfl

theorem reconcilePayment_logs (h : Satisfies schema s.db) (hfind : findPayment s.db i = some p)
    (status : String) (now : Time) :
    (reconcilePayment i status now s).2.db.auditLogs =
      s.db.auditLogs ++
        if (PaymentRepository.applyAction p (.setStatus status now)).isSome then
          [reconciledRow i p.status status now]
        else [] := by
  have heffect := setStatus_effect h i status now
  unfold reconcilePayment PaymentRepository.get
  rw [hfind, Option.map_some]
  dsimp only
  rw [show reconcile = setStatus from rfl]
  generalize setStatus i status now s.db = outcome at heffect
  cases heffect with
  | refused hresult hrefused =>
    rw [hrefused p hfind]
    rcases hresult with rfl | ⟨_, _, _, rfl⟩ <;> simp
  | changed hfind' haction =>
    rw [hfind] at hfind'
    obtain rfl := Option.some.inj hfind'
    rw [haction]
    rfl

theorem retryPayment_logs (h : Satisfies schema s.db) (hfind : findPayment s.db i = some p)
    (now : Time) :
    (retryPayment i now s).2.db.auditLogs =
      s.db.auditLogs ++
        match PaymentRepository.applyAction p (.retry now) with
        | some p' => [retriedRow i p'.retryCount now]
        | none => [] := by
  have heffect := retry_effect h i now
  unfold retryPayment PaymentRepository.get
  rw [hfind, Option.map_some]
  dsimp only
  generalize retry i now s.db = outcome at heffect
  cases heffect with
  | refused hresult hrefused =>
    rw [hrefused p hfind]
    rcases hresult with rfl | ⟨_, _, _, rfl⟩ <;> simp
  | changed hfind' haction =>
    rw [hfind] at hfind'
    obtain rfl := Option.some.inj hfind'
    rw [haction]
    rfl

variable {d : Deployment}

theorem rejectedSignature_eventType {req : CallbackRequest} {e : Exc} {eventType : String}
    (h : rejectedSignature d req = some (e, some eventType)) : eventType ∉ historyEventTypes := by
  unfold rejectedSignature at h
  split at h
  · cases h
  · split at h
    · obtain ⟨-, hevent⟩ := Prod.mk.inj (Option.some.inj h)
      rw [← Option.some.inj hevent]
      decide
    · split at h
      · cases (Prod.mk.inj (Option.some.inj h)).2
      · obtain ⟨-, hevent⟩ := Prod.mk.inj (Option.some.inj h)
        rw [← Option.some.inj hevent]
        decide
      · cases h

theorem filter_log (s : Server) {eventType : String} (details : List (String × DetailValue))
    (now : Time) (hother : eventType ∉ historyEventTypes) :
    ((s.log eventType details now).db.auditLogs).filter
        (fun r => decide (r.eventType ∈ historyEventTypes)) =
      s.db.auditLogs.filter fun r => decide (r.eventType ∈ historyEventTypes) := by
  unfold Server.log
  simp [List.filter_append, hother]

theorem applyCallback_logs (h : Satisfies schema s.db) (req : CallbackRequest) (now : Time) :
    ((applyCallback req now s).2.db.auditLogs).filter
        (fun r => decide (r.eventType ∈ historyEventTypes)) =
      s.db.auditLogs.filter fun r => decide (r.eventType ∈ historyEventTypes) := by
  have heffect := setStatus_effect h req.payload.transactionId req.payload.status now
  have hlogs := auditLogs_of_effect heffect
  unfold applyCallback
  dsimp only
  rw [show reconcile = setStatus from rfl]
  split
  · exact filter_log s _ now (by decide)
  · split
    · rfl
    · -- every entry of the callback has a type the history does not list
      split
      · rename_i heq
        rw [filter_log _ _ now (by decide)]
        show List.filter _ _ = _
        rw [heq] at hlogs
        exact congrArg _ hlogs
      · rename_i heq
        rw [heq] at hlogs
        exact congrArg _ hlogs
      · rename_i heq
        rw [filter_log _ _ now (by decide)]
        rw [heq] at hlogs
        exact congrArg _ hlogs

theorem providerCallback_logs (h : Satisfies schema s.db) (req : CallbackRequest) (worker : Nat)
    (pause : ℚ≥0) (now : Time) :
    ((providerCallback d req worker pause now s).2.db.auditLogs).filter
        (fun r => decide (r.eventType ∈ historyEventTypes)) =
      s.db.auditLogs.filter fun r => decide (r.eventType ∈ historyEventTypes) := by
  have hdb := checkNonce_db worker pause (effectiveNonce req) s
  unfold providerCallback
  split
  · rfl
  · rename_i hsig
    exact filter_log s _ now (rejectedSignature_eventType hsig)
  · dsimp only
    split
    · rw [filter_log _ _ now (by decide), hdb]
    · have h' : Satisfies schema (checkNonce worker pause (effectiveNonce req) s).2.db := by
        rw [hdb]
        exact h
      rw [applyCallback_logs h' req now, hdb]

/-- The rows an event adds to the history of the payment `p`. -/
def addedRows (paymentId : String) (p : PaymentTransactionORM) : ServiceEvent → List AuditLogORM
  | .reconcilePayment i status now =>
    if i = paymentId ∧ (PaymentRepository.applyAction p (.setStatus status now)).isSome then
      [reconciledRow paymentId p.status status now]
    else []
  | .retryPayment i now =>
    if i = paymentId then
      match PaymentRepository.applyAction p (.retry now) with
      | some p' => [retriedRow paymentId p'.retryCount now]
      | none => []
    else []
  | _ => []

theorem about_iff_of_id (htype : r.eventType ∈ historyEventTypes)
    (hid : r.detail "id" = some (.str i)) (transactionId : String) :
    r.about transactionId ↔ i = transactionId := by
  unfold AuditLogORM.about
  rw [hid]
  simp [htype]

/-- An event about the payment `i` that appended at most one row, about `i`. -/
theorem ownRows_append {db' : Db} (hlogs : db'.auditLogs = db.auditLogs ++ rows)
    (hrows : rows = [] ∨ ∃ r, rows = [r] ∧ r.eventType ∈ historyEventTypes ∧
      r.detail "id" = some (.str i))
    (transactionId : String) :
    ownRows db' transactionId =
      ownRows db transactionId ++ if i = transactionId then rows else [] := by
  rcases hrows with rfl | ⟨r, rfl, htype, hid⟩
  · rw [List.append_nil] at hlogs
    rw [ite_self, List.append_nil]
    exact ownRows_congr (by rw [hlogs]) transactionId
  · rw [ownRows_concat hlogs transactionId]
    simp only [about_iff_of_id htype hid]

theorem ne_of_missing (hi : findPayment db i = none) (hfind : findPayment db paymentId = some p) :
    i ≠ paymentId := by
  rintro rfl
  rw [hfind] at hi
  cases hi

theorem reconcilePayment_history {now : Time} (h : Satisfies schema s.db)
    (hfind : findPayment s.db paymentId = some p) :
    ownRows (reconcilePayment i status now s).2.db paymentId =
      ownRows s.db paymentId ++ addedRows paymentId p (.reconcilePayment i status now) := by
  cases hi : findPayment s.db i with
  | none =>
    have hsame : (reconcilePayment i status now s).2 = s := by
      unfold reconcilePayment PaymentRepository.get
      rw [hi]
      rfl
    rw [hsame]
    simp [addedRows, ne_of_missing hi hfind]
  | some q =>
    have htype : "payment_reconciled" ∈ historyEventTypes := by decide
    rw [ownRows_append (i := i) (reconcilePayment_logs h hi status now) ?_ paymentId]
    · congr 1
      by_cases hip : i = paymentId
      · subst hip
        rw [hfind] at hi
        obtain rfl := Option.some.inj hi
        simp [addedRows]
      · simp [addedRows, hip]
    · -- one row if the change went through
      split
      · exact .inr ⟨_, rfl, htype, rfl⟩
      · exact .inl rfl

theorem retryPayment_history {now : Time} (h : Satisfies schema s.db)
    (hfind : findPayment s.db paymentId = some p) :
    ownRows (retryPayment i now s).2.db paymentId =
      ownRows s.db paymentId ++ addedRows paymentId p (.retryPayment i now) := by
  cases hi : findPayment s.db i with
  | none =>
    have hsame : (retryPayment i now s).2 = s := by
      unfold retryPayment PaymentRepository.get
      rw [hi]
      rfl
    rw [hsame]
    simp [addedRows, ne_of_missing hi hfind]
  | some q =>
    have htype : "payment_retried" ∈ historyEventTypes := by decide
    rw [ownRows_append (i := i) (retryPayment_logs h hi now) ?_ paymentId]
    · congr 1
      by_cases hip : i = paymentId
      · subst hip
        rw [hfind] at hi
        obtain rfl := Option.some.inj hi
        simp [addedRows]
      · simp [addedRows, hip]
    · split
      · exact .inr ⟨_, rfl, htype, rfl⟩
      · exact .inl rfl

variable {e : ServiceEvent}

/-- **What an event adds to the entries of a payment.** -/
theorem serve_history (h : Satisfies schema s.db) (hendpoint : e.throughEndpoint)
    (hfind : findPayment s.db paymentId = some p) :
    ownRows (serve d s e).2.db paymentId =
      ownRows s.db paymentId ++ addedRows paymentId p e := by
  -- an event that writes no entry of the history
  have hquiet : ∀ {s' : Server},
      (s'.db.auditLogs).filter (fun r => decide (r.eventType ∈ historyEventTypes)) =
        s.db.auditLogs.filter (fun r => decide (r.eventType ∈ historyEventTypes)) →
      ownRows s'.db paymentId = ownRows s.db paymentId ++ [] := by
    intro s' hsame
    rw [List.append_nil]
    exact ownRows_congr hsame paymentId
  cases e with
  | updateStatus i status now => exact hendpoint.elim
  | reconcile i status now => exact hendpoint.elim
  | retry i now => exact hendpoint.elim
  | replayDeadLetter i now =>
    exact hquiet (congrArg _ (auditLogs_of_effect (replayDeadLetter_effect h i now)))
  | providerCallback req worker pause now => exact hquiet (providerCallback_logs h req worker pause now)
  | wait worker elapsed => exact hquiet rfl
  | restart worker clock => exact hquiet rfl
  | reconcilePayment i status now => exact reconcilePayment_history h hfind
  | retryPayment i now => exact retryPayment_history h hfind

/-! ## When the history stays complete -/

/-- The event changes the status of the payment without an entry that records both statuses: a
retry, a callback or a dead-letter replay that goes through. -/
def BypassesHistory (d : Deployment) (paymentId : String) (s : Server) (e : ServiceEvent) : Prop :=
  Acts d paymentId s e ∧ ∀ i status now, e ≠ .reconcilePayment i status now

/-- The event changes the status of the payment at a time that is not later than all the entries of
its history. -/
def DisordersHistory (d : Deployment) (paymentId : String) (s : Server) (e : ServiceEvent) : Prop :=
  Acts d paymentId s e ∧ ∃ now ∈ e.now, ∃ r ∈ ownRows s.db paymentId, now ≤ r.createdAt

theorem historyEntry_retriedRow (i : String) (n : Nat) (now : Time) :
    historyEntry (historyItem (retriedRow i n now)) = none := rfl

theorem historyEntry_reconciledRow (hstatus : status ≠ "") (i previous : String) (now : Time) :
    ∃ entry, historyEntry (historyItem (reconciledRow i previous status now)) = some entry ∧
      entry.link = (some previous, status) := by
  have hnew : detailOr (some (.str status)) none = some (.str status) := by
    unfold detailOr
    split <;> simp_all
  refine ⟨⟨"payment_reconciled", none, some previous, status, now, none⟩, ?_, rfl⟩
  unfold historyEntry historyItem
  rw [show (reconciledRow i previous status now).detail "status" = some (.str status) from rfl,
    show (reconciledRow i previous status now).detail "new_status" = none from rfl, hnew]
  rfl

theorem applyAction_status_ne {p' : PaymentTransactionORM} {a : RowAction}
    (h : PaymentRepository.applyAction p a = some p') : p'.status ≠ p.status := by
  cases a with
  | setStatus status now =>
    simp only [PaymentRepository.applyAction] at h
    split at h
    · rename_i hallowed
      obtain rfl := Option.some.inj h
      exact hallowed.ne.1
    · cases h
  | retry now =>
    simp only [PaymentRepository.applyAction] at h
    split at h
    · rename_i hboth
      obtain rfl := Option.some.inj h
      exact hboth.2.ne.1
    · cases h
  | replay now =>
    simp only [PaymentRepository.applyAction] at h
    split at h
    · rename_i hdead
      obtain rfl := Option.some.inj h
      rw [hdead]
      show "pending" ≠ "dead_letter"
      decide
    · cases h

theorem findPayment_serve (h : Satisfies schema s.db) (e : ServiceEvent)
    (hfind : findPayment s.db paymentId = some p) :
    findPayment (serve d s e).2.db paymentId =
      some (rowAfter (requestedAction d s e) paymentId p) := by
  rw [(serve_effect h e).row paymentId, hfind, Option.map_some]

theorem rowAfter_of_not_acts (hfind : findPayment s.db paymentId = some p)
    (hidle : ¬ Acts d paymentId s e) : rowAfter (requestedAction d s e) paymentId p = p := by
  cases hreq : requestedAction d s e with
  | none => rfl
  | some request =>
    obtain ⟨i, a⟩ := request
    unfold rowAfter
    dsimp only
    split
    · rename_i hji
      subst hji
      cases haction : PaymentRepository.applyAction p a with
      | none => rfl
      | some p' => exact absurd ⟨a, p, hreq, hfind, by rw [haction]; rfl⟩ hidle
    · rfl

theorem rowAfter_of_acts (hfind : findPayment s.db paymentId = some p)
    (hacts : Acts d paymentId s e) :
    (rowAfter (requestedAction d s e) paymentId p).status ≠ p.status := by
  obtain ⟨a, q, hreq, hq, hsome⟩ := hacts
  rw [hfind] at hq
  obtain rfl := Option.some.inj hq
  obtain ⟨p', haction⟩ := Option.isSome_iff_exists.mp hsome
  have hrow : rowAfter (requestedAction d s e) paymentId p = p' := by
    rw [hreq]
    show (if paymentId = paymentId then (PaymentRepository.applyAction p a).getD p else p) = p'
    rw [if_pos rfl, haction, Option.getD_some]
  rw [hrow]
  exact applyAction_status_ne haction

theorem addedRows_of_not_acts (hfind : findPayment s.db paymentId = some p)
    (hidle : ¬ Acts d paymentId s e) : addedRows paymentId p e = [] := by
  cases e with
  | reconcilePayment i status now =>
    refine if_neg fun hboth => ?_
    exact hidle ⟨_, p, by rw [← hboth.1]; rfl, hfind, hboth.2⟩
  | retryPayment i now =>
    by_cases hip : i = paymentId
    · cases haction : PaymentRepository.applyAction p (.retry now) with
      | none => simp [addedRows, haction]
      | some p' => exact absurd ⟨_, p, by rw [← hip]; rfl, hfind, by rw [haction]; rfl⟩ hidle
    · exact if_neg hip
  | _ => rfl

/-- **One event.** A complete history stays complete exactly if the event neither bypasses nor
disorders it. -/
theorem historyComplete_serve_iff (h : Satisfies schema s.db) (hendpoint : e.throughEndpoint)
    (hfind : findPayment s.db paymentId = some p) (hcomplete : HistoryComplete paymentId s) :
    HistoryComplete paymentId (serve d s e).2 ↔
      ¬ BypassesHistory d paymentId s e ∧ ¬ DisordersHistory d paymentId s e := by
  replace hcomplete : OrdersComplete (ownRows s.db paymentId) p.status :=
    (historyComplete_iff hfind).mp hcomplete
  rw [historyComplete_iff (findPayment_serve h e hfind), serve_history h hendpoint hfind]
  show OrdersComplete _ _ ↔ _
  by_cases hacts : Acts d paymentId s e
  · have hstatus := rowAfter_of_acts hfind hacts
    by_cases hreconcile : ∃ i status now, e = .reconcilePayment i status now
    · -- the entry carries the old and the new status
      obtain ⟨i, status, now, rfl⟩ := hreconcile
      have hrequested := hacts
      obtain ⟨a, q, hreq, hq, hsome⟩ := hrequested
      obtain ⟨rfl, rfl⟩ := Prod.mk.inj (Option.some.inj hreq)
      rw [hfind] at hq
      obtain rfl := Option.some.inj hq
      have hadded : addedRows i p (.reconcilePayment i status now) =
          [reconciledRow i p.status status now] := if_pos ⟨rfl, hsome⟩
      have hallowed : AllowedTransition p.status status := by
        by_contra hnot
        simp [PaymentRepository.applyAction, hnot] at hsome
      have hnew : (rowAfter (requestedAction d s (.reconcilePayment i status now)) i p).status
          = status := by
        simp [rowAfter, requestedAction, PaymentRepository.applyAction, hallowed]
      have hnonempty : status ≠ "" := by
        rcases allowedTransition_iff.mp hallowed with ⟨-, rfl | rfl⟩ | ⟨-, rfl⟩ <;> decide
      obtain ⟨entry, hentry, hlink⟩ := historyEntry_reconciledRow hnonempty i p.status now
      rw [hadded, hnew, hcomplete.concat_iff hentry hlink hallowed.ne.1.symm]
      constructor
      · intro hlater
        refine ⟨fun hbypass => hbypass.2 i status now rfl, ?_⟩
        rintro ⟨-, time, htime, r, hr, hle⟩
        obtain rfl := Option.some.inj htime
        exact absurd (hlater r hr) (not_lt.mpr hle)
      · rintro ⟨-, horder⟩ r hr
        by_contra hle
        exact horder ⟨hacts, now, rfl, r, hr, not_lt.mp hle⟩
    · push Not at hreconcile
      refine iff_of_false ?_ fun hboth => hboth.1 ⟨hacts, hreconcile⟩
      by_cases hretry : ∃ i now, e = .retryPayment i now
      · -- the entry of a retry has no status, and does not validate
        obtain ⟨i, now, rfl⟩ := hretry
        obtain ⟨a, q, hreq, hq, hsome⟩ := hacts
        obtain ⟨rfl, rfl⟩ := Prod.mk.inj (Option.some.inj hreq)
        rw [hfind] at hq
        obtain rfl := Option.some.inj hq
        obtain ⟨p', haction⟩ := Option.isSome_iff_exists.mp hsome
        have hadded : addedRows i p (.retryPayment i now) = [retriedRow i p'.retryCount now] := by
          simp [addedRows, haction]
        rw [hadded]
        exact not_ordersComplete_of_none (historyEntry_retriedRow i p'.retryCount now) _
      · -- nothing is added, and the history ends at the old status
        have hadded : addedRows paymentId p e = [] := by
          cases e with
          | retryPayment i now => exact absurd ⟨i, now, rfl⟩ hretry
          | reconcilePayment i status now => exact absurd rfl (hreconcile i status now)
          | _ => rfl
        rw [hadded, List.append_nil, hcomplete.status_iff]
        exact hstatus
  · rw [addedRows_of_not_acts hfind hacts, List.append_nil, hcomplete.status_iff,
      rowAfter_of_not_acts hfind hacts]
    exact iff_of_true rfl ⟨fun hbypass => hacts hbypass.1, fun hdisorder => hacts hdisorder.1⟩

/-- Runs of requests to the endpoints, at any readings of the clock. -/
abbrev HistoryRun (d : Deployment) := Runs.Run fun (s : Server) e s' =>
  e.throughEndpoint ∧ (serve d s e).2 = s'

/-- **The reconciliation history.** In a run that begins with the payment pending and without
history, the history is readable and complete in every state exactly if no event bypasses it, and
each change comes later than the payment's entries before it. -/
theorem payment_history_of_run {d : Deployment} {s t : Server} {paymentId : String}
    {p : PaymentTransactionORM} {steps : List (Server × ServiceEvent)} (h : Satisfies schema s.db)
    (hfind : findPayment s.db paymentId = some p) (hpending : p.status = "pending")
    (hnew : ownRows s.db paymentId = []) (hrun : HistoryRun d s steps t) :
    ((∀ x ∈ steps, HistoryComplete paymentId x.1) ∧ HistoryComplete paymentId t) ↔
      ∀ x ∈ steps,
        ¬ BypassesHistory d paymentId x.1 x.2 ∧ ¬ DisordersHistory d paymentId x.1 x.2 := by
  refine Runs.Run.forall_iff
    (I := fun r : Server => Satisfies schema r.db ∧ ∃ q, findPayment r.db paymentId = some q)
    (P := HistoryComplete paymentId)
    (C := fun r e => ¬ BypassesHistory d paymentId r e ∧ ¬ DisordersHistory d paymentId r e)
    ⟨h, p, hfind⟩ ?_ ?_ ?_ hrun
  · rw [historyComplete_iff hfind, hnew]
    intro order horder
    rw [horder.perm.eq_nil]
    exact ⟨[], rfl, hpending.symm⟩
  · rintro r e r' ⟨hr, q, hq⟩ ⟨-, rfl⟩
    exact ⟨(serve_effect hr e).satisfies, _, findPayment_serve hr e hq⟩
  · rintro r e r' ⟨hr, q, hq⟩ hcomplete ⟨hendpoint, rfl⟩
    exact historyComplete_serve_iff hr hendpoint hq hcomplete

/-! ## A retried payment -/

def failedAndRetried : List ServiceEvent :=
  [.reconcilePayment latePayment.id "failed" 1, .retryPayment latePayment.id 2]

def failedServer : Server :=
  (serve openDeployment paidServer (.reconcilePayment latePayment.id "failed" 1)).2

theorem failedServer_run :
    HistoryRun openDeployment paidServer
      [(paidServer, .reconcilePayment latePayment.id "failed" 1)] failedServer := by
  have hstep : HistoryRun openDeployment paidServer
      ([] ++ [(paidServer, .reconcilePayment latePayment.id "failed" 1)]) failedServer :=
    .snoc .nil ⟨trivial, rfl⟩
  exact hstep

/-- A second reconciliation makes it pending again. -/
theorem payment_history_of_failed_run :
    let steps := [(paidServer, ServiceEvent.reconcilePayment latePayment.id "failed" 1)] ++
      [(failedServer, ServiceEvent.reconcilePayment latePayment.id "pending" 2)]
    let t := (serve openDeployment failedServer (.reconcilePayment latePayment.id "pending" 2)).2
    ((∀ x ∈ steps, HistoryComplete latePayment.id x.1) ∧ HistoryComplete latePayment.id t) ↔
      ∀ x ∈ steps, ¬ BypassesHistory openDeployment latePayment.id x.1 x.2 ∧
        ¬ DisordersHistory openDeployment latePayment.id x.1 x.2 :=
  payment_history_of_run latePayment_new.row.1
    (by decide +kernel : findPayment paidServer.db latePayment.id = some (newRow latePayment)) rfl
    (by decide +kernel) (.snoc failedServer_run ⟨trivial, rfl⟩)

/-- After the retry the history cannot be read any more. -/
theorem payment_history_unreadable :
    ∃ t, HistoryRun openDeployment paidServer
        (Runs.replay (fun s e => (serve openDeployment s e).2) paidServer failedAndRetried) t ∧
      HistoryDelivers (historyQuery t.db) (historyQuery t.db) ∧
      getPaymentReconciliationHistory (historyQuery t.db) latePayment.id t =
        .error (.validationError ["history.1.new_status"]) ∧
      ¬ HistoryComplete latePayment.id t := by
  have hrun : HistoryRun openDeployment paidServer
      ([(paidServer, .reconcilePayment latePayment.id "failed" 1)] ++
        [(failedServer, .retryPayment latePayment.id 2)])
      (serve openDeployment failedServer (.retryPayment latePayment.id 2)).2 :=
    .snoc failedServer_run ⟨trivial, rfl⟩
  generalize ht : (serve openDeployment failedServer (.retryPayment latePayment.id 2)).2 = t at hrun
  have hdelivers : HistoryDelivers (historyQuery t.db) (historyQuery t.db) := by
    refine ⟨.refl _, ?_⟩
    rw [← ht]
    decide +kernel
  have herror : getPaymentReconciliationHistory (historyQuery t.db) latePayment.id t =
      .error (.validationError ["history.1.new_status"]) := by
    rw [← ht]
    decide +kernel
  refine ⟨t, hrun, hdelivers, herror, fun hcomplete => ?_⟩
  obtain ⟨response, hresponse, -⟩ := hcomplete _ hdelivers
  rw [herror] at hresponse
  cases hresponse

end NocIq
