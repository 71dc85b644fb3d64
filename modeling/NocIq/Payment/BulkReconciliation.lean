import NocIq.Json
import NocIq.Payment.Repository

/-!
# NocIq — bulk reconciliation

`PaymentRepository.reconcile_all` classifies payments against expected statuses, and hands what it
has found to the model `ReconciliationReport` as keyword arguments. The model declares other fields:
pydantic ignores the arguments, and the report has none of what they say.

* **`reconcileAll_eq`** — what is returned: the table as it was, and one empty report for each id.
* **`reconcileAll_faithful_iff`** — so it is a classification of nothing but the empty mapping.
-/

namespace NocIq

inductive ReconciliationCategory where
  | matched
  | delayed
  | missing
  | divergent
  deriving DecidableEq, Repr

@[inherit_doc SLAStatus.value]
def ReconciliationCategory.value : ReconciliationCategory → String
  | .matched => "matched"
  | .delayed => "delayed"
  | .missing => "missing"
  | .divergent => "divergent"

/-! ## `ReconciliationReport` -/

/-- The pydantic model. -/
structure ReconciliationReport where
  matched : Int := 0
  delayed : Int := 0
  missing : Int := 0
  divergent : Int := 0
  items : List (List (String × Json.Value)) := []

namespace ReconciliationReport

/-- An argument of a field that is declared `int = 0`. -/
def intArgument (arguments : List (String × Json.Value)) (field : String) : Except Exc Int :=
  match arguments.lookup field with
  | none => .ok 0
  | some (.int n) => .ok n
  | some _ => .error (.validationError [field])

def dictionary : Json.Value → Except Exc (List (String × Json.Value))
  | .obj members => .ok members
  | _ => .error (.validationError ["items"])

def dictionaries : List Json.Value → Except Exc (List (List (String × Json.Value)))
  | [] => .ok []
  | v :: values =>
    match dictionary v with
    | .error e => .error e
    | .ok members => (dictionaries values).map fun rest => members :: rest

/-- The argument of `items`, whose default is the empty list. -/
def itemsArgument (arguments : List (String × Json.Value)) :
    Except Exc (List (List (String × Json.Value))) :=
  match arguments.lookup "items" with
  | none => .ok []
  | some (.arr values) => dictionaries values
  | some _ => .error (.validationError ["items"])

/-- `ReconciliationReport(**arguments)`. An argument that is not declared is ignored. -/
def ofArguments (arguments : List (String × Json.Value)) : Except Exc ReconciliationReport :=
  match intArgument arguments "matched", intArgument arguments "delayed",
    intArgument arguments "missing", intArgument arguments "divergent",
    itemsArgument arguments with
  | .ok matched, .ok delayed, .ok missing, .ok divergent, .ok items =>
    .ok { matched, delayed, missing, divergent, items }
  | .error e, _, _, _, _ | _, .error e, _, _, _ | _, _, .error e, _, _ | _, _, _, .error e, _
  | _, _, _, _, .error e => .error e

/-- Reading an attribute. -/
def getattr (report : ReconciliationReport) (name : String) : Except Exc Json.Value :=
  if name = "matched" then .ok (.int report.matched)
  else if name = "delayed" then .ok (.int report.delayed)
  else if name = "missing" then .ok (.int report.missing)
  else if name = "divergent" then .ok (.int report.divergent)
  else if name = "items" then .ok (.arr (report.items.map .obj))
  else .error (.attributeError s!"'ReconciliationReport' object has no attribute '{name}'")

def declared : List String := ["matched", "delayed", "missing", "divergent", "items"]

theorem ofArguments_undeclared {arguments : List (String × Json.Value)}
    (h : ∀ field ∈ declared, arguments.lookup field = none) : ofArguments arguments = .ok {} := by
  have hint : ∀ field ∈ declared, intArgument arguments field = .ok 0 := by
    intro field hfield
    unfold intArgument
    rw [h field hfield]
  have hitems : itemsArgument arguments = .ok [] := by
    unfold itemsArgument
    rw [h "items" (by decide)]
  unfold ofArguments
  rw [hint "matched" (by decide), hint "delayed" (by decide), hint "missing" (by decide),
    hint "divergent" (by decide), hitems]

theorem getattr_undeclared (report : ReconciliationReport) {name : String}
    (h : name ∉ declared) : ∃ message, report.getattr name = .error (.attributeError message) := by
  unfold declared at h
  simp only [List.mem_cons, not_or, List.not_mem_nil] at h
  obtain ⟨hmatched, hdelayed, hmissing, hdivergent, hitems, -⟩ := h
  unfold getattr
  rw [if_neg hmatched, if_neg hdelayed, if_neg hmissing, if_neg hdivergent, if_neg hitems]
  exact ⟨_, rfl⟩

end ReconciliationReport

/-! ## `reconcile_all` -/

namespace PaymentRepository

open ReconciliationReport

def reconciliationDetails (expected reason : String) : Json.Value :=
  .obj [("expected_status", .str expected), ("reason", .str reason)]

/-- One turn of the loop. -/
def reconciliationReport (db : Db) (txnId expected : String) :
    Except Exc ReconciliationReport :=
  match findPayment db txnId with
  | none =>
    ofArguments
      [("transaction_id", .str txnId), ("local_status", .str "unknown"),
        ("blockchain_status", .str expected),
        ("category", .str ReconciliationCategory.missing.value),
        ("details", reconciliationDetails expected "payment not found in local db")]
  | some orm =>
    if orm.status = expected then
      ofArguments
        [("transaction_id", .str txnId), ("local_status", .str orm.status),
          ("blockchain_status", .str expected),
          ("category", .str ReconciliationCategory.matched.value)]
    else if orm.status = "pending" then
      ofArguments
        [("transaction_id", .str txnId), ("local_status", .str orm.status),
          ("blockchain_status", .str expected),
          ("category", .str ReconciliationCategory.delayed.value),
          ("details", reconciliationDetails expected "payment still pending locally")]
    else
      ofArguments
        [("transaction_id", .str txnId), ("local_status", .str orm.status),
          ("blockchain_status", .str expected),
          ("category", .str ReconciliationCategory.divergent.value),
          ("details", reconciliationDetails expected
            s!"local status '{orm.status}' != expected '{expected}'")]

def reconciliationReports (db : Db) :
    List (String × String) → Except Exc (List ReconciliationReport)
  | [] => .ok []
  | (txnId, expected) :: rest =>
    match reconciliationReport db txnId expected with
    | .error e => .error e
    | .ok report => (reconciliationReports db rest).map fun reports => report :: reports

def reconcileAll (expectedStatuses : List (String × String)) (db : Db) :
    Except Exc (List ReconciliationReport) × Db :=
  (reconciliationReports db expectedStatuses, db)

theorem reconciliationReport_eq (db : Db) (txnId expected : String) :
    reconciliationReport db txnId expected = .ok {} := by
  unfold reconciliationReport
  split
  · exact ofArguments_undeclared (by simp [declared, List.lookup_cons])
  · split
    · exact ofArguments_undeclared (by simp [declared, List.lookup_cons])
    · split <;> exact ofArguments_undeclared (by simp [declared, List.lookup_cons])

/-- **What `reconcile_all` returns.** Induction on the mapping. -/
theorem reconcileAll_eq (expectedStatuses : List (String × String)) (db : Db) :
    reconcileAll expectedStatuses db = (.ok (expectedStatuses.map fun _ => {}), db) := by
  have hreports : reconciliationReports db expectedStatuses =
      .ok (expectedStatuses.map fun _ => {}) := by
    induction expectedStatuses with
    | nil => rfl
    | cons entry rest ih =>
      unfold reconciliationReports
      rw [reconciliationReport_eq, ih]
      rfl
  unfold reconcileAll
  rw [hreports]

/-! ## Classification -/

/-- The category of a payment that is expected to have the status. -/
def categoryOf (payment : Option PaymentTransactionORM) (expected : String) :
    ReconciliationCategory :=
  match payment with
  | none => .missing
  | some orm =>
    if orm.status = expected then .matched
    else if orm.status = "pending" then .delayed
    else .divergent

/-- Id, local status and category can be read from the report. -/
structure Classifies (db : Db) (entry : String × String) (report : ReconciliationReport) : Prop where
  transactionId : report.getattr "transaction_id" = .ok (.str entry.1)
  localStatus : ∃ status, report.getattr "local_status" = .ok (.str status) ∧
    ∀ orm, findPayment db entry.1 = some orm → status = orm.status
  category : report.getattr "category" =
    .ok (.str (categoryOf (findPayment db entry.1) entry.2).value)

/-- The table is unchanged, and the reports classify the ids in the mapping's order. -/
def FaithfulReconciliation (expectedStatuses : List (String × String)) (db : Db) : Prop :=
  (reconcileAll expectedStatuses db).2 = db ∧
    ∃ reports, (reconcileAll expectedStatuses db).1 = .ok reports ∧
      List.Forall₂ (Classifies db) expectedStatuses reports

theorem not_classifies (db : Db) (entry : String × String) (report : ReconciliationReport) :
    ¬ Classifies db entry report := by
  intro h
  have hread := h.category
  have hundeclared : "category" ∉ ReconciliationReport.declared := by decide
  obtain ⟨message, herror⟩ := report.getattr_undeclared hundeclared
  rw [herror] at hread
  cases hread

/-- **Bulk reconciliation** is faithful for the empty mapping only. -/
theorem reconcileAll_faithful_iff (expectedStatuses : List (String × String)) (db : Db) :
    FaithfulReconciliation expectedStatuses db ↔ expectedStatuses = [] := by
  unfold FaithfulReconciliation
  rw [reconcileAll_eq]
  constructor
  · rintro ⟨-, reports, -, hall⟩
    cases hall with
    | nil => rfl
    | cons hfirst _ => exact absurd hfirst (not_classifies db _ _)
  · rintro rfl
    exact ⟨rfl, [], rfl, .nil⟩

/-- A confirmed payment, which is expected to be confirmed. -/
theorem reconcileAll_drops_category :
    let db : Db := { paymentTransactions := [{
      id := "pay-1", transactionHash := "tx-1", type := "reward", amount := 100
      assetCode := "USDC", fromAddress := "SYSTEM", toAddress := "USER", status := "confirmed"
      outageId := "out-1", slaResultId := none, createdAt := 0, confirmedAt := some 0
      idempotencyKey := none }] }
    reconcileAll [("pay-1", "confirmed")] db = (.ok [{}], db) ∧
      ({} : ReconciliationReport).getattr "category" = .error
        (.attributeError "'ReconciliationReport' object has no attribute 'category'") ∧
      ¬ FaithfulReconciliation [("pay-1", "confirmed")] db := by
  intro db
  have hreport := reconcileAll_eq [("pay-1", "confirmed")] db
  refine ⟨hreport, by rfl, ?_⟩
  rintro ⟨-, reports, hreports, hall⟩
  cases hall with
  | cons hfirst _ => exact not_classifies db _ _ hfirst

end PaymentRepository

end NocIq
