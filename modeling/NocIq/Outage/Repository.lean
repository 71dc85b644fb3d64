import NocIq.Json
import NocIq.Schema

/-!
# NocIq — outages and their repository

The full row of `outages`, the update request `OutageUpdate`, and `update` and `resolve` of the
`OutageRepository` in lines 48–302 of `app/repositories/outage_repository.py` (a second class of
that name, further down in the module, replaces it there). The repository has its own table of
status transitions, `ALLOWED_STATUS_TRANSITIONS`.

* **`validateStatusTransition_eq_ok`** — the transitions of the table.
* **`update_status`** — what a request that changes only the status does, whatever else the database
  does not take.
-/

namespace NocIq

/-! ## Rows and requests -/

inductive OutageStatus where
  | open
  | resolved
  deriving DecidableEq, Repr

@[inherit_doc SLAStatus.value]
def OutageStatus.value : OutageStatus → String
  | .open => "open"
  | .resolved => "resolved"

inductive Severity where
  | critical
  | high
  | medium
  | low
  deriving DecidableEq, Repr

@[inherit_doc SLAStatus.value]
def Severity.value : Severity → String
  | .critical => "critical"
  | .high => "high"
  | .medium => "medium"
  | .low => "low"

structure Location where
  latitude : Json.PyFloat
  longitude : Json.PyFloat
  deriving DecidableEq, Repr

/-- A row of `outages`, without the `sla_status` column, which nothing writes. -/
structure OutageORM where
  id : String
  siteName : String
  siteId : Option String := none
  severity : String
  status : String
  detectedAt : Time
  resolvedAt : Option Time := none
  description : String
  affectedServices : List String
  affectedSubscribers : Option Int := none
  assignedTo : Option String := none
  createdBy : Option String := none
  location : Option Location := none
  mttrMinutes : Option Int := none
  updatedAt : Time
  deriving DecidableEq, Repr

/-- A field of a partial update: not sent, or sent with a value or with `null`. -/
abbrev Sent (α : Type) := Option (Option α)

structure OutageUpdate where
  status : Sent OutageStatus := none
  siteName : Sent String := none
  severity : Sent Severity := none
  resolvedAt : Sent Time := none
  description : Sent String := none
  affectedServices : Sent (List String) := none
  affectedSubscribers : Sent Int := none
  assignedTo : Sent String := none
  createdBy : Sent String := none
  location : Sent Location := none
  deriving DecidableEq, Repr

/-- The outages, and the audit log the state machine writes to. -/
structure OutageStore where
  outages : List OutageORM := []
  auditLogs : List AuditLogORM := []
  deriving DecidableEq, Repr

/-! ## What the database takes -/

/-- An exception as the endpoints tell it from others: its class, its text, and whether the class
is `ValueError` or derives from it. -/
structure Raised where
  type : String
  message : String
  isValueError : Bool := false
  deriving DecidableEq, Repr

/-- The same exception among those of other functions. -/
def Raised.exc (e : Raised) : Exc :=
  if e.isValueError then .valueError e.message else .databaseError e.type e.message

/-- What the process and the database contribute to a row: when the module of the table was loaded
(`updated_at` defaults to that moment), and what the database does not take, such as a text too long
for its column or a number outside its range. An `UPDATE` sends the columns that change, so it is
refused for what changes from the old row to the new one; a status and a time always fit. -/
structure OutageDatabase where
  loadedAt : Time
  refuses : OutageORM → Option Raised
  refusesUpdate : OutageORM → OutageORM → Option Raised
  takes_status : ∀ (orm : OutageORM) (status : OutageStatus) (now : Time),
    refusesUpdate orm { orm with status := status.value, updatedAt := now } = none

/-- The declared width of `site_name`, `site_id`, `assigned_to` and `created_by`. -/
def outageTextWidth : Nat := 255

/-- The declared width of `severity` and `status`. -/
def outageStatusWidth : Nat := 50

/-- The range of an `INTEGER` column. -/
def fitsInteger (n : Int) : Bool := decide (-2147483648 ≤ n ∧ n < 2147483648)

/-- A `JSON` column takes no float that is no number. -/
def Location.fitsJson (location : Location) : Bool :=
  [location.latitude, location.longitude].all fun
    | .finite _ => true
    | .nonFinite _ => false

/-- The columns of the row that are not those of `old` have values of their declared types. -/
def OutageORM.fitsColumns (old : Option OutageORM) (orm : OutageORM) : Bool :=
  let unchanged {α : Type} [DecidableEq α] (column : OutageORM → α) : Bool :=
    old.any fun o => decide (column o = column orm)
  (unchanged (·.siteName) || decide (orm.siteName.length ≤ outageTextWidth)) &&
    (unchanged (·.siteId) || orm.siteId.all fun text => decide (text.length ≤ outageTextWidth)) &&
    (unchanged (·.severity) || decide (orm.severity.length ≤ outageStatusWidth)) &&
    (unchanged (·.status) || decide (orm.status.length ≤ outageStatusWidth)) &&
    (unchanged (·.assignedTo) ||
      orm.assignedTo.all fun text => decide (text.length ≤ outageTextWidth)) &&
    (unchanged (·.createdBy) ||
      orm.createdBy.all fun text => decide (text.length ≤ outageTextWidth)) &&
    (unchanged (·.affectedSubscribers) || orm.affectedSubscribers.all fitsInteger) &&
    (unchanged (·.location) || orm.location.all Location.fitsJson) &&
    (unchanged (·.mttrMinutes) || orm.mttrMinutes.all fitsInteger)

def columnRefusal : Raised where
  type := "DataError"
  message := "value out of range for its column"

def declaredDatabase : OutageDatabase where
  loadedAt := 0
  refuses orm := if orm.fitsColumns none then none else some columnRefusal
  refusesUpdate old orm := if orm.fitsColumns (some old) then none else some columnRefusal
  takes_status orm status now := by
    have hfits : status.value.length ≤ outageStatusWidth := by cases status <;> decide
    exact if_pos (by simp [OutageORM.fitsColumns, hfits])

/-! ## `ALLOWED_STATUS_TRANSITIONS` -/

def allowedStatusTransitions : List (String × List String) :=
  [ (OutageStatus.open.value, [OutageStatus.open.value, OutageStatus.resolved.value]),
    (OutageStatus.resolved.value, [OutageStatus.resolved.value]) ]

namespace OutageRepository

def validateStatusTransition (currentStatus nextStatus : String) : Except Exc Unit :=
  let allowed := (allowedStatusTransitions.lookup currentStatus).getD []
  if nextStatus ∈ allowed then .ok ()
  else .error (.valueError s!"Invalid status transition: {currentStatus} -> {nextStatus}")

/-! ## `update` and `resolve` -/

def getOrm (s : OutageStore) (outageId : String) : Option OutageORM :=
  s.outages.find? fun o => decide (o.id = outageId)

def replaceOutage (orm o : OutageORM) : OutageORM := if o.id = orm.id then orm else o

def saveOutage (orm : OutageORM) (s : OutageStore) : OutageStore :=
  { s with outages := s.outages.map (replaceOutage orm) }

/-- `setattr` for a column that may be `NULL`. -/
def setNullable {α : Type} (old : Option α) : Sent α → Option α
  | none => old
  | some value => value

/-- `setattr` for a column that may not; the commit refuses a `NULL`. -/
def setRequired {α : Type} (column : String) (old : α) : Sent α → Except Exc α
  | none => .ok old
  | some (some value) => .ok value
  | some none => .error (.integrityError column)

/-- The columns `update` assigns. -/
def assigned (orm : OutageORM) (payload : OutageUpdate) (now : Time) : Except Exc OutageORM := do
  let status ← setRequired "outages.status" orm.status (payload.status.map (·.map (·.value)))
  let siteName ← setRequired "outages.site_name" orm.siteName payload.siteName
  let severity ← setRequired "outages.severity" orm.severity (payload.severity.map (·.map (·.value)))
  let description ← setRequired "outages.description" orm.description payload.description
  let affectedServices ←
    setRequired "outages.affected_services" orm.affectedServices payload.affectedServices
  return { orm with
    status, siteName, severity, description, affectedServices
    resolvedAt := setNullable orm.resolvedAt payload.resolvedAt
    affectedSubscribers := setNullable orm.affectedSubscribers payload.affectedSubscribers
    assignedTo := setNullable orm.assignedTo payload.assignedTo
    createdBy := setNullable orm.createdBy payload.createdBy
    location := setNullable orm.location payload.location
    updatedAt := now }

/-- The check `update` begins with. A status that is not sent, or sent as `null`, passes. -/
def checkStatus (orm : OutageORM) (payload : OutageUpdate) : Except Exc Unit :=
  match payload.status with
  | some (some nextStatus) => validateStatusTransition orm.status nextStatus.value
  | _ => .ok ()

/-- `db.commit()` of the changed row. -/
def commitRow (db : OutageDatabase) (old orm : OutageORM) (s : OutageStore) :
    Except Exc (Option OutageORM) × OutageStore :=
  match db.refusesUpdate old orm with
  | some e => (.error e.exc, s)
  | none => (.ok (some orm), saveOutage orm s)

def update (db : OutageDatabase) (outageId : String) (payload : OutageUpdate) (now : Time)
    (s : OutageStore) : Except Exc (Option OutageORM) × OutageStore :=
  match getOrm s outageId with
  | none => (.ok none, s)
  | some orm =>
    match checkStatus orm payload with
    | .error e => (.error e, s)
    | .ok () =>
      match assigned orm payload now with
      | .error e => (.error e, s)
      | .ok updated => commitRow db orm updated s

def resolve (db : OutageDatabase) (outageId : String) (mttrMinutes : Int) (now : Time)
    (s : OutageStore) : Except Exc (Option OutageORM) × OutageStore :=
  match getOrm s outageId with
  | none => (.ok none, s)
  | some orm =>
    if orm.status = OutageStatus.resolved.value ∧ orm.mttrMinutes = some mttrMinutes then
      (.ok (some orm), s)
    else
      match validateStatusTransition orm.status OutageStatus.resolved.value with
      | .error e => (.error e, s)
      | .ok () =>
        let resolved :=
          { orm with
            status := OutageStatus.resolved.value
            mttrMinutes := some mttrMinutes
            resolvedAt := some now
            updatedAt := now }
        commitRow db orm resolved s

/-! ## What the table accepts -/

theorem allowed_eq (currentStatus : String) :
    (allowedStatusTransitions.lookup currentStatus).getD [] =
      if currentStatus = "open" then ["open", "resolved"]
      else if currentStatus = "resolved" then ["resolved"] else [] := by
  unfold allowedStatusTransitions OutageStatus.value
  by_cases hopen : currentStatus = "open"
  · rw [hopen]
    rfl
  · rw [if_neg hopen, List.lookup_cons, beq_false_of_ne hopen]
    by_cases hresolved : currentStatus = "resolved"
    · rw [hresolved]
      rfl
    · rw [if_neg hresolved]
      dsimp only
      rw [List.lookup_cons, beq_false_of_ne hresolved]
      rfl

theorem validateStatusTransition_eq_ok {currentStatus nextStatus : String} :
    validateStatusTransition currentStatus nextStatus = .ok () ↔
      (currentStatus = "open" ∧ (nextStatus = "open" ∨ nextStatus = "resolved")) ∨
        (currentStatus = "resolved" ∧ nextStatus = "resolved") := by
  unfold validateStatusTransition
  rw [allowed_eq]
  dsimp only
  have hmem : nextStatus ∈ (if currentStatus = "open" then ["open", "resolved"]
      else if currentStatus = "resolved" then ["resolved"] else []) ↔
      (currentStatus = "open" ∧ (nextStatus = "open" ∨ nextStatus = "resolved")) ∨
        (currentStatus = "resolved" ∧ nextStatus = "resolved") := by
    by_cases hopen : currentStatus = "open"
    · simp [hopen]
    · by_cases hresolved : currentStatus = "resolved"
      · simp [hresolved]
      · simp [hopen, hresolved]
  rw [← hmem]
  by_cases hallowed : nextStatus ∈ (if currentStatus = "open" then ["open", "resolved"]
      else if currentStatus = "resolved" then ["resolved"] else [])
  · exact iff_of_true (if_pos hallowed) hallowed
  · rw [if_neg hallowed]
    exact iff_of_false nofun hallowed

/-- The request that changes the status and nothing else. -/
def statusUpdate (target : OutageStatus) : OutageUpdate := { status := some (some target) }

/-- The row such a request leaves. -/
def withStatus (orm : OutageORM) (target : OutageStatus) (now : Time) : OutageORM :=
  { orm with status := target.value, updatedAt := now }

/-- **A change of the status alone** goes through if the table has it, and is refused otherwise. -/
theorem update_status {db : OutageDatabase} {s : OutageStore} {outageId : String} {orm : OutageORM}
    (hfind : getOrm s outageId = some orm) (target : OutageStatus) (now : Time) :
    update db outageId (statusUpdate target) now s =
      match validateStatusTransition orm.status target.value with
      | .ok () => (.ok (some (withStatus orm target now)), saveOutage (withStatus orm target now) s)
      | .error e => (.error e, s) := by
  have hcheck : checkStatus orm (statusUpdate target) =
      validateStatusTransition orm.status target.value := rfl
  unfold update
  rw [hfind]
  dsimp only
  rw [hcheck]
  cases validateStatusTransition orm.status target.value with
  | error e => rfl
  | ok u =>
    show commitRow db orm (withStatus orm target now) s = _
    unfold commitRow
    rw [show db.refusesUpdate orm (withStatus orm target now) = none from db.takes_status orm target now]

end OutageRepository

end NocIq
