import NocIq.Json
import NocIq.Outage.Create

/-!
# NocIq — the rows of an import

What `OutageCreate(**row)` makes of a row that `json.loads` or `csv.DictReader` gives: the fields
are checked one after another, in the order of the class, and the errors of all of them are
collected (`Checked`). `_row_error` turns what went wrong into the result of the row.

* **`Checked.ap_eq_ok`** — a field list is accepted if every field is.
* **`rowError_eq`** — whether a failed row can be reported does not depend on how it failed.
-/

namespace NocIq

/-! ## Rows and their results -/

/-- An element of the parsed file. A row of a CSV file may have cells beyond its columns; those
`csv.DictReader` collects under the key `None`. -/
inductive Row where
  | json (value : Json.Value)
  | csv (cells : List (String × Option String)) (surplus : List String)

structure ImportFieldError where
  field : Option String
  type : Option String
  message : String
  deriving DecidableEq, Repr

inductive RowStatus where
  | ok
  | error
  deriving DecidableEq, Repr

structure ImportRowResult where
  row : Nat
  id : Option String
  status : RowStatus
  errors : Option (List ImportFieldError) := none
  outageId : Option String := none
  persisted : Option Bool := none
  duplicate : Option Bool := none
  existingId : Option String := none
  deriving DecidableEq, Repr

/-! ## Checking fields -/

/-- What a validator gives: a value, the errors of the fields, or an exception of its own, which
ends the validation. -/
inductive Checked (α : Type) where
  | ok (a : α)
  | invalid (errors : List ImportFieldError)
  | raised (e : Raised)
  deriving Repr

namespace Checked

variable {α β : Type}

/-- The next field: the errors of all fields are collected, the first exception stops. -/
def ap : Checked (α → β) → Checked α → Checked β
  | .raised e, _ => .raised e
  | _, .raised e => .raised e
  | .invalid errors, .invalid more => .invalid (errors ++ more)
  | .invalid errors, .ok _ => .invalid errors
  | .ok _, .invalid errors => .invalid errors
  | .ok f, .ok a => .ok (f a)

/-- A validator that runs after another. -/
def andThen : Checked α → (α → Checked β) → Checked β
  | .ok a, f => f a
  | .invalid errors, _ => .invalid errors
  | .raised e, _ => .raised e

def map (f : α → β) : Checked α → Checked β
  | .ok a => .ok (f a)
  | .invalid errors => .invalid errors
  | .raised e => .raised e

def each (check : Nat → α → Checked β) : Nat → List α → Checked (List β)
  | _, [] => .ok []
  | i, a :: as => ((check i a).map List.cons).ap (each check (i + 1) as)

theorem ap_eq_ok {f : Checked (α → β)} {x : Checked α} {b : β} :
    f.ap x = .ok b ↔ ∃ g a, f = .ok g ∧ x = .ok a ∧ g a = b := by
  cases f <;> cases x <;> simp [ap]

theorem andThen_eq_ok {x : Checked α} {f : α → Checked β} {b : β} :
    x.andThen f = .ok b ↔ ∃ a, x = .ok a ∧ f a = .ok b := by
  cases x <;> simp [andThen]

theorem map_eq_ok {f : α → β} {x : Checked α} {b : β} :
    x.map f = .ok b ↔ ∃ a, x = .ok a ∧ f a = b := by
  cases x <;> simp [map]

theorem each_ok {check : Nat → α → Checked β} {f : α → β} {as : List α}
    (h : ∀ i, ∀ a ∈ as, check i a = .ok (f a)) (i : Nat) : each check i as = .ok (as.map f) := by
  induction as generalizing i with
  | nil => rfl
  | cons a as ih =>
    have hrest := ih (fun j b hb => h j b (List.mem_cons_of_mem _ hb)) (i + 1)
    simp only [each, h i a List.mem_cons_self, hrest]
    rfl

end Checked

/-- One error of the field at `loc`. -/
def fieldError {α : Type} (loc type message : String) : Checked α :=
  .invalid [⟨some loc, some type, message⟩]

/-- What pydantic reads a datetime, a number or a decimal from, each with the type and the text of
the error otherwise; the text it writes for a datetime in UTC; and the text of the `TypeError` that
calling its `ValidationError` raises. -/
structure Pydantic where
  toDatetime : Json.Value → Except (String × String) Datetime
  toInt : Json.Value → Except (String × String) Int
  toFloat : Json.Value → Except (String × String) Json.PyFloat
  isoformat : Time → String
  noConstructor : String

namespace OutageCreate

abbrev Members := List (String × Json.Value)

def required {α : Type} (check : String → Json.Value → Checked α) (members : Members)
    (name : String) (loc : String := name) : Checked α :=
  match members.lookup name with
  | none => fieldError loc "missing" "Field required"
  | some value => check loc value

/-- An `Optional` field with the default `None`. -/
def optional {α : Type} (check : String → Json.Value → Checked α) (members : Members)
    (name : String) : Checked (Option α) :=
  match members.lookup name with
  | none => .ok none
  | some .null => .ok none
  | some value => (check name value).map some

def converted {α : Type} (loc : String) : Except (String × String) α → Checked α
  | .ok a => .ok a
  | .error (type, message) => fieldError loc type message

def checkStr (loc : String) : Json.Value → Checked String
  | .str s => .ok s
  | .loneStr _ =>
    fieldError loc "string_unicode"
      "Input should be a valid string, unable to parse raw data as a unicode string"
  | _ => fieldError loc "string_type" "Input should be a valid string"

/-- `Field(..., min_length=1)`. -/
def checkNonEmpty (loc : String) (value : Json.Value) : Checked String :=
  (checkStr loc value).andThen fun s =>
    if s = "" then fieldError loc "string_too_short" "String should have at least 1 character"
    else .ok s

/-- The validators of `site_name` and `description`. -/
def checkLength (maxLength : Nat) (loc : String) (value : Json.Value) : Checked String :=
  (checkNonEmpty loc value).andThen fun s =>
    if maxLength < s.length then
      fieldError loc "value_error"
        s!"Value error, {loc} too long. Maximum length is {maxLength} characters."
    else .ok s

def severityOf : String → Option Severity
  | "critical" => some .critical
  | "high" => some .high
  | "medium" => some .medium
  | "low" => some .low
  | _ => none

def checkSeverity (loc : String) (value : Json.Value) : Checked Severity :=
  match value with
  | .str s =>
    match severityOf s with
    | some severity => .ok severity
    | none => fieldError loc "enum" "Input should be 'critical', 'high', 'medium' or 'low'"
  | _ => fieldError loc "enum" "Input should be 'critical', 'high', 'medium' or 'low'"

def statusOf : String → Option OutageStatus
  | "open" => some .open
  | "resolved" => some .resolved
  | _ => none

def checkStatus (loc : String) (value : Json.Value) : Checked OutageStatus :=
  match value with
  | .str s =>
    match statusOf s with
    | some status => .ok status
    | none => fieldError loc "enum" "Input should be 'open' or 'resolved'"
  | _ => fieldError loc "enum" "Input should be 'open' or 'resolved'"

/-- `validate_detected_at_timezone`. It calls `ValidationError("…")` for a naive value, and that
class cannot be called: a `TypeError`, which is not an error of the field. -/
def checkDetectedAt (pyd : Pydantic) (loc : String) (value : Json.Value) : Checked Time :=
  (converted loc (pyd.toDatetime value)).andThen fun d =>
    if d.hasTzinfo then .ok d.instant
    else .raised { type := "TypeError", message := pyd.noConstructor }

def checkServices (limits : OutageLimits) (loc : String) (value : Json.Value) :
    Checked (List String) :=
  match value with
  | .arr items =>
    (Checked.each (fun i => checkStr s!"{loc}.{i}") 0 items).andThen fun services =>
      if services = [] then
        fieldError loc "too_short" "List should have at least 1 item after validation, not 0"
      else if limits.maxAffectedServicesCount < services.length then
        fieldError loc "value_error"
          (s!"Value error, too many affected services. Maximum allowed is "
            ++ s!"{limits.maxAffectedServicesCount}.")
      else .ok services
  | _ => fieldError loc "list_type" "Input should be a valid list"

/-- `Field(default=None, ge=0)`. -/
def checkSubscribers (pyd : Pydantic) (loc : String) (value : Json.Value) : Checked Int :=
  (converted loc (pyd.toInt value)).andThen fun n =>
    if 0 ≤ n then .ok n
    else fieldError loc "greater_than_equal" "Input should be greater than or equal to 0"

def checkLocation (pyd : Pydantic) (loc : String) (value : Json.Value) : Checked Location :=
  match value.dict? with
  | some members =>
    let coordinate := fun name =>
      required (fun loc value => converted loc (pyd.toFloat value)) members name s!"{loc}.{name}"
    ((Checked.ok Location.mk).ap (coordinate "latitude")).ap (coordinate "longitude")
  | none =>
    fieldError loc "model_type" "Input should be a valid dictionary or instance of Location"

/-- `OutageCreate(**members)`. -/
def validate (pyd : Pydantic) (limits : OutageLimits) (members : Members) : Checked OutageCreate :=
  (Checked.ok OutageCreate.mk)
    |>.ap (required checkNonEmpty members "id")
    |>.ap (required (checkLength limits.maxSiteNameLength) members "site_name")
    |>.ap (optional checkStr members "site_id")
    |>.ap (required checkSeverity members "severity")
    |>.ap (required checkStatus members "status")
    |>.ap (required (checkDetectedAt pyd) members "detected_at")
    |>.ap (required (checkLength limits.maxDescriptionLength) members "description")
    |>.ap (required (checkServices limits) members "affected_services")
    |>.ap (optional (checkSubscribers pyd) members "affected_subscribers")
    |>.ap (optional checkStr members "assigned_to")
    |>.ap (optional checkStr members "created_by")
    |>.ap (optional (fun loc value => converted loc (pyd.toDatetime value)) members "resolved_at")
    |>.ap (optional (checkLocation pyd) members "location")

/-! ## What is accepted -/

section

variable {α : Type} {check : String → Json.Value → Checked α} {members : Members} {name loc : String}

theorem required_eq_ok {a : α} :
    required check members name loc = .ok a ↔
      ∃ value, members.lookup name = some value ∧ check loc value = .ok a := by
  unfold required
  cases members.lookup name <;> simp [fieldError]

end

variable {pyd : Pydantic} {limits : OutageLimits} {loc : String} {value : Json.Value}

/-- What each field of an accepted payload has been read from. -/
structure ReadFrom (pyd : Pydantic) (limits : OutageLimits) (members : Members)
    (payload : OutageCreate) : Prop where
  id : required checkNonEmpty members "id" = .ok payload.id
  siteName :
    required (checkLength limits.maxSiteNameLength) members "site_name" = .ok payload.siteName
  siteId : optional checkStr members "site_id" = .ok payload.siteId
  severity : required checkSeverity members "severity" = .ok payload.severity
  status : required checkStatus members "status" = .ok payload.status
  detectedAt : required (checkDetectedAt pyd) members "detected_at" = .ok payload.detectedAt
  description :
    required (checkLength limits.maxDescriptionLength) members "description"
      = .ok payload.description
  affectedServices :
    required (checkServices limits) members "affected_services" = .ok payload.affectedServices
  affectedSubscribers :
    optional (checkSubscribers pyd) members "affected_subscribers" = .ok payload.affectedSubscribers
  assignedTo : optional checkStr members "assigned_to" = .ok payload.assignedTo
  createdBy : optional checkStr members "created_by" = .ok payload.createdBy
  resolvedAt :
    optional (fun loc value => converted loc (pyd.toDatetime value)) members "resolved_at"
      = .ok payload.resolvedAt
  location : optional (checkLocation pyd) members "location" = .ok payload.location

/-- **A payload is accepted exactly if each of its fields is.** -/
theorem validate_eq_ok {members : Members} {payload : OutageCreate} :
    validate pyd limits members = .ok payload ↔ ReadFrom pyd limits members payload := by
  unfold validate
  constructor
  · intro h
    -- the last field first
    obtain ⟨_, location, h12, hlocation, rfl⟩ := Checked.ap_eq_ok.mp h
    obtain ⟨_, resolvedAt, h11, hresolvedAt, rfl⟩ := Checked.ap_eq_ok.mp h12
    obtain ⟨_, createdBy, h10, hcreatedBy, rfl⟩ := Checked.ap_eq_ok.mp h11
    obtain ⟨_, assignedTo, h9, hassignedTo, rfl⟩ := Checked.ap_eq_ok.mp h10
    obtain ⟨_, affectedSubscribers, h8, haffectedSubscribers, rfl⟩ := Checked.ap_eq_ok.mp h9
    obtain ⟨_, affectedServices, h7, haffectedServices, rfl⟩ := Checked.ap_eq_ok.mp h8
    obtain ⟨_, description, h6, hdescription, rfl⟩ := Checked.ap_eq_ok.mp h7
    obtain ⟨_, detectedAt, h5, hdetectedAt, rfl⟩ := Checked.ap_eq_ok.mp h6
    obtain ⟨_, status, h4, hstatus, rfl⟩ := Checked.ap_eq_ok.mp h5
    obtain ⟨_, severity, h3, hseverity, rfl⟩ := Checked.ap_eq_ok.mp h4
    obtain ⟨_, siteId, h2, hsiteId, rfl⟩ := Checked.ap_eq_ok.mp h3
    obtain ⟨_, siteName, h1, hsiteName, rfl⟩ := Checked.ap_eq_ok.mp h2
    obtain ⟨_, id, hmk, hid, rfl⟩ := Checked.ap_eq_ok.mp h1
    cases hmk
    exact ⟨hid, hsiteName, hsiteId, hseverity, hstatus, hdetectedAt, hdescription,
      haffectedServices, haffectedSubscribers, hassignedTo, hcreatedBy, hresolvedAt, hlocation⟩
  · intro h
    rw [h.id, h.siteName, h.siteId, h.severity, h.status, h.detectedAt, h.description,
      h.affectedServices, h.affectedSubscribers, h.assignedTo, h.createdBy, h.resolvedAt,
      h.location]
    rfl

end OutageCreate

/-! ## Rows -/

namespace Row

/-- The keyword arguments of `OutageCreate(**row)`. -/
def keywords : Row → Except Raised OutageCreate.Members
  | .json value =>
    match value.dict? with
    | some members => .ok members
    | none =>
      .error
        { type := "TypeError"
          message := s!"app.models.outage_dto.OutageCreate() argument after ** must be a mapping, " ++
            s!"not {value.typeName}" }
  | .csv cells [] => .ok (cells.map fun c => (c.1, (c.2.map Json.Value.str).getD .null))
  | .csv _ (_ :: _) => .error { type := "TypeError", message := "keywords must be strings" }

/-- `row.get("id")`. -/
def getId : Row → Except Raised (Option Json.Value)
  | .json value =>
    match value.dict? with
    | some members => .ok (members.lookup "id")
    | none =>
      .error
        { type := "AttributeError", message := s!"'{value.typeName}' object has no attribute 'get'" }
  | .csv cells _ => .ok ((cells.lookup "id").map fun cell => (cell.map Json.Value.str).getD .null)

/-- `ImportRowResult(id=row.get("id"), …)`, whose `id` is an `Optional[str]`. -/
def resultId (row : Row) : Except Raised (Option String) :=
  match row.getId with
  | .error e => .error e
  | .ok none => .ok none
  | .ok (some .null) => .ok none
  | .ok (some (.str s)) => .ok (some s)
  | .ok (some (.loneStr _)) =>
    .error
      { type := "ValidationError"
        message := "1 validation error for ImportRowResult: id: Input should be a valid string, " ++
          "unable to parse raw data as a unicode string"
        isValueError := true }
  | .ok (some _) =>
    .error
      { type := "ValidationError"
        message := "1 validation error for ImportRowResult: id: Input should be a valid string"
        isValueError := true }

/-- `OutageCreate(**row)`. -/
def parse (pyd : Pydantic) (limits : OutageLimits) (row : Row) : Checked OutageCreate :=
  match row.keywords with
  | .error e => .raised e
  | .ok members => OutageCreate.validate pyd limits members

end Row

/-- The errors of an exception that has no list of them. -/
def Raised.fieldErrors (e : Raised) : List ImportFieldError := [⟨none, some e.type, e.message⟩]

/-- `_row_error`. It reads the id of the row once more, and this can raise. -/
def rowError (index : Nat) (row : Row) (errors : List ImportFieldError) :
    Except Raised ImportRowResult :=
  match row.resultId with
  | .error e => .error e
  | .ok id => .ok { row := index, id, status := .error, errors := some errors }

/-- **Whether a failed row can be reported** depends on its id alone, not on how it failed. -/
theorem rowError_eq (index : Nat) (row : Row) (errors : List ImportFieldError) :
    rowError index row errors = row.resultId.map fun id =>
      { row := index, id, status := .error, errors := some errors } := by
  unfold rowError
  cases row.resultId with
  | error e => rfl
  | ok id => rfl

theorem lookup_map_snd {α β : Type} (f : α → β) (members : List (String × α)) (name : String) :
    (members.map fun m => (m.1, f m.2)).lookup name = (members.lookup name).map f := by
  induction members with
  | nil => rfl
  | cons m members ih =>
    rw [List.map_cons, List.lookup_cons, List.lookup_cons, ih]
    cases name == m.1 with
    | true => simp
    | false => simp

theorem Row.resultId_of_parse {pyd : Pydantic} {limits : OutageLimits} {row : Row}
    {payload : OutageCreate} (h : row.parse pyd limits = .ok payload) :
    row.resultId = .ok (some payload.id) := by
  have hstr : ∀ {members : OutageCreate.Members},
      OutageCreate.validate pyd limits members = .ok payload →
        members.lookup "id" = some (.str payload.id) := by
    intro members hvalidate
    obtain ⟨value, hlookup, hchecked⟩ :=
      OutageCreate.required_eq_ok.mp (OutageCreate.validate_eq_ok.mp hvalidate).id
    obtain ⟨s, hs, hnonEmpty⟩ := Checked.andThen_eq_ok.mp hchecked
    cases value with
    | str s' =>
      cases hs
      split at hnonEmpty
      · cases hnonEmpty
      · cases hnonEmpty
        exact hlookup
    | _ => cases hs
  unfold Row.parse Row.keywords at h
  unfold Row.resultId Row.getId
  cases row with
  | json value =>
    dsimp only at h ⊢
    cases hdict : value.dict? with
    | some members =>
      rw [hdict] at h
      dsimp only at h ⊢
      rw [hstr h]
    | none =>
      rw [hdict] at h
      cases h
  | csv cells surplus =>
    cases surplus with
    | cons cell surplus => cases h
    | nil =>
      have hlookup := hstr h
      rw [lookup_map_snd fun cell : Option String => (cell.map Json.Value.str).getD .null] at hlookup
      simp only [hlookup]

end NocIq
