import NocIq.Datetime
import NocIq.Outage.Repository

/-!
# NocIq — creating outages

`OutageCreate` of `app/models/outage_dto.py`; `check_duplicate` and `create_or_get_existing` of the
`OutageRepository` in lines 48–302 of `app/repositories/outage_repository.py`; and the endpoint
`bulk_create_outages`. Every row that is not a duplicate is committed on its own.

* **`createOrGetExisting_outcome`** — the four things that can become of a payload.
-/

namespace NocIq

/-! ## Payloads -/

structure OutageCreate where
  id : String
  siteName : String
  siteId : Option String := none
  severity : Severity
  status : OutageStatus
  /-- normalised to UTC -/
  detectedAt : Time
  description : String
  affectedServices : List String
  affectedSubscribers : Option Int := none
  assignedTo : Option String := none
  createdBy : Option String := none
  resolvedAt : Option Datetime := none
  location : Option Location := none
  deriving DecidableEq, Repr

/-- The limits of `app/core/config.py`. -/
structure OutageLimits where
  maxFileUploadSizeBytes : Nat := 10 * 1024 * 1024
  maxBulkOutagesCount : Nat := 1000
  maxAffectedServicesCount : Nat := 100
  maxSiteNameLength : Nat := 255
  maxDescriptionLength : Nat := 5000

/-- The constraints `OutageCreate` puts on its fields. -/
structure OutageCreate.Valid (limits : OutageLimits) (payload : OutageCreate) : Prop where
  id : payload.id ≠ ""
  siteName : payload.siteName ≠ "" ∧ payload.siteName.length ≤ limits.maxSiteNameLength
  description : payload.description ≠ "" ∧ payload.description.length ≤ limits.maxDescriptionLength
  affectedServices : payload.affectedServices ≠ [] ∧
    payload.affectedServices.length ≤ limits.maxAffectedServicesCount
  affectedSubscribers : ∀ n ∈ payload.affectedSubscribers, 0 ≤ n

/-- The body of `POST /outages/bulk`. -/
structure BulkOutageCreate (limits : OutageLimits) where
  outages : List OutageCreate
  valid : ∀ payload ∈ outages, payload.Valid limits
  count_le : outages.length ≤ limits.maxBulkOutagesCount

/-! ## Failures -/

/-- How a request fails: with an `HTTPException`, or with an exception that nothing catches. -/
inductive Failure where
  | http (statusCode : Nat) (detail : String)
  | raised (e : Raised)
  deriving DecidableEq, Repr

/-! ## `create_or_get_existing` -/

namespace OutageRepository

/-- The row of a payload. Its `resolved_at` is not among the columns. -/
def newOrm (db : OutageDatabase) (payload : OutageCreate) : OutageORM where
  id := payload.id
  siteName := payload.siteName
  siteId := payload.siteId
  severity := payload.severity.value
  status := payload.status.value
  detectedAt := payload.detectedAt
  description := payload.description
  affectedServices := payload.affectedServices
  affectedSubscribers := payload.affectedSubscribers
  assignedTo := payload.assignedTo
  createdBy := payload.createdBy
  location := payload.location
  updatedAt := db.loadedAt

@[simp] theorem newOrm_id (db : OutageDatabase) (payload : OutageCreate) :
    (newOrm db payload).id = payload.id := rfl

def isSameOutage (orm : OutageORM) (payload : OutageCreate) : Bool :=
  decide (orm.id = payload.id ∧
    orm.siteName = payload.siteName ∧
    orm.siteId = payload.siteId ∧
    orm.severity = payload.severity.value ∧
    orm.status = payload.status.value ∧
    orm.detectedAt = payload.detectedAt ∧
    orm.description = payload.description ∧
    orm.affectedServices = payload.affectedServices ∧
    orm.affectedSubscribers = payload.affectedSubscribers ∧
    orm.assignedTo = payload.assignedTo ∧
    orm.createdBy = payload.createdBy ∧
    orm.location = payload.location)

/-- The filters of `_find_duplicate_orm`; the site id is compared only if the payload has one. -/
def matchesContent (payload : OutageCreate) (orm : OutageORM) : Bool :=
  decide (orm.siteName = payload.siteName ∧
    orm.detectedAt = payload.detectedAt ∧
    orm.description = payload.description ∧
    (payload.siteId.getD "" ≠ "" → orm.siteId = payload.siteId))

def findDuplicateOrm (payload : OutageCreate) (s : OutageStore) : Option OutageORM :=
  s.outages.find? (matchesContent payload)

/-- The `ValueError` of an id that is taken. -/
def conflict (outageId : String) : Raised where
  type := "ValueError"
  message := s!"Outage with id '{outageId}' already exists with different content"
  isValueError := true

def checkDuplicate (payload : OutageCreate) (s : OutageStore) : Except Raised (Option OutageORM) :=
  match getOrm s payload.id with
  | some existing =>
    if isSameOutage existing payload then .ok (some existing) else .error (conflict payload.id)
  | none => .ok (findDuplicateOrm payload s)

def insertOrm (orm : OutageORM) (s : OutageStore) : OutageStore :=
  { s with outages := s.outages ++ [orm] }

/-- The outage, and whether it has been persisted. -/
def createOrGetExisting (db : OutageDatabase) (payload : OutageCreate) (s : OutageStore) :
    Except Raised (OutageORM × Bool) × OutageStore :=
  match checkDuplicate payload s with
  | .error e => (.error e, s)
  | .ok (some existing) => (.ok (existing, false), s)
  | .ok none =>
    match db.refuses (newOrm db payload) with
    | some e => (.error e, s)
    | none => (.ok (newOrm db payload, true), insertOrm (newOrm db payload) s)

/-- The loop over a list of payloads; the first failure ends it. -/
def createEach (db : OutageDatabase) :
    List OutageCreate → OutageStore → Except Raised (List (OutageORM × Bool)) × OutageStore
  | [], s => (.ok [], s)
  | payload :: payloads, s =>
    match createOrGetExisting db payload s with
    | (.error e, s) => (.error e, s)
    | (.ok created, s) =>
      match createEach db payloads s with
      | (.error e, s) => (.error e, s)
      | (.ok rest, s) => (.ok (created :: rest), s)

end OutageRepository

open OutageRepository

/-! ## The endpoint -/

structure BulkCreated where
  count : Nat
  persisted : Nat
  items : List OutageORM
  deriving DecidableEq, Repr

/-- `POST /outages/bulk`. -/
def bulkCreateOutages {limits : OutageLimits} (db : OutageDatabase)
    (payload : BulkOutageCreate limits) (s : OutageStore) :
    Except Failure BulkCreated × OutageStore :=
  match createEach db payload.outages s with
  | (.error e, s) =>
    -- `except ValueError`; any other exception leaves the endpoint as it is
    (.error (if e.isValueError then .http 400 e.message else .raised e), s)
  | (.ok created, s) =>
    (.ok
      { count := created.length
        persisted := created.countP (·.2)
        items := created.map (·.1) }, s)

/-! ## What becomes of a payload -/

variable {db : OutageDatabase} {payload : OutageCreate} {s : OutageStore}

namespace OutageRepository

/-- The outcomes of `create_or_get_existing`, each with the facts that lead to it. -/
inductive CreateOutcome (db : OutageDatabase) (payload : OutageCreate) (s : OutageStore) :
    Except Raised (OutageORM × Bool) × OutageStore → Prop where
  | conflicting {e : Raised} (hcheck : checkDuplicate payload s = .error e) :
      CreateOutcome db payload s (.error e, s)
  | duplicate {existing : OutageORM} (hcheck : checkDuplicate payload s = .ok (some existing)) :
      CreateOutcome db payload s (.ok (existing, false), s)
  | refused {e : Raised} (hcheck : checkDuplicate payload s = .ok none)
      (hrefused : db.refuses (newOrm db payload) = some e) :
      CreateOutcome db payload s (.error e, s)
  | created (hcheck : checkDuplicate payload s = .ok none)
      (haccepted : db.refuses (newOrm db payload) = none) :
      CreateOutcome db payload s
        (.ok (newOrm db payload, true), insertOrm (newOrm db payload) s)

/-- **What becomes of a payload.** -/
theorem createOrGetExisting_outcome (db : OutageDatabase) (payload : OutageCreate)
    (s : OutageStore) : CreateOutcome db payload s (createOrGetExisting db payload s) := by
  unfold createOrGetExisting
  cases hcheck : checkDuplicate payload s with
  | error e => exact .conflicting hcheck
  | ok existing =>
    cases existing with
    | some existing => exact .duplicate hcheck
    | none =>
      dsimp only
      cases hrefuses : db.refuses (newOrm db payload) with
      | some e => exact .refused hcheck hrefuses
      | none => exact .created hcheck hrefuses

theorem not_mem_of_checkDuplicate (hcheck : checkDuplicate payload s = .ok none) :
    (∀ o ∈ s.outages, o.id ≠ payload.id) ∧ ∀ o ∈ s.outages, matchesContent payload o = false := by
  unfold checkDuplicate at hcheck
  cases hfind : getOrm s payload.id with
  | some existing =>
    rw [hfind] at hcheck
    dsimp only at hcheck
    split at hcheck
    · cases Except.ok.inj hcheck
    · cases hcheck
  | none =>
    rw [hfind] at hcheck
    have hid := List.find?_eq_none.mp hfind
    have hcontent := List.find?_eq_none.mp (Except.ok.inj hcheck)
    refine ⟨?_, ?_⟩
    · intro o ho
      simpa using hid o ho
    · intro o ho
      simpa using hcontent o ho

/-! ## Lists of payloads -/

@[simp] theorem createEach_nil (db : OutageDatabase) (s : OutageStore) :
    createEach db [] s = (.ok [], s) := rfl

theorem createEach_cons_snd (db : OutageDatabase) (payload : OutageCreate)
    (payloads : List OutageCreate) (s : OutageStore) :
    (createEach db (payload :: payloads) s).2 =
      match createOrGetExisting db payload s with
      | (.error _, s) => s
      | (.ok _, s) => (createEach db payloads s).2 := by
  rw [createEach]
  rcases createOrGetExisting db payload s with ⟨_ | created, s'⟩
  · rfl
  dsimp only
  rcases createEach db payloads s' with ⟨_ | rest, s''⟩
  · rfl
  · rfl

end OutageRepository

theorem bulkCreateOutages_snd {limits : OutageLimits} (db : OutageDatabase)
    (payload : BulkOutageCreate limits) (s : OutageStore) :
    (bulkCreateOutages db payload s).2 = (createEach db payload.outages s).2 := by
  unfold bulkCreateOutages
  rcases createEach db payload.outages s with ⟨_ | created, s'⟩
  · rfl
  · rfl

end NocIq
