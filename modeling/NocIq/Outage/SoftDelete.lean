import NocIq.Outage.Files

/-!
# NocIq — deleting and restoring outages

`SoftDeleteMixin` of `app/services/soft_delete.py`, `delete` of the `OutageRepository`, and the
endpoints `delete_outage`, `list_deleted_outages` and `restore_outage`. The endpoints look for an
object `outage_store` that their module neither defines nor imports; and what they would do with it
happens beside the database, from which `delete` takes the row away for good.

* **`deleteOutage_stored`** — what deleting a stored outage comes to.
* **`deleteOutage_ok`** — what it would leave in the database, were the object there.
* **`not_softDeletes`** — no outage comes back.
-/

namespace NocIq

open OutageRepository

/-! ## The two places -/

/-- The columns of `payment_transactions` that refer to other rows. -/
structure PaymentLink where
  id : String
  outageId : Option String
  slaResultId : Option Nat
  deriving DecidableEq, Repr

/-- The database, and the `_data` of the in-memory store. -/
structure SoftDeleteState where
  outages : OutageStore := {}
  slaResults : List SLAResultORM := []
  payments : List PaymentLink := []
  memory : List (String × Outage) := []

/-! ## `SoftDeleteMixin` -/

namespace SoftDeleteMixin

/-- `self._data[record_id] = record`. -/
def setItem (recordId : String) (record : Outage) (data : List (String × Outage)) :
    List (String × Outage) :=
  if data.any fun m => decide (m.1 = recordId) then
    data.map fun m => if m.1 = recordId then (recordId, record) else m
  else data ++ [(recordId, record)]

/-- `model_copy(update={"deleted_at": …})` of a record, put back in its place. -/
def updateDeletedAt (deletedAt : Option Datetime) (recordId : String)
    (data : List (String × Outage)) : Option Outage × List (String × Outage) :=
  match data.lookup recordId with
  | none => (none, data)
  | some record =>
    let updated := { record with deletedAt }
    (some updated, setItem recordId updated data)

def softDelete (recordId : String) (now : Time) (data : List (String × Outage)) :
    Option Outage × List (String × Outage) :=
  updateDeletedAt (some (.now now)) recordId data

def restore (recordId : String) (data : List (String × Outage)) :
    Option Outage × List (String × Outage) :=
  updateDeletedAt none recordId data

def isDeleted (record : Outage) : Bool := record.deletedAt.isSome

def listDeleted (data : List (String × Outage)) : List Outage :=
  (data.map (·.2)).filter isDeleted

end SoftDeleteMixin

/-! ## `OutageRepository` -/

namespace OutageRepository

/-- `_orm_to_pydantic`. -/
def ormToPydantic (orm : OutageORM) : Outage where
  id := orm.id
  siteName := orm.siteName
  siteId := orm.siteId
  severity := orm.severity
  status := orm.status
  detectedAt := orm.detectedAt
  resolvedAt := orm.resolvedAt
  description := orm.description
  affectedServices := orm.affectedServices
  affectedSubscribers := orm.affectedSubscribers
  assignedTo := orm.assignedTo
  createdBy := orm.createdBy
  location := orm.location

def get (s : OutageStore) (outageId : String) : Option Outage :=
  (getOrm s outageId).map ormToPydantic

/-- `list_all`. -/
def listAll (s : OutageStore) : List Outage := s.outages.map ormToPydantic

/-- `delete`, with what the foreign keys to `outages` and `sla_results` make of it: SLA results of
the outage go, and payments lose what they referred to. -/
def delete (outageId : String) (s : SoftDeleteState) : SoftDeleteState :=
  match getOrm s.outages outageId with
  | none => s
  | some _ =>
    let gone := (s.slaResults.filter fun r => r.outageId = outageId).map (·.id)
    { s with
      outages := { s.outages with outages := s.outages.outages.filter fun o => o.id ≠ outageId }
      slaResults := s.slaResults.filter fun r => r.outageId ≠ outageId
      payments := s.payments.map fun p =>
        { p with
          outageId := p.outageId.filter fun id => id ≠ outageId
          slaResultId := p.slaResultId.filter fun id => id ∉ gone } }

end OutageRepository

/-! ## The endpoints -/

/-- The names `app/api/v1/endpoints/outages.py` imports and defines. -/
def outagesModule : List String :=
  ["List", "csv", "io", "json", "datetime", "APIRouter", "Depends", "File", "HTTPException", "Query",
    "Response", "UploadFile", "ValidationError", "Session", "get_db", "BulkOutageCreate", "Outage",
    "OutageCreate", "OutageUpdate", "OutageStatus", "Severity", "PaginatedOutages",
    "ResolveOutageRequest", "OutageSortDirection", "OutageSortField", "ImportConsistency",
    "ImportFieldError", "ImportRowResult", "ImportResponse", "WebhookEvent",
    "OutageEventRepository", "OutageRepository", "PaymentRepository", "SLARepository",
    "OutageStateMachine", "audit_log", "SLAContractAdapter", "translate_contract_result",
    "trigger_sla_violation_webhooks", "export_outages", "_invalidate_analytics_cache",
    "require_engineer", "require_admin", "settings", "advisory_lock_nowait",
    "ConcurrencyLockError", "router", "export_outages_endpoint", "list_violations",
    "list_outages", "list_deleted_outages", "get_outage", "create_outage", "bulk_create_outages",
    "import_outages", "_row_error", "_import_response", "update_outage", "patch_outage",
    "delete_outage", "restore_outage", "resolve_outage", "recompute_sla", "get_outage_timeline",
    "get_valid_transitions"]

def loadGlobal (names : List String) (name : String) : Except Raised Unit :=
  if name ∈ names then .ok ()
  else .error { type := "NameError", message := s!"name '{name}' is not defined" }

/-- An index of a slice of `n` elements. -/
def sliceIndex (n : Nat) (i : Int) : Nat := if i < 0 then (n + i).toNat else min i.toNat n

/-- `items[start:end]`. -/
def slice {α : Type} (items : List α) (start stop : Int) : List α :=
  (items.take (sliceIndex items.length stop)).drop (sliceIndex items.length start)

structure OutagePage where
  items : List Outage
  total : Nat
  page : Int
  pageSize : Int

/-- `GET /outages/deleted`, in a module that has these names. -/
def listDeletedOutages (names : List String) (page pageSize : Int) (s : SoftDeleteState) :
    Except Failure OutagePage :=
  match loadGlobal names "outage_store" with
  | .error e => .error (.raised e)
  | .ok () =>
    let items := SoftDeleteMixin.listDeleted s.memory
    let start := (page - 1) * pageSize
    .ok { items := slice items start (start + pageSize), total := items.length, page, pageSize }

def notFound : Failure := .http 404 "Outage not found"

/-- `DELETE /outages/{id}`, answering with `deleted_at`. -/
def deleteOutage (names : List String) (outageId : String) (now : Time) (s : SoftDeleteState) :
    Except Failure (Option Datetime) × SoftDeleteState :=
  match OutageRepository.get s.outages outageId with
  | none => (.error notFound, s)
  | some _ =>
    match loadGlobal names "outage_store" with
    | .error e => (.error (.raised e), s)
    | .ok () =>
      match SoftDeleteMixin.softDelete outageId now s.memory with
      | (none, memory) => (.error notFound, { s with memory })
      | (some result, memory) => (.ok result.deletedAt, OutageRepository.delete outageId { s with memory })

/-- `POST /outages/{id}/restore`. -/
def restoreOutage (names : List String) (outageId : String) (s : SoftDeleteState) :
    Except Failure Outage × SoftDeleteState :=
  match loadGlobal names "outage_store" with
  | .error e => (.error (.raised e), s)
  | .ok () =>
    match s.memory.lookup outageId with
    | none => (.error notFound, s)
    | some _ =>
      match SoftDeleteMixin.restore outageId s.memory with
      | (none, memory) => (.error notFound, { s with memory })
      | (some result, memory) => (.ok result, { s with memory })

/-! ## What the endpoints do as they stand -/

variable {names : List String} {outageId : String} {now : Time} {s : SoftDeleteState}

theorem loadGlobal_outageStore :
    loadGlobal outagesModule "outage_store" =
      .error { type := "NameError", message := "name 'outage_store' is not defined" } := by
  decide +kernel

/-- **Deleting a stored outage** raises, and nothing changes. -/
theorem deleteOutage_stored {outage : Outage} (hget : OutageRepository.get s.outages outageId = some outage)
    (now : Time) :
    deleteOutage outagesModule outageId now s =
      (.error (.raised { type := "NameError", message := "name 'outage_store' is not defined" }), s)
      := by
  unfold deleteOutage
  rw [hget]
  dsimp only
  rw [loadGlobal_outageStore]

/-! ## What they would do with the store -/

theorem getOrm_delete (outageId : String) (s : SoftDeleteState) :
    getOrm (OutageRepository.delete outageId s).outages outageId = none := by
  unfold OutageRepository.delete
  cases hget : getOrm s.outages outageId with
  | none => exact hget
  | some orm =>
    refine List.find?_eq_none.mpr ?_
    intro o ho
    simpa using (List.mem_filter.mp ho).2

/-- **Were the store there**, a delete that succeeds takes the outage out of the database. -/
theorem deleteOutage_ok {deletedAt : Option Datetime} {s' : SoftDeleteState}
    (h : deleteOutage names outageId now s = (.ok deletedAt, s')) :
    getOrm s'.outages outageId = none := by
  unfold deleteOutage at h
  split at h
  · cases h
  · split at h
    · cases h
    · split at h
      · cases h
      · cases h
        exact getOrm_delete outageId _

theorem restoreOutage_outages (names : List String) (outageId : String) (s : SoftDeleteState) :
    (restoreOutage names outageId s).2.outages = s.outages := by
  unfold restoreOutage
  split
  · rfl
  · split
    · rfl
    · split
      · rfl
      · rfl

/-! ## Delete and restore -/

/-- **Deleting and restoring an outage**: the delete succeeds, then the outage is listed as deleted
and nowhere else; the restoring succeeds, and then it is back with its SLA results and payments. -/
def SoftDeletes (names : List String) (outageId : String) (now : Time) (s : SoftDeleteState) :
    Prop :=
  ∃ deletedAt s₁ restored s₂,
    deleteOutage names outageId now s = (.ok deletedAt, s₁) ∧
    OutageRepository.get s₁.outages outageId = none ∧ (∀ o ∈ listAll s₁.outages, o.id ≠ outageId) ∧
    (∃ page pageSize deleted, listDeletedOutages names page pageSize s₁ = .ok deleted ∧
      ∃ o ∈ deleted.items, o.id = outageId) ∧
    restoreOutage names outageId s₁ = (.ok restored, s₂) ∧
    OutageRepository.get s₂.outages outageId = OutageRepository.get s.outages outageId ∧
    (∃ o ∈ listAll s₂.outages, o.id = outageId) ∧
    s₂.slaResults = s.slaResults ∧ s₂.payments = s.payments

/-- **No outage comes back**, whatever the names of the module and the in-memory store. -/
theorem not_softDeletes (names : List String) (outageId : String) (now : Time)
    (s : SoftDeleteState) : ¬ SoftDeletes names outageId now s := by
  rintro ⟨deletedAt, s₁, restored, s₂, hdelete, -, -, -, hrestore, hget, -⟩
  have hgone : OutageRepository.get s₂.outages outageId = none := by
    have houtages := restoreOutage_outages names outageId s₁
    rw [hrestore] at houtages
    dsimp only at houtages
    unfold OutageRepository.get
    rw [houtages, deleteOutage_ok hdelete]
    rfl
  -- the outage was there, or the delete would have failed
  rw [hgone] at hget
  unfold deleteOutage at hdelete
  rw [← hget] at hdelete
  cases hdelete

/-! ## A stored outage -/

/-- The state with one open outage and the default in-memory store, which is empty. -/
def oneOutage : SoftDeleteState where
  outages :=
    { outages :=
        [ { id := "outage-1"
            siteName := "Site A"
            severity := "high"
            status := "open"
            detectedAt := 0
            description := "Fiber cut."
            affectedServices := ["core-api"]
            updatedAt := 0 } ] }

/-- It is stored, and deleting it fails. -/
theorem not_softDeletes_oneOutage :
    (OutageRepository.get oneOutage.outages "outage-1").isSome ∧
    (deleteOutage outagesModule "outage-1" 1 oneOutage).1 =
      .error (.raised { type := "NameError", message := "name 'outage_store' is not defined" }) ∧
    ¬ SoftDeletes outagesModule "outage-1" 1 oneOutage := by
  have hdelete : (deleteOutage outagesModule "outage-1" 1 oneOutage).1 =
      .error (.raised { type := "NameError", message := "name 'outage_store' is not defined" }) :=
    congrArg Prod.fst (deleteOutage_stored rfl 1)
  refine ⟨rfl, hdelete, ?_⟩
  rintro ⟨deletedAt, s₁, restored, s₂, h, -⟩
  rw [h] at hdelete
  cases hdelete

end NocIq
