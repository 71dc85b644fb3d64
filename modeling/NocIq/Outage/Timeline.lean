import Mathlib.Data.Fintype.Defs
import NocIq.Outage.Files
import NocIq.Outage.Update

/-!
# NocIq — the timeline of an outage

`validate_event_detail` of `app/models/outage_event.py`, the `OutageEventRepository`, and PUT and
PATCH with the event they record. The detail of an event passes through a model for its type; the
model of an update declares the one field `changes`, and the endpoints hand over the fields
themselves, so that nothing of an update is left in its event.

* **`record_update`** — the event of an update, whatever the update sets.
* **`serveRecorded_outcome`** — an accepted update adds one event, a refused one none.
* **`recordsChanges_iff`** — for which sequences of updates the timeline says what changed.
-/

namespace NocIq

open OutageRepository

/-! ## Details -/

abbrev Detail := List (String × Json.Value)

/-- `_DETAIL_MAP`, each model as the validator of its fields. -/
def detailModel (pyd : Pydantic) : String → Option (Detail → Checked Detail)
  | "created" => some (stringField "site_name")
  | "updated" => some changesField
  | "patched" => some changesField
  | "resolved" => some fun detail =>
    (OutageCreate.required (fun loc value => OutageCreate.converted loc (pyd.toInt value)) detail
      "mttr_minutes").map fun n => [("mttr_minutes", .int n)]
  | "sla_computed" => some (stringField "status")
  | "sla_recomputed" => some (stringField "status")
  | _ => none
where
  /-- A model with one field of type `str`. -/
  stringField (name : String) (detail : Detail) : Checked Detail :=
    (OutageCreate.required OutageCreate.checkStr detail name).map fun s => [(name, .str s)]
  /-- A model with the field `changes: Dict[str, Any]`, empty by default. Members the model does
  not declare are ignored. -/
  changesField (detail : Detail) : Checked Detail :=
    match detail.lookup "changes" with
    | none => .ok [("changes", .obj [])]
    | some (.obj changes) => .ok [("changes", .obj changes)]
    | some _ => fieldError "changes" "dict_type" "Input should be a valid dictionary"

/-- Either the validated detail, or the errors of a `ValidationError`, or a `ValueError`. -/
def validateEventDetail (pyd : Pydantic) (eventType : String) (detail : Option Detail) :
    Checked Detail :=
  match detailModel pyd eventType with
  | none =>
    .raised
      { type := "ValueError", message := s!"Unknown event_type: '{eventType}'", isValueError := true }
  -- a member `event_type` of the detail gives way to the type of the event
  | some model => model ((detail.getD []).filter fun m => m.1 ≠ "event_type")

/-! ## Events -/

def currentSchemaVersion : String := "1"

structure OutageEventORM where
  id : String
  outageId : String
  eventType : String
  detail : Option String
  schemaVersion : String := currentSchemaVersion
  occurredAt : Time
  deriving DecidableEq, Repr

structure TimelineStore where
  outages : OutageStore := {}
  events : List OutageEventORM := []
  deriving DecidableEq, Repr

structure TimelineEnv where
  db : OutageDatabase
  pyd : Pydantic
  floats : Json.FloatText

namespace OutageEventRepository

/-- `record`. The id is new: `evt_` and random digits. -/
def record (env : TimelineEnv) (eventId outageId eventType : String) (detail : Option Detail)
    (now : Time) (s : TimelineStore) : Checked OutageEventORM × TimelineStore :=
  match validateEventDetail env.pyd eventType detail with
  | .ok detail =>
    let orm : OutageEventORM :=
      { id := eventId
        outageId
        eventType
        detail := if detail = [] then none else some (Json.dumps env.floats (.obj detail))
        occurredAt := now }
    (.ok orm, { s with events := s.events ++ [orm] })
  | .invalid errors => (.invalid errors, s)
  | .raised e => (.raised e, s)

/-- The query of `list_for_outage`, before its page is cut out. -/
def query (outageId : String) (eventType : Option String) (startDate endDate : Option Time)
    (s : TimelineStore) : List OutageEventORM :=
  (s.events.filter fun e =>
    decide (e.outageId = outageId ∧ (∀ t ∈ eventType, t ≠ "" → e.eventType = t) ∧
      (∀ t ∈ startDate, t ≤ e.occurredAt) ∧ ∀ t ∈ endDate, e.occurredAt ≤ t)).mergeSort
    fun a b => decide (a.occurredAt ≤ b.occurredAt)

/-- `json.loads(r.detail) if r.detail else None`; the inner `none` is a `JSONDecodeError`. -/
def decodeDetail (env : TimelineEnv) (e : OutageEventORM) : Option (Option Json.Value) :=
  match e.detail with
  | none => some none
  | some text => if text = "" then some none else (Json.loads env.floats text.toList).map some

structure OutageEventItem where
  id : String
  outageId : String
  eventType : String
  schemaVersion : String
  detail : Option Json.Value
  occurredAt : Time

structure TimelinePage where
  items : List OutageEventItem
  total : Nat
  page : Nat
  pageSize : Nat

def item (env : TimelineEnv) (e : OutageEventORM) : Option OutageEventItem :=
  (decodeDetail env e).map fun detail =>
    { id := e.id
      outageId := e.outageId
      eventType := e.eventType
      schemaVersion := e.schemaVersion
      detail
      occurredAt := e.occurredAt }

/-- `list_for_outage`; it fails if a detail on the page cannot be decoded. -/
def listForOutage (env : TimelineEnv) (outageId : String) (eventType : Option String)
    (startDate endDate : Option Time) (page pageSize : Nat) (s : TimelineStore) :
    Option TimelinePage :=
  let rows := query outageId eventType startDate endDate s
  (((rows.drop ((page - 1) * pageSize)).take pageSize).mapM (item env)).map fun items =>
    { items, total := rows.length, page, pageSize }

end OutageEventRepository

open OutageEventRepository

/-! ## PUT and PATCH -/

def sentValue {α : Type} (value : α → Json.Value) : Sent α → Option Json.Value
  | none => none
  | some none => some .null
  | some (some a) => some (value a)

/-- The fields an update can have, each with the value it is sent with. -/
def OutageUpdate.sentFields (pyd : Pydantic) (payload : OutageUpdate) :
    List (String × Option Json.Value) :=
  [ ("status", sentValue (fun status => .str status.value) payload.status),
    ("site_name", sentValue .str payload.siteName),
    ("severity", sentValue (fun severity => .str severity.value) payload.severity),
    ("resolved_at", sentValue (fun t => .str (pyd.isoformat t)) payload.resolvedAt),
    ("description", sentValue .str payload.description),
    ("affected_services", sentValue (fun services => .arr (services.map .str))
      payload.affectedServices),
    ("affected_subscribers", sentValue .int payload.affectedSubscribers),
    ("assigned_to", sentValue .str payload.assignedTo),
    ("created_by", sentValue .str payload.createdBy),
    ("location", sentValue Outage.locationValue payload.location) ]

/-- `model_dump(exclude_unset=True)`: the fields that are set. -/
def OutageUpdate.setFields (pyd : Pydantic) (payload : OutageUpdate) : Detail :=
  (payload.sentFields pyd).filterMap fun m => m.2.map fun value => (m.1, value)

/-- `model_dump(exclude_unset=True, exclude_none=True)`. Enumerations and datetimes stand in the
dump as Python objects; here, as the texts they would be written as. -/
def OutageUpdate.dump (pyd : Pydantic) (payload : OutageUpdate) : Detail :=
  (payload.setFields pyd).filter fun m =>
    match m.2 with
    | .null => false
    | _ => true

structure UpdateRequest where
  method : UpdateMethod
  payload : OutageUpdate
  now : Time
  eventId : String

def UpdateMethod.eventType : UpdateMethod → String
  | .put => "updated"
  | .patch => "patched"

/-- What can go wrong in a request: the update itself, or the recording of its event. -/
inductive RecordingFailure where
  | update (e : Exc)
  | detail (errors : List ImportFieldError)
  | raised (e : Raised)

/-- PUT and PATCH, with the event. -/
def serveRecorded (env : TimelineEnv) (outageId : String) (r : UpdateRequest) (s : TimelineStore) :
    Except RecordingFailure (Option OutageORM) × TimelineStore :=
  match serveUpdate env.db r.method outageId r.payload r.now s.outages with
  | (.error e, outages) => (.error (.update e), { s with outages })
  | (.ok updated, outages) =>
    match record env r.eventId outageId r.method.eventType (some (r.payload.dump env.pyd)) r.now
        { s with outages } with
    | (.ok _, s) => (.ok updated, s)
    | (.invalid errors, s) => (.error (.detail errors), s)
    | (.raised e, s) => (.error (.raised e), s)

/-! ## The event of an update -/

variable {env : TimelineEnv} {outageId : String} {s : TimelineStore} {payload : OutageUpdate}

/-- The fields of `OutageUpdate`. None of them is a member of a detail. -/
def updateFieldNames : List String :=
  ["status", "site_name", "severity", "resolved_at", "description", "affected_services",
    "affected_subscribers", "assigned_to", "created_by", "location"]

theorem setFields_names {pyd : Pydantic} {m : String × Json.Value}
    (h : m ∈ payload.setFields pyd) : m.1 ∈ updateFieldNames := by
  obtain ⟨sent, hsent, hm⟩ := List.mem_filterMap.mp h
  obtain ⟨value, -, rfl⟩ := Option.map_eq_some_iff.mp hm
  exact List.mem_map_of_mem (f := fun m : String × Option Json.Value => m.1) hsent

/-- The detail of every update. -/
def emptyChanges : Json.Value := .obj [("changes", .obj [])]

def updateEvent (env : TimelineEnv) (outageId : String) (r : UpdateRequest) : OutageEventORM where
  id := r.eventId
  outageId := outageId
  eventType := r.method.eventType
  detail := some (Json.dumps env.floats emptyChanges)
  occurredAt := r.now

theorem decodeDetail_updateEvent (env : TimelineEnv) (outageId : String) (r : UpdateRequest) :
    decodeDetail env (updateEvent env outageId r) = some (some emptyChanges) := by
  have hback : Json.ReadsBack env.floats emptyChanges := by
    refine .obj (by simp) fun m hm => ?_
    rw [List.mem_singleton.mp hm]
    exact .obj List.nodup_nil nofun
  have hloads := Json.loads_dumps hback
  have hne : Json.dumps env.floats emptyChanges ≠ "" := by
    intro hempty
    rw [hempty] at hloads
    cases hloads
  unfold decodeDetail updateEvent
  dsimp only
  rw [if_neg hne, hloads]
  rfl

/-- **The event of an update** is the same whatever the update sets. -/
theorem record_update (env : TimelineEnv) (outageId : String) (r : UpdateRequest)
    (s : TimelineStore) :
    record env r.eventId outageId r.method.eventType (some (r.payload.dump env.pyd)) r.now s =
      (.ok (updateEvent env outageId r),
        { s with events := s.events ++ [updateEvent env outageId r] }) := by
  -- no field of an update is called `changes`
  have hchanges : ((r.payload.dump env.pyd).filter fun m => m.1 ≠ "event_type").lookup "changes"
      = none := by
    rw [List.lookup_eq_none_iff]
    intro m hm
    have hname := setFields_names (List.mem_of_mem_filter (List.mem_of_mem_filter hm))
    rw [bne_iff_ne]
    intro hname'
    rw [← hname'] at hname
    exact absurd hname (by decide)
  have hvalid : validateEventDetail env.pyd r.method.eventType (some (r.payload.dump env.pyd)) =
      .ok [("changes", .obj [])] := by
    have hfield : detailModel.changesField
        ((r.payload.dump env.pyd).filter fun m => m.1 ≠ "event_type") =
          .ok [("changes", .obj [])] := by
      unfold detailModel.changesField
      rw [hchanges]
    cases hmethod : r.method with
    | put => exact hfield
    | patch => exact hfield
  unfold record
  rw [hvalid]
  rfl

/-! ## The timeline after a request -/

/-- The events `list_for_outage` lists without filters, all pages together. -/
def timeline (outageId : String) (s : TimelineStore) : List OutageEventORM :=
  query outageId none none none s

theorem listForOutage_timeline {pageSize : Nat} (h : (timeline outageId s).length ≤ pageSize) :
    listForOutage env outageId none none none 1 pageSize s =
      ((timeline outageId s).mapM (item env)).map fun items =>
        { items, total := (timeline outageId s).length, page := 1, pageSize } := by
  unfold listForOutage
  show ((((timeline outageId s).drop ((1 - 1) * pageSize)).take pageSize).mapM (item env)).map _ = _
  rw [Nat.sub_self, Nat.zero_mul, List.drop_zero, List.take_of_length_le h]
  rfl

/-- **A recorded event** is in the timeline of its outage, besides those that were there. -/
theorem timeline_append {e : OutageEventORM} (he : e.outageId = outageId)
    {outages : OutageStore} :
    (timeline outageId { outages, events := s.events ++ [e] }).Perm (e :: timeline outageId s) := by
  have hfilter : (s.events ++ [e]).filter (fun e => decide (e.outageId = outageId ∧
      (∀ t ∈ (none : Option String), t ≠ "" → e.eventType = t) ∧
      (∀ t ∈ (none : Option Time), t ≤ e.occurredAt) ∧
        ∀ t ∈ (none : Option Time), e.occurredAt ≤ t)) =
      s.events.filter (fun e => decide (e.outageId = outageId ∧
      (∀ t ∈ (none : Option String), t ≠ "" → e.eventType = t) ∧
      (∀ t ∈ (none : Option Time), t ≤ e.occurredAt) ∧
        ∀ t ∈ (none : Option Time), e.occurredAt ≤ t)) ++ [e] := by
    rw [List.filter_append, List.filter_cons_of_pos (by simp [he]), List.filter_nil]
  unfold timeline query
  dsimp only
  rw [hfilter]
  refine (List.mergeSort_perm _ _).trans ?_
  refine (List.perm_append_singleton _ _).trans ?_
  exact (List.mergeSort_perm _ _).symm.cons e

/-- The outcomes of a request, each with the facts that lead to it. -/
inductive ServedRecorded (env : TimelineEnv) (outageId : String) (r : UpdateRequest)
    (s : TimelineStore) : Except RecordingFailure (Option OutageORM) × TimelineStore → Prop where
  | refused {e : Exc} {outages : OutageStore} (houtages : outages.outages = s.outages.outages)
      (hrefused : ∀ orm, getOrm s.outages outageId = some orm → 
        ¬ r.method.Takes env.db orm r.payload r.now) :
      ServedRecorded env outageId r s (.error (.update e), { s with outages })
  | updated {orm : OutageORM} (hfind : getOrm s.outages outageId = some orm)
      (htakes : r.method.Takes env.db orm r.payload r.now) :
      ServedRecorded env outageId r s
        (.ok (some (applied orm r.payload r.now)),
          { outages := saveOutage (applied orm r.payload r.now) s.outages
            events := s.events ++ [updateEvent env outageId r] })

/-- **An accepted update adds one event**, and a refused one none. -/
theorem serveRecorded_outcome (env : TimelineEnv) (outageId : String) (r : UpdateRequest)
    (s : TimelineStore) : ServedRecorded env outageId r s (serveRecorded env outageId r s) := by
  have houtcome := serveUpdate_outcome env.db r.method outageId r.payload r.now s.outages
  unfold serveRecorded
  generalize serveUpdate env.db r.method outageId r.payload r.now s.outages = outcome at houtcome ⊢
  cases houtcome with
  | refused houtages hrefused => exact .refused houtages hrefused
  | updated hfind htakes =>
    dsimp only
    rw [record_update]
    exact .updated hfind htakes

/-! ## Saying what changed -/

/-- The value a detail gives for a field, at its top or under `changes`. -/
def saidFor (detail : Json.Value) (name : String) : Option Json.Value :=
  match detail with
  | .obj members =>
    match members.lookup name, members.lookup "changes" with
    | some value, _ => some value
    | none, some (.obj changes) => changes.lookup name
    | none, _ => none
  | _ => none

/-- The timeline has one more event, and its detail gives the new value of every field that the
payload sets. -/
def Records (env : TimelineEnv) (outageId : String) (payload : OutageUpdate)
    (before after : TimelineStore) : Prop :=
  ∃ e, (timeline outageId after).Perm (e :: timeline outageId before) ∧
    ∃ detail, decodeDetail env e = some (some detail) ∧
      ∀ m ∈ payload.setFields env.pyd, saidFor detail m.1 = some m.2

def IsAccepted (outcome : Except RecordingFailure (Option OutageORM) × TimelineStore) : Prop :=
  ∃ updated, outcome.1 = .ok updated

/-- The table and the timeline after a sequence of requests. -/
def runUpdates (env : TimelineEnv) (outageId : String) :
    List UpdateRequest → TimelineStore → TimelineStore
  | [], s => s
  | r :: rs, s => runUpdates env outageId rs (serveRecorded env outageId r s).2

/-- Every accepted update of the sequence is recorded. -/
def EachRecorded (env : TimelineEnv) (outageId : String) :
    List UpdateRequest → TimelineStore → Prop
  | [], _ => True
  | r :: rs, s =>
    (IsAccepted (serveRecorded env outageId r s) →
      Records env outageId r.payload s (serveRecorded env outageId r s).2) ∧
    EachRecorded env outageId rs (serveRecorded env outageId r s).2

/-- Some accepted update of the sequence sets the field. -/
def Sets (env : TimelineEnv) (outageId name : String) : List UpdateRequest → TimelineStore → Prop
  | [], _ => False
  | r :: rs, s =>
    (IsAccepted (serveRecorded env outageId r s) ∧
      name ∈ (r.payload.setFields env.pyd).map (·.1)) ∨
    Sets env outageId name rs (serveRecorded env outageId r s).2

/-- Replaying events: the last value that one of them gives for the field. -/
def replay (env : TimelineEnv) (events : List OutageEventORM) (name : String) : Option Json.Value :=
  events.foldl (fun value e =>
    match decodeDetail env e with
    | some (some detail) => if e.eventType ∈ ["created", "updated", "patched", "resolved"] then
        (saidFor detail name).or value
      else value
    | _ => value) none

def fieldValue (pyd : Pydantic) (orm : OutageORM) : String → Option Json.Value
  | "status" => some (.str orm.status)
  | "site_name" => some (.str orm.siteName)
  | "severity" => some (.str orm.severity)
  | "resolved_at" => some (Outage.optional (fun t => .str (pyd.isoformat t)) orm.resolvedAt)
  | "description" => some (.str orm.description)
  | "affected_services" => some (.arr (orm.affectedServices.map .str))
  | "affected_subscribers" => some (Outage.optional .int orm.affectedSubscribers)
  | "assigned_to" => some (Outage.optional .str orm.assignedTo)
  | "created_by" => some (Outage.optional .str orm.createdBy)
  | "location" => some (Outage.optional Outage.locationValue orm.location)
  | _ => none

/-- **The timeline records what changed**: every accepted update adds an event that says what it
set, and replaying the timeline gives the current value of every field that was set. -/
def RecordsChanges (env : TimelineEnv) (outageId : String) (rs : List UpdateRequest)
    (s : TimelineStore) : Prop :=
  EachRecorded env outageId rs s ∧
    ∀ name, Sets env outageId name rs s →
      ∀ orm, getOrm (runUpdates env outageId rs s).outages outageId = some orm →
        replay env (timeline outageId (runUpdates env outageId rs s)) name =
          fieldValue env.pyd orm name

/-! ## When it does -/

/-- No update that the outage takes sets a field. -/
def NothingSet (env : TimelineEnv) (outageId : String) :
    List UpdateRequest → TimelineStore → Prop
  | [], _ => True
  | r :: rs, s =>
    ((∃ orm, getOrm s.outages outageId = some orm ∧
        r.method.Takes env.db orm r.payload r.now) →
      r.payload.setFields env.pyd = []) ∧
    NothingSet env outageId rs (serveRecorded env outageId r s).2

theorem saidFor_emptyChanges {name : String} (h : name ∈ updateFieldNames) :
    saidFor emptyChanges name = none := by
  have hne : name ≠ "changes" := by
    rintro rfl
    exact absurd h (by decide)
  have hlookup : [("changes", Json.Value.obj [])].lookup name = none := by
    rw [List.lookup_cons, beq_false_of_ne hne]
    rfl
  show (match [("changes", Json.Value.obj [])].lookup name,
      [("changes", Json.Value.obj [])].lookup "changes" with
    | some value, _ => some value
    | none, some (.obj changes) => changes.lookup name
    | none, _ => none) = none
  rw [hlookup]
  rfl

theorem accepted_iff {r : UpdateRequest} :
    IsAccepted (serveRecorded env outageId r s) ↔
      ∃ orm, getOrm s.outages outageId = some orm ∧
        r.method.Takes env.db orm r.payload r.now := by
  have houtcome := serveRecorded_outcome env outageId r s
  generalize serveRecorded env outageId r s = outcome at houtcome ⊢
  cases houtcome with
  | refused houtages hrefused =>
    refine iff_of_false ?_ ?_
    · rintro ⟨updated, h⟩
      cases h
    · rintro ⟨orm, hfind, htakes⟩
      exact hrefused orm hfind htakes
  | updated hfind htakes => exact iff_of_true ⟨_, rfl⟩ ⟨_, hfind, htakes⟩

theorem head_eq_of_perm {α : Type} [DecidableEq α] {a b : α} {l : List α}
    (h : (a :: l).Perm (b :: l)) : a = b := by
  have hcount := h.count_eq a
  rw [List.count_cons_self] at hcount
  by_contra hne
  rw [List.count_cons_of_ne (Ne.symm hne)] at hcount
  omega

/-- **An accepted update is recorded** exactly if it sets no field. -/
theorem records_iff {r : UpdateRequest} (h : IsAccepted (serveRecorded env outageId r s)) :
    Records env outageId r.payload s (serveRecorded env outageId r s).2 ↔
      r.payload.setFields env.pyd = [] := by
  have houtcome := serveRecorded_outcome env outageId r s
  generalize serveRecorded env outageId r s = outcome at houtcome h ⊢
  cases houtcome with
  | refused =>
    obtain ⟨updated, hok⟩ := h
    cases hok
  | @updated orm hfind htakes =>
    have hperm : (timeline outageId
        { outages := saveOutage (applied orm r.payload r.now) s.outages
          events := s.events ++ [updateEvent env outageId r] }).Perm
          (updateEvent env outageId r :: timeline outageId s) :=
      timeline_append (e := updateEvent env outageId r) rfl
    constructor
    · rintro ⟨e, hperm', detail, hdecode, hgiven⟩
      obtain rfl : e = updateEvent env outageId r := head_eq_of_perm (hperm'.symm.trans hperm)
      rw [decodeDetail_updateEvent] at hdecode
      cases hdecode
      refine List.eq_nil_iff_forall_not_mem.mpr fun m hm => ?_
      have hsome := hgiven m hm
      rw [saidFor_emptyChanges (setFields_names hm)] at hsome
      cases hsome
    · intro hnone
      refine ⟨_, hperm, emptyChanges, decodeDetail_updateEvent env outageId r, ?_⟩
      rw [hnone]
      exact nofun

theorem eachRecorded_iff {rs : List UpdateRequest} :
    EachRecorded env outageId rs s ↔ NothingSet env outageId rs s := by
  induction rs generalizing s with
  | nil => exact Iff.rfl
  | cons r rs ih =>
    unfold EachRecorded NothingSet
    rw [ih, ← accepted_iff]
    refine and_congr_left fun _ => ⟨fun h haccepted => ?_, fun h haccepted => ?_⟩
    · exact (records_iff haccepted).mp (h haccepted)
    · exact (records_iff haccepted).mpr (h haccepted)

theorem not_sets {rs : List UpdateRequest} (h : NothingSet env outageId rs s) (name : String) :
    ¬ Sets env outageId name rs s := by
  induction rs generalizing s with
  | nil => exact id
  | cons r rs ih =>
    rintro (⟨haccepted, hname⟩ | hrest)
    · rw [h.1 (accepted_iff.mp haccepted)] at hname
      exact absurd hname List.not_mem_nil
    · exact ih h.2 hrest

/-- **For which sequences** the timeline says what changed. -/
theorem recordsChanges_iff (env : TimelineEnv) (outageId : String) (rs : List UpdateRequest)
    (s : TimelineStore) : RecordsChanges env outageId rs s ↔ NothingSet env outageId rs s := by
  unfold RecordsChanges
  rw [eachRecorded_iff]
  refine and_iff_left_of_imp fun h name hsets => ?_
  exact absurd hsets (not_sets h name)

/-! ## A change of the description -/

def plainTimelineEnv : TimelineEnv where
  db := declaredDatabase
  pyd := plainPydantic
  floats := { repr := fun _ => "0.0", parse := fun _ => some 0 }

/-- `PATCH /outages/outage-1` with a new description. -/
def describeRequest : UpdateRequest where
  method := .patch
  payload := { description := some (some "Power failure.") }
  now := 1
  eventId := "evt_000000000001"

/-- The new description is in the table and not in the timeline. -/
theorem not_recordsChanges :
    (runUpdates plainTimelineEnv "outage-1" [describeRequest]
      { outages := { outages := [openOutage] } }).outages.outages.map (·.description) =
        ["Power failure."] ∧
    ¬ RecordsChanges plainTimelineEnv "outage-1" [describeRequest]
      { outages := { outages := [openOutage] } } := by
  refine ⟨by decide +kernel, ?_⟩
  rintro ⟨⟨hfirst, -⟩, -⟩
  have haccepted : IsAccepted (serveRecorded plainTimelineEnv "outage-1" describeRequest
      { outages := { outages := [openOutage] } }) :=
    accepted_iff.mpr ⟨openOutage, by decide +kernel, rfl, by decide, by decide +kernel⟩
  have hnone := (records_iff haccepted).mp (hfirst haccepted)
  exact absurd hnone (List.cons_ne_nil _ _)

end NocIq
