import NocIq.Outage.Files

/-!
# NocIq — exporting and importing again

What becomes of a list of outages that is exported to a file and imported into an empty table. As
JSON it comes back as it was, unless the file is over one of the two limits, the database refuses a
row, or a later outage looks like an earlier one and is taken for its duplicate. As CSV nothing but
the empty list comes back.

* **`validate_serialize`** — an exported outage is accepted as it was.
* **`roundTrips_iff`** — which lists come back.
-/

namespace NocIq

open OutageRepository

/-! ## The same outage in the three forms -/

/-- The payload and the outage agree in the twelve fields of an outage that is created. -/
structure Describes (payload : OutageCreate) (outage : Outage) : Prop where
  id : payload.id = outage.id
  siteName : payload.siteName = outage.siteName
  siteId : payload.siteId = outage.siteId
  severity : payload.severity.value = outage.severity
  status : payload.status.value = outage.status
  detectedAt : payload.detectedAt = outage.detectedAt
  description : payload.description = outage.description
  affectedServices : payload.affectedServices = outage.affectedServices
  affectedSubscribers : payload.affectedSubscribers = outage.affectedSubscribers
  assignedTo : payload.assignedTo = outage.assignedTo
  createdBy : payload.createdBy = outage.createdBy
  location : payload.location = outage.location

/-- So do the stored row and the outage. -/
structure Stores (orm : OutageORM) (outage : Outage) : Prop where
  id : orm.id = outage.id
  siteName : orm.siteName = outage.siteName
  siteId : orm.siteId = outage.siteId
  severity : orm.severity = outage.severity
  status : orm.status = outage.status
  detectedAt : orm.detectedAt = outage.detectedAt
  description : orm.description = outage.description
  affectedServices : orm.affectedServices = outage.affectedServices
  affectedSubscribers : orm.affectedSubscribers = outage.affectedSubscribers
  assignedTo : orm.assignedTo = outage.assignedTo
  createdBy : orm.createdBy = outage.createdBy
  location : orm.location = outage.location

theorem Describes.stores {payload : OutageCreate} {outage : Outage} (h : Describes payload outage)
    (db : OutageDatabase) : Stores (newOrm db payload) outage :=
  ⟨h.id, h.siteName, h.siteId, h.severity, h.status, h.detectedAt, h.description,
    h.affectedServices, h.affectedSubscribers, h.assignedTo, h.createdBy, h.location⟩

/-- `OutageCreate` accepts the outage. -/
def Outage.Accepted (limits : OutageLimits) (outage : Outage) : Prop :=
  ∃ payload : OutageCreate, payload.Valid limits ∧ Describes payload outage

def Outage.payload (outage : Outage) : OutageCreate where
  id := outage.id
  siteName := outage.siteName
  siteId := outage.siteId
  severity := (OutageCreate.severityOf outage.severity).getD .critical
  status := (OutageCreate.statusOf outage.status).getD .open
  detectedAt := outage.detectedAt
  description := outage.description
  affectedServices := outage.affectedServices
  affectedSubscribers := outage.affectedSubscribers
  assignedTo := outage.assignedTo
  createdBy := outage.createdBy
  resolvedAt := outage.resolvedAt.map fun t => .aware t 0
  location := outage.location

/-- pydantic reads the values it has written for this outage, and the texts of its coordinates
stand for them. -/
structure FileEnv.ReadsBack (env : FileEnv) (outage : Outage) : Prop where
  detectedAt :
    env.pyd.toDatetime (.str (env.pyd.isoformat outage.detectedAt)) = .ok (.aware outage.detectedAt 0)
  resolvedAt : ∀ t ∈ outage.resolvedAt,
    env.pyd.toDatetime (.str (env.pyd.isoformat t)) = .ok (.aware t 0)
  affectedSubscribers : ∀ n ∈ outage.affectedSubscribers, env.pyd.toInt (.int n) = .ok n
  location : ∀ location ∈ outage.location, ∀ x ∈ [location.latitude, location.longitude],
    env.pyd.toFloat (.ofFloat x) = .ok x ∧ Json.ReadsBack env.floats (.ofFloat x)

/-! ## What an exported outage is read as -/

variable {env : FileEnv} {outage : Outage} {outages : List Outage}

namespace OutageCreate

theorem severityOf_value (severity : Severity) : severityOf severity.value = some severity := by
  cases severity <;> rfl

theorem statusOf_value (status : OutageStatus) : statusOf status.value = some status := by
  cases status <;> rfl

theorem optional_written {α β : Type} {check : String → Json.Value → Checked β}
    {members : Members} {name : String} (value : α → Json.Value) {read : α → β} {a : Option α}
    (hlookup : members.lookup name = some (Outage.optional value a))
    (hnull : ∀ a, value a ≠ .null) (hcheck : ∀ a' ∈ a, check name (value a') = .ok (read a')) :
    optional check members name = .ok (a.map read) := by
  unfold optional
  rw [hlookup]
  cases a with
  | none => rfl
  | some a =>
    have hchecked := hcheck a rfl
    unfold Outage.optional
    dsimp only [Option.elim]
    cases hvalue : value a with
    | null => exact absurd hvalue (hnull a)
    | _ =>
      rw [hvalue] at hchecked
      dsimp only
      rw [hchecked]
      rfl

theorem optional_same {α : Type} {check : String → Json.Value → Checked α}
    {members : Members} {name : String} {value : α → Json.Value} {a : Option α}
    (hlookup : members.lookup name = some (Outage.optional value a))
    (hnull : ∀ a, value a ≠ .null) (hcheck : ∀ a' ∈ a, check name (value a') = .ok a') :
    optional check members name = .ok a := by
  have h := optional_written value hlookup hnull hcheck
  rwa [Option.map_id'] at h

theorem optional_str {members : Members} {name : String} {s : Option String}
    (hlookup : members.lookup name = some (Outage.optional .str s)) :
    optional checkStr members name = .ok s :=
  optional_same hlookup (fun _ => nofun) fun _ _ => rfl

theorem checkLength_ok {maxLength : Nat} {loc s : String} (hne : s ≠ "")
    (hle : s.length ≤ maxLength) : checkLength maxLength loc (.str s) = .ok s := by
  unfold checkLength checkNonEmpty checkStr Checked.andThen
  dsimp only
  rw [if_neg hne]
  dsimp only
  rw [if_neg (by omega)]

def jsonText : Json.Value → String
  | .str s => s
  | _ => ""

theorem checkServices_ok {limits : OutageLimits} {loc : String} {services : List String}
    (hne : services ≠ []) (hle : services.length ≤ limits.maxAffectedServicesCount) :
    checkServices limits loc (.arr (services.map .str)) = .ok services := by
  have heach : Checked.each (fun i => checkStr s!"{loc}.{i}") 0 (services.map .str) =
      .ok ((services.map Json.Value.str).map jsonText) := by
    refine Checked.each_ok ?_ 0
    intro i value hvalue
    obtain ⟨s, -, rfl⟩ := List.mem_map.mp hvalue
    rfl
  have hservices : (services.map Json.Value.str).map jsonText = services := by
    rw [List.map_map]
    exact List.map_id services
  unfold checkServices
  dsimp only
  rw [heach, hservices]
  unfold Checked.andThen
  dsimp only
  rw [if_neg hne, if_neg (by omega)]

theorem checkLocation_ok {pyd : Pydantic} {loc : String} {location : Location}
    (hlatitude : pyd.toFloat (.ofFloat location.latitude) = .ok location.latitude)
    (hlongitude : pyd.toFloat (.ofFloat location.longitude) = .ok location.longitude) :
    checkLocation pyd loc (Outage.locationValue location) = .ok location := by
  have hcoordinate : ∀ {members : Members} {x : Json.PyFloat} (name : String),
      members.lookup name = some (.ofFloat x) → pyd.toFloat (.ofFloat x) = .ok x →
        required (fun loc value => converted loc (pyd.toFloat value)) members name
          s!"{loc}.{name}" = .ok x := by
    intro members x name hlookup hx
    refine required_eq_ok.mpr ⟨_, hlookup, ?_⟩
    rw [hx]
    rfl
  unfold checkLocation Outage.locationValue
  dsimp only [Json.Value.dict?]
  rw [hcoordinate "latitude" rfl hlatitude, hcoordinate "longitude" rfl hlongitude]
  rfl

theorem payload_describes {limits : OutageLimits} (h : outage.Accepted limits) :
    outage.payload.Valid limits ∧ Describes outage.payload outage := by
  obtain ⟨payload, hvalid, hsame⟩ := h
  refine ⟨⟨?_, ?_, ?_, ?_, ?_⟩, ⟨rfl, rfl, rfl, ?_, ?_, rfl, rfl, rfl, rfl, rfl, rfl, rfl⟩⟩
  · show outage.id ≠ ""
    exact hsame.id ▸ hvalid.id
  · show outage.siteName ≠ "" ∧ outage.siteName.length ≤ limits.maxSiteNameLength
    exact hsame.siteName ▸ hvalid.siteName
  · show outage.description ≠ "" ∧ outage.description.length ≤ limits.maxDescriptionLength
    exact hsame.description ▸ hvalid.description
  · show outage.affectedServices ≠ [] ∧
      outage.affectedServices.length ≤ limits.maxAffectedServicesCount
    exact hsame.affectedServices ▸ hvalid.affectedServices
  · show ∀ n ∈ outage.affectedSubscribers, 0 ≤ n
    exact hsame.affectedSubscribers ▸ hvalid.affectedSubscribers
  · unfold Outage.payload
    rw [← hsame.severity, severityOf_value]
    rfl
  · unfold Outage.payload
    rw [← hsame.status, statusOf_value]
    rfl

/-- **An exported outage is accepted** and read as it was. -/
theorem validate_serialize (haccepted : outage.Accepted env.limits)
    (hreads : env.ReadsBack outage) :
    validate env.pyd env.limits (Outage.serialize env outage) = .ok outage.payload := by
  obtain ⟨hvalid, hsame⟩ := payload_describes haccepted
  refine validate_eq_ok.mpr ⟨?_, ?_, ?_, ?_, ?_, ?_, ?_, ?_, ?_, ?_, ?_, ?_, ?_⟩
  · refine required_eq_ok.mpr ⟨.str outage.id, rfl, ?_⟩
    unfold checkNonEmpty checkStr Checked.andThen
    exact if_neg hvalid.id
  · exact required_eq_ok.mpr ⟨_, rfl, checkLength_ok hvalid.siteName.1 hvalid.siteName.2⟩
  · exact optional_str rfl
  · refine required_eq_ok.mpr ⟨.str outage.severity, rfl, ?_⟩
    unfold checkSeverity
    dsimp only
    rw [← hsame.severity, severityOf_value]
  · refine required_eq_ok.mpr ⟨.str outage.status, rfl, ?_⟩
    unfold checkStatus
    dsimp only
    rw [← hsame.status, statusOf_value]
  · refine required_eq_ok.mpr ⟨.str (env.pyd.isoformat outage.detectedAt), rfl, ?_⟩
    unfold checkDetectedAt
    rw [hreads.detectedAt]
    show Checked.ok (outage.detectedAt - 0) = _
    rw [Int.sub_zero]
    rfl
  · exact required_eq_ok.mpr ⟨_, rfl, checkLength_ok hvalid.description.1 hvalid.description.2⟩
  · exact required_eq_ok.mpr
      ⟨_, rfl, checkServices_ok hvalid.affectedServices.1 hvalid.affectedServices.2⟩
  · refine optional_same rfl (fun n => nofun) ?_
    intro n hn
    unfold checkSubscribers
    rw [hreads.affectedSubscribers n hn]
    exact if_pos (hvalid.affectedSubscribers n hn)
  · exact optional_str rfl
  · exact optional_str rfl
  · refine optional_written (fun t => .str (env.pyd.isoformat t)) rfl (fun t => nofun) ?_
    intro t ht
    rw [hreads.resolvedAt t ht]
    rfl
  · refine optional_same rfl (fun location => nofun) ?_
    intro location hlocation
    have hcoordinates := hreads.location location hlocation
    exact checkLocation_ok (hcoordinates _ (by simp)).1 (hcoordinates _ (by simp)).1

end OutageCreate

/-! ## Payloads that are all created -/

namespace OutageRepository

variable {db : OutageDatabase} {payload : OutageCreate} {payloads : List OutageCreate}
  {s : OutageStore}

/-- Every payload is created, one after another. -/
def AllCreated (db : OutageDatabase) : List OutageCreate → OutageStore → Prop
  | [], _ => True
  | payload :: payloads, s =>
    checkDuplicate payload s = .ok none ∧ db.refuses (newOrm db payload) = none ∧
      AllCreated db payloads (insertOrm (newOrm db payload) s)

theorem createOrGetExisting_length (db : OutageDatabase) (payload : OutageCreate)
    (s : OutageStore) :
    (checkDuplicate payload s = .ok none ∧ db.refuses (newOrm db payload) = none ∧
      createOrGetExisting db payload s =
        (.ok (newOrm db payload, true), insertOrm (newOrm db payload) s)) ∨
    (createOrGetExisting db payload s).2 = s := by
  have houtcome := createOrGetExisting_outcome db payload s
  generalize createOrGetExisting db payload s = outcome at houtcome ⊢
  cases houtcome with
  | conflicting => exact .inr rfl
  | duplicate => exact .inr rfl
  | refused => exact .inr rfl
  | created hcheck haccepted => exact .inl ⟨hcheck, haccepted, rfl⟩

/-- If all are created, these are the results and the rows. Induction on the payloads. -/
theorem createEach_allCreated (h : AllCreated db payloads s) :
    createEach db payloads s =
      (.ok (payloads.map fun payload => (newOrm db payload, true)),
        { s with outages := s.outages ++ payloads.map (newOrm db) }) := by
  induction payloads generalizing s with
  | nil => simp
  | cons payload payloads ih =>
    obtain ⟨hcheck, haccepted, hrest⟩ := h
    have hcreated : createOrGetExisting db payload s =
        (.ok (newOrm db payload, true), insertOrm (newOrm db payload) s) := by
      unfold createOrGetExisting
      rw [hcheck]
      dsimp only
      rw [haccepted]
    unfold createEach
    rw [hcreated]
    dsimp only
    rw [ih hrest]
    simp [insertOrm]

/-- If a row is added for each, all are created. Induction on the payloads: at most one row is added
for each of them. -/
theorem allCreated_of_length :
    (createEach db payloads s).2.outages.length ≤ s.outages.length + payloads.length ∧
      ((createEach db payloads s).2.outages.length = s.outages.length + payloads.length →
        AllCreated db payloads s) := by
  induction payloads generalizing s with
  | nil => exact ⟨le_rfl, fun _ => trivial⟩
  | cons payload payloads ih =>
    rw [createEach_cons_snd, List.length_cons]
    rcases createOrGetExisting_length db payload s with ⟨hcheck, haccepted, hcreated⟩ | hsame
    · rw [hcreated]
      dsimp only
      have hlength : (insertOrm (newOrm db payload) s).outages.length = s.outages.length + 1 := by
        simp [insertOrm]
      obtain ⟨hle, hall⟩ := ih (s := insertOrm (newOrm db payload) s)
      rw [hlength] at hle hall
      exact ⟨by omega, fun h => ⟨hcheck, haccepted, hall (by omega)⟩⟩
    · -- no row is added for this one, so that one is missing
      have hrest := ih (s := s)
      generalize createOrGetExisting db payload s = outcome at hsame ⊢
      obtain ⟨e | created, s'⟩ := outcome
      · obtain rfl : s' = s := hsame
        exact ⟨by dsimp only; omega, fun h => absurd h (by dsimp only; omega)⟩
      · obtain rfl : s' = s := hsame
        obtain ⟨hle, -⟩ := hrest
        exact ⟨by dsimp only; omega, fun h => absurd h (by dsimp only; omega)⟩

theorem checkDuplicate_eq_none :
    checkDuplicate payload s = .ok none ↔
      (∀ o ∈ s.outages, o.id ≠ payload.id) ∧ ∀ o ∈ s.outages, matchesContent payload o = false := by
  constructor
  · exact not_mem_of_checkDuplicate
  · rintro ⟨hids, hcontents⟩
    have hget : getOrm s payload.id = none :=
      List.find?_eq_none.mpr fun o ho => by simpa using hids o ho
    have hfind : findDuplicateOrm payload s = none :=
      List.find?_eq_none.mpr fun o ho => by simp [hcontents o ho]
    unfold checkDuplicate
    rw [hget, hfind]

/-- **All payloads are created** if they differ from the rows, from each other, and the database
takes each of them. Induction on the payloads. -/
theorem allCreated_iff :
    AllCreated db payloads s ↔
      (∀ payload ∈ payloads, checkDuplicate payload s = .ok none) ∧
      (payloads.Pairwise fun earlier later =>
        earlier.id ≠ later.id ∧ matchesContent later (newOrm db earlier) = false) ∧
      ∀ payload ∈ payloads, db.refuses (newOrm db payload) = none := by
  induction payloads generalizing s with
  | nil => simp [AllCreated]
  | cons payload payloads ih =>
    have hinsert : ∀ {later : OutageCreate},
        checkDuplicate later (insertOrm (newOrm db payload) s) = .ok none ↔
          checkDuplicate later s = .ok none ∧ payload.id ≠ later.id ∧
            matchesContent later (newOrm db payload) = false := by
      intro later
      rw [checkDuplicate_eq_none, checkDuplicate_eq_none]
      simp only [insertOrm, List.forall_mem_append, List.mem_singleton, forall_eq, newOrm_id]
      tauto
    unfold AllCreated
    rw [ih, List.pairwise_cons]
    simp only [hinsert, List.forall_mem_cons]
    constructor
    · rintro ⟨hcheck, haccepted, hrest, hpairwise, hrefuses⟩
      exact ⟨⟨hcheck, fun later hlater => (hrest later hlater).1⟩,
        ⟨fun later hlater => (hrest later hlater).2, hpairwise⟩, haccepted, hrefuses⟩
    · rintro ⟨⟨hcheck, hrest⟩, ⟨hothers, hpairwise⟩, haccepted, hrefuses⟩
      exact ⟨hcheck, haccepted, fun later hlater => ⟨hrest later hlater, hothers later hlater⟩,
        hpairwise, hrefuses⟩

end OutageRepository

/-! ## Imports in which every row is created -/

variable {rows : List Row} {payloads : List OutageCreate} {s : OutageStore}

/-- A partial import whose payloads are all created reports every row. Induction on the rows. -/
theorem partialRows_allCreated (hparsed : Parsed env.toOutageEnv rows payloads)
    (hall : AllCreated env.db payloads s) (i : Nat) :
    ∃ results, eachRow (partialRow env.toOutageEnv) i rows s =
        (.ok results, { s with outages := s.outages ++ payloads.map (newOrm env.db) }) ∧
      results.length = payloads.length ∧ ∀ r ∈ results, r.status = .ok := by
  induction rows generalizing payloads s i with
  | nil =>
    rw [List.map_eq_nil_iff.mp hparsed.symm]
    refine ⟨[], ?_, rfl, List.forall_mem_nil _⟩
    rw [List.map_nil, List.append_nil]
    rfl
  | cons row rows ih =>
    cases payloads with
    | nil => cases hparsed
    | cons payload payloads =>
      obtain ⟨hrow, hrows⟩ := List.cons.inj hparsed
      obtain ⟨hcheck, haccepted, hrest⟩ := hall
      obtain ⟨results, hresults, hlength, hok⟩ := ih hrows hrest (i + 1)
      have hfirst : partialRow env.toOutageEnv i row s =
          (.ok (partialResult i payload (newOrm env.db payload) true),
            insertOrm (newOrm env.db payload) s) := by
        unfold partialRow
        rw [hrow]
        dsimp only
        unfold createOrGetExisting
        rw [hcheck]
        dsimp only
        rw [haccepted]
      refine ⟨partialResult i payload (newOrm env.db payload) true :: results, ?_, ?_, ?_⟩
      · unfold eachRow
        rw [hfirst]
        dsimp only
        rw [hresults]
        simp [insertOrm]
      · rw [List.length_cons, hlength, List.length_cons]
      · intro r hr
        rcases List.mem_cons.mp hr with rfl | hr
        · rfl
        · exact hok r hr

/-- If a partial import adds a row for each payload, all are created. Induction on the rows. -/
theorem partialRows_of_length (hparsed : Parsed env.toOutageEnv rows payloads) (i : Nat) :
    (eachRow (partialRow env.toOutageEnv) i rows s).2.outages.length ≤
        s.outages.length + payloads.length ∧
      ((eachRow (partialRow env.toOutageEnv) i rows s).2.outages.length =
          s.outages.length + payloads.length → AllCreated env.db payloads s) := by
  induction rows generalizing payloads s i with
  | nil =>
    rw [List.map_eq_nil_iff.mp hparsed.symm]
    exact ⟨le_rfl, fun _ => trivial⟩
  | cons row rows ih =>
    cases payloads with
    | nil => cases hparsed
    | cons payload payloads =>
      obtain ⟨hrow, hrows⟩ := List.cons.inj hparsed
      have hstore : (eachRow (partialRow env.toOutageEnv) i (row :: rows) s).2 =
          (eachRow (partialRow env.toOutageEnv) (i + 1) rows
            (createOrGetExisting env.db payload s).2).2 := by
        rw [eachRow_cons_snd]
        rcases partialRow_cases env.toOutageEnv i row s with
          ⟨payload', result, hparse, hresult⟩ | ⟨hnone, -⟩
        · cases hrow.symm.trans hparse
          rw [hresult]
        · exact absurd hrow (hnone payload)
      rw [hstore, List.length_cons]
      obtain ⟨hle, hall⟩ := ih (s := (createOrGetExisting env.db payload s).2) hrows (i + 1)
      rcases createOrGetExisting_length env.db payload s with ⟨hcheck, haccepted, hcreated⟩ | hsame
      · rw [hcreated] at hle hall ⊢
        dsimp only at hle hall ⊢
        have hlength : (insertOrm (newOrm env.db payload) s).outages.length =
            s.outages.length + 1 := by
          simp [insertOrm]
        rw [hlength] at hle hall
        exact ⟨by omega, fun h => ⟨hcheck, haccepted, hall (by omega)⟩⟩
      · rw [hsame] at hle ⊢
        exact ⟨by omega, fun h => absurd h (by omega)⟩

/-- Every row of the response is ok, and the table has these outages. -/
def Imported (outcome : Except Failure ImportResponse × OutageStore) (outages : List Outage) :
    Prop :=
  ∃ response s, outcome = (.ok response, s) ∧ response.rows.length = outages.length ∧
    (∀ r ∈ response.rows, r.status = .ok) ∧ List.Forall₂ Stores s.outages outages

theorem writtenResults_ok {results : List ImportRowResult} {created : List (OutageORM × Bool)}
    (h : ∀ r ∈ results, r.status = .ok) :
    ∀ r ∈ List.zipWith writtenResult results created, r.status = .ok := by
  have hstatus : ∀ (result : ImportRowResult) (c : OutageORM × Bool),
      (writtenResult result c).status = result.status := by
    intro result c
    unfold writtenResult
    dsimp only
    split
    · rfl
    · rfl
  induction results generalizing created with
  | nil => simp
  | cons result results ih =>
    cases created with
    | nil => simp
    | cons c created =>
      intro r hr
      rcases List.mem_cons.mp hr with rfl | hr
      · rw [hstatus]
        exact h result List.mem_cons_self
      · exact ih (fun r' hr' => h r' (List.mem_cons_of_mem _ hr')) r hr

/-- **An import into an empty table** stores outages whose rows are accepted exactly if there are
not too many and all are created. -/
theorem imported_iff (consistency : ImportConsistency)
    (hparsed : Parsed env.toOutageEnv rows (outages.map Outage.payload))
    (hdescribes : ∀ outage ∈ outages, Describes outage.payload outage) :
    Imported (importRows env.toOutageEnv false consistency rows {}) outages ↔
      outages.length ≤ env.limits.maxBulkOutagesCount ∧
        AllCreated env.db (outages.map Outage.payload) {} := by
  have hlength : rows.length = outages.length := by
    have h := congrArg List.length hparsed
    simpa using h
  have hstores : List.Forall₂ Stores ((outages.map Outage.payload).map (newOrm env.db)) outages := by
    rw [List.map_map, List.forall₂_map_left_iff, List.forall₂_same]
    exact fun outage houtage => (hdescribes outage houtage).stores env.db
  unfold importRows
  rw [hlength]
  by_cases hcount : env.limits.maxBulkOutagesCount < outages.length
  · rw [if_pos hcount]
    refine iff_of_false ?_ fun h => absurd h.1 (by omega)
    -- too many rows are refused before any is read
    rintro ⟨response, s, h, -⟩
    cases h
  rw [if_neg hcount, if_neg (by decide)]
  constructor
  · rintro ⟨response, s, h, -, -, hforall⟩
    refine ⟨by omega, ?_⟩
    have hs := hforall.length_eq
    cases consistency with
    | atomic =>
      dsimp only at h
      rw [importAtomic_parsed hparsed] at h
      have hstore : (createEach env.db (outages.map Outage.payload) {}).2 = s := by
        generalize createEach env.db (outages.map Outage.payload) {} = outcome at h ⊢
        obtain ⟨e | created, s'⟩ := outcome
        · cases h
        · exact congrArg Prod.snd h
      -- as many rows as payloads: none of them was a duplicate
      refine allCreated_of_length.2 ?_
      rw [hstore, hs, List.length_map]
      exact (Nat.zero_add _).symm
    | partialRows =>
      have hstore : (eachRow (partialRow env.toOutageEnv) 0 rows {}).2 = s := by
        dsimp only at h
        generalize eachRow (partialRow env.toOutageEnv) 0 rows {} = outcome at h ⊢
        obtain ⟨e | results, s'⟩ := outcome
        · cases h
        · exact congrArg Prod.snd h
      refine (partialRows_of_length hparsed 0).2 ?_
      rw [hstore, hs, List.length_map]
      exact (Nat.zero_add _).symm
  · rintro ⟨-, hall⟩
    cases consistency with
    | atomic =>
      dsimp only
      rw [importAtomic_parsed hparsed, createEach_allCreated hall]
      refine ⟨_, _, rfl, ?_, ?_, ?_⟩
      · simp [importResponse]
      · exact writtenResults_ok fun r hr => okResults_status hr
      · exact hstores
    | partialRows =>
      obtain ⟨results, hresults, hlength', hok⟩ := partialRows_allCreated hparsed hall 0
      dsimp only
      rw [hresults]
      refine ⟨_, _, rfl, ?_, hok, hstores⟩
      show results.length = _
      rw [hlength', List.length_map]

/-! ## Files -/

inductive FileFormat where
  | json
  | csv
  deriving DecidableEq, Repr

def FileFormat.name : FileFormat → String
  | .json => "json"
  | .csv => "csv"

def exportFile (env : FileEnv) (format : FileFormat) (outages : List Outage) :
    Except Raised UploadFile :=
  (exportOutages env outages format.name).map fun
    | .rows rows => .ofText "outages.json" (Json.dumps env.floats (.arr rows))
    | .text text => .ofText "outages.csv" text

/-- **The outages come back**: they are exported, and importing the file into an empty table reports
every row as ok and stores them. -/
def RoundTrips (env : FileEnv) (format : FileFormat) (consistency : ImportConsistency)
    (outages : List Outage) : Prop :=
  ∃ file, exportFile env format outages = .ok file ∧
    Imported (importOutages env file false consistency {}) outages

def jsonFileText (env : FileEnv) (outages : List Outage) : String :=
  Json.dumps env.floats (.arr (outages.map fun outage => .obj (outage.serialize env)))

theorem serialize_readsBack (h : env.ReadsBack outage) :
    Json.ReadsBack env.floats (.obj (outage.serialize env)) := by
  have hoptional : ∀ {α : Type} {value : α → Json.Value} {a : Option α},
      (∀ a' ∈ a, Json.ReadsBack env.floats (value a')) →
        Json.ReadsBack env.floats (Outage.optional value a) := by
    intro α value a hvalue
    cases a with
    | none => exact .null
    | some a => exact hvalue a rfl
  have hstr : ∀ s : Option String, Json.ReadsBack env.floats (Outage.optional .str s) :=
    fun s => hoptional fun s' _ => .str s'
  have hint : ∀ n : Option Int, Json.ReadsBack env.floats (Outage.optional .int n) :=
    fun n => hoptional fun n' _ => .int n'
  refine .obj (by simp [Outage.serialize]) ?_
  unfold Outage.serialize
  simp only [List.forall_mem_cons]
  refine ⟨.str _, .str _, hstr _, .str _, .str _, .str _, hoptional fun t _ => .str _, .str _, ?_,
    hint _, hstr _, hstr _, hoptional fun location hlocation => ?_, hoptional fun sla _ => ?_,
    hoptional fun d _ => .str _, nofun⟩
  · refine .arr fun v hv => ?_
    obtain ⟨service, -, rfl⟩ := List.mem_map.mp hv
    exact .str service
  · have hcoordinates := h.location location hlocation
    refine .obj (by simp) ?_
    simp only [List.forall_mem_cons]
    exact ⟨(hcoordinates _ (by simp)).2, (hcoordinates _ (by simp)).2, nofun⟩
  · refine .obj (by simp) ?_
    simp only [List.forall_mem_cons]
    exact ⟨.str _, hint _, .int _, hint _, nofun⟩

theorem parseFile_ofText (env : FileEnv) (filename text : String) :
    parseFile env (.ofText filename text) =
      if env.limits.maxFileUploadSizeBytes < text.utf8ByteSize then
        .error (.http 413 "File exceeds 10 MB limit")
      else if endsWith filename ".json" then parseJson env (.ok text)
      else if endsWith filename ".csv" then parseCsv (.ok text)
      else .error (.http 400 "Unsupported file format. Use .json or .csv") := rfl

theorem parseFile_json (hreads : ∀ outage ∈ outages, env.ReadsBack outage) :
    parseFile env (.ofText "outages.json" (jsonFileText env outages)) =
      if env.limits.maxFileUploadSizeBytes < (jsonFileText env outages).utf8ByteSize then
        .error (.http 413 "File exceeds 10 MB limit")
      else .ok (outages.map fun outage => .json (.obj (outage.serialize env))) := by
  have hback : Json.ReadsBack env.floats
      (.arr (outages.map fun outage => .obj (outage.serialize env))) := by
    refine .arr fun v hv => ?_
    obtain ⟨outage, houtage, rfl⟩ := List.mem_map.mp hv
    exact serialize_readsBack (hreads outage houtage)
  have hjson : parseJson env (.ok (jsonFileText env outages)) =
      .ok (outages.map fun outage => .json (.obj (outage.serialize env))) := by
    unfold parseJson jsonFileText
    dsimp only
    rw [Json.loads_dumps hback]
    dsimp only
    rw [List.map_map]
    rfl
  rw [parseFile_ofText, if_pos (by decide : endsWith "outages.json" ".json" = true), hjson]

theorem parseCsv_of_read {text : String} {records : List Csv.Record}
    (h : Csv.read text.toList = .ok records) :
    parseCsv (.ok text) = .ok ((Csv.dictRows records).map csvRow) := by
  unfold parseCsv
  dsimp only
  rw [h]

theorem parseFile_csv (env : FileEnv) :
    parseFile env (.ofText "outages.csv" (csvText [])) =
      if env.limits.maxFileUploadSizeBytes < (csvText []).utf8ByteSize then
        .error (.http 413 "File exceeds 10 MB limit")
      else .ok [] := by
  have hread : Csv.read (csvText []).toList = .ok [csvHeader] := by
    unfold csvText
    rw [String.toList_ofList]
    refine Csv.read_write ?_
    intro record hrecord
    rw [List.mem_singleton.mp hrecord]
    exact List.cons_ne_nil _ _
  have hcsv : parseCsv (.ok (csvText [])) = .ok [] := parseCsv_of_read hread
  rw [parseFile_ofText, if_neg (by decide : ¬ endsWith "outages.csv" ".json" = true),
    if_pos (by decide : endsWith "outages.csv" ".csv" = true), hcsv]

/-! ## Which lists come back -/

/-- The later outage is taken for the earlier one. The site id counts only if it has one. -/
def Outage.LooksLike (later earlier : Outage) : Prop :=
  earlier.siteName = later.siteName ∧ earlier.detectedAt = later.detectedAt ∧
    earlier.description = later.description ∧
    (later.siteId.getD "" ≠ "" → earlier.siteId = later.siteId)

/-- The lists that come back from a file of the format. -/
def ComesBack (env : FileEnv) (outages : List Outage) : FileFormat → Prop
  | .json =>
    outages.length ≤ env.limits.maxBulkOutagesCount ∧
      (jsonFileText env outages).utf8ByteSize ≤ env.limits.maxFileUploadSizeBytes ∧
      (outages.Pairwise fun earlier later => ¬ later.LooksLike earlier) ∧
      ∀ outage ∈ outages, env.db.refuses (newOrm env.db outage.payload) = none
  | .csv => outages = [] ∧ (csvText []).utf8ByteSize ≤ env.limits.maxFileUploadSizeBytes

theorem allCreated_payloads (hids : (outages.map Outage.id).Nodup) (db : OutageDatabase) :
    AllCreated db (outages.map Outage.payload) {} ↔
      (outages.Pairwise fun earlier later => ¬ later.LooksLike earlier) ∧
        ∀ outage ∈ outages, db.refuses (newOrm db outage.payload) = none := by
  have hempty : ∀ payload, checkDuplicate payload {} = .ok none := fun payload => rfl
  have hpair : ∀ {earlier later : Outage},
      matchesContent later.payload (newOrm db earlier.payload) = false ↔
        ¬ later.LooksLike earlier := by
    intro earlier later
    unfold matchesContent Outage.LooksLike
    rw [decide_eq_false_iff_not]
    rfl
  rw [allCreated_iff, List.pairwise_map, List.forall_mem_map, List.forall_mem_map]
  have hdifferent : outages.Pairwise fun earlier later =>
      earlier.payload.id ≠ later.payload.id := List.pairwise_map.mp hids
  constructor
  · rintro ⟨-, hpairwise, hrefuses⟩
    exact ⟨hpairwise.imp fun h => hpair.mp h.2, hrefuses⟩
  · rintro ⟨hpairwise, hrefuses⟩
    refine ⟨fun outage _ => hempty _, ?_, hrefuses⟩
    exact hdifferent.imp₂ (fun _ _ hid hlooks => ⟨hid, hpair.mpr hlooks⟩) hpairwise

theorem imported_file_iff {file : UploadFile} {size : Nat} {rows : List Row}
    (hparse : parseFile env file =
      if env.limits.maxFileUploadSizeBytes < size then
        .error (.http 413 "File exceeds 10 MB limit")
      else .ok rows) (consistency : ImportConsistency) (outages : List Outage) :
    Imported (importOutages env file false consistency {}) outages ↔
      size ≤ env.limits.maxFileUploadSizeBytes ∧
        Imported (importRows env.toOutageEnv false consistency rows {}) outages := by
  unfold importOutages
  rw [hparse]
  by_cases hsize : env.limits.maxFileUploadSizeBytes < size
  · rw [if_pos hsize]
    refine iff_of_false ?_ fun h => absurd h.1 (by omega)
    rintro ⟨response, s, h, -⟩
    cases h
  · rw [if_neg hsize]
    exact (and_iff_right (by omega)).symm

theorem exportFile_json (env : FileEnv) (outages : List Outage) :
    exportFile env .json outages = .ok (.ofText "outages.json" (jsonFileText env outages)) := by
  unfold exportFile exportOutages jsonFileText
  rw [if_pos (by decide), List.map_map]
  rfl

theorem roundTrips_json_iff (env : FileEnv) (consistency : ImportConsistency)
    {outages : List Outage} (hids : (outages.map Outage.id).Nodup)
    (haccepted : ∀ outage ∈ outages, outage.Accepted env.limits)
    (hreads : ∀ outage ∈ outages, env.ReadsBack outage) :
    RoundTrips env .json consistency outages ↔ ComesBack env outages .json := by
  have hparsed : Parsed env.toOutageEnv
      (outages.map fun outage => .json (.obj (outage.serialize env)))
      (outages.map Outage.payload) := by
    unfold Parsed
    rw [List.map_map, List.map_map]
    refine List.map_congr_left fun outage houtage => ?_
    exact OutageCreate.validate_serialize (haccepted outage houtage) (hreads outage houtage)
  have himported := imported_iff consistency hparsed fun outage houtage =>
    (OutageCreate.payload_describes (haccepted outage houtage)).2
  have hfile := imported_file_iff (parseFile_json hreads) consistency outages
  unfold RoundTrips ComesBack
  rw [exportFile_json]
  dsimp only
  rw [← allCreated_payloads hids, ← and_assoc, and_comm (a := outages.length ≤ _), and_assoc,
    ← himported, ← hfile]
  constructor
  · rintro ⟨file, hexport, himport⟩
    cases hexport
    exact himport
  · intro himport
    exact ⟨_, rfl, himport⟩

theorem roundTrips_csv_iff (env : FileEnv) (consistency : ImportConsistency)
    (outages : List Outage) :
    RoundTrips env .csv consistency outages ↔ ComesBack env outages .csv := by
  unfold RoundTrips exportFile FileFormat.name ComesBack
  dsimp only
  rw [exportOutages_csv]
  by_cases hempty : outages = []
  · -- the file has the names of the columns and no row
    subst hempty
    have hparsed : Parsed env.toOutageEnv [] (([] : List Outage).map Outage.payload) := rfl
    have hrows := (imported_iff consistency hparsed fun _ h => absurd h List.not_mem_nil).mpr
      ⟨Nat.zero_le _, trivial⟩
    have hfile := (imported_file_iff (parseFile_csv env) consistency []).trans (and_iff_left hrows)
    rw [if_pos rfl]
    generalize csvText [] = text at hfile ⊢
    constructor
    · rintro ⟨file, hexport, himport⟩
      cases hexport
      exact ⟨rfl, hfile.mp himport⟩
    · rintro ⟨-, hsize⟩
      exact ⟨_, rfl, hfile.mpr hsize⟩
  · rw [if_neg hempty]
    refine iff_of_false ?_ fun h => hempty h.1
    rintro ⟨file, hexport, -⟩
    cases hexport

/-- **Which lists come back.** -/
theorem roundTrips_iff (env : FileEnv) (format : FileFormat) (consistency : ImportConsistency)
    {outages : List Outage} (hids : (outages.map Outage.id).Nodup)
    (haccepted : ∀ outage ∈ outages, outage.Accepted env.limits)
    (hreads : ∀ outage ∈ outages, env.ReadsBack outage) :
    RoundTrips env format consistency outages ↔ ComesBack env outages format := by
  cases format with
  | json => exact roundTrips_json_iff env consistency hids haccepted hreads
  | csv => exact roundTrips_csv_iff env consistency outages

/-! ## An outage that comes back, and one that does not -/

/-- A process with the default settings and Python's texts of two floats. -/
def plainFileEnv : FileEnv where
  toOutageEnv := plainEnv
  floats :=
    { repr := fun q => if q = 81 / 2 then "40.5" else "-74.0"
      parse := fun text => some (if text = "40.5" then 81 / 2 else -74) }
  deletedText _ := "1970-01-01T00:00:00Z"
  decodeError _ := "Expecting value: line 1 column 1 (char 0)"

def locatedOutage : Outage where
  id := "outage-1"
  siteName := "Site A"
  severity := "high"
  status := "open"
  detectedAt := 0
  description := "Fiber cut."
  affectedServices := ["core-api"]
  affectedSubscribers := some 50
  location := some ⟨.finite (81 / 2), .finite (-74)⟩

theorem locatedOutage_accepted : locatedOutage.Accepted plainFileEnv.limits := by
  refine ⟨locatedOutage.payload, ⟨?_, ?_, ?_, ?_, ?_⟩, ?_⟩
  · decide
  · decide +kernel
  · decide +kernel
  · decide
  · rintro n hn
    cases hn
    decide
  · exact ⟨rfl, rfl, rfl, rfl, rfl, rfl, rfl, rfl, rfl, rfl, rfl, rfl⟩

theorem locatedOutage_readsBack : plainFileEnv.ReadsBack locatedOutage := by
  refine ⟨rfl, nofun, ?_, ?_⟩
  · rintro n -
    rfl
  · rintro location hlocation x hx
    cases hlocation
    rcases List.mem_pair.mp hx with rfl | rfl
    · exact ⟨rfl, .float (by decide +kernel) (by decide +kernel)⟩
    · exact ⟨rfl, .float (by decide +kernel) (by decide +kernel)⟩

def resolvedOutage : Outage where
  id := "outage-2"
  siteName := "Site B"
  siteId := some "site-B"
  severity := "low"
  status := "resolved"
  detectedAt := 0
  description := "Fiber cut."
  affectedServices := ["core-api", "voice"]
  assignedTo := some "oncall@example.com"

theorem resolvedOutage_accepted : resolvedOutage.Accepted plainFileEnv.limits := by
  refine ⟨resolvedOutage.payload, ⟨?_, ?_, ?_, ?_, nofun⟩, ?_⟩
  · decide
  · decide +kernel
  · decide +kernel
  · decide
  · exact ⟨rfl, rfl, rfl, rfl, rfl, rfl, rfl, rfl, rfl, rfl, rfl, rfl⟩

theorem resolvedOutage_readsBack : plainFileEnv.ReadsBack resolvedOutage :=
  ⟨rfl, nofun, fun _ _ => rfl, nofun⟩

/-- The two come back from a JSON file. -/
theorem roundTrips_locatedOutage :
    RoundTrips plainFileEnv .json .atomic [locatedOutage, resolvedOutage] := by
  refine (roundTrips_iff plainFileEnv .json .atomic (by decide) ?_ ?_).mpr
    ⟨by decide, by decide +kernel, List.pairwise_pair.mpr ?_, ?_⟩
  · exact List.forall_mem_cons.mpr
      ⟨locatedOutage_accepted, List.forall_mem_singleton.mpr resolvedOutage_accepted⟩
  · exact List.forall_mem_cons.mpr
      ⟨locatedOutage_readsBack, List.forall_mem_singleton.mpr resolvedOutage_readsBack⟩
  · -- they are at different sites
    exact fun hlike => absurd hlike.1 (by decide)
  · exact List.forall_mem_cons.mpr
      ⟨by decide +kernel, List.forall_mem_singleton.mpr (by decide +kernel)⟩

/-- An outage does not come back from a CSV file: there is none. -/
theorem not_roundTrips_csv :
    locatedOutage.Accepted plainFileEnv.limits ∧
      ¬ RoundTrips plainFileEnv .csv .atomic [locatedOutage] := by
  refine ⟨locatedOutage_accepted, ?_⟩
  rintro ⟨file, hexport, -⟩
  unfold exportFile FileFormat.name at hexport
  dsimp only at hexport
  rw [exportOutages_csv, if_neg (List.cons_ne_nil _ _)] at hexport
  cases hexport

end NocIq
