import NocIq.Outage.Rows

/-!
# NocIq — importing outages

`import_outages` of `app/api/v1/endpoints/outages.py`, from the list of parsed rows on: the dry run,
the atomic import, which checks all rows before it writes the first, and the partial import, which
writes row by row.

* **`importAtomic_parsed` / `importAtomic_rejected`** — an atomic import writes only if every row is
  accepted.
-/

namespace NocIq

open OutageRepository

/-! ## Requests and responses -/

inductive ImportConsistency where
  | atomic
  | partialRows
  deriving DecidableEq, Repr

@[inherit_doc SLAStatus.value]
def ImportConsistency.value : ImportConsistency → String
  | .atomic => "atomic"
  | .partialRows => "partial"

inductive ImportMode where
  | dryRun
  | live
  deriving DecidableEq, Repr

@[inherit_doc SLAStatus.value]
def ImportMode.value : ImportMode → String
  | .dryRun => "dry_run"
  | .live => "import"

structure ImportResponse where
  mode : ImportMode
  consistency : ImportConsistency
  totalRows : Nat
  persisted : Nat
  validated : Nat
  errorCount : Nat
  errors : List ImportRowResult
  rows : List ImportRowResult
  deriving DecidableEq, Repr

/-- The process an import runs in. -/
structure OutageEnv where
  db : OutageDatabase
  limits : OutageLimits
  pyd : Pydantic

def importResponse (mode : ImportMode) (consistency : ImportConsistency) (total persisted : Nat)
    (outcomes : List ImportRowResult) : ImportResponse :=
  let errorRows := outcomes.filter fun r => r.status = .error
  { mode
    consistency
    totalRows := total
    persisted
    validated := outcomes.countP fun r => r.status = .ok
    errorCount := errorRows.length
    errors := errorRows
    rows := outcomes }

/-- `persisted_count`. -/
def persistedCount (outcomes : List ImportRowResult) : Nat :=
  outcomes.countP fun r => r.persisted = some true

/-! ## One row -/

def dryRunRow (env : OutageEnv) (i : Nat) (row : Row) (s : OutageStore) :
    Except Raised ImportRowResult :=
  match row.parse env.pyd env.limits with
  | .raised e => rowError i row e.fieldErrors
  | .invalid errors => rowError i row errors
  | .ok payload =>
    match checkDuplicate payload s with
    | .error e => rowError i row e.fieldErrors
    | .ok (some duplicate) =>
      .ok
        { row := i
          id := some payload.id
          status := .ok
          duplicate := some true
          existingId := some duplicate.id }
    | .ok none => .ok { row := i, id := some payload.id, status := .ok, duplicate := some false }

/-- The result of a row that has been written, or found to be a duplicate. -/
def partialResult (i : Nat) (payload : OutageCreate) (created : OutageORM) (persisted : Bool) :
    ImportRowResult where
  row := i
  id := some payload.id
  status := .ok
  outageId := some created.id
  persisted := some persisted
  duplicate := some !persisted
  existingId := if persisted then none else some created.id

/-- The body of the loop of a partial import. -/
def partialRow (env : OutageEnv) (i : Nat) (row : Row) (s : OutageStore) :
    Except Raised ImportRowResult × OutageStore :=
  match row.parse env.pyd env.limits with
  | .raised e => (rowError i row e.fieldErrors, s)
  | .invalid errors => (rowError i row errors, s)
  | .ok payload =>
    match createOrGetExisting env.db payload s with
    | (.error e, s) => (rowError i row e.fieldErrors, s)
    | (.ok (created, persisted), s) => (.ok (partialResult i payload created persisted), s)

/-- The body of the first loop of an atomic import: the result of the row, and its payload. -/
def parseRow (env : OutageEnv) (i : Nat) (row : Row) :
    Except Raised (ImportRowResult × Option OutageCreate) :=
  match row.parse env.pyd env.limits with
  | .raised e => (rowError i row e.fieldErrors).map fun result => (result, none)
  | .invalid errors => (rowError i row errors).map fun result => (result, none)
  | .ok payload =>
    match row.resultId with
    | .error e => (rowError i row e.fieldErrors).map fun result => (result, some payload)
    | .ok id => .ok ({ row := i, id, status := .ok }, some payload)

/-! ## All rows -/

/-- A loop over the rows. An exception that a row lets through ends it. -/
def eachRow (body : Nat → Row → OutageStore → Except Raised ImportRowResult × OutageStore) :
    Nat → List Row → OutageStore → Except Raised (List ImportRowResult) × OutageStore
  | _, [], s => (.ok [], s)
  | i, row :: rows, s =>
    match body i row s with
    | (.error e, s) => (.error e, s)
    | (.ok result, s) =>
      match eachRow body (i + 1) rows s with
      | (.error e, s) => (.error e, s)
      | (.ok results, s) => (.ok (result :: results), s)

def parseRows (env : OutageEnv) :
    Nat → List Row → Except Raised (List ImportRowResult × List OutageCreate)
  | _, [] => .ok ([], [])
  | i, row :: rows =>
    match parseRow env i row with
    | .error e => .error e
    | .ok (result, payload) =>
      match parseRows env (i + 1) rows with
      | .error e => .error e
      | .ok (results, payloads) => .ok (result :: results, payload.toList ++ payloads)

/-- What the second loop of an atomic import adds to the result of a row. -/
def writtenResult (result : ImportRowResult) (created : OutageORM × Bool) : ImportRowResult :=
  let result := { result with outageId := some created.1.id, persisted := some created.2 }
  if created.2 then result
  else { result with duplicate := some true, existingId := some created.1.id }

/-- The branch `consistency == ImportConsistency.atomic`. A failure of the second loop is followed
by a rollback, which takes back nothing that has been committed. -/
def importAtomic (env : OutageEnv) (rows : List Row) (s : OutageStore) :
    Except Failure ImportResponse × OutageStore :=
  match parseRows env 0 rows with
  | .error e => (.error (.raised e), s)
  | .ok (outcomes, parsed) =>
    if outcomes.any fun r => r.status = .error then
      (.ok (importResponse .live .atomic rows.length 0 outcomes), s)
    else
      match createEach env.db parsed s with
      | (.error e, s) => (.error (.http 500 s!"Transaction failed: {e.message}"), s)
      | (.ok created, s) =>
        let outcomes := List.zipWith writtenResult outcomes created
        (.ok (importResponse .live .atomic rows.length (persistedCount outcomes) outcomes), s)

/-- `POST /outages/import`, from the parsed rows on. -/
def importRows (env : OutageEnv) (dryRun : Bool) (consistency : ImportConsistency)
    (rows : List Row) (s : OutageStore) : Except Failure ImportResponse × OutageStore :=
  if env.limits.maxBulkOutagesCount < rows.length then
    (.error (.http 400
      s!"Too many rows in file. Maximum allowed is {env.limits.maxBulkOutagesCount}."), s)
  else if dryRun then
    match eachRow (fun i row s => (dryRunRow env i row s, s)) 0 rows s with
    | (.error e, s) => (.error (.raised e), s)
    | (.ok outcomes, s) => (.ok (importResponse .dryRun consistency rows.length 0 outcomes), s)
  else
    match consistency with
    | .atomic => importAtomic env rows s
    | .partialRows =>
      match eachRow (partialRow env) 0 rows s with
      | (.error e, s) => (.error (.raised e), s)
      | (.ok outcomes, s) =>
        (.ok (importResponse .live .partialRows rows.length (persistedCount outcomes) outcomes), s)

/-! ## Loops over the rows -/

theorem eachRow_cons_snd
    (body : Nat → Row → OutageStore → Except Raised ImportRowResult × OutageStore) (i : Nat)
    (row : Row) (rows : List Row) (s : OutageStore) :
    (eachRow body i (row :: rows) s).2 =
      match body i row s with
      | (.error _, s) => s
      | (.ok _, s) => (eachRow body (i + 1) rows s).2 := by
  rw [eachRow]
  rcases body i row s with ⟨_ | result, s'⟩
  · rfl
  dsimp only
  rcases eachRow body (i + 1) rows s' with ⟨_ | results, s''⟩
  · rfl
  · rfl

theorem partialRow_cases (env : OutageEnv) (i : Nat) (row : Row) (s : OutageStore) :
    (∃ payload result, row.parse env.pyd env.limits = .ok payload ∧
      partialRow env i row s = (.ok result, (createOrGetExisting env.db payload s).2)) ∨
    ((∀ payload, row.parse env.pyd env.limits ≠ .ok payload) ∧
      ∃ errors, partialRow env i row s = (rowError i row errors, s)) := by
  unfold partialRow
  cases hparse : row.parse env.pyd env.limits with
  | ok payload =>
    refine .inl ⟨payload, ?_⟩
    have hid := Row.resultId_of_parse hparse
    dsimp only
    generalize createOrGetExisting env.db payload s = outcome
    obtain ⟨e | created, s'⟩ := outcome
    · exact ⟨_, rfl, by dsimp only; rw [rowError_eq, hid]; rfl⟩
    · exact ⟨_, rfl, rfl⟩
  | invalid errors => exact .inr ⟨fun payload => nofun, errors, rfl⟩
  | raised e => exact .inr ⟨fun payload => nofun, e.fieldErrors, rfl⟩

theorem eachRow_pure_snd (body : Nat → Row → OutageStore → Except Raised ImportRowResult) (i : Nat)
    (rows : List Row) (s : OutageStore) :
    (eachRow (fun i row s => (body i row s, s)) i rows s).2 = s := by
  induction rows generalizing i with
  | nil => rfl
  | cons row rows ih =>
    rw [eachRow_cons_snd]
    cases body i row s with
    | error e => rfl
    | ok result => exact ih (i + 1)

/-! ## The first loop of an atomic import -/

variable {env : OutageEnv} {rows : List Row} {payloads : List OutageCreate} {s : OutageStore}

/-- Every row is accepted, and these are the payloads. -/
def Parsed (env : OutageEnv) (rows : List Row) (payloads : List OutageCreate) : Prop :=
  rows.map (Row.parse env.pyd env.limits) = payloads.map Checked.ok

/-- The results of the first loop when every row is accepted. -/
def okResults : Nat → List OutageCreate → List ImportRowResult
  | _, [] => []
  | i, payload :: payloads =>
    { row := i, id := some payload.id, status := .ok } :: okResults (i + 1) payloads

@[simp] theorem okResults_length (i : Nat) (payloads : List OutageCreate) :
    (okResults i payloads).length = payloads.length := by
  induction payloads generalizing i with
  | nil => rfl
  | cons payload payloads ih => simp [okResults, ih]

theorem okResults_status {i : Nat} {r : ImportRowResult} (h : r ∈ okResults i payloads) :
    r.status = .ok := by
  induction payloads generalizing i with
  | nil => cases h
  | cons payload payloads ih =>
    rcases List.mem_cons.mp h with rfl | h
    · rfl
    · exact ih h

theorem Parsed.cons_iff {row : Row} :
    (∃ payloads, Parsed env (row :: rows) payloads) ↔
      (∃ payload, row.parse env.pyd env.limits = .ok payload) ∧ ∃ payloads, Parsed env rows payloads := by
  constructor
  · rintro ⟨_ | ⟨payload, payloads⟩, h⟩
    · cases h
    · obtain ⟨hrow, hrows⟩ := List.cons.inj h
      exact ⟨⟨payload, hrow⟩, payloads, hrows⟩
  · rintro ⟨⟨payload, hrow⟩, payloads, hrows⟩
    refine ⟨payload :: payloads, ?_⟩
    unfold Parsed at hrows ⊢
    rw [List.map_cons, List.map_cons, hrow, hrows]

theorem Parsed.unique {payloads' : List OutageCreate} (h : Parsed env rows payloads)
    (h' : Parsed env rows payloads') : payloads = payloads' := by
  have hmap : payloads.map Checked.ok = payloads'.map Checked.ok := h.symm.trans h'
  exact List.map_injective_iff.mpr (fun a b hab => Checked.ok.inj hab) hmap

/-- If every row is accepted, the loop collects the payloads. Induction on the rows. -/
theorem parseRows_parsed (h : Parsed env rows payloads) (i : Nat) :
    parseRows env i rows = .ok (okResults i payloads, payloads) := by
  induction rows generalizing i payloads with
  | nil =>
    rw [List.map_eq_nil_iff.mp h.symm]
    rfl
  | cons row rows ih =>
    cases payloads with
    | nil => cases h
    | cons payload payloads =>
      obtain ⟨hrow, hrows⟩ := List.cons.inj h
      have hresult : parseRow env i row =
          .ok ({ row := i, id := some payload.id, status := .ok }, some payload) := by
        unfold parseRow
        rw [hrow]
        dsimp only
        rw [Row.resultId_of_parse hrow]
      unfold parseRows
      rw [hresult]
      dsimp only
      rw [ih hrows (i + 1)]
      rfl

theorem parseRow_rejected {row : Row} (h : ¬ ∃ payload, row.parse env.pyd env.limits = .ok payload)
    (i : Nat) {result : ImportRowResult} {payload : Option OutageCreate}
    (hrow : parseRow env i row = .ok (result, payload)) : result.status = .error := by
  have herror : ∀ {errors : List ImportFieldError},
      (rowError i row errors).map (fun result => (result, (none : Option OutageCreate)))
        = .ok (result, payload) → result.status = .error := by
    intro errors herror
    rw [rowError_eq] at herror
    cases hid : row.resultId with
    | error e =>
      rw [hid] at herror
      cases herror
    | ok id =>
      rw [hid] at herror
      cases herror
      rfl
  unfold parseRow at hrow
  cases hparse : row.parse env.pyd env.limits with
  | ok payload' => exact absurd ⟨payload', hparse⟩ h
  | invalid errors =>
    rw [hparse] at hrow
    exact herror hrow
  | raised e =>
    rw [hparse] at hrow
    exact herror hrow

theorem parseRow_persisted {row : Row} {i : Nat} {result : ImportRowResult}
    {payload : Option OutageCreate} (hrow : parseRow env i row = .ok (result, payload)) :
    result.persisted = none := by
  have herror : ∀ {errors : List ImportFieldError} {payload' : Option OutageCreate},
      (rowError i row errors).map (fun result => (result, payload')) = .ok (result, payload) →
        result.persisted = none := by
    intro errors payload' herror
    rw [rowError_eq] at herror
    cases hid : row.resultId with
    | error e =>
      rw [hid] at herror
      cases herror
    | ok id =>
      rw [hid] at herror
      cases herror
      rfl
  unfold parseRow at hrow
  split at hrow
  · exact herror hrow
  · exact herror hrow
  · split at hrow
    · exact herror hrow
    · cases hrow
      rfl

variable {outcomes : List ImportRowResult} {parsed : List OutageCreate}

theorem parseRows_cons_eq_ok {row : Row} {i : Nat}
    (hparse : parseRows env i (row :: rows) = .ok (outcomes, parsed)) :
    ∃ result payload results payloads, parseRow env i row = .ok (result, payload) ∧
      parseRows env (i + 1) rows = .ok (results, payloads) ∧ outcomes = result :: results := by
  unfold parseRows at hparse
  cases hrow : parseRow env i row with
  | error e =>
    rw [hrow] at hparse
    cases hparse
  | ok first =>
    obtain ⟨result, payload⟩ := first
    rw [hrow] at hparse
    dsimp only at hparse
    cases hrest : parseRows env (i + 1) rows with
    | error e =>
      rw [hrest] at hparse
      cases hparse
    | ok rest =>
      rw [hrest] at hparse
      cases hparse
      exact ⟨result, payload, rest.1, rest.2, rfl, rfl, rfl⟩

/-- If some row is not accepted, the loop raises or collects an error. Induction on the rows. -/
theorem parseRows_rejected (h : ¬ ∃ payloads, Parsed env rows payloads) {i : Nat}
    (hparse : parseRows env i rows = .ok (outcomes, parsed)) :
    ∃ r ∈ outcomes, r.status = .error := by
  induction rows generalizing i outcomes parsed with
  | nil => exact absurd ⟨[], rfl⟩ h
  | cons row rows ih =>
    obtain ⟨result, payload, results, payloads, hrow, hrest, rfl⟩ := parseRows_cons_eq_ok hparse
    rw [Parsed.cons_iff, not_and_or] at h
    rcases h with hfirst | hrows
    · exact ⟨result, List.mem_cons_self, parseRow_rejected hfirst i hrow⟩
    · obtain ⟨r, hr, hstatus⟩ := ih hrows hrest
      exact ⟨r, List.mem_cons_of_mem _ hr, hstatus⟩

/-- No result of the first loop says that its row has been written. Induction on the rows. -/
theorem parseRows_persisted {i : Nat} (hparse : parseRows env i rows = .ok (outcomes, parsed)) :
    ∀ r ∈ outcomes, r.persisted = none := by
  induction rows generalizing i outcomes parsed with
  | nil =>
    cases hparse
    exact fun r hr => absurd hr List.not_mem_nil
  | cons row rows ih =>
    obtain ⟨result, payload, results, payloads, hrow, hrest, rfl⟩ := parseRows_cons_eq_ok hparse
    intro r hr
    rcases List.mem_cons.mp hr with rfl | hr
    · exact parseRow_persisted hrow
    · exact ih hrest r hr

/-! ## Atomic imports -/

/-- **If every row is accepted**, an atomic import writes them. -/
theorem importAtomic_parsed (h : Parsed env rows payloads) (s : OutageStore) :
    importAtomic env rows s =
      match createEach env.db payloads s with
      | (.error e, s) => (.error (.http 500 s!"Transaction failed: {e.message}"), s)
      | (.ok created, s) =>
        let outcomes := List.zipWith writtenResult (okResults 0 payloads) created
        (.ok (importResponse .live .atomic rows.length (persistedCount outcomes) outcomes), s) := by
  unfold importAtomic
  rw [parseRows_parsed h 0]
  dsimp only
  have hnone : (okResults 0 payloads).any (fun r => r.status = .error) = false := by
    rw [List.any_eq_false]
    intro r hr
    rw [okResults_status hr]
    decide
  rw [hnone]
  rfl

/-- **Otherwise** it writes nothing: it raises, or its response has a row with errors. -/
theorem importAtomic_rejected (h : ¬ ∃ payloads, Parsed env rows payloads) (s : OutageStore) :
    (∃ e, importAtomic env rows s = (.error (.raised e), s)) ∨
      ∃ outcomes : List ImportRowResult, (∃ r ∈ outcomes, r.status = .error) ∧
        (∀ r ∈ outcomes, r.persisted = none) ∧
        importAtomic env rows s =
          (.ok (importResponse .live .atomic rows.length 0 outcomes), s) := by
  unfold importAtomic
  cases hparse : parseRows env 0 rows with
  | error e => exact .inl ⟨e, rfl⟩
  | ok parsed =>
    obtain ⟨outcomes, parsed⟩ := parsed
    obtain ⟨r, hr, hstatus⟩ := parseRows_rejected h hparse
    have hany : outcomes.any (fun r => r.status = .error) = true := by
      rw [List.any_eq_true]
      exact ⟨r, hr, by simp [hstatus]⟩
    refine .inr ⟨outcomes, ⟨r, hr, hstatus⟩, parseRows_persisted hparse, ?_⟩
    dsimp only
    rw [hany]
    rfl

/-! ## A process -/

/-- pydantic on plain values: integers, decimals, and one point in time. -/
def plainPydantic : Pydantic where
  toDatetime
    | .str "1970-01-01T00:00:00Z" => .ok (.aware 0 0)
    | .str "1970-01-01T00:00:00" => .ok (.naive 0)
    | .str _ => .error ("datetime_from_date_parsing", "Input should be a valid datetime or date")
    | _ => .error ("datetime_type", "Input should be a valid datetime")
  toInt
    | .int n => .ok n
    | .str _ => .error ("int_parsing",
        "Input should be a valid integer, unable to parse string as an integer")
    | _ => .error ("int_type", "Input should be a valid integer")
  toFloat
    | .float q => .ok (.finite q)
    | .nonFinite x => .ok (.nonFinite x)
    | .int n => .ok (.finite n)
    | .str _ => .error ("float_parsing",
        "Input should be a valid number, unable to parse string as a number")
    | _ => .error ("float_type", "Input should be a valid number")
  isoformat _ := "1970-01-01T00:00:00Z"
  noConstructor := "No constructor defined"

/-- A process with the default settings, on a database that takes every row. -/
def plainEnv : OutageEnv where
  db := declaredDatabase
  limits := {}
  pyd := plainPydantic

/-- The payload of an open outage. -/
def openPayload : OutageCreate where
  id := "outage-1"
  siteName := "Site A"
  severity := .high
  status := .open
  detectedAt := 0
  description := "Example outage affecting core API."
  affectedServices := ["core-api"]

/-- A row of a JSON file with this id and description, otherwise like `openPayload`. -/
def jsonRow (id description : String) : Row :=
  .json (.obj
    [ ("id", .str id), ("site_name", .str "Site A"), ("severity", .str "high"),
      ("status", .str "open"), ("detected_at", .str "1970-01-01T00:00:00Z"),
      ("description", .str description), ("affected_services", .arr [.str "core-api"]) ])

end NocIq
