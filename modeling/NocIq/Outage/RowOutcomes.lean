import NocIq.Outage.DryRun

/-!
# NocIq — one outcome for every row of an import

A dry run and a partial import go on after a row that fails; `_row_error` reports it. The report
reads the row's `id` once more, and puts it into a result whose `id` is a `str`.

* **`eachRow_rows`** — a loop that returns has the outcomes of the rows, numbered in order.
* **`import_loses_no_row_iff`** — when a dry run or a partial import answers with all of them.
-/

namespace NocIq

/-- A response that has one outcome for every element of the file, and counts them right. -/
structure HasEveryRow (values : List Json.Value) (response : ImportResponse) : Prop where
  rows : response.rows.map (·.row) = List.range values.length
  totalRows : response.totalRows = response.validated + response.errorCount
  errors : response.errors = response.rows.filter fun r => r.status = .error

/-- An object whose `id` is absent, `null` or a text. -/
def Reportable (value : Json.Value) : Prop :=
  match value.dict? with
  | some members =>
    match members.lookup "id" with
    | none => True
    | some .null => True
    | some (.str _) => True
    | some _ => False
  | none => False

instance : DecidablePred Reportable := fun value => by
  unfold Reportable
  split
  · split <;> infer_instance
  · infer_instance

theorem reportable_iff (value : Json.Value) :
    Reportable value ↔ ∃ id, (Row.json value).resultId = .ok id := by
  unfold Reportable Row.resultId Row.getId
  dsimp only
  cases value.dict? with
  | some members =>
    dsimp only
    cases members.lookup "id" with
    | none => simp
    | some value => cases value <;> simp
  | none => simp

/-! ## The loop -/

/-- The outcome of a row has the number of the row. -/
def Numbers (body : Nat → Row → OutageStore → Except Raised ImportRowResult × OutageStore) : Prop :=
  ∀ i row s result, (body i row s).1 = .ok result → result.row = i

theorem rowError_row {i : Nat} {row : Row} {errors : List ImportFieldError}
    {result : ImportRowResult} (h : rowError i row errors = .ok result) : result.row = i := by
  unfold rowError at h
  cases hid : row.resultId with
  | error e =>
    rw [hid] at h
    cases h
  | ok id =>
    rw [hid] at h
    cases h
    rfl

theorem dryRunRow_numbers (env : OutageEnv) :
    Numbers fun i row s => (dryRunRow env i row s, s) := by
  intro i row s result h
  change dryRunRow env i row s = .ok result at h
  unfold dryRunRow at h
  split at h
  · exact rowError_row h
  · exact rowError_row h
  · split at h
    · exact rowError_row h
    · cases h
      rfl
    · cases h
      rfl

theorem partialRow_numbers (env : OutageEnv) : Numbers (partialRow env) := by
  intro i row s result h
  unfold partialRow at h
  split at h
  · exact rowError_row h
  · exact rowError_row h
  · split at h
    · exact rowError_row h
    · cases h
      rfl

/-- **A loop that returns** has an outcome for every row, in order. Induction on the rows. -/
theorem eachRow_rows
    {body : Nat → Row → OutageStore → Except Raised ImportRowResult × OutageStore}
    (hbody : Numbers body) {rows : List Row} {i : Nat} {s : OutageStore}
    {results : List ImportRowResult} (h : (eachRow body i rows s).1 = .ok results) :
    results.map (·.row) = List.range' i rows.length := by
  induction rows generalizing i s results with
  | nil =>
    cases h
    rfl
  | cons row rows ih =>
    have hrow := hbody i row s
    rw [eachRow] at h
    generalize body i row s = outcome at hrow h
    obtain ⟨e | result, s'⟩ := outcome
    · cases h
    · have hrows := @ih (i + 1) s'
      dsimp only at h hrow hrows
      generalize eachRow body (i + 1) rows s' = rest at h hrows
      obtain ⟨e | results', s''⟩ := rest
      · cases h
      · cases h
        rw [List.map_cons, hrow result rfl, hrows rfl, List.length_cons, List.range'_succ]

theorem validated_add_errors (outcomes : List ImportRowResult) :
    outcomes.countP (fun r => r.status = .ok) +
      (outcomes.filter fun r => r.status = .error).length = outcomes.length := by
  induction outcomes with
  | nil => rfl
  | cons r outcomes ih =>
    cases hstatus : r.status with
    | ok =>
      simp only [List.countP_cons, List.filter_cons, hstatus, List.length_cons]
      simp
      omega
    | error =>
      simp only [List.countP_cons, List.filter_cons, hstatus, List.length_cons]
      simp
      omega

theorem importResponse_hasEveryRow (mode : ImportMode) (consistency : ImportConsistency)
    (persisted : Nat) {values : List Json.Value} {outcomes : List ImportRowResult}
    (h : outcomes.map (·.row) = List.range values.length) :
    HasEveryRow values
      (importResponse mode consistency values.length persisted outcomes) where
  rows := h
  totalRows := by
    have hlength := congrArg List.length h
    rw [List.length_map, List.length_range] at hlength
    show values.length = _
    rw [← hlength]
    exact (validated_add_errors outcomes).symm
  errors := rfl

/-- Every element has its outcome if each can be reported; if one cannot, its exception ends the
request. -/
theorem eachRow_json_iff
    {body : Nat → Row → OutageStore → Except Raised ImportRowResult × OutageStore}
    (hreports : Reports body) (values : List Json.Value) (s : OutageStore) :
    (∃ results, (eachRow body 0 (values.map Row.json) s).1 = .ok results) ↔
      ∀ value ∈ values, Reportable value := by
  constructor
  · rintro ⟨results, hresults⟩ value hvalue
    by_contra hnot
    have hfails : ∃ row ∈ values.map Row.json, ∃ e, row.resultId = .error e := by
      refine ⟨.json value, List.mem_map_of_mem hvalue, ?_⟩
      cases hid : (Row.json value).resultId with
      | error e => exact ⟨e, rfl⟩
      | ok id => exact absurd ((reportable_iff value).mpr ⟨id, hid⟩) hnot
    obtain ⟨e, he⟩ := eachRow_unreportable hfails
    rw [he body hreports 0 s] at hresults
    cases hresults
  · intro h
    refine eachRow_reports hreports ?_ 0 s
    intro row hrow
    obtain ⟨value, hvalue, rfl⟩ := List.mem_map.mp hrow
    exact (reportable_iff value).mp (h value hvalue)

/-! ## The request -/

/-- **No row is lost** by a dry run or a partial import of a JSON list exactly if every element is
an object whose `id` is absent, `null` or a string. -/
theorem import_loses_no_row_iff (env : OutageEnv) (dryRun : Bool) (consistency : ImportConsistency)
    (hmode : dryRun = true ∨ consistency = .partialRows) (values : List Json.Value)
    (hcount : values.length ≤ env.limits.maxBulkOutagesCount) (s : OutageStore) :
    (∃ response,
        (importRows env dryRun consistency (values.map Row.json) s).1 = .ok response ∧
          HasEveryRow values response) ↔
      ∀ value ∈ values, Reportable value := by
  have hfew : ¬ env.limits.maxBulkOutagesCount < (values.map Row.json).length := by
    rw [List.length_map]
    omega
  have hrange : ∀ {body}, Numbers body → ∀ {results},
      (eachRow body 0 (values.map Row.json) s).1 = .ok results →
        results.map (·.row) = List.range values.length := by
    intro body hbody results hresults
    rw [eachRow_rows hbody hresults, List.length_map, List.range_eq_range']
  unfold importRows
  rw [if_neg hfew, List.length_map]
  cases dryRun with
  | true =>
    rw [if_pos rfl, ← eachRow_json_iff (dryRunRow_reports env) values s]
    have hnumbers := @hrange _ (dryRunRow_numbers env)
    generalize eachRow (fun i row s => (dryRunRow env i row s, s)) 0 (values.map Row.json) s =
      outcome at hnumbers ⊢
    obtain ⟨e | outcomes, s'⟩ := outcome
    · simp
    · have hrows := importResponse_hasEveryRow .dryRun consistency 0 (hnumbers rfl)
      exact iff_of_true ⟨_, rfl, hrows⟩ ⟨outcomes, rfl⟩
  | false =>
    obtain rfl := hmode.resolve_left (by simp)
    rw [if_neg (by simp), ← eachRow_json_iff (partialRow_reports env) values s]
    have hnumbers := @hrange _ (partialRow_numbers env)
    dsimp only
    generalize eachRow (partialRow env) 0 (values.map Row.json) s = outcome at hnumbers ⊢
    obtain ⟨e | outcomes, s'⟩ := outcome
    · simp
    · have hrows := importResponse_hasEveryRow .live .partialRows (persistedCount outcomes)
        (hnumbers rfl)
      exact iff_of_true ⟨_, rfl, hrows⟩ ⟨outcomes, rfl⟩

/-- A file with a row of an id that is a string, and one without. -/
theorem named_rows_not_lost :
    ∃ response,
      (importRows plainEnv true .atomic
          ([.obj [("id", .str "outage-1")], .obj [("site_name", .int 7)]].map Row.json) {}).1 =
        .ok response ∧
      HasEveryRow [.obj [("id", .str "outage-1")], .obj [("site_name", .int 7)]] response :=
  (import_loses_no_row_iff plainEnv true .atomic (.inl rfl) _ (by decide) {}).mpr (by decide)

/-- A file with one row, which is a number, and a file with one row, whose id is a number. -/
theorem malformed_row_ends_import :
    (importRows plainEnv true .atomic ([.int 1].map Row.json) {}).1 =
        .error (.raised ⟨"AttributeError", "'int' object has no attribute 'get'", false⟩) ∧
      (importRows plainEnv false .partialRows ([.obj [("id", .int 7)]].map Row.json) {}).1 =
        .error (.raised
          ⟨"ValidationError",
            "1 validation error for ImportRowResult: id: Input should be a valid string", true⟩) :=
  ⟨by decide +kernel, by decide +kernel⟩

end NocIq
