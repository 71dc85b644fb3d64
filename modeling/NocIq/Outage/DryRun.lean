import NocIq.Outage.Import

/-!
# NocIq — what a dry run predicts

A dry run against the partial import of the same rows. The dry run looks every row up in the table
as it is; the import looks it up in the table with the rows it has already written. The two agree
exactly when no row of the file matters to a later one, which is a condition on pairs of rows.

* **`eachRow_unreportable`** — a row whose failure cannot be reported ends both in the same way.
* **`checkDuplicate_grown`** — a row that no earlier one matters to is looked up alike.
* **`dry_run_predicts_iff`** — when the dry run is right.
-/

namespace NocIq

open OutageRepository

/-! ## The law -/

/-- What a dry run promises about a row: its status, its errors, whether it is a duplicate, and of
which outage. -/
structure Verdict where
  status : RowStatus
  errors : Option (List ImportFieldError)
  duplicate : Option Bool
  existingId : Option String
  deriving DecidableEq, Repr

def ImportRowResult.verdict (r : ImportRowResult) : Verdict :=
  ⟨r.status, r.errors, r.duplicate, r.existingId⟩

/-- The verdicts of an import, or its failure. -/
def verdicts (outcome : Except Failure ImportResponse) : Except Failure (List Verdict) :=
  outcome.map fun response => response.rows.map ImportRowResult.verdict

/-- The dry run writes nothing, and gives the verdicts of the partial import. -/
structure DryRunPredicts (env : OutageEnv) (rows : List Row) (s : OutageStore) : Prop where
  writes : ∀ consistency, (importRows env true consistency rows s).2 = s
  predicts : ∀ consistency, verdicts (importRows env true consistency rows s).1 =
    verdicts (importRows env false .partialRows rows s).1

/-! ## When it is right -/

def acceptedPayloads (env : OutageEnv) (rows : List Row) : List OutageCreate :=
  rows.filterMap fun row =>
    match row.parse env.pyd env.limits with
    | .ok payload => some payload
    | _ => none

/-- The payload has no duplicate in the table, and its id is free there. -/
def Fresh (s : OutageStore) (payload : OutageCreate) : Prop :=
  checkDuplicate payload s = .ok none

instance (s : OutageStore) (payload : OutageCreate) : Decidable (Fresh s payload) :=
  inferInstanceAs (Decidable (_ = _))

/-- Writing the first payload does not matter to the second: it is not written, or it has another
id and, if the second is fresh too, other content. -/
def Independent (db : OutageDatabase) (s : OutageStore) (first second : OutageCreate) : Prop :=
  Fresh s first → first.id ≠ second.id ∧
    (Fresh s second → matchesContent second (newOrm db first) = false)

/-- The database takes the row if it is written. -/
def Taken (db : OutageDatabase) (s : OutageStore) (payload : OutageCreate) : Prop :=
  Fresh s payload → db.refuses (newOrm db payload) = none

/-- The file has too many rows, or a row whose failure cannot be reported, so that both requests
fail alike; or no accepted row matters to a later one, and the database takes all fresh ones. -/
def Foreseeable (env : OutageEnv) (rows : List Row) (s : OutageStore) : Prop :=
  env.limits.maxBulkOutagesCount < rows.length ∨
    (∃ row ∈ rows, ∃ e, row.resultId = .error e) ∨
    ((acceptedPayloads env rows).Pairwise (Independent env.db s) ∧
      ∀ payload ∈ acceptedPayloads env rows, Taken env.db s payload)

/-! ## Rows that cannot be reported -/

/-- There is a result if the row's failure can be reported, and else the exception of the report. -/
def ReportedBy (row : Row) (result : Except Raised ImportRowResult) : Prop :=
  match row.resultId with
  | .ok _ => ∃ r, result = .ok r
  | .error e => result = .error e

def Reports (body : Nat → Row → OutageStore → Except Raised ImportRowResult × OutageStore) : Prop :=
  ∀ i row s, ReportedBy row (body i row s).1

theorem rowError_reports (i : Nat) (row : Row) (errors : List ImportFieldError) :
    ReportedBy row (rowError i row errors) := by
  unfold ReportedBy
  rw [rowError_eq]
  cases row.resultId with
  | ok id => exact ⟨_, rfl⟩
  | error e => rfl

variable {payload : OutageCreate} {row : Row}

theorem reportedBy_accepted {env : OutageEnv} (hparse : row.parse env.pyd env.limits = .ok payload)
    (result : ImportRowResult) : ReportedBy row (.ok result) := by
  unfold ReportedBy
  rw [Row.resultId_of_parse hparse]
  exact ⟨result, rfl⟩

theorem dryRunRow_reports (env : OutageEnv) :
    Reports fun i row s => (dryRunRow env i row s, s) := by
  intro i row s
  show ReportedBy row (dryRunRow env i row s)
  unfold dryRunRow
  cases hparse : row.parse env.pyd env.limits with
  | invalid errors => exact rowError_reports i row errors
  | raised e => exact rowError_reports i row e.fieldErrors
  | ok payload =>
    dsimp only
    rcases checkDuplicate payload s with e | _ | duplicate
    · exact rowError_reports i row e.fieldErrors
    · exact reportedBy_accepted hparse _
    · exact reportedBy_accepted hparse _

theorem partialRow_reports (env : OutageEnv) : Reports (partialRow env) := by
  intro i row s
  rcases partialRow_cases env i row s with ⟨payload, result, hparse, hrow⟩ | ⟨-, errors, hrow⟩
  · rw [hrow]
    exact reportedBy_accepted hparse result
  · rw [hrow]
    exact rowError_reports i row errors

variable {rows : List Row}

/-- **A row whose failure cannot be reported** ends every such loop with the same exception.
Induction on the rows. -/
theorem eachRow_unreportable (h : ∃ row ∈ rows, ∃ e, row.resultId = .error e) :
    ∃ e, ∀ body, Reports body → ∀ i s, (eachRow body i rows s).1 = .error e := by
  induction rows with
  | nil =>
    obtain ⟨row, hrow, -⟩ := h
    exact absurd hrow List.not_mem_nil
  | cons row rows ih =>
    cases hid : row.resultId with
    | error e =>
      refine ⟨e, fun body hbody i s => ?_⟩
      have hrow := hbody i row s
      unfold ReportedBy at hrow
      rw [hid] at hrow
      rw [eachRow]
      generalize body i row s = outcome at hrow
      obtain ⟨result, s'⟩ := outcome
      cases hrow
      rfl
    | ok id =>
      have hrest : ∃ row ∈ rows, ∃ e, row.resultId = .error e := by
        obtain ⟨row', hrow', e, he⟩ := h
        rcases List.mem_cons.mp hrow' with rfl | hrow'
        · rw [hid] at he
          cases he
        · exact ⟨row', hrow', e, he⟩
      obtain ⟨e, he⟩ := ih hrest
      refine ⟨e, fun body hbody i s => ?_⟩
      have hrow := hbody i row s
      unfold ReportedBy at hrow
      rw [hid] at hrow
      obtain ⟨result, hresult⟩ := hrow
      rw [eachRow]
      generalize body i row s = outcome at hresult
      obtain ⟨result', s'⟩ := outcome
      cases hresult
      have hlast := he body hbody (i + 1) s'
      dsimp only
      generalize eachRow body (i + 1) rows s' = rest at hlast
      obtain ⟨results, s''⟩ := rest
      cases hlast
      rfl

theorem eachRow_cons_ok
    {body : Nat → Row → OutageStore → Except Raised ImportRowResult × OutageStore} {i : Nat}
    {s : OutageStore} {result : ImportRowResult} {results : List ImportRowResult}
    (hrow : (body i row s).1 = .ok result)
    (hrows : (eachRow body (i + 1) rows (body i row s).2).1 = .ok results) :
    (eachRow body i (row :: rows) s).1 = .ok (result :: results) := by
  rw [eachRow]
  generalize body i row s = outcome at hrow hrows
  obtain ⟨r, s'⟩ := outcome
  cases hrow
  dsimp only at hrows ⊢
  generalize eachRow body (i + 1) rows s' = rest at hrows
  obtain ⟨rs, s''⟩ := rest
  cases hrows
  rfl

theorem eachRow_reports
    {body : Nat → Row → OutageStore → Except Raised ImportRowResult × OutageStore}
    (hbody : Reports body) (h : ∀ row ∈ rows, ∃ id, row.resultId = .ok id) (i : Nat)
    (s : OutageStore) : ∃ results, (eachRow body i rows s).1 = .ok results := by
  induction rows generalizing i s with
  | nil => exact ⟨[], rfl⟩
  | cons row rows ih =>
    obtain ⟨id, hid⟩ := h row List.mem_cons_self
    have hrow := hbody i row s
    unfold ReportedBy at hrow
    rw [hid] at hrow
    obtain ⟨result, hresult⟩ := hrow
    obtain ⟨results, hresults⟩ :=
      ih (fun row' hrow' => h row' (List.mem_cons_of_mem _ hrow')) (i + 1) (body i row s).2
    exact ⟨result :: results, eachRow_cons_ok hresult hresults⟩

/-! ## The table of a partial import -/

variable {env : OutageEnv} {s : OutageStore}

/-- The table with the rows of the fresh payloads. -/
def grown (db : OutageDatabase) (s : OutageStore) (before : List OutageCreate) : OutageStore :=
  { s with
    outages := s.outages ++ (before.filter fun payload => Fresh s payload).map (newOrm db) }

variable {before : List OutageCreate} {db : OutageDatabase}

theorem mem_newRows {o : OutageORM} :
    o ∈ (before.filter fun payload => Fresh s payload).map (newOrm db) ↔
      ∃ payload ∈ before, Fresh s payload ∧ newOrm db payload = o := by
  simp [List.mem_map, List.mem_filter, and_assoc]

/-- **A row that no earlier one matters to** is looked up in the grown table as in the old one. -/
theorem checkDuplicate_grown (h : ∀ first ∈ before, Independent db s first payload) :
    checkDuplicate payload (grown db s before) = checkDuplicate payload s := by
  have hid : getOrm (grown db s before) payload.id = getOrm s payload.id := by
    have hnone : ((before.filter fun payload => Fresh s payload).map (newOrm db)).find?
        (fun o => decide (o.id = payload.id)) = none := by
      rw [List.find?_eq_none]
      intro o ho
      obtain ⟨first, hfirst, hfresh, rfl⟩ := mem_newRows.mp ho
      simp [(h first hfirst hfresh).1]
    unfold getOrm grown
    rw [List.find?_append, hnone, Option.or_none]
  unfold checkDuplicate
  rw [hid]
  cases hold : getOrm s payload.id with
  | some existing => rfl
  | none =>
    have hcontent : findDuplicateOrm payload (grown db s before) = findDuplicateOrm payload s := by
      unfold findDuplicateOrm grown
      rw [List.find?_append]
      cases hfind : s.outages.find? (matchesContent payload) with
      | some duplicate => rfl
      | none =>
        -- the payload is fresh, so no new row has its content
        have hfresh : Fresh s payload := by
          unfold Fresh checkDuplicate findDuplicateOrm
          rw [hold, hfind]
        rw [Option.none_or, List.find?_eq_none]
        intro o ho
        obtain ⟨first, hfirst, hfirstFresh, rfl⟩ := mem_newRows.mp ho
        simpa using (h first hfirst hfirstFresh).2 hfresh
    dsimp only
    rw [hcontent]

theorem grown_snoc (db : OutageDatabase) (before : List OutageCreate) (payload : OutageCreate) :
    grown db s (before ++ [payload]) =
      if Fresh s payload then insertOrm (newOrm db payload) (grown db s before)
      else grown db s before := by
  unfold grown insertOrm
  by_cases hfresh : Fresh s payload
  · rw [if_pos hfresh, List.filter_append, List.filter_singleton]
    simp [hfresh]
  · rw [if_neg hfresh, List.filter_append, List.filter_singleton]
    simp [hfresh]

/-! ## One row -/

theorem rowError_verdict {id : Option String} (hid : row.resultId = .ok id) (i : Nat)
    (errors : List ImportFieldError) :
    rowError i row errors = .ok { row := i, id, status := .error, errors := some errors } := by
  rw [rowError_eq, hid]
  rfl

def lookupVerdict : Except Raised (Option OutageORM) → Verdict
  | .error e => ⟨.error, some e.fieldErrors, none, none⟩
  | .ok (some duplicate) => ⟨.ok, none, some true, some duplicate.id⟩
  | .ok none => ⟨.ok, none, some false, none⟩

/-- The verdict of a lookup after which a fresh payload is written. -/
def writeVerdict (db : OutageDatabase) (payload : OutageCreate) :
    Except Raised (Option OutageORM) → Verdict
  | .ok none =>
    match db.refuses (newOrm db payload) with
    | some e => ⟨.error, some e.fieldErrors, none, none⟩
    | none => lookupVerdict (.ok none)
  | lookup => lookupVerdict lookup

theorem dryRunRow_accepted (hparse : row.parse env.pyd env.limits = .ok payload) (i : Nat) :
    ∃ result, dryRunRow env i row s = .ok result ∧
      result.verdict = lookupVerdict (checkDuplicate payload s) := by
  unfold dryRunRow
  rw [hparse]
  dsimp only
  rcases checkDuplicate payload s with e | _ | duplicate
  · exact ⟨_, rowError_verdict (Row.resultId_of_parse hparse) i _, rfl⟩
  · exact ⟨_, rfl, rfl⟩
  · exact ⟨_, rfl, rfl⟩

theorem partialRow_accepted (hparse : row.parse env.pyd env.limits = .ok payload) (i : Nat)
    (s : OutageStore) :
    ∃ result, partialRow env i row s = (.ok result, (createOrGetExisting env.db payload s).2) ∧
      result.verdict = writeVerdict env.db payload (checkDuplicate payload s) := by
  unfold partialRow writeVerdict
  rw [hparse]
  dsimp only
  have hreport := fun errors => rowError_verdict (Row.resultId_of_parse hparse) i errors
  have houtcome := createOrGetExisting_outcome env.db payload s
  generalize createOrGetExisting env.db payload s = outcome at houtcome ⊢
  cases houtcome with
  | conflicting hcheck =>
    rw [hcheck]
    exact ⟨_, congrArg (·, s) (hreport _), rfl⟩
  | duplicate hcheck =>
    rw [hcheck]
    exact ⟨_, rfl, rfl⟩
  | refused hcheck hrefused =>
    rw [hcheck, hrefused]
    exact ⟨_, congrArg (·, s) (hreport _), rfl⟩
  | created hcheck haccepted =>
    rw [hcheck, haccepted]
    exact ⟨_, rfl, rfl⟩

theorem lookupVerdict_eq_iff (db : OutageDatabase) (payload : OutageCreate)
    (lookup : Except Raised (Option OutageORM)) :
    lookupVerdict lookup = writeVerdict db payload lookup ↔
      (lookup = .ok none → db.refuses (newOrm db payload) = none) := by
  unfold writeVerdict
  rcases lookup with e | _ | duplicate
  · exact iff_of_true rfl nofun
  · dsimp only
    cases db.refuses (newOrm db payload) with
    | none => exact iff_of_true rfl fun _ => rfl
    | some e => exact iff_of_false nofun fun h => nomatch h rfl
  · exact iff_of_true rfl nofun

theorem createOrGetExisting_snd (db : OutageDatabase) {s : OutageStore}
    (htaken : checkDuplicate payload s = .ok none → db.refuses (newOrm db payload) = none) :
    (createOrGetExisting db payload s).2 =
      if checkDuplicate payload s = .ok none then insertOrm (newOrm db payload) s else s := by
  have houtcome := createOrGetExisting_outcome db payload s
  generalize createOrGetExisting db payload s = outcome at houtcome ⊢
  cases houtcome with
  | conflicting h => rw [if_neg (by rw [h]; exact nofun)]
  | duplicate h => rw [if_neg (by rw [h]; exact nofun)]
  | refused h hrefused =>
    rw [htaken h] at hrefused
    cases hrefused
  | created h => rw [if_pos h]

theorem rejected_rows (hparse : ∀ payload, row.parse env.pyd env.limits ≠ .ok payload)
    {id : Option String} (hid : row.resultId = .ok id) (i : Nat) (s' : OutageStore) :
    ∃ result, dryRunRow env i row s = .ok result ∧ partialRow env i row s' = (.ok result, s') := by
  unfold dryRunRow partialRow
  cases hcase : row.parse env.pyd env.limits with
  | ok payload => exact absurd hcase (hparse payload)
  | invalid errors =>
    exact ⟨_, rowError_verdict hid i _, congrArg (·, s') (rowError_verdict hid i _)⟩
  | raised e => exact ⟨_, rowError_verdict hid i _, congrArg (·, s') (rowError_verdict hid i _)⟩

/-- The lookup of a payload whose id an earlier fresh payload has: the old table does not have the
id, the grown one does. -/
theorem checkDuplicate_same_id (db : OutageDatabase) {first : OutageCreate} (hmem : first ∈ before)
    (hfresh : Fresh s first) (hid : first.id = payload.id) :
    (∃ duplicate, checkDuplicate payload s = .ok duplicate ∧ ∀ d ∈ duplicate, d.id ≠ payload.id) ∧
      ((∃ e, checkDuplicate payload (grown db s before) = .error e) ∨
        ∃ existing, checkDuplicate payload (grown db s before) = .ok (some existing) ∧
          existing.id = payload.id) := by
  have hold : ∀ o ∈ s.outages, o.id ≠ payload.id := by
    intro o ho
    rw [← hid]
    exact (not_mem_of_checkDuplicate hfresh).1 o ho
  have hnone : getOrm s payload.id = none := by
    refine List.find?_eq_none.mpr fun o ho => ?_
    simpa using hold o ho
  refine ⟨⟨findDuplicateOrm payload s, ?_, ?_⟩, ?_⟩
  · unfold checkDuplicate
    rw [hnone]
  · intro d hd
    exact hold d (List.mem_of_find?_eq_some hd)
  · have hsome : (getOrm (grown db s before) payload.id).isSome := by
      refine List.find?_isSome.mpr ⟨newOrm db first, ?_, by simp [hid]⟩
      exact List.mem_append_right _ (mem_newRows.mpr ⟨first, hmem, hfresh, rfl⟩)
    obtain ⟨existing, hexisting⟩ := Option.isSome_iff_exists.mp hsome
    unfold checkDuplicate
    rw [hexisting]
    dsimp only
    split
    · exact .inr ⟨existing, rfl, by simpa using List.find?_some hexisting⟩
    · exact .inl ⟨_, rfl⟩

theorem checkDuplicate_same_content {first : OutageCreate} (hmem : first ∈ before)
    (hfresh : Fresh s first) (hpayload : Fresh s payload)
    (hcontent : matchesContent payload (newOrm db first) = true)
    (hids : ∀ first ∈ before, Fresh s first → first.id ≠ payload.id) :
    ∃ duplicate, checkDuplicate payload (grown db s before) = .ok (some duplicate) := by
  have hnone : getOrm (grown db s before) payload.id = none := by
    refine List.find?_eq_none.mpr fun o ho => ?_
    rcases List.mem_append.mp ho with hold | hnew
    · simpa using (not_mem_of_checkDuplicate hpayload).1 o hold
    · obtain ⟨first', hfirst', hfresh', rfl⟩ := mem_newRows.mp hnew
      simp [hids first' hfirst' hfresh']
  have hsome : (findDuplicateOrm payload (grown db s before)).isSome := by
    refine List.find?_isSome.mpr ⟨newOrm db first, ?_, hcontent⟩
    exact List.mem_append_right _ (mem_newRows.mpr ⟨first, hmem, hfresh, rfl⟩)
  obtain ⟨duplicate, hduplicate⟩ := Option.isSome_iff_exists.mp hsome
  unfold checkDuplicate
  rw [hnone]
  exact ⟨duplicate, congrArg _ hduplicate⟩

/-- **One accepted row.** The verdicts agree exactly if no earlier payload matters to the row and the
database takes it; then the import leaves the grown table with the row. -/
theorem accepted_verdicts_iff (hparse : row.parse env.pyd env.limits = .ok payload) (i : Nat)
    (before : List OutageCreate) :
    ∃ dry live, dryRunRow env i row s = .ok dry ∧
      (partialRow env i row (grown env.db s before)).1 = .ok live ∧
      (dry.verdict = live.verdict ↔
        (∀ first ∈ before, Independent env.db s first payload) ∧ Taken env.db s payload) ∧
      (dry.verdict = live.verdict →
        (partialRow env i row (grown env.db s before)).2 =
          grown env.db s (before ++ [payload])) := by
  obtain ⟨dry, hdry, hdryVerdict⟩ := dryRunRow_accepted (s := s) hparse i
  obtain ⟨live, hlive, hliveVerdict⟩ := partialRow_accepted hparse i (grown env.db s before)
  refine ⟨dry, live, hdry, by rw [hlive], ?_⟩
  rw [hlive, hdryVerdict, hliveVerdict, grown_snoc]
  by_cases hindependent : ∀ first ∈ before, Independent env.db s first payload
  · -- the lookups agree, and what is left is whether the database takes the row
    have hcheck := checkDuplicate_grown hindependent
    rw [hcheck, and_iff_right hindependent, lookupVerdict_eq_iff]
    refine ⟨Iff.rfl, fun htaken => ?_⟩
    rw [← hcheck] at htaken
    dsimp only
    rw [createOrGetExisting_snd env.db htaken, hcheck]
    rfl
  · suffices hdiffer : lookupVerdict (checkDuplicate payload s) ≠
        writeVerdict env.db payload (checkDuplicate payload (grown env.db s before)) by
      exact ⟨iff_of_false hdiffer fun h => hindependent h.1, fun h => absurd h hdiffer⟩
    by_cases hids : ∀ first ∈ before, Fresh s first → first.id ≠ payload.id
    · -- an earlier payload has the content, so the import finds a duplicate the dry run does not
      push Not at hindependent
      obtain ⟨first, hmem, hfirst⟩ := hindependent
      unfold Independent at hfirst
      push Not at hfirst
      obtain ⟨hfresh, hcontent⟩ := hfirst
      obtain ⟨hpayload, hmatches⟩ := hcontent (hids first hmem hfresh)
      obtain ⟨duplicate, hduplicate⟩ := checkDuplicate_same_content hmem hfresh hpayload
        (by simpa using hmatches) hids
      have hnone : checkDuplicate payload s = .ok none := hpayload
      rw [hduplicate, hnone]
      exact nofun
    · -- an earlier payload has the id, so the import finds that row and the dry run does not
      push Not at hids
      obtain ⟨first, hmem, hfresh, hid⟩ := hids
      obtain ⟨⟨duplicate, hold, hother⟩, hnew⟩ := checkDuplicate_same_id env.db hmem hfresh hid
      rw [hold]
      rcases hnew with ⟨e, he⟩ | ⟨existing, hexisting, hsame⟩
      · rw [he]
        cases duplicate with
        | none => exact nofun
        | some d => exact nofun
      · rw [hexisting]
        cases duplicate with
        | none => exact nofun
        | some d =>
          intro h
          have hdid : d.id = existing.id := by simpa [lookupVerdict, writeVerdict] using h
          exact hother d rfl (hdid.trans hsame)

/-! ## All rows -/

/-- The payloads before a row matter to none of the accepted rows, these do not matter to each other,
and the database takes them. -/
def ForeseenAfter (env : OutageEnv) (s : OutageStore) (before : List OutageCreate)
    (rows : List Row) : Prop :=
  (acceptedPayloads env rows).Pairwise (Independent env.db s) ∧
    (∀ first ∈ before, ∀ payload ∈ acceptedPayloads env rows,
      Independent env.db s first payload) ∧
    ∀ payload ∈ acceptedPayloads env rows, Taken env.db s payload

theorem foreseenAfter_accepted (hparse : row.parse env.pyd env.limits = .ok payload) :
    ForeseenAfter env s before (row :: rows) ↔
      ((∀ first ∈ before, Independent env.db s first payload) ∧ Taken env.db s payload) ∧
        ForeseenAfter env s (before ++ [payload]) rows := by
  have haccepted : acceptedPayloads env (row :: rows) = payload :: acceptedPayloads env rows := by
    unfold acceptedPayloads
    rw [List.filterMap_cons, hparse]
  unfold ForeseenAfter
  rw [haccepted, List.pairwise_cons]
  simp only [List.forall_mem_cons, List.forall_mem_append]
  constructor
  · rintro ⟨⟨hlater, hpairs⟩, hbefore, htaken, hrest⟩
    exact ⟨⟨fun first hfirst => (hbefore first hfirst).1, htaken⟩, hpairs,
      ⟨fun first hfirst => (hbefore first hfirst).2, hlater,
        fun _ h => absurd h List.not_mem_nil⟩, hrest⟩
  · rintro ⟨⟨hbefore, htaken⟩, hpairs, ⟨hrestBefore, hlater, -⟩, hrest⟩
    exact ⟨⟨hlater, hpairs⟩, fun first hfirst => ⟨hbefore first hfirst, hrestBefore first hfirst⟩,
      htaken, hrest⟩

theorem foreseenAfter_rejected (hparse : ∀ payload, row.parse env.pyd env.limits ≠ .ok payload) :
    ForeseenAfter env s before (row :: rows) ↔ ForeseenAfter env s before rows := by
  have hrejected : acceptedPayloads env (row :: rows) = acceptedPayloads env rows := by
    unfold acceptedPayloads
    rw [List.filterMap_cons]
    cases hcase : row.parse env.pyd env.limits with
    | ok payload => exact absurd hcase (hparse payload)
    | invalid errors => rfl
    | raised e => rfl
  unfold ForeseenAfter
  rw [hrejected]

def loopVerdicts (outcome : Except Raised (List ImportRowResult) × OutageStore) :
    Except Raised (List Verdict) :=
  outcome.1.map fun results => results.map ImportRowResult.verdict

/-- **The verdicts of all rows agree** exactly if they are foreseen. Induction on the rows, with the
payloads that are already in the table. -/
theorem loopVerdicts_eq_iff (h : ∀ row ∈ rows, ∃ id, row.resultId = .ok id) (i : Nat)
    (before : List OutageCreate) :
    loopVerdicts (eachRow (fun i row s => (dryRunRow env i row s, s)) i rows s) =
        loopVerdicts (eachRow (partialRow env) i rows (grown env.db s before)) ↔
      ForeseenAfter env s before rows := by
  induction rows generalizing i before with
  | nil => exact iff_of_true rfl ⟨.nil, fun _ _ _ h => (List.not_mem_nil h).elim,
      fun _ h => (List.not_mem_nil h).elim⟩
  | cons row rows ih =>
    have hrows : ∀ row ∈ rows, ∃ id, row.resultId = .ok id :=
      fun row' hrow' => h row' (List.mem_cons_of_mem _ hrow')
    obtain ⟨dryRest, hdryRest⟩ := eachRow_reports (dryRunRow_reports env) hrows (i + 1) s
    -- the lists are equal if the first verdicts and the other ones are
    have hsplit : ∀ {dry live : ImportRowResult}, dryRunRow env i row s = .ok dry →
        (partialRow env i row (grown env.db s before)).1 = .ok live →
        (loopVerdicts (eachRow (fun i row s => (dryRunRow env i row s, s)) i (row :: rows) s) =
            loopVerdicts (eachRow (partialRow env) i (row :: rows) (grown env.db s before)) ↔
          dry.verdict = live.verdict ∧
            loopVerdicts (eachRow (fun i row s => (dryRunRow env i row s, s)) (i + 1) rows s) =
              loopVerdicts (eachRow (partialRow env) (i + 1) rows
                (partialRow env i row (grown env.db s before)).2)) := by
      intro dry live hdry hlive
      obtain ⟨liveRest, hliveRest⟩ := eachRow_reports (partialRow_reports env) hrows (i + 1)
        (partialRow env i row (grown env.db s before)).2
      have hdryAll : (eachRow (fun i row s => (dryRunRow env i row s, s)) i (row :: rows) s).1 =
          .ok (dry :: dryRest) := eachRow_cons_ok hdry hdryRest
      unfold loopVerdicts
      rw [hdryAll, eachRow_cons_ok hlive hliveRest, hdryRest, hliveRest]
      simp [Except.map]
    by_cases hparse : ∃ payload, row.parse env.pyd env.limits = .ok payload
    · obtain ⟨payload, hparse⟩ := hparse
      obtain ⟨dry, live, hdry, hlive, hiff, htable⟩ := accepted_verdicts_iff hparse i before
      rw [hsplit hdry hlive, foreseenAfter_accepted hparse, ← hiff]
      refine and_congr_right fun hverdict => ?_
      rw [htable hverdict]
      exact ih hrows (i + 1) (before ++ [payload])
    · have hparse : ∀ payload, row.parse env.pyd env.limits ≠ .ok payload :=
        fun payload hpayload => hparse ⟨payload, hpayload⟩
      obtain ⟨id, hid⟩ := h row List.mem_cons_self
      obtain ⟨result, hdry, hlive⟩ := rejected_rows hparse hid i (grown env.db s before)
      rw [hsplit hdry (by rw [hlive]), foreseenAfter_rejected hparse, hlive,
        and_iff_right (rfl : result.verdict = result.verdict)]
      exact ih hrows (i + 1) before

theorem importRows_dryRun_snd (env : OutageEnv) (consistency : ImportConsistency) (rows : List Row)
    (s : OutageStore) : (importRows env true consistency rows s).2 = s := by
  unfold importRows
  by_cases hcount : env.limits.maxBulkOutagesCount < rows.length
  · rw [if_pos hcount]
  rw [if_neg hcount, if_pos rfl]
  have hpure := eachRow_pure_snd (dryRunRow env) 0 rows s
  generalize eachRow (fun i row s => (dryRunRow env i row s, s)) 0 rows s = outcome at hpure
  obtain ⟨_ | _, s'⟩ := outcome
  · exact hpure
  · exact hpure

theorem verdicts_dryRun (hcount : ¬ env.limits.maxBulkOutagesCount < rows.length)
    (consistency : ImportConsistency) :
    verdicts (importRows env true consistency rows s).1 =
      (loopVerdicts (eachRow (fun i row s => (dryRunRow env i row s, s)) 0 rows s)).mapError
        Failure.raised := by
  unfold importRows loopVerdicts
  rw [if_neg hcount, if_pos rfl]
  rcases eachRow (fun i row s => (dryRunRow env i row s, s)) 0 rows s with ⟨e | results, s'⟩
  · rfl
  · rfl

theorem verdicts_partialRows (hcount : ¬ env.limits.maxBulkOutagesCount < rows.length) :
    verdicts (importRows env false .partialRows rows s).1 =
      (loopVerdicts (eachRow (partialRow env) 0 rows s)).mapError Failure.raised := by
  unfold importRows loopVerdicts
  rw [if_neg hcount, if_neg Bool.false_ne_true]
  dsimp only
  rcases eachRow (partialRow env) 0 rows s with ⟨e | results, s'⟩
  · rfl
  · rfl

/-- **A dry run predicts the import** exactly if the rows are foreseeable. -/
theorem dry_run_predicts_iff (env : OutageEnv) (rows : List Row) (s : OutageStore) :
    DryRunPredicts env rows s ↔ Foreseeable env rows s := by
  have hiff : DryRunPredicts env rows s ↔ ∀ consistency,
      verdicts (importRows env true consistency rows s).1 =
        verdicts (importRows env false .partialRows rows s).1 :=
    ⟨fun h => h.predicts, fun h => ⟨fun c => importRows_dryRun_snd env c rows s, h⟩⟩
  rw [hiff]
  unfold Foreseeable
  by_cases hcount : env.limits.maxBulkOutagesCount < rows.length
  · -- both are refused before they look at a row
    refine iff_of_true (fun consistency => ?_) (.inl hcount)
    unfold importRows
    rw [if_pos hcount, if_pos hcount]
  rw [or_iff_right hcount]
  have hverdicts : (∀ consistency, verdicts (importRows env true consistency rows s).1 =
      verdicts (importRows env false .partialRows rows s).1) ↔
      loopVerdicts (eachRow (fun i row s => (dryRunRow env i row s, s)) 0 rows s) =
        loopVerdicts (eachRow (partialRow env) 0 rows s) := by
    -- an import only wraps what its loop raises
    have hinjective : ∀ {a b : Except Raised (List Verdict)},
        a.mapError Failure.raised = b.mapError Failure.raised → a = b := by
      intro a b hab
      cases a with
      | error e =>
        cases b with
        | error e' => rw [Failure.raised.inj (Except.error.inj hab)]
        | ok vs => cases hab
      | ok vs =>
        cases b with
        | error e => cases hab
        | ok vs' => rw [Except.ok.inj hab]
    constructor
    · intro h
      have h := h .atomic
      rw [verdicts_dryRun hcount, verdicts_partialRows hcount] at h
      exact hinjective h
    · intro h consistency
      rw [verdicts_dryRun hcount, verdicts_partialRows hcount, h]
  rw [hverdicts]
  by_cases hreport : ∃ row ∈ rows, ∃ e, row.resultId = .error e
  · -- the first row that cannot be reported ends both
    obtain ⟨e, he⟩ := eachRow_unreportable hreport
    refine iff_of_true ?_ (.inl hreport)
    unfold loopVerdicts
    rw [he _ (dryRunRow_reports env), he _ (partialRow_reports env)]
  · rw [or_iff_right hreport]
    have hall : ∀ row ∈ rows, ∃ id, row.resultId = .ok id := by
      intro row hrow
      cases hid : row.resultId with
      | ok id => exact ⟨id, rfl⟩
      | error e => exact absurd ⟨row, hrow, e, hid⟩ hreport
    have hempty : grown env.db s [] = s := by
      unfold grown
      simp
    have hrows :
        loopVerdicts (eachRow (fun i row s => (dryRunRow env i row s, s)) 0 rows s) =
            loopVerdicts (eachRow (partialRow env) 0 rows (grown env.db s [])) ↔
          ForeseenAfter env s [] rows := loopVerdicts_eq_iff hall 0 []
    rw [hempty] at hrows
    rw [hrows]
    unfold ForeseenAfter
    simp

/-! ## A file with the same outage twice -/

/-- The dry run of two rows that are alike foresees no duplicate, and the import finds one. -/
theorem not_dry_run_predicts :
    verdicts (importRows plainEnv true .atomic [jsonRow "outage-1" "Fiber cut.",
        jsonRow "outage-1" "Fiber cut."] {}).1 =
      .ok [⟨.ok, none, some false, none⟩, ⟨.ok, none, some false, none⟩] ∧
    verdicts (importRows plainEnv false .partialRows [jsonRow "outage-1" "Fiber cut.",
        jsonRow "outage-1" "Fiber cut."] {}).1 =
      .ok [⟨.ok, none, some false, none⟩, ⟨.ok, none, some true, some "outage-1"⟩] ∧
    ¬ DryRunPredicts plainEnv
      [jsonRow "outage-1" "Fiber cut.", jsonRow "outage-1" "Fiber cut."] {} := by
  have hdry : verdicts (importRows plainEnv true .atomic [jsonRow "outage-1" "Fiber cut.",
      jsonRow "outage-1" "Fiber cut."] {}).1 =
      .ok [⟨.ok, none, some false, none⟩, ⟨.ok, none, some false, none⟩] := by decide +kernel
  have hlive : verdicts (importRows plainEnv false .partialRows [jsonRow "outage-1" "Fiber cut.",
      jsonRow "outage-1" "Fiber cut."] {}).1 =
      .ok [⟨.ok, none, some false, none⟩, ⟨.ok, none, some true, some "outage-1"⟩] := by
    decide +kernel
  refine ⟨hdry, hlive, fun h => ?_⟩
  have hsame := h.predicts .atomic
  rw [hdry, hlive] at hsame
  exact absurd hsame (by decide)

end NocIq
