import NocIq.Outage.Import
import NocIq.Outage.Resolution

/-!
# NocIq — imports and bulk creates as a whole

Atomic imports and bulk creates against the law that they write everything or nothing. Both write
one row after another through `create_or_get_existing`, which commits each row, so what has been
written before a row is refused stays.

* **`createEach_ok`** — what a list of payloads writes when none is refused.
* **`createEach_unwritten_iff`** — when a failing list writes nothing.
* **`all_or_nothing_iff`** — which requests keep the law.
-/

namespace NocIq

open OutageRepository

/-! ## The law -/

/-- The requests that promise to write everything or nothing. -/
inductive WriteRequest (limits : OutageLimits) where
  | bulkCreate (payload : BulkOutageCreate limits)
  | importAtomic (rows : List Row)

/-- The rows of an import that its response reports as persisted. -/
def reportedRows (db : OutageDatabase) (payloads : List OutageCreate)
    (results : List ImportRowResult) : List OutageORM :=
  (List.zip payloads results).filterMap fun x =>
    if x.2.persisted = some true then some (newOrm db x.1) else none

/-- A bulk create that fails leaves the table as it was. One that succeeds adds as many rows as it
reports as persisted, and they are among its items. -/
def BulkAllOrNothing (s : OutageStore) : Except Failure BulkCreated × OutageStore → Prop
  | (.error _, s') => s' = s
  | (.ok response, s') =>
    ∃ new, s'.outages = s.outages ++ new ∧ new.length = response.persisted ∧
      new.Sublist response.items

/-- An import that fails, or reports an error of a row, leaves the table as it was. One that
succeeds adds exactly the rows it reports as persisted. -/
def ImportAllOrNothing (env : OutageEnv) (rows : List Row) (s : OutageStore) :
    Except Failure ImportResponse × OutageStore → Prop
  | (.error _, s') => s' = s
  | (.ok response, s') =>
    if response.errors ≠ [] then s' = s
    else
      ∃ payloads, Parsed env rows payloads ∧
        s'.outages = s.outages ++ reportedRows env.db payloads response.rows ∧
        (reportedRows env.db payloads response.rows).length = response.persisted

def AllOrNothing (env : OutageEnv) (s : OutageStore) : WriteRequest env.limits → Prop
  | .bulkCreate payload => BulkAllOrNothing s (bulkCreateOutages env.db payload s)
  | .importAtomic rows => ImportAllOrNothing env rows s (importRows env false .atomic rows s)

/-! ## When it holds -/

/-- The id of the payload is taken by an outage with other content, or the payload is new and the
database does not take its row. -/
def IsRefused (db : OutageDatabase) (s : OutageStore) (payload : OutageCreate) : Prop :=
  (∃ e, checkDuplicate payload s = .error e) ∨
    (checkDuplicate payload s = .ok none ∧ ∃ e, db.refuses (newOrm db payload) = some e)

/-- The table with the payload's row, unless it is a duplicate. -/
def withRow (db : OutageDatabase) (payload : OutageCreate) (s : OutageStore) : OutageStore :=
  match checkDuplicate payload s with
  | .ok none => insertOrm (newOrm db payload) s
  | _ => s

/-- No payload is refused on the table the payloads before it lead to. -/
def NoneRefused (db : OutageDatabase) : List OutageCreate → OutageStore → Prop
  | [], _ => True
  | payload :: payloads, s =>
    ¬ IsRefused db s payload ∧ NoneRefused db payloads (withRow db payload s)

/-- The first payload that is refused comes before the first new one, or none is refused. -/
def RefusedBeforeNew (db : OutageDatabase) : List OutageCreate → OutageStore → Prop
  | [], _ => True
  | payload :: payloads, s =>
    IsRefused db s payload ∨
      if checkDuplicate payload s = .ok none then NoneRefused db payloads (withRow db payload s)
      else RefusedBeforeNew db payloads s

def WritesAllOrNothing (env : OutageEnv) (s : OutageStore) : WriteRequest env.limits → Prop
  | .bulkCreate payload => RefusedBeforeNew env.db payload.outages s
  | .importAtomic rows =>
    rows.length ≤ env.limits.maxBulkOutagesCount →
      ∀ payloads, Parsed env rows payloads → RefusedBeforeNew env.db payloads s

/-! ## One payload -/

variable {db : OutageDatabase} {s : OutageStore} {payload : OutageCreate}
  {payloads : List OutageCreate}

theorem createOrGetExisting_cases (db : OutageDatabase) (payload : OutageCreate) (s : OutageStore) :
    (IsRefused db s payload ∧ ∃ e, createOrGetExisting db payload s = (.error e, s)) ∨
    (¬ IsRefused db s payload ∧ checkDuplicate payload s ≠ .ok none ∧ withRow db payload s = s ∧
      ∃ existing, createOrGetExisting db payload s = (.ok (existing, false), s)) ∨
    (¬ IsRefused db s payload ∧ checkDuplicate payload s = .ok none ∧
      withRow db payload s = insertOrm (newOrm db payload) s ∧
      createOrGetExisting db payload s =
        (.ok (newOrm db payload, true), insertOrm (newOrm db payload) s)) := by
  have houtcome := createOrGetExisting_outcome db payload s
  generalize createOrGetExisting db payload s = outcome at houtcome ⊢
  unfold IsRefused withRow
  cases houtcome with
  | conflicting hcheck => exact .inl ⟨.inl ⟨_, hcheck⟩, _, rfl⟩
  | refused hcheck hrefused => exact .inl ⟨.inr ⟨hcheck, _, hrefused⟩, _, rfl⟩
  | @duplicate existing hcheck =>
    rw [hcheck]
    refine .inr (.inl ⟨?_, by simp, rfl, existing, rfl⟩)
    rintro (⟨e, he⟩ | ⟨hnone, -⟩)
    · cases he
    · cases hnone
  | created hcheck haccepted =>
    rw [hcheck, haccepted]
    refine .inr (.inr ⟨?_, rfl, rfl, rfl⟩)
    rintro (⟨e, he⟩ | ⟨-, e, he⟩)
    · cases he
    · cases he

/-! ## Lists of payloads -/

/-- Creating only adds rows. Induction on the list. -/
theorem createEach_outages (db : OutageDatabase) (payloads : List OutageCreate) (s : OutageStore) :
    ∃ new, (createEach db payloads s).2.outages = s.outages ++ new := by
  induction payloads generalizing s with
  | nil => exact ⟨[], (List.append_nil _).symm⟩
  | cons payload payloads ih =>
    rw [createEach_cons_snd]
    rcases createOrGetExisting_cases db payload s with
      ⟨-, e, hcreate⟩ | ⟨-, -, -, existing, hcreate⟩ | ⟨-, -, -, hcreate⟩
    · rw [hcreate]
      exact ⟨[], (List.append_nil _).symm⟩
    · rw [hcreate]
      exact ih s
    · rw [hcreate]
      obtain ⟨new, hnew⟩ := ih (insertOrm (newOrm db payload) s)
      exact ⟨newOrm db payload :: new, by rw [hnew]; exact List.append_assoc ..⟩

/-- The list succeeds exactly if no payload is refused. Induction on the list. -/
theorem createEach_succeeds_iff (db : OutageDatabase) (payloads : List OutageCreate)
    (s : OutageStore) :
    (∃ created, (createEach db payloads s).1 = .ok created) ↔ NoneRefused db payloads s := by
  induction payloads generalizing s with
  | nil => exact iff_of_true ⟨[], rfl⟩ trivial
  | cons payload payloads ih =>
    unfold NoneRefused
    rw [createEach]
    rcases createOrGetExisting_cases db payload s with
      ⟨hrefused, e, hcreate⟩ | ⟨hrefused, -, hsame, existing, hcreate⟩ | ⟨hrefused, -, hrow, hcreate⟩
    · rw [hcreate]
      refine iff_of_false ?_ fun h => h.1 hrefused
      rintro ⟨created, h⟩
      cases h
    · rw [hcreate, hsame, ← ih s]
      dsimp only
      rw [and_iff_right hrefused]
      rcases createEach db payloads s with ⟨_ | rest, s'⟩
      · exact iff_of_false (fun h => by cases h.choose_spec) fun h => by cases h.choose_spec
      · exact iff_of_true ⟨_, rfl⟩ ⟨_, rfl⟩
    · rw [hcreate, hrow, ← ih]
      dsimp only
      rw [and_iff_right hrefused]
      rcases createEach db payloads (insertOrm (newOrm db payload) s) with ⟨_ | rest, s'⟩
      · exact iff_of_false (fun h => by cases h.choose_spec) fun h => by cases h.choose_spec
      · exact iff_of_true ⟨_, rfl⟩ ⟨_, rfl⟩

def persistedRows (created : List (OutageORM × Bool)) : List OutageORM :=
  (created.filter (·.2)).map (·.1)

variable {created : List (OutageORM × Bool)}

/-- **What a list writes when none of it is refused**: the rows of the payloads that are not
duplicates. Induction on the list. -/
theorem createEach_ok {s' : OutageStore} (h : createEach db payloads s = (.ok created, s')) :
    s'.outages = s.outages ++ persistedRows created ∧
      List.Forall₂ (fun payload c => c.2 = true → c.1 = newOrm db payload) payloads created := by
  induction payloads generalizing s created with
  | nil =>
    cases h
    exact ⟨(List.append_nil _).symm, .nil⟩
  | cons payload payloads ih =>
    rw [createEach] at h
    rcases createOrGetExisting_cases db payload s with
      ⟨-, e, hcreate⟩ | ⟨-, -, -, existing, hcreate⟩ | ⟨-, -, -, hcreate⟩
    · rw [hcreate] at h
      cases h
    · rw [hcreate] at h
      dsimp only at h
      cases hrest : createEach db payloads s with
      | mk result s₂ =>
        cases result with
        | error e =>
          rw [hrest] at h
          cases h
        | ok rest =>
          rw [hrest] at h
          cases h
          obtain ⟨houtages, hrows⟩ := ih hrest
          exact ⟨houtages, .cons (fun h => by cases h) hrows⟩
    · rw [hcreate] at h
      dsimp only at h
      cases hrest : createEach db payloads (insertOrm (newOrm db payload) s) with
      | mk result s₂ =>
        cases result with
        | error e =>
          rw [hrest] at h
          cases h
        | ok rest =>
          rw [hrest] at h
          cases h
          obtain ⟨houtages, hrows⟩ := ih hrest
          refine ⟨?_, .cons (fun _ => rfl) hrows⟩
          rw [houtages]
          exact List.append_assoc ..

/-- **When a failing list writes nothing.** Induction on the list; once a row has been written, the
table is not the old one any more. -/
theorem createEach_unwritten_iff (db : OutageDatabase) (payloads : List OutageCreate)
    (s : OutageStore) :
    (∀ e, (createEach db payloads s).1 = .error e → (createEach db payloads s).2 = s) ↔
      RefusedBeforeNew db payloads s := by
  induction payloads generalizing s with
  | nil => exact iff_of_true (fun e h => by cases h) trivial
  | cons payload payloads ih =>
    unfold RefusedBeforeNew
    rw [createEach]
    rcases createOrGetExisting_cases db payload s with
      ⟨hrefused, e, hcreate⟩ | ⟨hrefused, hcheck, -, existing, hcreate⟩ |
      ⟨hrefused, hcheck, hrow, hcreate⟩
    · rw [hcreate]
      exact iff_of_true (fun _ _ => rfl) (.inl hrefused)
    · rw [hcreate, or_iff_right hrefused, if_neg hcheck, ← ih s]
      dsimp only
      rcases createEach db payloads s with ⟨_ | rest, s'⟩
      · exact Iff.rfl
      · exact iff_of_true (fun _ h => by cases h) fun _ h => by cases h
    · rw [hcreate, or_iff_right hrefused, if_pos hcheck, hrow, ← createEach_succeeds_iff]
      obtain ⟨new, hnew⟩ := createEach_outages db payloads (insertOrm (newOrm db payload) s)
      dsimp only
      generalize createEach db payloads (insertOrm (newOrm db payload) s) = rest at hnew
      obtain ⟨_ | rest, s'⟩ := rest
      · refine iff_of_false ?_ fun h => by cases h.choose_spec
        intro h
        have hsame : s' = s := h _ rfl
        have hlength := congrArg List.length hnew
        rw [hsame] at hlength
        simp only [insertOrm, List.length_append, List.length_singleton] at hlength
        omega
      · exact iff_of_true (fun _ h => by cases h) ⟨_, rfl⟩

/-! ## The requests -/

theorem bulkCreate_allOrNothing_iff (env : OutageEnv) (s : OutageStore)
    (payload : BulkOutageCreate env.limits) :
    BulkAllOrNothing s (bulkCreateOutages env.db payload s) ↔
      RefusedBeforeNew env.db payload.outages s := by
  rw [← createEach_unwritten_iff]
  unfold bulkCreateOutages
  cases hcreated : createEach env.db payload.outages s with
  | mk result s' =>
    cases result with
    | error e => exact ⟨fun h _ _ => h, fun h => h e rfl⟩
    | ok created =>
      refine iff_of_true ?_ (fun e h => nomatch h)
      obtain ⟨houtages, -⟩ := createEach_ok hcreated
      refine ⟨persistedRows created, houtages, ?_, ?_⟩
      · rw [List.countP_eq_length_filter]
        exact List.length_map ..
      · exact List.Sublist.map _ List.filter_sublist

/-- The rows an atomic import reports as persisted. Induction on the payloads, with the row number
they start from. -/
theorem reportedRows_written
    (h : List.Forall₂ (fun payload c => c.2 = true → c.1 = newOrm db payload) payloads created)
    (i : Nat) :
    reportedRows db payloads (List.zipWith writtenResult (okResults i payloads) created) =
      persistedRows created := by
  induction h generalizing i with
  | nil => rfl
  | @cons payload c payloads created hrow _ ih =>
    have hrest := ih (i + 1)
    unfold reportedRows persistedRows at hrest ⊢
    obtain ⟨o, persisted⟩ := c
    simp only [okResults, List.zipWith_cons_cons, List.zip_cons_cons, List.filterMap_cons]
    cases persisted with
    | true =>
      rw [List.filter_cons_of_pos rfl, List.map_cons, ← hrest, ← hrow rfl]
      rfl
    | false =>
      rw [List.filter_cons_of_neg (by simp), ← hrest]
      rfl

theorem persistedCount_written
    (h : List.Forall₂ (fun payload c => c.2 = true → c.1 = newOrm db payload) payloads created)
    (i : Nat) :
    persistedCount (List.zipWith writtenResult (okResults i payloads) created) =
      (persistedRows created).length := by
  induction h generalizing i with
  | nil => rfl
  | @cons payload c payloads created hrow _ ih =>
    have hrest := ih (i + 1)
    unfold persistedCount persistedRows at hrest ⊢
    obtain ⟨o, persisted⟩ := c
    simp only [okResults, List.zipWith_cons_cons]
    cases persisted with
    | true =>
      rw [List.countP_cons_of_pos (by rfl), hrest, List.filter_cons_of_pos rfl]
      simp
    | false =>
      rw [List.countP_cons_of_neg (by simp [writtenResult]), hrest, List.filter_cons_of_neg (by simp)]

theorem written_status {i : Nat} {r : ImportRowResult}
    (h : r ∈ List.zipWith writtenResult (okResults i payloads) created) : r.status = .ok := by
  obtain ⟨n, hn, rfl⟩ := List.getElem_of_mem h
  rw [List.getElem_zipWith]
  have hstatus : ∀ (result : ImportRowResult) (c : OutageORM × Bool),
      (writtenResult result c).status = result.status := by
    intro result c
    unfold writtenResult
    cases c.2 <;> rfl
  rw [hstatus]
  exact okResults_status (List.getElem_mem _)

theorem importAtomic_allOrNothing_iff (env : OutageEnv) (s : OutageStore) (rows : List Row) :
    ImportAllOrNothing env rows s (importRows env false .atomic rows s) ↔
      (rows.length ≤ env.limits.maxBulkOutagesCount →
        ∀ payloads, Parsed env rows payloads → RefusedBeforeNew env.db payloads s) := by
  unfold importRows
  by_cases hcount : env.limits.maxBulkOutagesCount < rows.length
  · rw [if_pos hcount]
    exact iff_of_true rfl fun h => by omega
  rw [if_neg hcount, if_neg Bool.false_ne_true, forall_prop_of_true (not_lt.mp hcount)]
  dsimp only
  by_cases hparsed : ∃ payloads, Parsed env rows payloads
  · obtain ⟨payloads, hparsed⟩ := hparsed
    have hall : (∀ payloads, Parsed env rows payloads → RefusedBeforeNew env.db payloads s) ↔
        RefusedBeforeNew env.db payloads s :=
      ⟨fun h => h payloads hparsed, fun h payloads' h' => h'.unique hparsed ▸ h⟩
    rw [hall, ← createEach_unwritten_iff, importAtomic_parsed hparsed]
    cases hcreated : createEach env.db payloads s with
    | mk result s' =>
      cases result with
      | error e => exact ⟨fun h _ _ => h, fun h => h e rfl⟩
      | ok created =>
        refine iff_of_true ?_ (fun e h => nomatch h)
        obtain ⟨houtages, hrows⟩ := createEach_ok hcreated
        have herrors : (List.zipWith writtenResult (okResults 0 payloads) created).filter
            (fun r => r.status = .error) = [] := by
          rw [List.filter_eq_nil_iff]
          intro r hr
          rw [written_status hr]
          decide
        dsimp only [ImportAllOrNothing, importResponse]
        rw [herrors, if_neg (not_not.mpr rfl)]
        refine ⟨payloads, hparsed, ?_, ?_⟩
        · rw [reportedRows_written hrows, houtages]
        · rw [reportedRows_written hrows, persistedCount_written hrows]
  · refine iff_of_true ?_ fun payloads h => absurd ⟨payloads, h⟩ hparsed
    rcases importAtomic_rejected hparsed s with ⟨e, he⟩ | ⟨outcomes, ⟨r, hr, hstatus⟩, -, hok⟩
    · rw [he]
      rfl
    · rw [hok]
      dsimp only [ImportAllOrNothing, importResponse]
      have hmem : r ∈ outcomes.filter (fun r => r.status = .error) :=
        List.mem_filter.mpr ⟨hr, by simp [hstatus]⟩
      rw [if_pos (List.ne_nil_of_mem hmem)]

/-- **Everything or nothing.** A bulk create or an atomic import keeps the law exactly if no row is
refused once a new one has been written. -/
theorem all_or_nothing_iff (env : OutageEnv) (s : OutageStore) (r : WriteRequest env.limits) :
    AllOrNothing env s r ↔ WritesAllOrNothing env s r := by
  cases r with
  | bulkCreate payload => exact bulkCreate_allOrNothing_iff env s payload
  | importAtomic rows => exact importAtomic_allOrNothing_iff env s rows

/-! ## Two outages with one id -/

/-- A bulk request whose second outage has the id of the first and another description. -/
def conflictingPayloads : BulkOutageCreate plainEnv.limits where
  outages := [openPayload, { openPayload with description := "Another outage." }]
  valid := by
    intro payload hpayload
    rcases List.mem_pair.mp hpayload with rfl | rfl
    · exact ⟨by decide, by decide, by decide, by decide, nofun⟩
    · exact ⟨by decide, by decide, by decide, by decide, nofun⟩
  count_le := by decide

def conflictingRows : List Row :=
  [jsonRow "outage-1" "Example outage affecting core API.", jsonRow "outage-1" "Another outage."]

/-- Both requests fail on the second outage, and the first one stays in the table. -/
theorem not_all_or_nothing :
    importRows plainEnv false .atomic conflictingRows {} =
      (.error (.http 500 ("Transaction failed: Outage with id 'outage-1' already exists with " ++
        "different content")), openOutages) ∧
    bulkCreateOutages plainEnv.db conflictingPayloads {} =
      (.error (.http 400 "Outage with id 'outage-1' already exists with different content"),
        openOutages) ∧
    ¬ AllOrNothing plainEnv {} (.importAtomic conflictingRows) ∧
    ¬ AllOrNothing plainEnv {} (.bulkCreate conflictingPayloads) := by
  have himport : importRows plainEnv false .atomic conflictingRows {} =
      (.error (.http 500 ("Transaction failed: Outage with id 'outage-1' already exists with " ++
        "different content")), openOutages) := by decide +kernel
  have hbulk : bulkCreateOutages plainEnv.db conflictingPayloads {} =
      (.error (.http 400 "Outage with id 'outage-1' already exists with different content"),
        openOutages) := by decide +kernel
  have hwritten : openOutages ≠ {} := by decide
  refine ⟨himport, hbulk, ?_, ?_⟩
  · intro h
    have hlaw : ImportAllOrNothing plainEnv conflictingRows {}
        (importRows plainEnv false .atomic conflictingRows {}) := h
    rw [himport] at hlaw
    exact hwritten hlaw
  · intro h
    have hlaw : BulkAllOrNothing {} (bulkCreateOutages plainEnv.db conflictingPayloads {}) := h
    rw [hbulk] at hlaw
    exact hwritten hlaw

end NocIq
