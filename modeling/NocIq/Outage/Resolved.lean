import NocIq.Outage.Import
import NocIq.Outage.Update

/-!
# NocIq — resolved outages and their resolution

Whether a resolved outage has a resolution time and an MTTR, over runs of all operations of the
repository. Creating an outage stores the status of the payload and neither of the two columns, and
an update writes the status and `resolved_at` as they are sent, so only some of the runs keep the
columns together.

* **`importRows_everywhere`** — what the new rows of an import have to meet.
* **`served_everywhere`** — what an update has to meet.
* **`resolution_carried_of_run`** — in which runs every resolved outage carries its resolution.
-/

namespace NocIq

open OutageRepository

/-! ## The law -/

/-- The outage is open or resolved, and resolved exactly if it has a resolution time and an MTTR. -/
def CarriesResolution (o : OutageORM) : Prop :=
  (o.status = "open" ∨ o.status = "resolved") ∧
    (o.status = "resolved" ↔ o.resolvedAt ≠ none ∧ o.mttrMinutes ≠ none)

/-- Every stored outage meets `Q`. -/
def Everywhere (Q : OutageORM → Prop) (s : OutageStore) : Prop := ∀ o ∈ s.outages, Q o

/-- `recompute_sla` up to the point where it reads the MTTR. -/
def recomputedMttr (outageId : String) (s : OutageStore) : Except Exc (Option Int) :=
  match getOrm s outageId with
  | none => .error (.http 404 "Outage not found")
  | some outage =>
    if outage.status ≠ OutageStatus.resolved.value then
      .error (.http 400 "Outage must be resolved to recompute SLA")
    else .ok outage.mttrMinutes

structure ResolutionLaw (s : OutageStore) : Prop where
  carries : Everywhere CarriesResolution s
  recompute : ∀ outageId, recomputedMttr outageId s ≠ .ok none

theorem resolutionLaw_iff {s : OutageStore} :
    ResolutionLaw s ↔ Everywhere CarriesResolution s := by
  refine ⟨ResolutionLaw.carries, fun h => ⟨h, ?_⟩⟩
  intro outageId
  unfold recomputedMttr
  cases hfind : getOrm s outageId with
  | none => exact nofun
  | some outage =>
    dsimp only
    by_cases hstatus : outage.status = OutageStatus.resolved.value
    · rw [if_neg (not_not.mpr hstatus)]
      have hcarries := h outage (mem_of_getOrm hfind).1
      intro hnone
      exact (hcarries.2.mp hstatus).2 (Except.ok.inj hnone)
    · rw [if_pos hstatus]
      exact nofun

/-! ## New rows -/

variable {db : OutageDatabase} {Q : OutageORM → Prop} {s : OutageStore}

/-- The payload becomes a new row. -/
def Creates (db : OutageDatabase) (s : OutageStore) (payload : OutageCreate) : Prop :=
  checkDuplicate payload s = .ok none ∧ db.refuses (newOrm db payload) = none

/-- What the loop hands to `create_or_get_existing` meets `C` in the table it finds there. -/
def Handed (C : OutageStore → OutageCreate → Prop) (db : OutageDatabase) :
    List OutageCreate → OutageStore → Prop
  | [], _ => True
  | payload :: payloads, s =>
    C s payload ∧
      match createOrGetExisting db payload s with
      | (.error _, _) => True
      | (.ok _, s) => Handed C db payloads s

/-- The same for the rows of a partial import. A failed row is skipped if it can be reported. -/
def HandedRows (C : OutageStore → OutageCreate → Prop) (env : OutageEnv) :
    List Row → OutageStore → Prop
  | [], _ => True
  | row :: rows, s =>
    match row.parse env.pyd env.limits with
    | .ok payload =>
      C s payload ∧ HandedRows C env rows (createOrGetExisting env.db payload s).2
    | _ => (∃ id, row.resultId = .ok id) → HandedRows C env rows s

def HandedImport (C : OutageStore → OutageCreate → Prop) (env : OutageEnv) (dryRun : Bool)
    (consistency : ImportConsistency) (rows : List Row) (s : OutageStore) : Prop :=
  rows.length ≤ env.limits.maxBulkOutagesCount → dryRun = false →
    match consistency with
    | .atomic => ∀ payloads, Parsed env rows payloads → Handed C env.db payloads s
    | .partialRows => HandedRows C env rows s

section

variable {C : OutageStore → OutageCreate → Prop} (h : ∀ s payload, C s payload)
include h

theorem Handed.of_forall {payloads : List OutageCreate} : Handed C db payloads s := by
  induction payloads generalizing s with
  | nil => trivial
  | cons payload payloads ih =>
    refine ⟨h s payload, ?_⟩
    split
    · trivial
    · exact ih

theorem HandedRows.of_forall {env : OutageEnv} {rows : List Row} : HandedRows C env rows s := by
  induction rows generalizing s with
  | nil => trivial
  | cons row rows ih =>
    unfold HandedRows
    split
    · exact ⟨h s _, ih⟩
    · exact fun _ => ih

theorem HandedImport.of_forall {env : OutageEnv} {dryRun : Bool} {consistency : ImportConsistency}
    {rows : List Row} : HandedImport C env dryRun consistency rows s := by
  intro _ _
  cases consistency with
  | atomic => exact fun payloads _ => .of_forall h
  | partialRows => exact .of_forall h

end

theorem everywhere_insert {orm : OutageORM} :
    Everywhere Q (insertOrm orm s) ↔ Everywhere Q s ∧ Q orm := by
  unfold Everywhere insertOrm
  simp only [List.forall_mem_append, List.forall_mem_singleton]

theorem create_everywhere (hs : Everywhere Q s) (payload : OutageCreate) :
    Everywhere Q (createOrGetExisting db payload s).2 ↔
      (Creates db s payload → Q (newOrm db payload)) := by
  have houtcome := createOrGetExisting_outcome db payload s
  generalize createOrGetExisting db payload s = outcome at houtcome ⊢
  cases houtcome with
  | conflicting hcheck =>
    refine iff_of_true hs ?_
    rintro ⟨hnone, -⟩
    rw [hcheck] at hnone
    cases hnone
  | duplicate hcheck =>
    refine iff_of_true hs ?_
    rintro ⟨hnone, -⟩
    rw [hcheck] at hnone
    cases hnone
  | refused _ hrefused =>
    refine iff_of_true hs ?_
    rintro ⟨-, hnone⟩
    rw [hrefused] at hnone
    cases hnone
  | created hcheck haccepted =>
    rw [everywhere_insert]
    exact ⟨fun h _ => h.2, fun h => ⟨hs, h ⟨hcheck, haccepted⟩⟩⟩

theorem everywhere_of_create (db : OutageDatabase) (payload : OutageCreate)
    (h : Everywhere Q (createOrGetExisting db payload s).2) : Everywhere Q s := by
  have houtcome := createOrGetExisting_outcome db payload s
  generalize createOrGetExisting db payload s = outcome at houtcome h
  cases houtcome with
  | conflicting => exact h
  | duplicate => exact h
  | refused => exact h
  | created => exact (everywhere_insert.mp h).1

theorem everywhere_of_createEach {payloads : List OutageCreate}
    (h : Everywhere Q (createEach db payloads s).2) : Everywhere Q s := by
  induction payloads generalizing s with
  | nil => exact h
  | cons payload payloads ih =>
    rw [createEach_cons_snd] at h
    refine everywhere_of_create db payload ?_
    generalize createOrGetExisting db payload s = outcome at h ⊢
    obtain ⟨_ | created, s'⟩ := outcome
    · exact h
    · exact ih h

/-- **The rows a list of payloads adds.** Induction on the list; a row that does not meet `Q` stays
in the table. -/
theorem createEach_everywhere (hs : Everywhere Q s) (payloads : List OutageCreate) :
    Everywhere Q (createEach db payloads s).2 ↔
      Handed (fun s payload => Creates db s payload → Q (newOrm db payload)) db payloads s := by
  induction payloads generalizing s with
  | nil => exact iff_of_true hs trivial
  | cons payload payloads ih =>
    unfold Handed
    rw [createEach_cons_snd, ← create_everywhere hs]
    generalize createOrGetExisting db payload s = outcome
    obtain ⟨_ | created, s'⟩ := outcome
    · exact (and_iff_left trivial).symm
    dsimp only
    constructor
    · intro h
      have hs' := everywhere_of_createEach h
      exact ⟨hs', (ih hs').mp h⟩
    · rintro ⟨hs', h⟩
      exact (ih hs').mpr h

variable {env : OutageEnv}

theorem everywhere_of_partialRows {i : Nat} {rows : List Row}
    (h : Everywhere Q (eachRow (partialRow env) i rows s).2) : Everywhere Q s := by
  induction rows generalizing i s with
  | nil => exact h
  | cons row rows ih =>
    rw [eachRow_cons_snd] at h
    rcases partialRow_cases env i row s with ⟨payload, result, -, hrow⟩ | ⟨-, errors, hrow⟩
    · rw [hrow] at h
      exact everywhere_of_create env.db payload (ih h)
    · rw [hrow] at h
      cases hreported : rowError i row errors with
      | error e =>
        rw [hreported] at h
        exact h
      | ok result =>
        rw [hreported] at h
        exact ih h

/-- **The rows a partial import adds.** Induction on the rows of the file. -/
theorem partialRows_everywhere (hs : Everywhere Q s) (i : Nat) (rows : List Row) :
    Everywhere Q (eachRow (partialRow env) i rows s).2 ↔
      HandedRows (fun s payload => Creates env.db s payload → Q (newOrm env.db payload)) env rows s := by
  induction rows generalizing i s with
  | nil => exact iff_of_true hs trivial
  | cons row rows ih =>
    rw [eachRow_cons_snd]
    unfold HandedRows
    rcases partialRow_cases env i row s with ⟨payload, result, hparse, hrow⟩ | ⟨hparse, errors, hrow⟩
    · rw [hrow, hparse]
      dsimp only
      rw [← create_everywhere hs]
      constructor
      · intro h
        have hs' := everywhere_of_partialRows h
        exact ⟨hs', (ih hs' (i + 1)).mp h⟩
      · rintro ⟨hs', h⟩
        exact (ih hs' (i + 1)).mpr h
    · -- a row that is not accepted adds nothing, and ends the import if it cannot be reported
      have hskip : (match row.parse env.pyd env.limits with
          | .ok payload =>
            (Creates env.db s payload → Q (newOrm env.db payload)) ∧
              HandedRows (fun s payload => Creates env.db s payload → Q (newOrm env.db payload))
                env rows (createOrGetExisting env.db payload s).2
          | _ => (∃ id, row.resultId = .ok id) →
              HandedRows (fun s payload => Creates env.db s payload → Q (newOrm env.db payload))
                env rows s) ↔
          ((∃ id, row.resultId = .ok id) →
            HandedRows (fun s payload => Creates env.db s payload → Q (newOrm env.db payload))
              env rows s) := by
        cases hcase : row.parse env.pyd env.limits with
        | ok payload => exact absurd hcase (hparse payload)
        | invalid errors => exact Iff.rfl
        | raised e => exact Iff.rfl
      rw [hskip, hrow, rowError_eq, ← ih hs (i + 1)]
      cases row.resultId with
      | error e => exact iff_of_true hs fun ⟨id, hid⟩ => absurd hid nofun
      | ok id => exact ⟨fun h _ => h, fun h => h ⟨id, rfl⟩⟩

/-- **The rows an import adds.** -/
theorem importRows_everywhere (hs : Everywhere Q s) (dryRun : Bool)
    (consistency : ImportConsistency) (rows : List Row) :
    Everywhere Q (importRows env dryRun consistency rows s).2 ↔
      HandedImport (fun s payload => Creates env.db s payload → Q (newOrm env.db payload)) env dryRun
        consistency rows s := by
  unfold importRows HandedImport
  by_cases hcount : env.limits.maxBulkOutagesCount < rows.length
  · rw [if_pos hcount]
    exact iff_of_true hs fun h => by omega
  rw [if_neg hcount]
  cases dryRun with
  | true =>
    -- a dry run hands nothing to the repository
    refine iff_of_true ?_ (fun _ h => by cases h)
    have hrows := eachRow_pure_snd (dryRunRow env) 0 rows s
    rw [if_pos rfl]
    generalize eachRow (fun i row s => (dryRunRow env i row s, s)) 0 rows s = outcome at hrows
    obtain ⟨_ | _, s'⟩ := outcome
    · exact hrows ▸ hs
    · exact hrows ▸ hs
  | false =>
    rw [if_neg Bool.false_ne_true]
    rw [forall_prop_of_true (not_lt.mp hcount), forall_prop_of_true rfl]
    cases consistency with
    | atomic =>
      dsimp only
      by_cases hparsed : ∃ payloads, Parsed env rows payloads
      · obtain ⟨payloads, hparsed⟩ := hparsed
        have hall : (∀ payloads, Parsed env rows payloads →
            Handed (fun s payload => Creates env.db s payload → Q (newOrm env.db payload)) env.db
              payloads s) ↔
            Handed (fun s payload => Creates env.db s payload → Q (newOrm env.db payload)) env.db
              payloads s :=
          ⟨fun h => h payloads hparsed, fun h payloads' h' => h'.unique hparsed ▸ h⟩
        rw [hall, ← createEach_everywhere hs, importAtomic_parsed hparsed]
        generalize createEach env.db payloads s = outcome
        obtain ⟨_ | _, s'⟩ := outcome
        · exact Iff.rfl
        · exact Iff.rfl
      · refine iff_of_true ?_ fun payloads h => absurd ⟨payloads, h⟩ hparsed
        rcases importAtomic_rejected hparsed s with ⟨e, he⟩ | ⟨outcomes, -, -, hok⟩
        · rw [he]
          exact hs
        · rw [hok]
          exact hs
    | partialRows =>
      dsimp only
      rw [← partialRows_everywhere hs 0]
      generalize eachRow (partialRow env) 0 rows s = outcome
      obtain ⟨_ | _, s'⟩ := outcome
      · exact Iff.rfl
      · exact Iff.rfl

/-! ## Updates and resolutions -/

/-- **The row an update leaves.** -/
theorem served_everywhere (hs : Everywhere Q s) (method : UpdateMethod) (outageId : String)
    (payload : OutageUpdate) (now : Time) :
    Everywhere Q (serveUpdate db method outageId payload now s).2 ↔
      ∀ o, getOrm s outageId = some o → method.Takes db o payload now → Q (applied o payload now) := by
  have houtcome := serveUpdate_outcome db method outageId payload now s
  generalize serveUpdate db method outageId payload now s = outcome at houtcome ⊢
  cases houtcome with
  | refused houtages hrefused =>
    refine iff_of_true ?_ fun o ho htakes => absurd htakes (hrefused o ho)
    unfold Everywhere
    rw [houtages]
    exact hs
  | @updated orm hfind htakes =>
    constructor
    · intro h o ho _
      rw [hfind] at ho
      cases ho
      have horm := mem_of_getOrm hfind
      exact h _ (mem_saveOutage_self horm.1 rfl)
    · intro h o ho
      rcases mem_saveOutage ho with rfl | ⟨hold, -⟩
      · exact h orm hfind htakes
      · exact hs o hold

theorem resolve_everywhere (hs : Everywhere Q s)
    (hresolved : ∀ o mttrMinutes now, Q (resolvedRow o mttrMinutes now)) (outageId : String)
    (mttrMinutes : Int) (now : Time) : Everywhere Q (resolve db outageId mttrMinutes now s).2 := by
  have houtcome := resolve_outcome db outageId mttrMinutes now s
  generalize resolve db outageId mttrMinutes now s = outcome at houtcome ⊢
  cases houtcome with
  | missing => exact hs
  | already => exact hs
  | refused => exact hs
  | resolved =>
    intro o ho
    rcases mem_saveOutage ho with rfl | ⟨hold, -⟩
    · exact hresolved _ _ _
    · exact hs o hold

/-- Nothing but a resolution writes an MTTR. -/
def OpenWithoutMttr (o : OutageORM) : Prop := o.status = "open" → o.mttrMinutes = none

theorem openWithoutMttr_applied {o : OutageORM} (ho : OpenWithoutMttr o) {payload : OutageUpdate}
    {now : Time} (haccepted : Accepts db o payload now) :
    OpenWithoutMttr (applied o payload now) := by
  intro hopen
  show o.mttrMinutes = none
  rcases haccepted.applied_status with ⟨-, hstatus⟩ | ⟨target, hsent, hstatus⟩
  · exact ho (hstatus ▸ hopen)
  · rw [hstatus] at hopen
    -- the table lets only an open outage become, or stay, open
    rcases haccepted.status hsent with ⟨hold, -⟩ | ⟨-, htarget⟩
    · exact ho hold
    · rw [hopen] at htarget
      exact absurd htarget (by decide)

/-- The update takes a column of the resolution away from the outage, or its status to `resolved`
without them. -/
def Unresolves (o : OutageORM) (payload : OutageUpdate) : Prop :=
  (o.status = "open" ∧ payload.status = some (some .resolved)) ∨
    (o.status = "resolved" ∧ payload.resolvedAt = some none)

theorem carries_applied_iff {o : OutageORM} (ho : CarriesResolution o) (hopen : OpenWithoutMttr o)
    {payload : OutageUpdate} {now : Time} (haccepted : Accepts db o payload now) :
    CarriesResolution (applied o payload now) ↔ ¬ Unresolves o payload := by
  have hmttr : (applied o payload now).mttrMinutes = o.mttrMinutes := rfl
  have hresolvedAt : (applied o payload now).resolvedAt = payload.resolvedAt.getD o.resolvedAt := rfl
  unfold Unresolves
  rcases ho.1 with hstatus | hstatus
  · -- an open outage has no MTTR, so it has to stay open
    have hnone := hopen hstatus
    have hnew : (applied o payload now).status = "open" ∨
        (applied o payload now).status = "resolved" ∧ payload.status = some (some .resolved) := by
      rcases haccepted.applied_status with ⟨-, hsame⟩ | ⟨target, hsent, hnew⟩
      · exact .inl (hsame.trans hstatus)
      · cases target with
        | «open» => exact .inl hnew
        | resolved => exact .inr ⟨hnew, hsent⟩
    rcases hnew with hstays | ⟨hbecomes, hsent⟩
    · refine iff_of_true ⟨.inl hstays, ?_⟩ ?_
      · rw [hstays, hmttr, hnone]
        simp
      · rintro (⟨-, hsent⟩ | ⟨hresolved, -⟩)
        · have : (applied o payload now).status = "resolved" := by
            unfold applied
            rw [hsent]
            rfl
          rw [hstays] at this
          exact absurd this (by decide)
        · rw [hstatus] at hresolved
          exact absurd hresolved (by decide)
    · refine iff_of_false ?_ (not_not.mpr (.inl ⟨hstatus, hsent⟩))
      rintro ⟨-, hboth⟩
      exact (hboth.mp hbecomes).2 (hmttr.trans hnone)
  · -- a resolved outage stays resolved, so its resolution time has to stay set
    have hset := ho.2.mp hstatus
    have hstays := haccepted.stays_resolved hstatus
    have hcarries : CarriesResolution (applied o payload now) ↔
        payload.resolvedAt.getD o.resolvedAt ≠ none := by
      unfold CarriesResolution
      rw [hstays, hresolvedAt, hmttr]
      simp [hset.2]
    have hnotOpen : o.status ≠ "open" := by
      rw [hstatus]
      decide
    rw [hcarries]
    rcases hsent : payload.resolvedAt with _ | _ | value
    · simpa [hnotOpen] using hset.1
    · simp [hstatus]
    · simp [hnotOpen]

/-! ## Over runs -/

/-- The operations of the repository, and the requests that lead to them. -/
inductive OutageEvent (limits : OutageLimits) where
  | create (payload : OutageCreate)
  | bulkCreate (payload : BulkOutageCreate limits)
  | importRows (dryRun : Bool) (consistency : ImportConsistency) (rows : List Row)
  | update (method : UpdateMethod) (outageId : String) (payload : OutageUpdate) (now : Time)
  | resolve (outageId : String) (mttrMinutes : Int) (now : Time)

def outageStep (env : OutageEnv) (s : OutageStore) : OutageEvent env.limits → OutageStore
  | .create payload => (createOrGetExisting env.db payload s).2
  | .bulkCreate payload => (bulkCreateOutages env.db payload s).2
  | .importRows dryRun consistency rows => (importRows env dryRun consistency rows s).2
  | .update method outageId payload now => (serveUpdate env.db method outageId payload now s).2
  | .resolve outageId mttrMinutes now => (resolve env.db outageId mttrMinutes now s).2

abbrev OutageEventRun (env : OutageEnv) := Runs.Run fun s e s' => outageStep env s e = s'

/-- Every outage the event creates is open, and it does not take the resolution of one away. -/
def KeepsResolutions (env : OutageEnv) (s : OutageStore) : OutageEvent env.limits → Prop
  | .create payload => Creates env.db s payload → payload.status = .open
  | .bulkCreate payload =>
    Handed (fun s payload => Creates env.db s payload → payload.status = .open) env.db
      payload.outages s
  | .importRows dryRun consistency rows =>
    HandedImport (fun s payload => Creates env.db s payload → payload.status = .open) env dryRun
      consistency rows s
  | .update method outageId payload now =>
    ∀ o, getOrm s outageId = some o → method.Takes env.db o payload now → ¬ Unresolves o payload
  | .resolve .. => True

theorem carries_newOrm_iff (db : OutageDatabase) (payload : OutageCreate) :
    CarriesResolution (newOrm db payload) ↔ payload.status = .open := by
  have hstatus : (newOrm db payload).status = payload.status.value := rfl
  have hmttr : (newOrm db payload).mttrMinutes = none := rfl
  unfold CarriesResolution
  rw [hstatus, hmttr]
  cases payload.status with
  | «open» => simp [OutageStatus.value]
  | resolved => simp [OutageStatus.value]

theorem outageStep_openWithoutMttr (hs : Everywhere OpenWithoutMttr s)
    (e : OutageEvent env.limits) : Everywhere OpenWithoutMttr (outageStep env s e) := by
  have hnew : ∀ payload, OpenWithoutMttr (newOrm env.db payload) := fun payload _ => rfl
  cases e with
  | create payload => exact (create_everywhere hs payload).mpr fun _ => hnew payload
  | bulkCreate payload =>
    show Everywhere OpenWithoutMttr (bulkCreateOutages env.db payload s).2
    rw [bulkCreateOutages_snd]
    exact (createEach_everywhere hs payload.outages).mpr (.of_forall fun _ payload _ => hnew payload)
  | importRows dryRun consistency rows =>
    exact (importRows_everywhere hs dryRun consistency rows).mpr
      (.of_forall fun _ payload _ => hnew payload)
  | update method outageId payload now =>
    refine (served_everywhere hs method outageId payload now).mpr fun o ho htakes => ?_
    exact openWithoutMttr_applied (hs o (mem_of_getOrm ho).1) htakes.accepts
  | resolve outageId mttrMinutes now =>
    refine resolve_everywhere hs ?_ outageId mttrMinutes now
    intro o mttrMinutes now hopen
    exact absurd hopen (by show "resolved" ≠ "open"; decide)

theorem outageStep_carries_iff (hopen : Everywhere OpenWithoutMttr s)
    (hs : Everywhere CarriesResolution s) (e : OutageEvent env.limits) :
    Everywhere CarriesResolution (outageStep env s e) ↔ KeepsResolutions env s e := by
  have hnew : (fun (s : OutageStore) payload =>
      Creates env.db s payload → CarriesResolution (newOrm env.db payload)) =
      fun s payload => Creates env.db s payload → payload.status = .open := by
    funext s payload
    rw [carries_newOrm_iff]
  cases e with
  | create payload =>
    show Everywhere CarriesResolution (createOrGetExisting env.db payload s).2 ↔ _
    rw [create_everywhere hs, carries_newOrm_iff]
    rfl
  | bulkCreate payload =>
    show Everywhere CarriesResolution (bulkCreateOutages env.db payload s).2 ↔ _
    rw [bulkCreateOutages_snd, createEach_everywhere hs, hnew]
    rfl
  | importRows dryRun consistency rows =>
    show Everywhere CarriesResolution (importRows env dryRun consistency rows s).2 ↔ _
    rw [importRows_everywhere hs, hnew]
    rfl
  | update method outageId payload now =>
    show Everywhere CarriesResolution (serveUpdate env.db method outageId payload now s).2 ↔ _
    rw [served_everywhere hs]
    refine forall_congr' fun o => forall_congr' fun ho => forall_congr' fun htakes => ?_
    have hmem := (mem_of_getOrm ho).1
    exact carries_applied_iff (hs o hmem) (hopen o hmem) htakes.accepts
  | resolve outageId mttrMinutes now =>
    refine iff_of_true ?_ trivial
    refine resolve_everywhere hs ?_ outageId mttrMinutes now
    intro o mttrMinutes now
    exact ⟨.inr rfl, fun _ => ⟨nofun, nofun⟩, fun _ => rfl⟩

/-- **Resolved outages carry their resolution** in every state of a run exactly if every step of it
keeps the resolutions. -/
theorem resolution_carried_of_run {s t : OutageStore}
    {steps : List (OutageStore × OutageEvent env.limits)} (hlaw : ResolutionLaw s)
    (hopen : Everywhere OpenWithoutMttr s) (hrun : OutageEventRun env s steps t) :
    ((∀ x ∈ steps, ResolutionLaw x.1) ∧ ResolutionLaw t) ↔
      ∀ x ∈ steps, KeepsResolutions env x.1 x.2 := by
  refine hrun.forall_iff hopen hlaw ?_ ?_
  · rintro u e u' hu rfl
    exact outageStep_openWithoutMttr hu e
  · rintro u e u' hu hlawU rfl
    rw [resolutionLaw_iff]
    exact outageStep_carries_iff hu hlawU.carries e

/-! ## Three ways to a resolved outage without a resolution -/

/-- An open outage is created, patched and resolved. -/
def resolvingEvents : List (OutageEvent plainEnv.limits) :=
  [.create openPayload, .update .patch "outage-1" { siteName := some (some "Site B") } 1,
    .resolve "outage-1" 60 2]

theorem resolution_carried_of_resolvingEvents :
    ((∀ x ∈ Runs.replay (outageStep plainEnv) {} resolvingEvents, ResolutionLaw x.1) ∧
      ResolutionLaw (resolvingEvents.foldl (outageStep plainEnv) {})) ↔
    ∀ x ∈ Runs.replay (outageStep plainEnv) {} resolvingEvents,
      KeepsResolutions plainEnv x.1 x.2 :=
  resolution_carried_of_run (resolutionLaw_iff.mpr fun _ ho => absurd ho List.not_mem_nil)
    (fun _ ho => absurd ho List.not_mem_nil) (Runs.replay_run (outageStep plainEnv) {} resolvingEvents)

/-- A resolved outage is created, an open one is patched to `resolved`, and the resolution time of a
resolved one is patched to `null`. -/
theorem resolution_not_carried :
    outageStep plainEnv {} (.create openPayload) = openOutages ∧
    ¬ ResolutionLaw (outageStep plainEnv {} (.create { openPayload with status := .resolved })) ∧
    ¬ ResolutionLaw
      (outageStep plainEnv openOutages (.update .patch "outage-1" (statusUpdate .resolved) 1)) ∧
    ¬ ResolutionLaw (outageStep plainEnv (outageStep plainEnv openOutages (.resolve "outage-1" 60 1))
      (.update .patch "outage-1" { resolvedAt := some none } 2)) ∧
    recomputedMttr "outage-1"
      (outageStep plainEnv openOutages (.update .patch "outage-1" (statusUpdate .resolved) 1))
        = .ok none := by
  have hrecomputed : recomputedMttr "outage-1"
      (outageStep plainEnv openOutages (.update .patch "outage-1" (statusUpdate .resolved) 1))
        = .ok none := by decide +kernel
  refine ⟨by decide +kernel, ?_, fun h => h.recompute "outage-1" hrecomputed, ?_, hrecomputed⟩
  · exact fun h => h.recompute "outage-1" (by decide +kernel)
  · intro h
    have hrow := h.carries
      { openOutage with
        status := "resolved"
        mttrMinutes := some 60
        resolvedAt := none
        updatedAt := 2 } (by decide +kernel)
    exact (hrow.2.mp rfl).1 rfl

end NocIq
