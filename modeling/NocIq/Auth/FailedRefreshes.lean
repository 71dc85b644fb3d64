import NocIq.Auth.Reachable
import NocIq.Auth.TokenFamilies

/-!
# NocIq — refreshes that fail

`AuthStore.refresh` commits after every statement, and can still fail after it has rotated: the
user is looked up, an attribute of it is read, and the audit entry is written, which is the last
statement of a path and may raise.

* **`auditedRefresh_run`** — an audit entry that cannot be written leaves the tables as they are
  then, and only the error is another.
* **`rotation_fails`** — a rotation never returns: it ends in an error, with the family advanced.
* **`reuse_alone`** — a reuse that is detected, statement by statement.
* **`failed_refresh_keeps_iff`** — the failing refreshes that leave sessions and families alone.
-/

namespace NocIq

open Relational Interleaving

variable {cfg : AuthSettings} {db db' : AuthDb}

def reuseDetected : Exc := .valueError "Refresh token reuse detected. Session family invalidated."

/-- What the database raises when an audit entry cannot be written. -/
structure AuditError where
  exc : Exc
  not_reuse : exc ≠ reuseDetected

/-- One statement of a refresh whose audit entry may fail to be written. -/
def auditedStep (audit : Option AuditError) (cfg : AuthSettings) (a : RefreshCall) :
    RefreshPc → AuthDb → RefreshControl × AuthDb
  | .logEvent entry result, db =>
    match audit with
    | none => RefreshPc.step cfg a (.logEvent entry result) db
    | some e => (.ended (.error e.exc), db)
  | pc, db => RefreshPc.step cfg a pc db

theorem auditedStep_rank_lt (audit : Option AuditError) (cfg : AuthSettings) (a : RefreshCall)
    (pc : RefreshPc) (db : AuthDb) (pc' : RefreshPc)
    (h : (auditedStep audit cfg a pc db).1 = .running pc') : pc'.rank < pc.rank := by
  unfold auditedStep at h
  split at h
  · split at h <;> cases h
  · exact RefreshPc.rank_lt cfg a _ _ pc' h

def auditedRefreshCall (audit : Option AuditError) (cfg : AuthSettings) (a : RefreshCall) :
    Call AuthDb RefreshPc (Except Exc AuthSessionResponse) where
  step := auditedStep audit cfg a
  rank := RefreshPc.rank
  rank_lt := auditedStep_rank_lt audit cfg a

/-- `AuthStore.refresh`, with or without an audit log that fails. -/
def auditedRefresh (audit : Option AuditError) (cfg : AuthSettings) (a : RefreshCall)
    (db : AuthDb) : Except Exc AuthSessionResponse × AuthDb :=
  (auditedRefreshCall audit cfg a).alone .selectSession db

/-! ## The audit log at the end of a path -/

section Audit

variable {audit : Option AuditError} {a : RefreshCall} {pc pc' : RefreshPc}
  {result : Except Exc AuthSessionResponse}

theorem auditedStep_of_ne (hpc : ∀ entry result, pc ≠ .logEvent entry result) :
    auditedStep audit cfg a pc db = RefreshPc.step cfg a pc db := by
  unfold auditedStep
  split
  · exact absurd rfl (hpc _ _)
  · rfl

theorem audited_running (h : RefreshPc.step cfg a pc db = (.running pc', db')) :
    (auditedRefreshCall audit cfg a).alone pc db =
      (auditedRefreshCall audit cfg a).alone pc' db' := by
  refine Call.alone_running ((auditedStep_of_ne ?_).trans h)
  rintro entry result rfl
  cases h

theorem audited_ended (hpc : ∀ entry result, pc ≠ .logEvent entry result)
    (h : RefreshPc.step cfg a pc db = (.ended result, db')) :
    (auditedRefreshCall audit cfg a).alone pc db = (result, db') :=
  Call.alone_ended ((auditedStep_of_ne hpc).trans h)

theorem audited_logEvent (entry : AuthAuditLog) :
    (auditedRefreshCall audit cfg a).alone (.logEvent entry result) db =
      match audit with
      | none => (result, db.logEvent entry)
      | some e => (.error e.exc, db) := by
  cases audit with
  | none => exact Call.alone_ended rfl
  | some e => exact Call.alone_ended rfl

/-- Another result than that of the call is the error of the audit log, and the tables are those the
call leaves. -/
structure AuditedRun (audit : Option AuditError)
    (run run' : Except Exc AuthSessionResponse × AuthDb) : Prop where
  tables : SameTables run'.2 run.2
  result : run'.1 = run.1 ∨ ∃ e, audit = some e ∧ run'.1 = .error e.exc

theorem auditedRefresh_run (audit : Option AuditError) (cfg : AuthSettings) (a : RefreshCall)
    (pc : RefreshPc) (db : AuthDb) :
    AuditedRun audit ((refreshCall cfg a).alone pc db)
      ((auditedRefreshCall audit cfg a).alone pc db) := by
  generalize hn : pc.rank = n
  induction n using Nat.strongRecOn generalizing pc db with
  | _ n ih =>
    cases hc : RefreshPc.step cfg a pc db with
    | mk control db' =>
      cases control with
      | running pc' =>
        have hrank : pc'.rank < n := by
          rw [← hn]
          exact RefreshPc.rank_lt cfg a pc db pc' (by rw [hc])
        have hcall : (refreshCall cfg a).step pc db = (.running pc', db') := hc
        rw [Call.alone_running hcall, audited_running hc]
        exact ih _ hrank pc' db' rfl
      | ended result =>
        have hcall : (refreshCall cfg a).step pc db = (.ended result, db') := hc
        rw [Call.alone_ended hcall]
        by_cases hpc : ∀ entry result, pc ≠ .logEvent entry result
        · rw [audited_ended hpc hc]
          exact ⟨⟨rfl, rfl, rfl⟩, .inl rfl⟩
        · -- the audit entry is written, or not
          simp only [not_forall, not_not] at hpc
          obtain ⟨entry, result', rfl⟩ := hpc
          obtain ⟨hresult, hdb⟩ := Prod.mk.inj hc
          rw [audited_logEvent, ← Control.ended.inj hresult, ← hdb]
          cases audit with
          | none => exact ⟨⟨rfl, rfl, rfl⟩, .inl rfl⟩
          | some e => exact ⟨.logEvent db entry, .inr ⟨e, rfl, rfl⟩⟩

end Audit

/-! ## A rotation -/

variable {family : TokenFamilyORM}

theorem updateFamily_families_ne (h : db.Valid) (hfamily : family ∈ db.tokenFamilies)
    {f : TokenFamilyORM → TokenFamilyORM} (hid : ∀ r, (f r).familyId = r.familyId)
    (hne : f family ≠ family) :
    (updateFamily family.familyId f db).tokenFamilies ≠ db.tokenFamilies := by
  intro heq
  have hget := getFamily_of_mem h hfamily
  have hupdated := getFamily_update hget hid
  have hsame : getFamily (updateFamily family.familyId f db) family.familyId = some family := by
    unfold getFamily
    rw [heq]
    exact hget
  exact hne (Option.some.inj (hupdated.symm.trans hsame))

theorem rotatedOut_families_ne (h : db.Valid) (old : SessionORM)
    (hfamily : family ∈ db.tokenFamilies) :
    (rotatedOut old family db).tokenFamilies ≠ db.tokenFamilies := by
  refine updateFamily_families_ne h hfamily (fun _ => rfl) fun heq => ?_
  have hsequence : family.currentSequence + 1 = family.currentSequence :=
    congrArg TokenFamilyORM.currentSequence heq
  omega

/-- **A rotation never returns**: the user has no `user_id`, or the INSERT fails, or the audit entry
does; and the family has been advanced. -/
theorem rotation_fails (audit : Option AuditError) (cfg : AuthSettings) (h : db.Valid)
    {old : SessionORM} (hold : old ∈ db.sessions) (hfamily : family ∈ db.tokenFamilies)
    (a : RefreshCall) :
    ∃ e, e ≠ reuseDetected ∧
      ((auditedRefreshCall audit cfg a).alone (.selectIncremented old family) db).1 = .error e ∧
      ((auditedRefreshCall audit cfg a).alone (.selectIncremented old family) db).2.tokenFamilies =
        (rotatedOut old family db).tokenFamilies := by
  have haudited := auditedRefresh_run audit cfg a (.selectIncremented old family) db
  have halone : ∃ e, e ≠ reuseDetected ∧
      ((refreshCall cfg a).alone (.selectIncremented old family) db).1 = .error e ∧
      ((refreshCall cfg a).alone (.selectIncremented old family) db).2.tokenFamilies =
        (rotatedOut old family db).tokenFamilies := by
    rcases rotation_alone cfg h hold hfamily a with ⟨-, heq⟩ | ⟨-, name, heq⟩
    · rw [heq]
      exact ⟨.attributeError "'UserORM' object has no attribute 'user_id'", nofun, rfl, rfl⟩
    · rw [heq]
      exact ⟨.integrityError name, nofun, rfl, rfl⟩
  obtain ⟨e, hne, herror, hfamilies⟩ := halone
  have htables := haudited.tables.tokenFamilies.symm.trans hfamilies
  obtain hsame | ⟨auditError, -, hother⟩ := haudited.result
  · exact ⟨e, hne, hsame.trans herror, htables⟩
  · exact ⟨auditError.exc, auditError.not_reuse, hother, htables⟩

/-! ## A reuse that is detected -/

def reuseAnswered (familyId : String) (db : AuthDb) : AuthDb :=
  (updateFamily familyId (fun f => { f with compromised := true }) db).withoutSessions
    ((db.sessions.filter fun s => decide (s.familyId = some familyId)).map (·.accessToken))

/-- **A reuse, statement by statement**, up to its audit entry. -/
theorem reuse_alone (audit : Option AuditError) (cfg : AuthSettings) (h : db.Valid)
    {old : SessionORM} (hold : old ∈ db.sessions) (hfamily : family ∈ db.tokenFamilies)
    (howned : old.familyId = some family.familyId) (a : RefreshCall) :
    ∃ entry, (auditedRefreshCall audit cfg a).alone (.selectReused old family) db =
      (auditedRefreshCall audit cfg a).alone (.logEvent entry (.error reuseDetected))
        (reuseAnswered family.familyId db) := by
  have hget := getFamily_of_mem h hfamily
  let mark : TokenFamilyORM → TokenFamilyORM := fun f => { f with compromised := true }
  let marked := updateFamily family.familyId mark db
  let rows := db.sessions.filter fun s => decide (s.familyId = some family.familyId)
  have hvalid : marked.Valid := h.updateFamily _ (fun _ => rfl) fun _ => rfl
  have hmarked : getFamily marked family.familyId = some (mark family) :=
    getFamily_update hget fun _ => rfl
  have hmem : old ∈ rows := List.mem_filter.mpr ⟨hold, decide_eq_true howned⟩
  -- the old session is among the deleted ones, so its attributes need no reload
  have hdeleted : ∃ sequence, RefreshPc.familyDeleted old family true rows =
      .reloadReusedFamily old family sequence := by
    unfold RefreshPc.familyDeleted
    cases hfind : rows.find? fun s => decide (s.accessToken = old.accessToken) with
    | some s => exact ⟨_, rfl⟩
    | none =>
      have hnone := List.find?_eq_none.mp hfind old hmem
      exact absurd (decide_eq_true rfl) hnone
  obtain ⟨sequence, hdeleted⟩ := hdeleted
  have h₁ : RefreshPc.step cfg a (.selectReused old family) db =
      (.running (.compromiseFamily old family), db) := by
    simp only [RefreshPc.step, hget]
    rfl
  have h₂ : RefreshPc.step cfg a (.compromiseFamily old family) db =
      (.running (.refreshCompromised old family), marked) := by
    simp only [RefreshPc.step, hget]
    exact RefreshPc.commit_of_valid hvalid
  have h₃ : RefreshPc.step cfg a (.refreshCompromised old family) marked =
      (.running (.selectFamilySessions old family true), marked) := by
    simp only [RefreshPc.step, hmarked]
    rfl
  have h₄ : RefreshPc.step cfg a (.selectFamilySessions old family true) marked =
      (.running (.deleteFamilySessions old family true rows), marked) := rfl
  have h₅ : RefreshPc.step cfg a (.deleteFamilySessions old family true rows) marked =
      (.running (.reloadReusedFamily old family sequence), reuseAnswered family.familyId db) := by
    show RefreshPc.commit _ (RefreshPc.familyDeleted old family true rows) marked = _
    unfold RefreshPc.commit
    rw [commit_deleteSessions hvalid, hdeleted]
    rfl
  have h₆ : ∃ entry, RefreshPc.step cfg a (.reloadReusedFamily old family sequence)
      (reuseAnswered family.familyId db) =
        (.running (.logEvent entry (.error reuseDetected)),
          reuseAnswered family.familyId db) := by
    have hstill : getFamily (reuseAnswered family.familyId db) family.familyId =
        some (mark family) := hmarked
    simp only [RefreshPc.step, hstill]
    exact ⟨_, rfl⟩
  obtain ⟨entry, h₆⟩ := h₆
  refine ⟨entry, ?_⟩
  rw [audited_running h₁, audited_running h₂, audited_running h₃, audited_running h₄,
    audited_running h₅, audited_running h₆]

theorem reuseAnswered_families_ne (h : db.Valid) (hfamily : family ∈ db.tokenFamilies)
    (htrusted : family.compromised = false) :
    (reuseAnswered family.familyId db).tokenFamilies ≠ db.tokenFamilies := by
  refine updateFamily_families_ne h hfamily (fun _ => rfl) fun heq => ?_
  have hmarked : true = family.compromised := congrArg TokenFamilyORM.compromised heq
  rw [htrusted] at hmarked
  cases hmarked

/-! ## A session from before the families -/

section Legacy

variable {a : RefreshCall} {old : SessionORM}

/-- The family that is made for the session, and the session in it. -/
def legacyFamily (a : RefreshCall) (old : SessionORM) : TokenFamilyORM :=
  { familyId := a.familyId, email := old.email }

def migratedDb (a : RefreshCall) (old : SessionORM) (db : AuthDb) : AuthDb :=
  updateSession old.accessToken (fun s => { s with familyId := some a.familyId, sequence := 0 })
    (insertFamily (legacyFamily a old) db)

def migratedSession (a : RefreshCall) (old : SessionORM) : SessionORM :=
  { old with familyId := some a.familyId, sequence := 0 }

theorem insertFamily_valid_iff (h : db.Valid) (hold : old ∈ db.sessions) :
    (insertFamily (legacyFamily a old) db).Valid ↔ a.familyId ∉ db.familyIds := by
  constructor
  · intro hnew hmem
    obtain ⟨f, hf, hid⟩ := List.mem_map.mp hmem
    exact (nodup_keys_concat.mp hnew.families.pkey).2 f hf _ rfl (congrArg some hid)
  · intro hfresh
    refine ⟨h.users, ⟨?_, ?_⟩, h.sessions.pkey, h.sessions.refreshToken, h.sessions.emailFkey, ?_⟩
    · refine nodup_keys_concat.mpr ⟨h.families.pkey, ?_⟩
      rintro f hf k hk heq
      exact hfresh (List.mem_map.mpr ⟨f, hf, Option.some.inj (heq.trans hk.symm)⟩)
    · intro f hf
      rcases List.mem_append.mp hf with hf | hf
      · exact h.families.emailFkey f hf
      · rw [List.mem_singleton.mp hf]
        exact h.sessions.emailFkey old hold
    · intro s hs f hf
      obtain ⟨r, hr, hid⟩ := List.mem_map.mp (h.sessions.familyFkey s hs f hf)
      exact List.mem_map.mpr ⟨r, List.mem_append_left _ hr, hid⟩

theorem AuthDb.Valid.updateSession (h : db.Valid) (accessToken : String)
    {f : SessionORM → SessionORM} (haccess : ∀ s, (f s).accessToken = s.accessToken)
    (hrefresh : ∀ s, (f s).refreshToken = s.refreshToken) (hemail : ∀ s, (f s).email = s.email)
    (hfamily : ∀ s id, (f s).familyId = some id → id ∈ db.familyIds) :
    (updateSession accessToken f db).Valid := by
  refine ⟨h.users, h.families, ?_, ?_, ?_, ?_⟩
  · show ((db.sessions.map _).filterMap _).Nodup
    rw [keys_map_of_eq]
    · exact h.sessions.pkey
    · intro s _
      split
      · rw [haccess]
      · rfl
  · show ((db.sessions.map _).filterMap _).Nodup
    rw [keys_map_of_eq]
    · exact h.sessions.refreshToken
    · intro s _
      split
      · rw [hrefresh]
      · rfl
  · intro s hs
    obtain ⟨s₀, hs₀, rfl⟩ := List.mem_map.mp hs
    split
    · rw [hemail]
      exact h.sessions.emailFkey s₀ hs₀
    · exact h.sessions.emailFkey s₀ hs₀
  · intro s hs id hid
    obtain ⟨s₀, hs₀, rfl⟩ := List.mem_map.mp hs
    split at hid
    · exact hfamily s₀ id hid
    · exact h.sessions.familyFkey s₀ hs₀ id hid

theorem legacyFamily_mem (a : RefreshCall) (old : SessionORM) (db : AuthDb) :
    legacyFamily a old ∈ (migratedDb a old db).tokenFamilies :=
  List.mem_append_right _ (List.mem_singleton_self _)

theorem migratedDb_valid (hnew : (insertFamily (legacyFamily a old) db).Valid) :
    (migratedDb a old db).Valid := by
  refine hnew.updateSession _ (fun _ => rfl) (fun _ => rfl) (fun _ => rfl) ?_
  intro s id hid
  rw [← Option.some.inj hid]
  exact List.mem_map_of_mem (legacyFamily_mem a old db)

theorem migratedSession_get (h : db.Valid) (hold : old ∈ db.sessions) :
    getSession (migratedDb a old db) old.accessToken = some (migratedSession a old) := by
  have hget := getSession_of_mem h hold
  let move : SessionORM → SessionORM := fun s =>
    { s with familyId := some a.familyId, sequence := 0 }
  have hkept : ∀ s, (move s).accessToken = s.accessToken := fun _ => rfl
  unfold getSession at hget ⊢
  show (db.sessions.map fun s => if s.accessToken = old.accessToken then move s else s).find? _ = _
  rw [find_map_of_key hkept, hget]
  rfl

/-- **A session without a family**, statement by statement, up to the rotation. -/
theorem legacy_alone (audit : Option AuditError) (cfg : AuthSettings) (h : db.Valid)
    (hold : old ∈ db.sessions) (hnew : (insertFamily (legacyFamily a old) db).Valid) :
    (auditedRefreshCall audit cfg a).alone (.insertFamily old) db =
      (auditedRefreshCall audit cfg a).alone
        (.selectIncremented (migratedSession a old) (legacyFamily a old))
        (migratedDb a old db) := by
  have hvalid := migratedDb_valid hnew
  have hmem := legacyFamily_mem a old db
  have hinserted : getFamily (insertFamily (legacyFamily a old) db) a.familyId =
      some (legacyFamily a old) := getFamily_of_mem hnew hmem
  have hmigrated : getFamily (migratedDb a old db) a.familyId = some (legacyFamily a old) :=
    getFamily_of_mem hvalid hmem
  have hsession : getSession (insertFamily (legacyFamily a old) db) old.accessToken = some old :=
    getSession_of_mem h hold
  have h₁ : RefreshPc.step cfg a (.insertFamily old) db =
      (.running (.refreshNewFamily old), insertFamily (legacyFamily a old) db) :=
    RefreshPc.commit_of_valid hnew
  have h₂ : RefreshPc.step cfg a (.refreshNewFamily old)
      (insertFamily (legacyFamily a old) db) =
        (.running (.migrateSession old), insertFamily (legacyFamily a old) db) := by
    simp only [RefreshPc.step, hinserted]
    rfl
  have h₃ : RefreshPc.step cfg a (.migrateSession old) (insertFamily (legacyFamily a old) db) =
      (.running (.selectFamily old a.familyId true), migratedDb a old db) := by
    simp only [RefreshPc.step, hsession]
    exact RefreshPc.commit_of_valid hvalid
  have h₄ : RefreshPc.step cfg a (.selectFamily old a.familyId true) (migratedDb a old db) =
      (.running (.reloadMigrated old (legacyFamily a old)), migratedDb a old db) := by
    simp only [RefreshPc.step, hmigrated]
    rfl
  have h₅ : RefreshPc.step cfg a (.reloadMigrated old (legacyFamily a old))
      (migratedDb a old db) =
        (.running (.selectIncremented (migratedSession a old) (legacyFamily a old)),
          migratedDb a old db) := by
    simp only [RefreshPc.step, migratedSession_get h hold]
    rfl
  rw [audited_running h₁, audited_running h₂, audited_running h₃, audited_running h₄,
    audited_running h₅]

theorem legacy_families_ne (hfresh : a.familyId ∉ db.familyIds) :
    (rotatedOut (migratedSession a old) (legacyFamily a old)
      (migratedDb a old db)).tokenFamilies ≠ db.tokenFamilies := by
  intro heq
  have hids : (rotatedOut (migratedSession a old) (legacyFamily a old)
      (migratedDb a old db)).familyIds = (migratedDb a old db).familyIds :=
    familyIds_updateFamily _ _ fun _ => rfl
  have hmem : a.familyId ∈ (migratedDb a old db).familyIds :=
    List.mem_map_of_mem (legacyFamily_mem a old db)
  rw [← hids] at hmem
  unfold AuthDb.familyIds at hmem hfresh
  rw [heq] at hmem
  exact hfresh hmem

end Legacy

/-! ## Failed refreshes -/

/-- If the call fails, and not for reuse, sessions and families are those of `db`. -/
def FailureKeeps (db : AuthDb) (run : Except Exc AuthSessionResponse × AuthDb) : Prop :=
  ∀ e, run.1 = .error e → e ≠ reuseDetected →
    run.2.sessions = db.sessions ∧ run.2.tokenFamilies = db.tokenFamilies

theorem not_failureKeeps {run : Except Exc AuthSessionResponse × AuthDb} {e : Exc}
    (herror : run.1 = .error e) (hne : e ≠ reuseDetected)
    (hchanged : run.2.tokenFamilies ≠ db.tokenFamilies) : ¬ FailureKeeps db run :=
  fun h => hchanged (h e herror hne).2

theorem SameTables.failureKeeps {run : Except Exc AuthSessionResponse × AuthDb}
    (h : SameTables db run.2) : FailureKeeps db run :=
  fun _ _ _ => ⟨h.sessions, h.tokenFamilies⟩

/-- The token is that of a session whose account is not locked, and the call goes on to rotate it,
or finds it reused and cannot write so. -/
def RefreshCall.Disturbs (audit : Option AuditError) (cfg : AuthSettings) (a : RefreshCall)
    (db : AuthDb) : Prop :=
  ∃ old, a.Presents cfg db old ∧
    ((old.familyId = none ∧ a.familyId ∉ db.familyIds) ∨
      ∃ family ∈ db.tokenFamilies, old.familyId = some family.familyId ∧
        family.compromised = false ∧
        (old.sequence < family.currentSequence → audit.isSome = true))

section Cases

variable {audit : Option AuditError} {a : RefreshCall} {old : SessionORM}

theorem logEvent_sameTables (entry : AuthAuditLog) (result : Except Exc AuthSessionResponse) :
    SameTables db ((auditedRefreshCall audit cfg a).alone (.logEvent entry result) db).2 := by
  rw [audited_logEvent]
  cases audit with
  | none => exact .logEvent db entry
  | some e => exact ⟨rfl, rfl, rfl⟩

theorem family_cases (h : db.Valid) {family : TokenFamilyORM} (hold : old ∈ db.sessions)
    (hfamily : family ∈ db.tokenFamilies) (howned : old.familyId = some family.familyId) :
    FailureKeeps db
        ((auditedRefreshCall audit cfg a).alone (.selectFamily old family.familyId false) db) ↔
      ¬ (family.compromised = false ∧
        (old.sequence < family.currentSequence → audit.isSome = true)) := by
  have hget := getFamily_of_mem h hfamily
  cases hcompromised : family.compromised with
  | true =>
    refine iff_of_true ?_ fun hnot => by cases hnot.1
    have hstep : ∃ entry result, RefreshPc.step cfg a (.selectFamily old family.familyId false) db =
        (.running (.logEvent entry result), db) := by
      simp only [RefreshPc.step, hget, hcompromised]
      exact ⟨_, _, rfl⟩
    obtain ⟨entry, result, hstep⟩ := hstep
    rw [audited_running hstep]
    exact (logEvent_sameTables entry result).failureKeeps
  | false =>
    have hstep : RefreshPc.step cfg a (.selectFamily old family.familyId false) db =
        (.running (RefreshPc.checkReuse old family), db) := by
      simp only [RefreshPc.step, hget, hcompromised]
      rfl
    rw [audited_running hstep]
    unfold RefreshPc.checkReuse
    by_cases hbehind : old.sequence < family.currentSequence
    · obtain ⟨entry, hreuse⟩ := reuse_alone audit cfg h hold hfamily howned a
      rw [if_pos hbehind, hreuse, audited_logEvent]
      cases audit with
      | none =>
        refine iff_of_true ?_ fun hnot => by cases hnot.2 hbehind
        intro e herror hne
        exact absurd (Except.error.inj herror).symm hne
      | some e =>
        refine iff_of_false ?_ fun hnot => hnot ⟨rfl, fun _ => rfl⟩
        exact not_failureKeeps rfl e.not_reuse (reuseAnswered_families_ne h hfamily hcompromised)
    · rw [if_neg hbehind]
      refine iff_of_false ?_ fun hnot => hnot ⟨rfl, fun hlt => absurd hlt hbehind⟩
      obtain ⟨e, hne, herror, hfamilies⟩ := rotation_fails audit cfg h hold hfamily a
      refine not_failureKeeps herror hne ?_
      rw [hfamilies]
      exact rotatedOut_families_ne h old hfamily

theorem legacy_cases (h : db.Valid) (hold : old ∈ db.sessions) :
    FailureKeeps db ((auditedRefreshCall audit cfg a).alone (.insertFamily old) db) ↔
      a.familyId ∈ db.familyIds := by
  by_cases hnew : (insertFamily (legacyFamily a old) db).Valid
  · have hfresh := (insertFamily_valid_iff h hold).mp hnew
    refine iff_of_false ?_ hfresh
    have hmem : migratedSession a old ∈ (migratedDb a old db).sessions := by
      have hget := migratedSession_get (a := a) h hold
      unfold getSession at hget
      exact List.mem_of_find?_eq_some hget
    obtain ⟨e, hne, herror, hfamilies⟩ := rotation_fails audit cfg (migratedDb_valid hnew) hmem
      (legacyFamily_mem a old db) a
    rw [legacy_alone audit cfg h hold hnew]
    refine not_failureKeeps herror hne ?_
    rw [hfamilies]
    exact legacy_families_ne hfresh
  · refine iff_of_true ?_ (not_not.mp fun hmem => hnew ((insertFamily_valid_iff h hold).mpr hmem))
    obtain ⟨name, hstep⟩ := RefreshPc.commit_of_not_valid hnew (.refreshNewFamily old)
    have hended : RefreshPc.step cfg a (.insertFamily old) db =
        (.ended (.error (.integrityError name)), db) := hstep
    rw [audited_ended (fun _ _ hpc => by cases hpc) hended]
    exact SameTables.failureKeeps ⟨rfl, rfl, rfl⟩

end Cases

theorem disturbs_iff {audit : Option AuditError} {cfg : AuthSettings} {a : RefreshCall}
    (hfound : getSessionByRefreshToken db (cfg.hashToken a.refreshToken) = some old) :
    a.Disturbs audit cfg db ↔
      isAccountLocked db old.email a.checkedAt = .ok false ∧
      ((old.familyId = none ∧ a.familyId ∉ db.familyIds) ∨
        ∃ family ∈ db.tokenFamilies, old.familyId = some family.familyId ∧
          family.compromised = false ∧
          (old.sequence < family.currentSequence → audit.isSome = true)) := by
  constructor
  · rintro ⟨old', hpresents, hcases⟩
    obtain rfl : old = old' := Option.some.inj (hfound.symm.trans hpresents.found)
    exact ⟨hpresents.unlocked, hcases⟩
  · rintro ⟨hunlocked, hcases⟩
    exact ⟨old, ⟨hfound, hunlocked⟩, hcases⟩

/-- **Failed refreshes** leave sessions and families alone exactly if they stop before the
rotation; a reuse that is detected must also be written to the audit log. -/
theorem failed_refresh_keeps_iff (audit : Option AuditError) (cfg : AuthSettings) (h : db.Valid)
    (a : RefreshCall) :
    FailureKeeps db (auditedRefresh audit cfg a db) ↔ ¬ a.Disturbs audit cfg db := by
  unfold auditedRefresh
  cases hfound : getSessionByRefreshToken db (cfg.hashToken a.refreshToken) with
  | none =>
    have hstep : RefreshPc.step cfg a .selectSession db =
        (.ended (.error (.valueError "Invalid or expired refresh token")), db) := by
      simp only [RefreshPc.step, hfound]
      rfl
    rw [audited_ended (fun _ _ hpc => by cases hpc) hstep]
    refine iff_of_true (SameTables.failureKeeps ⟨rfl, rfl, rfl⟩) ?_
    rintro ⟨old, hpresents, -⟩
    rw [hpresents.found] at hfound
    cases hfound
  | some old =>
    obtain ⟨hold, -⟩ := getSessionByRefreshToken_mem hfound
    have h₁ : RefreshPc.step cfg a .selectSession db = (.running (.selectUser old), db) := by
      simp only [RefreshPc.step, hfound]
    rw [audited_running h₁, disturbs_iff hfound]
    cases hlock : isAccountLocked db old.email a.checkedAt with
    | error e =>
      have h₂ : RefreshPc.step cfg a (.selectUser old) db = (.ended (.error e), db) := by
        simp only [RefreshPc.step, hlock]
        rfl
      rw [audited_ended (fun _ _ hpc => by cases hpc) h₂]
      exact iff_of_true (SameTables.failureKeeps ⟨rfl, rfl, rfl⟩) fun hnot => by cases hnot.1
    | ok locked =>
      cases locked with
      | true =>
        -- the refusal is written to the audit log, which is neither of the tables
        have h₂ : ∃ entry result, RefreshPc.step cfg a (.selectUser old) db =
            (.running (.logEvent entry result), db) := by
          simp only [RefreshPc.step, hlock]
          exact ⟨_, _, rfl⟩
        obtain ⟨entry, result, h₂⟩ := h₂
        rw [audited_running h₂]
        refine iff_of_true (logEvent_sameTables entry result).failureKeeps ?_
        exact fun hnot => by cases hnot.1
      | false =>
        rw [and_iff_right rfl]
        -- a session from before the families, or one of a family
        cases hid : old.familyId with
        | none =>
          have h₂ : RefreshPc.step cfg a (.selectUser old) db =
              (.running (.insertFamily old), db) := by
            simp only [RefreshPc.step, hlock, hid]
          rw [audited_running h₂, legacy_cases h hold]
          simp
        | some familyId =>
          obtain ⟨family, hget⟩ := h.family hold hid
          obtain rfl := getFamily_familyId hget
          have hfamily := getFamily_mem hget
          have h₂ : RefreshPc.step cfg a (.selectUser old) db =
              (.running (.selectFamily old family.familyId false), db) := by
            simp only [RefreshPc.step, hlock, hid]
          rw [audited_running h₂, family_cases h hold hfamily hid]
          refine not_congr ?_
          constructor
          · exact fun hcase => .inr ⟨family, hfamily, rfl, hcase⟩
          · rintro (⟨hnone, -⟩ | ⟨family', hfamily', hsame, hcase⟩)
            · cases hnone
            · -- the ids are a primary key
              obtain rfl : family = family' :=
                eq_of_key_eq h.families.pkey hfamily hfamily' rfl hsame.symm
              exact hcase

/-- The connection is gone when the audit entry should be written. -/
def connectionLost : AuditError where
  exc := .databaseError "OperationalError" "server closed the connection unexpectedly"
  not_reuse := nofun

/-- The session of the login is behind its family, so its token is one that has been used. -/
def usedLogin : AuthDb :=
  let db := serveAuth readableSettings oneUser (.login firstLogin)
  { db with
    tokenFamilies := db.tokenFamilies.map fun family => { family with currentSequence := 1 } }

/-- Before the login no token is known. A used token is one whose reuse is detected, and told or
not. -/
theorem failed_refresh_keeps_unknown :
    FailureKeeps oneUser (auditedRefresh none readableSettings firstRefresh oneUser) ∧
      FailureKeeps usedLogin (auditedRefresh none readableSettings firstRefresh usedLogin) ∧
      ¬ FailureKeeps usedLogin
        (auditedRefresh (some connectionLost) readableSettings firstRefresh usedLogin) := by
  have hvalid : usedLogin.Valid := (satisfies_authSchema_iff _).mp (by decide +kernel)
  have hfound : getSessionByRefreshToken usedLogin
      (readableSettings.hashToken firstRefresh.refreshToken) = usedLogin.sessions.head? := by
    decide +kernel
  refine ⟨?_, ?_, ?_⟩
  · refine (failed_refresh_keeps_iff none readableSettings oneUser_initial.valid
      firstRefresh).mpr ?_
    rintro ⟨old, hpresents, -⟩
    cases hpresents.found
  · rw [failed_refresh_keeps_iff none readableSettings hvalid, disturbs_iff hfound]
    decide +kernel
  · rw [failed_refresh_keeps_iff (some connectionLost) readableSettings hvalid, not_not,
      disturbs_iff hfound]
    decide +kernel

/-- After the login, the refresh raises an `AttributeError` once it has rotated. -/
theorem failed_refresh_changes_tables :
    ¬ ∀ (audit : Option AuditError) (cfg : AuthSettings) (db : AuthDb) (a : RefreshCall),
      AuthReachable cfg db → FailureKeeps db (auditedRefresh audit cfg a db) := by
  intro hall
  have hkeeps := hall none readableSettings (serveAuth readableSettings oneUser (.login firstLogin))
    firstRefresh (.call (.initial oneUser_initial) _)
  have herror : (auditedRefresh none readableSettings firstRefresh
      (serveAuth readableSettings oneUser (.login firstLogin))).1 =
        .error (.attributeError "'UserORM' object has no attribute 'user_id'") := by
    decide +kernel
  have hsessions := (hkeeps _ herror nofun).1
  exact absurd hsessions (by decide +kernel)

end NocIq
