import NocIq.Auth.Rotation

/-!
# NocIq — what one statement of a refresh does

Whatever other calls do in between, a statement of a refresh that works on a session with a family
(`RefreshPc.On`) goes on in that family, and writes one of few things. The results hold of a step
from any database that satisfies the constraints, so they serve any interleaving.

* **`RefreshPc.On.step`** — where the call goes on.
* **`RefreshPc.On.writes`** — what it does to the sessions, with what the call still owes (`debt`).
* **`RefreshPc.On.keeps` / `RefreshPc.On.rest`** — what it leaves alone.
-/

namespace NocIq

open Relational Interleaving

variable {cfg : AuthSettings} {db db' : AuthDb} {P : SessionORM → Prop} {familyId : String}

/-- The position is that of a refresh in the family, and `P` holds of the sessions it has loaded. -/
def RefreshPc.On (P : SessionORM → Prop) (familyId : String) : RefreshPc → Prop
  | .selectSession => True
  | .selectUser old => P old ∧ old.familyId = some familyId
  | .insertFamily _ | .refreshNewFamily _ | .migrateSession _ | .reloadMigrated _ _ => False
  | .selectFamily old id isExpired => P old ∧ id = familyId ∧ isExpired = false
  | .deleteFamilySessions old family _ sessions =>
    P old ∧ family.familyId = familyId ∧ ∀ s ∈ sessions, P s
  | .selectReused old family | .compromiseFamily old family | .refreshCompromised old family
  | .selectFamilySessions old family _ | .reloadReusedSession old family
  | .reloadReusedFamily old family _ | .selectIncremented old family | .updateSequence old family
  | .refreshIncremented old family | .reloadOld old family | .selectOld old family
  | .deleteOld old family | .selectStoredUser old family _ | .reloadFamily old family _
  | .insertSession old family _ | .refreshSession old family _ => P old ∧ family.familyId = familyId
  | .logEvent _ result => ∃ e, result = .error e

/-- The same of a call that may have ended: it has not returned tokens. -/
def RefreshControlOn (P : SessionORM → Prop) (familyId : String) : RefreshControl → Prop
  | .running pc => pc.On P familyId
  | .ended result => ∃ e, result = .error e

theorem on_commit {pending : List (Statement AuthDb)} {next : RefreshPc}
    (h : next.On P familyId) :
    RefreshControlOn P familyId (RefreshPc.commit pending next db).1 := by
  unfold RefreshPc.commit
  split
  · exact h
  · exact ⟨_, rfl⟩

theorem on_checkReuse {old : SessionORM} {family : TokenFamilyORM} (hold : P old)
    (hfamily : family.familyId = familyId) :
    (RefreshPc.checkReuse old family).On P familyId := by
  unfold RefreshPc.checkReuse
  split
  · exact ⟨hold, hfamily⟩
  · exact ⟨hold, hfamily⟩

theorem on_familyDeleted {old : SessionORM} {family : TokenFamilyORM} (isExpired : Bool)
    (sessions : List SessionORM) (hold : P old) (hfamily : family.familyId = familyId) :
    (RefreshPc.familyDeleted old family isExpired sessions).On P familyId := by
  unfold RefreshPc.familyDeleted
  split
  · exact ⟨hold, hfamily⟩
  · exact ⟨hold, hfamily⟩

variable {pc : RefreshPc}

theorem RefreshPc.On.step (h : pc.On P familyId) (cfg : AuthSettings) (a : RefreshCall)
    (hselect : pc = .selectSession → ∀ old,
      getSessionByRefreshToken db (cfg.hashToken a.refreshToken) = some old →
        P old ∧ old.familyId = some familyId)
    (hrows : ∀ s ∈ db.sessions, s.familyId = some familyId → P s) :
    RefreshControlOn P familyId (pc.step cfg a db).1 := by
  revert h hselect
  fun_cases RefreshPc.step cfg a pc db
  all_goals intro h hselect
  all_goals
    first
    | exact ⟨_, rfl⟩ -- it raises, now or after the audit entry
    | exact h -- the objects are passed on
    | exact on_commit h
    | exact h.elim -- a session with a family is at no position of a legacy one
    | skip
  · rename_i old hfound
    exact hselect rfl old hfound
  · rename_i old hnone _
    cases hnone.symm.trans h.2
  · rename_i old id hsome _
    exact ⟨h.1, Option.some.inj (hsome.symm.trans h.2), rfl⟩
  · cases h.2.2
  · rename_i old id isExpired family _ _ hget
    exact on_checkReuse h.1 ((getFamily_familyId hget).trans h.2.1)
  · rename_i old family isExpired sessions
    refine ⟨h.1, h.2, fun s hs => ?_⟩
    obtain ⟨hs, hfamily⟩ := List.mem_filter.mp hs
    rw [decide_eq_true_eq, h.2] at hfamily
    exact hrows s hs hfamily
  · rename_i old family isExpired sessions
    exact on_commit (on_familyDeleted isExpired sessions h.1 h.2.1)
  · rename_i old family family' hget
    exact ⟨h.1, (getFamily_familyId hget).trans h.2⟩
  · rename_i old family storedUser family' hget
    exact ⟨h.1, (getFamily_familyId hget).trans h.2⟩
  · rename_i hid _ _ _
    cases hid

/-! ## What a statement writes -/

/-- The families have the same ids and emails; their counters and marks may differ. -/
structure SameFamilies (db db' : AuthDb) : Prop where
  users : db'.users = db.users
  families : db'.tokenFamilies.map (fun f => (f.familyId, f.email)) =
    db.tokenFamilies.map fun f => (f.familyId, f.email)

theorem SameFamilies.refl (db : AuthDb) : SameFamilies db db := ⟨rfl, rfl⟩

theorem SameFamilies.trans {db'' : AuthDb} (h : SameFamilies db db') (h' : SameFamilies db' db'') :
    SameFamilies db db'' := ⟨h'.users.trans h.users, h'.families.trans h.families⟩

theorem SameFamilies.updateFamily (db : AuthDb) (id : String)
    {f : TokenFamilyORM → TokenFamilyORM} (hid : ∀ r, (f r).familyId = r.familyId)
    (hemail : ∀ r, (f r).email = r.email) : SameFamilies db (updateFamily id f db) := by
  have hkept : ∀ r, ((f r).familyId, (f r).email) = (r.familyId, r.email) := by
    intro r
    rw [hid, hemail]
  exact ⟨rfl, column_map_of_eq hkept _ db.tokenFamilies⟩

/-- The sessions a rotation is about to have more than it has now: one, if the old session is gone
and the new one is still to come. -/
def RefreshPc.debt (db : AuthDb) : RefreshPc → Nat
  | .selectOld old _ | .deleteOld old _ => if (getSession db old.accessToken).isSome then 0 else 1
  | .selectStoredUser _ _ _ | .reloadFamily _ _ _ | .insertSession _ _ _ => 1
  | _ => 0

def refreshDebt (db : AuthDb) : RefreshControl → Nat
  | .running pc => pc.debt db
  | .ended _ => 0

/-- What the statement does to the sessions, and to the debt of its call. -/
inductive RefreshWrite (cfg : AuthSettings) (a : RefreshCall) (pc : RefreshPc) (db : AuthDb)
    (control : RefreshControl) (db' : AuthDb) : Prop where
  | keeps (hsessions : db'.sessions = db.sessions)
      (hdebt : (∀ old family, pc = .selectIncremented old family →
        (getFamily db family.familyId).isSome = true) → refreshDebt db control ≤ pc.debt db)
  | deletesOld (old : SessionORM) (family : TokenFamilyORM) (hpc : pc = .deleteOld old family)
      (hcontrol : control = .running (.selectStoredUser old family true))
      (hsessions : db'.sessions = (db.withoutSessions [old.accessToken]).sessions)
  | deletesFamily (old : SessionORM) (family : TokenFamilyORM) (isExpired : Bool)
      (rows : List SessionORM) (hpc : pc = .deleteFamilySessions old family isExpired rows)
      (hdebt : refreshDebt db' control = 0)
      (hsessions : db'.sessions = (db.withoutSessions (rows.map (·.accessToken))).sessions)
  | inserts (old : SessionORM) (family : TokenFamilyORM) (storedUser : UserORM)
      (hpc : pc = .insertSession old family storedUser)
      (hcontrol : control = .running (.refreshSession old family storedUser))
      (hfamily : family.familyId ∈ db.familyIds)
      (hsessions : db'.sessions = db.sessions ++
        [newSession cfg a.newAccess a.newRefresh old.email family.familyId
          (family.currentSequence + 1) a.now])

theorem debt_checkReuse (db : AuthDb) (old : SessionORM) (family : TokenFamilyORM) :
    (RefreshPc.checkReuse old family).debt db = 0 := by
  unfold RefreshPc.checkReuse
  split
  · rfl
  · rfl

theorem debt_familyDeleted (db : AuthDb) (old : SessionORM) (family : TokenFamilyORM)
    (isExpired : Bool) (sessions : List SessionORM) :
    (RefreshPc.familyDeleted old family isExpired sessions).debt db = 0 := by
  unfold RefreshPc.familyDeleted
  split
  · rfl
  · rfl

theorem RefreshPc.commit_deleteSessions (h : db.Valid) (rows : List SessionORM) (next : RefreshPc) :
    commit (rows.map fun s => deleteSession s.accessToken) next db =
      (.running next, db.withoutSessions (rows.map (·.accessToken))) := by
  unfold commit
  rw [NocIq.commit_deleteSessions h]

theorem RefreshPc.commit_updateFamily (h : db.Valid) {id : String}
    {f : TokenFamilyORM → TokenFamilyORM} {next : RefreshPc} (hid : ∀ r, (f r).familyId = r.familyId)
    (hemail : ∀ r, (f r).email = r.email) :
    commit [updateFamily id f] next db = (.running next, updateFamily id f db) :=
  commit_of_valid (h.updateFamily id hid hemail)

theorem isSome_of_not_isNone {α : Type} {o : Option α} (h : ¬ o.isNone = true) :
    o.isSome = true := by
  cases o with
  | none => exact absurd rfl h
  | some _ => rfl

/-- **What a statement writes.** -/
theorem RefreshPc.On.writes (h : pc.On P familyId) (cfg : AuthSettings) (hvalid : db.Valid)
    (a : RefreshCall) : RefreshWrite cfg a pc db (pc.step cfg a db).1 (pc.step cfg a db).2 := by
  revert h
  fun_cases RefreshPc.step cfg a pc db
  all_goals intro h
  all_goals
    first
    | exact h.elim
    | exact .keeps rfl fun _ => Nat.zero_le _
    | exact .keeps rfl fun _ => Nat.le_refl _
    | skip
  · -- after a SELECT the debt is that of the position it goes on at
    rename_i old id isExpired family _ _ _
    exact .keeps rfl fun _ => Nat.le_of_eq (debt_checkReuse db old family)
  · rename_i old family _
    -- the family is marked as compromised
    rw [commit_updateFamily hvalid]
    · exact .keeps rfl fun _ => Nat.zero_le _
    · exact fun _ => rfl
    · exact fun _ => rfl
  · rename_i old family isExpired sessions
    rw [commit_deleteSessions hvalid]
    exact .deletesFamily old family isExpired sessions rfl (debt_familyDeleted _ _ _ _ _) rfl
  · -- the family is gone, which only the caller can exclude
    rename_i old family hnone
    refine .keeps rfl fun hsome => ?_
    have hfound := hsome old family rfl
    rw [Option.isNone_iff_eq_none.mp hnone] at hfound
    cases hfound
  · rename_i old family _ _
    rw [commit_updateFamily hvalid]
    · exact .keeps rfl fun _ => Nat.zero_le _
    · exact fun _ => rfl
    · exact fun _ => rfl
  · rename_i old family hfound
    refine .keeps rfl fun _ => Nat.le_of_eq ?_
    show (if (getSession db old.accessToken).isSome then 0 else 1) = 0
    rw [if_pos (isSome_of_not_isNone hfound)]
  · rename_i old family hgone
    refine .keeps rfl fun _ => Nat.le_of_eq ?_
    show 1 = if (getSession db old.accessToken).isSome then 0 else 1
    rw [Option.isNone_iff_eq_none.mp hgone]
    rfl
  · rename_i old family
    -- the old session is deleted before the new one is inserted
    have hout : (deleteSession old.accessToken db).Valid := by
      rw [deleteSession_eq]
      exact hvalid.withoutSessions _
    rw [commit_of_valid hout]
    refine .deletesOld old family rfl rfl ?_
    show (deleteSession old.accessToken db).sessions = _
    rw [deleteSession_eq]
  · rename_i old family storedUser session
    -- the INSERT: its token may be taken
    by_cases hnew : (NocIq.insertSession session db).Valid
    · rw [commit_of_valid hnew]
      have hadmits := (valid_insertSession_iff hvalid session).mp hnew
      exact .inserts old family storedUser rfl rfl (hadmits.family _ rfl) rfl
    · obtain ⟨name, hname⟩ := commit_of_not_valid hnew (.refreshSession old family storedUser)
      rw [hname]
      exact .keeps rfl fun _ => Nat.zero_le _

theorem RefreshPc.On.keeps (h : pc.On P familyId) (cfg : AuthSettings) (hvalid : db.Valid)
    (a : RefreshCall) : (pc.step cfg a db).2.Valid ∧ SameFamilies db (pc.step cfg a db).2 := by
  revert h
  fun_cases RefreshPc.step cfg a pc db
  all_goals intro h
  all_goals
    first
    | exact h.elim
    | exact ⟨hvalid, rfl, rfl⟩
    | exact ⟨(SameTables.logEvent db _).valid hvalid, rfl, rfl⟩
    | skip
  · -- what is left are the five writes
    rename_i old family _
    rw [commit_updateFamily hvalid]
    · exact ⟨hvalid.updateFamily _ (fun _ => rfl) fun _ => rfl,
        .updateFamily db _ (fun _ => rfl) fun _ => rfl⟩
    · exact fun _ => rfl
    · exact fun _ => rfl
  · rename_i old family isExpired sessions
    rw [commit_deleteSessions hvalid]
    exact ⟨hvalid.withoutSessions _, rfl, rfl⟩
  · rename_i old family _ _
    rw [commit_updateFamily hvalid]
    · exact ⟨hvalid.updateFamily _ (fun _ => rfl) fun _ => rfl,
        .updateFamily db _ (fun _ => rfl) fun _ => rfl⟩
    · exact fun _ => rfl
    · exact fun _ => rfl
  · rename_i old family
    have hout : (deleteSession old.accessToken db).Valid := by
      rw [deleteSession_eq]
      exact hvalid.withoutSessions _
    rw [commit_of_valid hout]
    exact ⟨hout, rfl, rfl⟩
  · rename_i old family storedUser session
    by_cases hnew : (NocIq.insertSession session db).Valid
    · rw [commit_of_valid hnew]
      exact ⟨hnew, rfl, rfl⟩
    · obtain ⟨name, hname⟩ := commit_of_not_valid hnew (.refreshSession old family storedUser)
      rw [hname]
      exact ⟨hvalid, rfl, rfl⟩

theorem SameFamilies.familiesFrom (h : SameFamilies db db') : FamiliesFrom db db' := by
  intro f' hf'
  have hmem : (f'.familyId, f'.email) ∈ db'.tokenFamilies.map fun f => (f.familyId, f.email) :=
    List.mem_map_of_mem hf'
  rw [h.families] at hmem
  obtain ⟨f, hf, heq⟩ := List.mem_map.mp hmem
  exact ⟨f, hf, congrArg Prod.fst heq, congrArg Prod.snd heq⟩

theorem SameFamilies.familyIds (h : SameFamilies db db') : db'.familyIds = db.familyIds := by
  have hids := congrArg (List.map Prod.fst) h.families
  rw [List.map_map, List.map_map] at hids
  exact hids

/-! ## The sessions out of reach -/

/-- The sessions `p` does not hold of. -/
def AuthDb.rest (db : AuthDb) (p : SessionORM → Bool) : List SessionORM :=
  db.sessions.filter fun s => !p s

variable {p : SessionORM → Bool}

theorem mem_rest {s : SessionORM} : s ∈ db.rest p ↔ s ∈ db.sessions ∧ p s = false := by
  unfold AuthDb.rest
  rw [List.mem_filter, Bool.not_eq_true']

theorem key_outside (hvalid : db.Valid) {old : SessionORM} (hold : old ∈ db.sessions)
    (hp : p old = true) : ∀ s ∈ db.rest p, s.accessToken ≠ old.accessToken := by
  intro s hs hkey
  obtain ⟨hs, hout⟩ := mem_rest.mp hs
  obtain rfl := eq_of_key_eq hvalid.sessions.pkey hs hold rfl (congrArg some hkey.symm)
  rw [hp] at hout
  cases hout

theorem rest_withoutSessions {accessTokens : List String}
    (h : ∀ s ∈ db.rest p, s.accessToken ∉ accessTokens) :
    (db.withoutSessions accessTokens).rest p = db.rest p := by
  unfold AuthDb.rest AuthDb.withoutSessions
  rw [List.filter_filter]
  apply List.filter_congr
  intro s hs
  cases hp : p s with
  | true => rfl
  | false => simpa using h s (mem_rest.mpr ⟨hs, hp⟩)

/-- A statement leaves the sessions `p` does not hold of, if the ones it deletes have none of their
keys and `p` holds of the one it inserts. -/
theorem RefreshPc.On.rest (h : pc.On P familyId) (cfg : AuthSettings) (hvalid : db.Valid)
    (a : RefreshCall) (hkeys : ∀ old, P old → ∀ s ∈ db.rest p, s.accessToken ≠ old.accessToken)
    (hnew : ∀ old sequence, P old →
      p (newSession cfg a.newAccess a.newRefresh old.email familyId sequence a.now) = true)
    :
    (pc.step cfg a db).2.rest p = db.rest p := by
  have hrest : ∀ db' : AuthDb, db'.rest p = db'.sessions.filter fun s => !p s := fun _ => rfl
  cases h.writes cfg hvalid a with
  | keeps hsessions =>
    rw [hrest, hsessions]
    rfl
  | deletesOld old family hpc _ hsessions =>
    subst hpc
    rw [hrest, hsessions]
    refine rest_withoutSessions fun s hs hmem => ?_
    exact hkeys old h.1 s hs (List.mem_singleton.mp hmem)
  | deletesFamily old family isExpired rows hpc _ hsessions =>
    subst hpc
    rw [hrest, hsessions]
    refine rest_withoutSessions fun s hs hmem => ?_
    obtain ⟨row, hrow, hkey⟩ := List.mem_map.mp hmem
    exact hkeys row (h.2.2 row hrow) s hs hkey.symm
  | inserts old family storedUser hpc _ _ hsessions =>
    subst hpc
    have hp := hnew old (family.currentSequence + 1) h.1
    rw [← h.2] at hp
    rw [hrest, hsessions, List.filter_append, List.filter_singleton, hp]
    exact List.append_nil _

theorem RefreshPc.On.mem_sessions (h : pc.On P familyId) (cfg : AuthSettings) (hvalid : db.Valid)
    (a : RefreshCall) {s : SessionORM} (hs : s ∈ (pc.step cfg a db).2.sessions) :
    s ∈ db.sessions ∨ ∃ old family storedUser, pc = .insertSession old family storedUser ∧ P old ∧
      familyId ∈ db.familyIds ∧ s = newSession cfg a.newAccess a.newRefresh old.email familyId
        (family.currentSequence + 1) a.now := by
  cases h.writes cfg hvalid a with
  | keeps hsessions =>
    rw [hsessions] at hs
    exact .inl hs
  | deletesOld old family _ _ hsessions =>
    rw [hsessions] at hs
    exact .inl (List.mem_filter.mp hs).1
  | deletesFamily old family isExpired rows _ _ hsessions =>
    rw [hsessions] at hs
    exact .inl (List.mem_filter.mp hs).1
  | inserts old family storedUser hpc _ hfamily hsessions =>
    -- the foreign key has let the row in
    rw [hsessions] at hs
    subst hpc
    rcases List.mem_append.mp hs with hs | hs
    · exact .inl hs
    · refine .inr ⟨old, family, storedUser, rfl, h.1, ?_, ?_⟩
      · rw [← h.2]
        exact hfamily
      · rw [← h.2]
        exact List.mem_singleton.mp hs

end NocIq
