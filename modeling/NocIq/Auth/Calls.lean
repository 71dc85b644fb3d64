import NocIq.Auth.Store
import NocIq.Lib.Interleaving

/-!
# NocIq — refresh and logout everywhere, statement by statement

`AuthStore.refresh` and `AuthStore.logout_all_sessions` as calls: a position says which statement
comes next and what the objects in memory hold. A SELECT sees what is committed. Every COMMIT
expires the attributes of the objects, and reading an expired attribute is a SELECT of its own,
which raises if the row is gone; so does an UPDATE of a row that is gone, while a DELETE of one
only warns.

* **`RefreshPc.step` / `LogoutAllPc.step`** — the statements.
* **`refreshCall` / `logoutAllCall`** — the calls; `refresh` and `logoutAllSessions` run them alone.
-/

namespace NocIq

open Relational Interleaving

/-! ## `refresh` -/

/-- A call of `refresh`: its token, the clock at the lock check and at the end, and what it draws
with `uuid4`; the family is drawn only for a session without one. -/
structure RefreshCall where
  refreshToken : String
  checkedAt : Time
  now : Time
  familyId : String
  newAccess : String
  newRefresh : String
  deriving DecidableEq, Repr

/-- The statement that comes next. `old` and `family` are what `old_session` and `family` were
loaded with. -/
inductive RefreshPc where
  | selectSession
  | selectUser (old : SessionORM)
  -- a session from before the families gets one
  | insertFamily (old : SessionORM)
  | refreshNewFamily (old : SessionORM)
  | migrateSession (old : SessionORM)
  | selectFamily (old : SessionORM) (familyId : String) (isExpired : Bool)
  | reloadMigrated (old : SessionORM) (family : TokenFamilyORM)
  -- reuse of a rotated token
  | selectReused (old : SessionORM) (family : TokenFamilyORM)
  | compromiseFamily (old : SessionORM) (family : TokenFamilyORM)
  | refreshCompromised (old : SessionORM) (family : TokenFamilyORM)
  | selectFamilySessions (old : SessionORM) (family : TokenFamilyORM) (isExpired : Bool)
  | deleteFamilySessions (old : SessionORM) (family : TokenFamilyORM) (isExpired : Bool)
      (sessions : List SessionORM)
  | reloadReusedSession (old : SessionORM) (family : TokenFamilyORM)
  | reloadReusedFamily (old : SessionORM) (family : TokenFamilyORM) (sequence : Int)
  -- rotation
  | selectIncremented (old : SessionORM) (family : TokenFamilyORM)
  | updateSequence (old : SessionORM) (family : TokenFamilyORM)
  | refreshIncremented (old : SessionORM) (family : TokenFamilyORM)
  | reloadOld (old : SessionORM) (family : TokenFamilyORM)
  | selectOld (old : SessionORM) (family : TokenFamilyORM)
  | deleteOld (old : SessionORM) (family : TokenFamilyORM)
  | selectStoredUser (old : SessionORM) (family : TokenFamilyORM) (isExpired : Bool)
  | reloadFamily (old : SessionORM) (family : TokenFamilyORM) (storedUser : UserORM)
  | insertSession (old : SessionORM) (family : TokenFamilyORM) (storedUser : UserORM)
  | refreshSession (old : SessionORM) (family : TokenFamilyORM) (storedUser : UserORM)
  -- the audit entry is the last statement of every path that has one
  | logEvent (entry : AuthAuditLog) (result : Except Exc AuthSessionResponse)
  deriving DecidableEq

abbrev RefreshControl := Control RefreshPc (Except Exc AuthSessionResponse)

def RefreshPc.raise (e : Exc) (db : AuthDb) : RefreshControl × AuthDb := (.ended (.error e), db)

/-- Flush and commit, then go on. -/
def RefreshPc.commit (pending : List (Statement AuthDb)) (next : RefreshPc) (db : AuthDb) :
    RefreshControl × AuthDb :=
  match db.commit pending () with
  | (.ok _, db') => (.running next, db')
  | (.error e, db') => (.ended (.error e), db')

def getFamily (db : AuthDb) (familyId : String) : Option TokenFamilyORM :=
  db.tokenFamilies.find? fun f => decide (f.familyId = familyId)

/-- What follows once the family and the session are loaded: reuse is a session behind its
family. -/
def RefreshPc.checkReuse (old : SessionORM) (family : TokenFamilyORM) : RefreshPc :=
  if old.sequence < family.currentSequence then .selectReused old family
  else .selectIncremented old family

/-- What follows the deletion of a family's sessions. An object that is deleted keeps its attributes;
the COMMIT expires any other. -/
def RefreshPc.familyDeleted (old : SessionORM) (family : TokenFamilyORM) (isExpired : Bool)
    (sessions : List SessionORM) : RefreshPc :=
  match sessions.find? fun s => decide (s.accessToken = old.accessToken) with
  | some s => .reloadReusedFamily old family (if isExpired then s.sequence else old.sequence)
  | none => .reloadReusedSession old family

open RefreshPc in
/-- One statement of `_refresh_with_db`. -/
def RefreshPc.step (cfg : AuthSettings) (a : RefreshCall) :
    RefreshPc → AuthDb → RefreshControl × AuthDb
  | .selectSession, db =>
    match getSessionByRefreshToken db (cfg.hashToken a.refreshToken) with
    | none => raise (.valueError "Invalid or expired refresh token") db
    | some old => (.running (.selectUser old), db)
  | .selectUser old, db =>
    match isAccountLocked db old.email a.checkedAt with
    | .error e => raise e db
    | .ok true =>
      let entry : AuthAuditLog :=
        { eventType := "refresh_failed_locked", email := old.email
          details := [("reason", .str "account_locked")] }
      (.running (.logEvent entry (.error (.valueError "Account is temporarily locked"))), db)
    | .ok false =>
      match old.familyId with
      | none => (.running (.insertFamily old), db)
      | some familyId => (.running (.selectFamily old familyId false), db)
  | .insertFamily old, db =>
    -- backward compatibility: the session gets a family, and starts again at 0
    let family : TokenFamilyORM := { familyId := a.familyId, email := old.email }
    commit [NocIq.insertFamily family] (.refreshNewFamily old) db
  | .refreshNewFamily old, db =>
    if (getFamily db a.familyId).isNone then raise (.invalidRequestError "token_families") db
    else (.running (.migrateSession old), db)
  | .migrateSession old, db =>
    if (getSession db old.accessToken).isNone then raise (.staleDataError "sessions") db
    else
      commit
        [updateSession old.accessToken fun s =>
          { s with familyId := some a.familyId, sequence := 0 }]
        (.selectFamily old a.familyId true) db
  | .selectFamily old familyId isExpired, db =>
    match getFamily db familyId with
    | none => raise (.valueError "Invalid token family") db
    | some family =>
      if family.compromised then
        let entry : AuthAuditLog :=
          { eventType := "refresh_failed_compromised", email := old.email
            details := [("family_id", .str familyId), ("reason", .str "compromised_family")] }
        (.running (.logEvent entry
          (.error (.valueError "Session family has been compromised"))), db)
      else if isExpired then (.running (.reloadMigrated old family), db)
      else (.running (checkReuse old family), db)
  | .reloadMigrated old family, db =>
    match getSession db old.accessToken with
    | none => raise (.objectDeletedError "sessions") db
    | some old => (.running (checkReuse old family), db)
  | .selectReused old family, db =>
    if (getFamily db family.familyId).isNone then
      (.running (.selectFamilySessions old family false), db)
    else (.running (.compromiseFamily old family), db)
  | .compromiseFamily old family, db =>
    if (getFamily db family.familyId).isNone then raise (.staleDataError "token_families") db
    else
      commit [updateFamily family.familyId fun f => { f with compromised := true }]
        (.refreshCompromised old family) db
  | .refreshCompromised old family, db =>
    if (getFamily db family.familyId).isNone then
      raise (.invalidRequestError "token_families") db
    else (.running (.selectFamilySessions old family true), db)
  | .selectFamilySessions old family isExpired, db =>
    let sessions := db.sessions.filter fun s => decide (s.familyId = some family.familyId)
    (.running (.deleteFamilySessions old family isExpired sessions), db)
  | .deleteFamilySessions old family isExpired sessions, db =>
    commit (sessions.map fun s => deleteSession s.accessToken)
      (familyDeleted old family isExpired sessions) db
  | .reloadReusedSession old family, db =>
    match getSession db old.accessToken with
    | none => raise (.objectDeletedError "sessions") db
    | some s => (.running (.reloadReusedFamily old family s.sequence), db)
  | .reloadReusedFamily old family sequence, db =>
    match getFamily db family.familyId with
    | none => raise (.objectDeletedError "token_families") db
    | some f =>
      let entry : AuthAuditLog :=
        { eventType := "refresh_token_reuse", email := old.email
          details :=
            [("family_id", .str family.familyId), ("sequence", .int sequence),
              ("expected", .int f.currentSequence), ("reason", .str "token_replay_detected")] }
      (.running (.logEvent entry
        (.error (.valueError "Refresh token reuse detected. Session family invalidated."))), db)
  | .selectIncremented old family, db =>
    -- without the row `increment_sequence` does nothing, and nothing expires
    if (getFamily db family.familyId).isNone then (.running (.selectOld old family), db)
    else (.running (.updateSequence old family), db)
  | .updateSequence old family, db =>
    if (getFamily db family.familyId).isNone then raise (.staleDataError "token_families") db
    else
      -- the loaded value plus one, whatever the row holds by now
      let sequence := family.currentSequence + 1
      commit [updateFamily family.familyId fun f => { f with currentSequence := sequence }]
        (.refreshIncremented old family) db
  | .refreshIncremented old family, db =>
    match getFamily db family.familyId with
    | none => raise (.invalidRequestError "token_families") db
    | some family => (.running (.reloadOld old family), db)
  | .reloadOld old family, db =>
    if (getSession db old.accessToken).isNone then raise (.objectDeletedError "sessions") db
    else (.running (.selectOld old family), db)
  | .selectOld old family, db =>
    if (getSession db old.accessToken).isNone then
      (.running (.selectStoredUser old family false), db)
    else (.running (.deleteOld old family), db)
  | .deleteOld old family, db =>
    -- a DELETE that finds no row goes on
    commit [deleteSession old.accessToken] (.selectStoredUser old family true) db
  | .selectStoredUser old family isExpired, db =>
    match getByEmail db old.email with
    | none => raise (.valueError "User not found") db
    | some storedUser =>
      if isExpired then (.running (.reloadFamily old family storedUser), db)
      else (.running (.insertSession old family storedUser), db)
  | .reloadFamily old family storedUser, db =>
    match getFamily db family.familyId with
    | none => raise (.objectDeletedError "token_families") db
    | some family => (.running (.insertSession old family storedUser), db)
  | .insertSession old family storedUser, db =>
    let session := newSession cfg a.newAccess a.newRefresh old.email family.familyId
      (family.currentSequence + 1) a.now
    commit [NocIq.insertSession session] (.refreshSession old family storedUser) db
  | .refreshSession old family storedUser, db =>
    if (getSession db (cfg.hashToken a.newAccess)).isNone then
      raise (.invalidRequestError "sessions") db
    else
      match storedUser.userId with
      | .error e => raise e db
      | .ok actorId =>
        let entry : AuthAuditLog :=
          { eventType := "refresh", email := old.email, actorId := some actorId
            details := [("family_id", .str family.familyId), ("event", .str "token_rotation")] }
        let result := (userOrmToPydantic storedUser).map fun user =>
          ({ accessToken := a.newAccess, refreshToken := a.newRefresh
             expiresIn := tokenTtlSeconds, user } : AuthSessionResponse)
        (.running (.logEvent entry result), db)
  | .logEvent entry result, db => (.ended result, db.logEvent entry)

/-- Every statement goes on at a smaller number. -/
def RefreshPc.rank : RefreshPc → Nat
  | .selectSession => 24
  | .selectUser .. => 23
  | .insertFamily .. => 22
  | .refreshNewFamily .. => 21
  | .migrateSession .. => 20
  | .selectFamily .. => 19
  | .reloadMigrated .. => 18
  | .selectReused .. => 17
  | .compromiseFamily .. => 16
  | .refreshCompromised .. => 15
  | .selectFamilySessions .. => 14
  | .deleteFamilySessions .. => 13
  | .reloadReusedSession .. => 12
  | .reloadReusedFamily .. => 11
  | .selectIncremented .. => 10
  | .updateSequence .. => 9
  | .refreshIncremented .. => 8
  | .reloadOld .. => 7
  | .selectOld .. => 6
  | .deleteOld .. => 5
  | .selectStoredUser .. => 4
  | .reloadFamily .. => 3
  | .insertSession .. => 2
  | .refreshSession .. => 1
  | .logEvent .. => 0

variable {db : AuthDb}

theorem RefreshPc.commit_running {pending : List (Statement AuthDb)} {next pc' : RefreshPc}
    (h : (commit pending next db).1 = .running pc') : pc' = next := by
  unfold commit at h
  split at h
  · exact (Control.running.inj h).symm
  · cases h

theorem RefreshPc.commit_of_valid {f : Statement AuthDb} {next : RefreshPc} (h : (f db).Valid) :
    commit [f] next db = (.running next, f db) := by
  unfold commit
  rw [NocIq.commit_of_valid h]

theorem RefreshPc.commit_of_not_valid {f : Statement AuthDb} (h : ¬ (f db).Valid) (next : RefreshPc)
    :
    ∃ name, commit [f] next db = (.ended (.error (.integrityError name)), db) := by
  obtain ⟨name, hname⟩ := NocIq.commit_of_not_valid h ()
  refine ⟨name, ?_⟩
  unfold commit
  rw [hname]

theorem RefreshPc.rank_checkReuse (old : SessionORM) (family : TokenFamilyORM) :
    (checkReuse old family).rank < 18 := by
  unfold checkReuse
  split
  · show 17 < 18
    omega
  · show 10 < 18
    omega

theorem RefreshPc.rank_familyDeleted (old : SessionORM) (family : TokenFamilyORM)
    (isExpired : Bool) (sessions : List SessionORM) :
    (familyDeleted old family isExpired sessions).rank < 13 := by
  unfold familyDeleted
  split
  · show 11 < 13
    omega
  · show 12 < 13
    omega

theorem RefreshPc.rank_lt (cfg : AuthSettings) (a : RefreshCall) (pc : RefreshPc) (db : AuthDb)
    (pc' : RefreshPc) (h : (pc.step cfg a db).1 = .running pc') : pc'.rank < pc.rank := by
  revert h
  fun_cases RefreshPc.step cfg a pc db
  all_goals intro h
  all_goals
    first
    | cases h; done
    | obtain rfl := Control.running.inj h
      first
      | exact Nat.lt_trans (rank_checkReuse _ _) (by simp only [rank]; omega)
      | exact rank_checkReuse _ _
      | simp only [rank]; omega
    | obtain rfl := commit_running h
      first
      | exact rank_familyDeleted _ _ _ _
      | simp only [rank]; omega

def refreshCall (cfg : AuthSettings) (a : RefreshCall) :
    Call AuthDb RefreshPc (Except Exc AuthSessionResponse) where
  step := RefreshPc.step cfg a
  rank := RefreshPc.rank
  rank_lt := RefreshPc.rank_lt cfg a

@[simp] theorem refreshCall_step (cfg : AuthSettings) (a : RefreshCall) (pc : RefreshPc)
    (db : AuthDb) : (refreshCall cfg a).step pc db = pc.step cfg a db := rfl

/-- `AuthStore.refresh`, with no other call in between. -/
def refresh (cfg : AuthSettings) (a : RefreshCall) (db : AuthDb) :
    Except Exc AuthSessionResponse × AuthDb :=
  (refreshCall cfg a).alone .selectSession db

/-! ## `logout_all_sessions` -/

inductive LogoutAllPc where
  | selectSessions
  | deleteSessions (sessions : List SessionORM)
  | selectFamilies (count : Nat)
  | deleteFamilies (count : Nat) (families : List TokenFamilyORM)
  | logEvent (count : Nat)
  deriving DecidableEq

abbrev LogoutAllControl := Control LogoutAllPc (Except Exc Nat)

/-- Flush and commit, then go on. -/
def LogoutAllPc.commit (pending : List (Statement AuthDb)) (next : LogoutAllPc) (db : AuthDb) :
    LogoutAllControl × AuthDb :=
  match db.commit pending () with
  | (.ok _, db') => (.running next, db')
  | (.error e, db') => (.ended (.error e), db')

/-- One statement of `_logout_all_sessions_with_db`. -/
def LogoutAllPc.step (email : String) : LogoutAllPc → AuthDb → LogoutAllControl × AuthDb
  | .selectSessions, db => (.running (.deleteSessions (listSessionsByEmail db email)), db)
  | .deleteSessions sessions, db =>
    commit (sessions.map fun s => deleteSession s.accessToken) (.selectFamilies sessions.length) db
  | .selectFamilies count, db =>
    let families := db.tokenFamilies.filter fun f => decide (f.email = email)
    (.running (.deleteFamilies count families), db)
  | .deleteFamilies count families, db =>
    commit (families.map fun f => deleteFamily f.familyId) (.logEvent count) db
  | .logEvent count, db =>
    let entry : AuthAuditLog :=
      { eventType := "logout_all_sessions", email
        details := [("sessions_invalidated", .int count)] }
    (.ended (.ok count), db.logEvent entry)

def LogoutAllPc.rank : LogoutAllPc → Nat
  | .selectSessions => 4
  | .deleteSessions .. => 3
  | .selectFamilies .. => 2
  | .deleteFamilies .. => 1
  | .logEvent .. => 0

theorem LogoutAllPc.commit_running {pending : List (Statement AuthDb)} {next pc' : LogoutAllPc}
    (h : (commit pending next db).1 = .running pc') : pc' = next := by
  unfold commit at h
  split at h
  · exact (Control.running.inj h).symm
  · cases h

theorem LogoutAllPc.rank_lt (email : String) (pc : LogoutAllPc) (db : AuthDb)
    (pc' : LogoutAllPc) (h : (pc.step email db).1 = .running pc') : pc'.rank < pc.rank := by
  cases pc with
  | selectSessions =>
    obtain rfl := Control.running.inj h
    exact Nat.lt_succ_self 3
  | deleteSessions sessions =>
    obtain rfl := commit_running h
    exact Nat.lt_succ_self 2
  | selectFamilies count =>
    obtain rfl := Control.running.inj h
    exact Nat.lt_succ_self 1
  | deleteFamilies count families =>
    obtain rfl := commit_running h
    exact Nat.lt_succ_self 0
  | logEvent count => cases h

def logoutAllCall (email : String) : Call AuthDb LogoutAllPc (Except Exc Nat) where
  step := LogoutAllPc.step email
  rank := LogoutAllPc.rank
  rank_lt := LogoutAllPc.rank_lt email

@[simp] theorem logoutAllCall_step (email : String) (pc : LogoutAllPc) (db : AuthDb) :
    (logoutAllCall email).step pc db = pc.step email db := rfl

/-- `AuthStore.logout_all_sessions`, with no other call in between. -/
def logoutAllSessions (email : String) (db : AuthDb) : Except Exc Nat × AuthDb :=
  (logoutAllCall email).alone .selectSessions db

end NocIq
