import NocIq.Datetime
import NocIq.Schema

/-!
# NocIq — the authentication tables

The rows of `users`, `token_families` and `sessions`, and the constraints on them. Tokens are
stored hashed. The code commits after every change, so a write and its COMMIT are one step here:
what a transaction has flushed becomes visible with its COMMIT, and no transaction flushes more
than one.

* **`satisfies_authSchema_iff`** — the constraints, table by table.
* **`commit_deleteSessions` / `commit_deleteFamilies`** — deleting sessions never fails; deleting
  families does not if no session refers to them.
-/

namespace NocIq

open Relational

/-! ## Rows -/

structure UserORM where
  id : String
  email : String
  hashedPassword : String
  fullName : Option String := none
  role : String := "engineer"
  stellarWallet : Option String := none
  createdAt : Datetime
  failedLoginAttempts : Option Int := some 0
  lockedUntil : Option Datetime := none
  deriving DecidableEq, Repr

/-- A row of `token_families`, without its timestamps, which nothing reads. -/
structure TokenFamilyORM where
  familyId : String
  email : String
  currentSequence : Int := 0
  compromised : Bool := false
  deriving DecidableEq, Repr

/-- A row of `sessions`. Its migration lets `family_id` be `NULL`. -/
structure SessionORM where
  accessToken : String
  refreshToken : String
  email : String
  familyId : Option String
  sequence : Int
  expiresAt : Datetime
  createdAt : Datetime
  deriving DecidableEq, Repr

/-- A row of `audit_logs` as the authentication code writes it. -/
structure AuthAuditLog where
  eventType : String
  email : String
  actorId : Option String := none
  details : List (String × DetailValue) := []
  deriving DecidableEq, Repr

structure AuthDb where
  users : List UserORM := []
  tokenFamilies : List TokenFamilyORM := []
  sessions : List SessionORM := []
  auditLogs : List AuthAuditLog := []
  deriving DecidableEq, Repr

def AuthDb.userEmails (db : AuthDb) : List String := db.users.map (·.email)

def AuthDb.familyIds (db : AuthDb) : List String := db.tokenFamilies.map (·.familyId)

/-! ## The declared constraints -/

def authSchema : List (Constraint AuthDb) :=
  [ unique "users_email_key" AuthDb.users (fun u => some u.email),
    unique "token_families_pkey" AuthDb.tokenFamilies (fun f => some f.familyId),
    foreignKey "token_families_email_fkey" AuthDb.tokenFamilies (fun f => some f.email)
      AuthDb.userEmails,
    unique "sessions_pkey" AuthDb.sessions (fun s => some s.accessToken),
    unique "sessions_refresh_token_key" AuthDb.sessions (fun s => some s.refreshToken),
    foreignKey "sessions_email_fkey" AuthDb.sessions (fun s => some s.email) AuthDb.userEmails,
    foreignKey "fk_sessions_token_families" AuthDb.sessions SessionORM.familyId
      AuthDb.familyIds ]

/-- The constraints on `token_families`, over the emails of `users`. -/
structure FamilyTableValid (emails : List String) (families : List TokenFamilyORM) : Prop where
  pkey : (families.filterMap (fun f => some f.familyId)).Nodup
  emailFkey : ∀ f ∈ families, f.email ∈ emails

/-- The constraints on `sessions`, over the emails of `users` and the ids of `token_families`. -/
structure SessionTableValid (emails familyIds : List String) (sessions : List SessionORM) :
    Prop where
  pkey : (sessions.filterMap (fun s => some s.accessToken)).Nodup
  refreshToken : (sessions.filterMap (fun s => some s.refreshToken)).Nodup
  emailFkey : ∀ s ∈ sessions, s.email ∈ emails
  familyFkey : ∀ s ∈ sessions, ∀ f, s.familyId = some f → f ∈ familyIds

structure AuthDb.Valid (db : AuthDb) : Prop where
  users : (db.users.filterMap (fun u => some u.email)).Nodup
  families : FamilyTableValid db.userEmails db.tokenFamilies
  sessions : SessionTableValid db.userEmails db.familyIds db.sessions

theorem satisfies_authSchema_iff (db : AuthDb) : Satisfies authSchema db ↔ db.Valid := by
  simp only [Satisfies, authSchema, List.forall_mem_cons, unique_holds, foreignKey_holds,
    Option.some.injEq, forall_eq']
  constructor
  · rintro ⟨h1, h2, h3, h4, h5, h6, h7, -⟩
    exact ⟨h1, ⟨h2, h3⟩, ⟨h4, h5, h6, h7⟩⟩
  · rintro ⟨h1, ⟨h2, h3⟩, ⟨h4, h5, h6, h7⟩⟩
    exact ⟨h1, h2, h3, h4, h5, h6, h7, by simp⟩

/-! ## Statements -/

def insertFamily (family : TokenFamilyORM) : Statement AuthDb := fun db =>
  { db with tokenFamilies := db.tokenFamilies ++ [family] }

def insertSession (session : SessionORM) : Statement AuthDb := fun db =>
  { db with sessions := db.sessions ++ [session] }

def updateUser (email : String) (f : UserORM → UserORM) : Statement AuthDb := fun db =>
  { db with users := db.users.map fun u => if u.email = email then f u else u }

def updateFamily (familyId : String) (f : TokenFamilyORM → TokenFamilyORM) : Statement AuthDb :=
  fun db =>
    { db with tokenFamilies := db.tokenFamilies.map fun r => if r.familyId = familyId then f r else r }

def updateSession (accessToken : String) (f : SessionORM → SessionORM) : Statement AuthDb :=
  fun db =>
    { db with sessions := db.sessions.map fun s => if s.accessToken = accessToken then f s else s }

def deleteSession (accessToken : String) : Statement AuthDb := fun db =>
  { db with sessions := db.sessions.filter fun s => decide (s.accessToken ≠ accessToken) }

def deleteFamily (familyId : String) : Statement AuthDb := fun db =>
  { db with tokenFamilies := db.tokenFamilies.filter fun f => decide (f.familyId ≠ familyId) }

/-- The flush of the pending statements, with its COMMIT. -/
def AuthDb.commit {α : Type} (db : AuthDb) (pending : List (Statement AuthDb)) (result : α) :
    Except Exc α × AuthDb :=
  match execAll authSchema pending db with
  | .ok db' => (.ok result, db')
  | .error name => (.error (.integrityError name), db)

/-- `audit_log.log_event`, which has no constraint to violate. -/
def AuthDb.logEvent (db : AuthDb) (entry : AuthAuditLog) : AuthDb :=
  { db with auditLogs := db.auditLogs ++ [entry] }

/-! ## What the statements keep -/

section Valid

variable {db : AuthDb}

theorem familyIds_updateFamily (db : AuthDb) (familyId : String)
    {f : TokenFamilyORM → TokenFamilyORM} (hid : ∀ r, (f r).familyId = r.familyId) :
    (updateFamily familyId f db).familyIds = db.familyIds :=
  column_map_of_eq hid _ db.tokenFamilies

theorem AuthDb.Valid.updateFamily (h : db.Valid) (familyId : String)
    {f : TokenFamilyORM → TokenFamilyORM} (hid : ∀ r, (f r).familyId = r.familyId)
    (hemail : ∀ r, (f r).email = r.email) : (updateFamily familyId f db).Valid := by
  refine ⟨h.users, ⟨?_, ?_⟩, ?_⟩
  · show ((db.tokenFamilies.map _).filterMap _).Nodup
    rw [keys_map_of_eq]
    · exact h.families.pkey
    · intro r _
      split
      · rw [hid]
      · rfl
  · intro r hr
    obtain ⟨r₀, hr₀, rfl⟩ := List.mem_map.mp hr
    split
    · rw [hemail]
      exact h.families.emailFkey r₀ hr₀
    · exact h.families.emailFkey r₀ hr₀
  · rw [familyIds_updateFamily db familyId hid]
    exact h.sessions

/-- The database without the sessions under some access tokens. -/
def AuthDb.withoutSessions (db : AuthDb) (accessTokens : List String) : AuthDb :=
  { db with sessions := db.sessions.filter fun s => decide (s.accessToken ∉ accessTokens) }

def AuthDb.withoutFamilies (db : AuthDb) (familyIds : List String) : AuthDb :=
  { db with tokenFamilies := db.tokenFamilies.filter fun f => decide (f.familyId ∉ familyIds) }

theorem AuthDb.Valid.withoutSessions (h : db.Valid) (accessTokens : List String) :
    (db.withoutSessions accessTokens).Valid := by
  have hsub : (db.sessions.filter fun s => decide (s.accessToken ∉ accessTokens)).Sublist
    db.sessions := List.filter_sublist
  refine ⟨h.users, h.families, ?_, ?_, ?_, ?_⟩
  · exact h.sessions.pkey.sublist (hsub.filterMap _)
  · exact h.sessions.refreshToken.sublist (hsub.filterMap _)
  · exact fun s hs => h.sessions.emailFkey s (hsub.subset hs)
  · exact fun s hs => h.sessions.familyFkey s (hsub.subset hs)

theorem AuthDb.Valid.withoutFamilies (h : db.Valid) {familyIds : List String}
    (hfree : ∀ s ∈ db.sessions, ∀ f, s.familyId = some f → f ∉ familyIds) :
    (db.withoutFamilies familyIds).Valid := by
  have hsub : (db.tokenFamilies.filter fun f => decide (f.familyId ∉ familyIds)).Sublist
    db.tokenFamilies := List.filter_sublist
  refine ⟨h.users, ⟨?_, ?_⟩, h.sessions.pkey, h.sessions.refreshToken, h.sessions.emailFkey, ?_⟩
  · exact h.families.pkey.sublist (hsub.filterMap _)
  · exact fun f hf => h.families.emailFkey f (hsub.subset hf)
  · intro s hs f hf
    obtain ⟨r, hr, rfl⟩ := List.mem_map.mp (h.sessions.familyFkey s hs f hf)
    apply List.mem_map_of_mem
    apply List.mem_filter.mpr
    exact ⟨hr, decide_eq_true (hfree s hs _ hf)⟩

/-- What a new session needs: a user, a family, and token hashes no other session has. -/
structure AuthDb.Admits (db : AuthDb) (session : SessionORM) : Prop where
  email : session.email ∈ db.userEmails
  family : ∀ f, session.familyId = some f → f ∈ db.familyIds
  accessToken : ∀ s ∈ db.sessions, s.accessToken ≠ session.accessToken
  refreshToken : ∀ s ∈ db.sessions, s.refreshToken ≠ session.refreshToken

theorem valid_insertSession_iff (h : db.Valid) (session : SessionORM) :
    (insertSession session db).Valid ↔ db.Admits session := by
  constructor
  · intro hnew
    have hmem : session ∈ (insertSession session db).sessions :=
      List.mem_append_right _ (List.mem_singleton_self _)
    refine ⟨hnew.sessions.emailFkey session hmem, hnew.sessions.familyFkey session hmem, ?_, ?_⟩
    · intro s hs heq
      exact (nodup_keys_concat.mp hnew.sessions.pkey).2 s hs _ rfl (congrArg some heq)
    · intro s hs heq
      exact (nodup_keys_concat.mp hnew.sessions.refreshToken).2 s hs _ rfl (congrArg some heq)
  · intro hadmits
    refine ⟨h.users, h.families, ?_, ?_, ?_, ?_⟩
    · refine nodup_keys_concat.mpr ⟨h.sessions.pkey, ?_⟩
      rintro s hs k hk heq
      exact hadmits.accessToken s hs (Option.some.inj (heq.trans hk.symm))
    · refine nodup_keys_concat.mpr ⟨h.sessions.refreshToken, ?_⟩
      rintro s hs k hk heq
      exact hadmits.refreshToken s hs (Option.some.inj (heq.trans hk.symm))
    · intro s hs
      rcases List.mem_append.mp hs with hs | hs
      · exact h.sessions.emailFkey s hs
      · rw [List.mem_singleton.mp hs]
        exact hadmits.email
    · intro s hs
      rcases List.mem_append.mp hs with hs | hs
      · exact h.sessions.familyFkey s hs
      · rw [List.mem_singleton.mp hs]
        exact hadmits.family

/-! ## Commits -/

theorem commit_of_valid {α : Type} {f : Statement AuthDb} (h : (f db).Valid) (result : α) :
    db.commit [f] result = (.ok result, f db) := by
  unfold AuthDb.commit
  rw [execAll_cons ((satisfies_authSchema_iff _).mpr h)]
  rfl

theorem commit_of_not_valid {α : Type} {f : Statement AuthDb} (h : ¬ (f db).Valid) (result : α) :
    ∃ name, db.commit [f] result = (.error (.integrityError name), db) := by
  obtain ⟨name, hname⟩ := execAll_cons_error (fun hsat => h ((satisfies_authSchema_iff _).mp hsat)) []
  refine ⟨name, ?_⟩
  unfold AuthDb.commit
  rw [hname]

theorem withoutSessions_nil (db : AuthDb) : db.withoutSessions [] = db := by
  simp [AuthDb.withoutSessions]

theorem withoutSessions_cons (db : AuthDb) (k : String) (ks : List String) :
    db.withoutSessions (k :: ks) = (deleteSession k db).withoutSessions ks := by
  simp only [AuthDb.withoutSessions, deleteSession, List.filter_filter]
  congr 2
  funext s
  simp [Bool.and_comm]

theorem deleteSession_eq (db : AuthDb) (k : String) : deleteSession k db = db.withoutSessions [k] := by
  rw [withoutSessions_cons, withoutSessions_nil]

theorem withoutFamilies_nil (db : AuthDb) : db.withoutFamilies [] = db := by
  simp [AuthDb.withoutFamilies]

theorem withoutFamilies_cons (db : AuthDb) (f : String) (fs : List String) :
    db.withoutFamilies (f :: fs) = (deleteFamily f db).withoutFamilies fs := by
  simp only [AuthDb.withoutFamilies, deleteFamily, List.filter_filter]
  congr 2
  funext r
  simp [Bool.and_comm]

theorem deleteFamily_eq (db : AuthDb) (f : String) : deleteFamily f db = db.withoutFamilies [f] := by
  rw [withoutFamilies_cons, withoutFamilies_nil]

/-- Deleting sessions never fails. Induction on the list; each DELETE keeps the constraints. -/
theorem commit_deleteSessions {α : Type} (h : db.Valid) (rows : List SessionORM) (result : α) :
    db.commit (rows.map fun s => deleteSession s.accessToken) result =
      (.ok result, db.withoutSessions (rows.map (·.accessToken))) := by
  have hexec : execAll authSchema (rows.map fun s => deleteSession s.accessToken) db =
      .ok (db.withoutSessions (rows.map (·.accessToken))) := by
    induction rows generalizing db with
    | nil =>
      show execAll authSchema [] db = .ok (db.withoutSessions [])
      rw [withoutSessions_nil, execAll_nil]
    | cons s rows ih =>
      have hvalid : (deleteSession s.accessToken db).Valid := by
        rw [deleteSession_eq]
        exact h.withoutSessions [s.accessToken]
      rw [List.map_cons, List.map_cons, execAll_cons ((satisfies_authSchema_iff _).mpr hvalid),
        ih hvalid, withoutSessions_cons]
  unfold AuthDb.commit
  rw [hexec]

theorem commit_deleteFamilies {α : Type} (h : db.Valid) {rows : List TokenFamilyORM}
    (hfree : ∀ s ∈ db.sessions, ∀ f, s.familyId = some f → f ∉ rows.map (·.familyId))
    (result : α) :
    db.commit (rows.map fun f => deleteFamily f.familyId) result =
      (.ok result, db.withoutFamilies (rows.map (·.familyId))) := by
  have hexec : execAll authSchema (rows.map fun f => deleteFamily f.familyId) db =
      .ok (db.withoutFamilies (rows.map (·.familyId))) := by
    -- each DELETE leaves the sessions, so the families to come stay unreferenced
    induction rows generalizing db with
    | nil =>
      show execAll authSchema [] db = .ok (db.withoutFamilies [])
      rw [withoutFamilies_nil, execAll_nil]
    | cons r rows ih =>
      have hvalid : (deleteFamily r.familyId db).Valid := by
        rw [deleteFamily_eq]
        refine h.withoutFamilies fun s hs f hf hmem => ?_
        rw [List.mem_singleton.mp hmem] at hf
        exact hfree s hs r.familyId hf List.mem_cons_self
      have hrest : ∀ s ∈ (deleteFamily r.familyId db).sessions, ∀ f, s.familyId = some f →
          f ∉ rows.map (·.familyId) :=
        fun s hs f hf hmem => hfree s hs f hf (List.mem_cons_of_mem _ hmem)
      rw [List.map_cons, List.map_cons, execAll_cons ((satisfies_authSchema_iff _).mpr hvalid),
        ih hvalid hrest, withoutFamilies_cons]
  unfold AuthDb.commit
  rw [hexec]

end Valid

end NocIq
