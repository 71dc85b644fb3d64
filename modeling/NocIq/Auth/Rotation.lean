import NocIq.Auth.Calls

/-!
# NocIq — what the authentication calls do

`login`, `refresh`, `logout` and `logout_all_sessions`, one call after another: the effect of each
on the families and the sessions.

* **`login_effect` / `logout_effect` / `logoutAllSessions_eq`** — logging in and out.
* **`rotation_alone`** — the statements of a rotation, from the counter to the new session.
* **`refresh_effect`** — what a refresh does where no session is behind its family.
-/

namespace NocIq

open Relational Interleaving

variable {cfg : AuthSettings} {db db' : AuthDb}

/-! ## Runs -/

inductive AuthEvent where
  | login (a : LoginCall)
  | refresh (a : RefreshCall)
  | logout (token : String)
  | logoutAllSessions (email : String)
  deriving DecidableEq, Repr

/-- The database after a call. -/
def serveAuth (cfg : AuthSettings) (db : AuthDb) : AuthEvent → AuthDb
  | .login a => (login cfg a db).2
  | .refresh a => (refresh cfg a db).2
  | .logout token => (logout cfg token db).2
  | .logoutAllSessions email => (NocIq.logoutAllSessions email db).2

abbrev AuthRun (cfg : AuthSettings) :=
  Runs.Run fun (db : AuthDb) (e : AuthEvent) db' => serveAuth cfg db e = db'

/-- Registered users, and nobody has logged in yet. -/
structure AuthDb.Initial (db : AuthDb) : Prop where
  valid : db.Valid
  sessions : db.sessions = []
  tokenFamilies : db.tokenFamilies = []

/-! ## The invariant -/

/-- The constraints hold, and every session has a family, of the same email. -/
structure AuthDb.Consistent (db : AuthDb) : Prop where
  valid : db.Valid
  owned : ∀ s ∈ db.sessions, ∃ f, s.familyId = some f
  email : ∀ s ∈ db.sessions, ∀ f ∈ db.tokenFamilies, s.familyId = some f.familyId →
    s.email = f.email

/-- One session a family, not behind it; and no family is compromised. -/
structure FamilyInvariant (db : AuthDb) : Prop extends db.Consistent where
  one : (db.sessions.filterMap (·.familyId)).Nodup
  ahead : ∀ s ∈ db.sessions, ∀ f ∈ db.tokenFamilies, s.familyId = some f.familyId →
    f.currentSequence ≤ s.sequence
  trusted : ∀ f ∈ db.tokenFamilies, f.compromised = false

/-- The sessions and the families are the same, and so are the emails of the users. -/
structure SameTables (db db' : AuthDb) : Prop where
  emails : db'.userEmails = db.userEmails
  tokenFamilies : db'.tokenFamilies = db.tokenFamilies
  sessions : db'.sessions = db.sessions

theorem SameTables.logEvent (db : AuthDb) (entry : AuthAuditLog) :
    SameTables db (db.logEvent entry) := ⟨rfl, rfl, rfl⟩

theorem SameTables.trans {db'' : AuthDb} (h : SameTables db db') (h' : SameTables db' db'') :
    SameTables db db'' :=
  ⟨h'.emails.trans h.emails, h'.tokenFamilies.trans h.tokenFamilies,
    h'.sessions.trans h.sessions⟩

theorem SameTables.updateUser (db : AuthDb) (email : String) {f : UserORM → UserORM}
    (hemail : ∀ u, (f u).email = u.email) : SameTables db (updateUser email f db) :=
  ⟨column_map_of_eq hemail _ db.users, rfl, rfl⟩

theorem SameTables.valid (h : SameTables db db') (hv : db.Valid) : db'.Valid := by
  have hids : db'.familyIds = db.familyIds := by
    unfold AuthDb.familyIds
    rw [h.tokenFamilies]
  refine ⟨?_, ?_, ?_⟩
  · have husers := hv.users
    rw [List.filterMap_eq_map'] at husers ⊢
    show db'.userEmails.Nodup
    rw [h.emails]
    exact husers
  · rw [h.emails, h.tokenFamilies]
    exact hv.families
  · rw [h.emails, hids, h.sessions]
    exact hv.sessions

/-- The families of `db'` are families of `db`, as far as ids and emails go. -/
def FamiliesFrom (db db' : AuthDb) : Prop :=
  ∀ f' ∈ db'.tokenFamilies, ∃ f ∈ db.tokenFamilies, f.familyId = f'.familyId ∧ f.email = f'.email

theorem FamiliesFrom.of_subset (h : db'.tokenFamilies ⊆ db.tokenFamilies) : FamiliesFrom db db' :=
  fun f hf => ⟨f, h hf, rfl, rfl⟩

variable {familyId email : String}

theorem FamiliesFrom.agree (hfrom : FamiliesFrom db db')
    (h : ∀ f ∈ db.tokenFamilies, f.familyId = familyId → f.email = email) :
    ∀ f ∈ db'.tokenFamilies, f.familyId = familyId → f.email = email := by
  intro f' hf' hid
  obtain ⟨f, hf, hid', hemail⟩ := hfrom f' hf'
  rw [← hemail]
  exact h f hf (hid'.trans hid)

theorem AuthDb.Consistent.mono (h : db.Consistent) (hvalid : db'.Valid)
    (hsessions : db'.sessions ⊆ db.sessions) (hfamilies : FamiliesFrom db db') :
    db'.Consistent := by
  refine ⟨hvalid, fun s hs => h.owned s (hsessions hs), ?_⟩
  intro s hs f' hf' hsf
  obtain ⟨f, hf, hid, hemail⟩ := hfamilies f' hf'
  rw [← hemail]
  exact h.email s (hsessions hs) f hf (by rw [hid]; exact hsf)

theorem insertFamily_unowned (h : db.Valid) {family : TokenFamilyORM}
    (hvalid : (insertFamily family db).Valid) :
    ∀ s ∈ db.sessions, s.familyId ≠ some family.familyId := by
  intro s hs heq
  obtain ⟨f, hf, hid⟩ := List.mem_map.mp (h.sessions.familyFkey s hs _ heq)
  exact (nodup_keys_concat.mp hvalid.families.pkey).2 f hf _ rfl (congrArg some hid)

theorem AuthDb.Consistent.insertFamily (h : db.Consistent) {family : TokenFamilyORM}
    (hvalid : (insertFamily family db).Valid) : (insertFamily family db).Consistent := by
  refine ⟨hvalid, h.owned, ?_⟩
  intro s hs f hf hsf
  rcases List.mem_append.mp hf with hf | hf
  · exact h.email s hs f hf hsf
  · rw [List.mem_singleton.mp hf] at hsf
    exact absurd hsf (insertFamily_unowned h.valid hvalid s hs)

theorem AuthDb.Consistent.insertSession (h : db.Consistent) {session : SessionORM}
    (hvalid : (insertSession session db).Valid) (howned : session.familyId = some familyId)
    (hemail : ∀ f ∈ db.tokenFamilies, f.familyId = familyId → session.email = f.email) :
    (insertSession session db).Consistent := by
  refine ⟨hvalid, ?_, ?_⟩
  · intro s hs
    rcases List.mem_append.mp hs with hs | hs
    · exact h.owned s hs
    · rw [List.mem_singleton.mp hs]
      exact ⟨familyId, howned⟩
  · intro s hs f hf hsf
    rcases List.mem_append.mp hs with hs | hs
    · exact h.email s hs f hf hsf
    · rw [List.mem_singleton.mp hs] at hsf ⊢
      exact hemail f hf (Option.some.inj (hsf.symm.trans howned))

theorem SameTables.consistent (h : SameTables db db') (hc : db.Consistent) : db'.Consistent := by
  refine hc.mono (h.valid hc.valid) ?_ (.of_subset ?_)
  · rw [h.sessions]
    exact List.Subset.refl _
  · rw [h.tokenFamilies]
    exact List.Subset.refl _

theorem SameTables.invariant (h : SameTables db db') (hI : FamilyInvariant db) :
    FamilyInvariant db' := by
  refine ⟨h.consistent hI.toConsistent, ?_, ?_, ?_⟩
  · rw [h.sessions]
    exact hI.one
  · rw [h.sessions, h.tokenFamilies]
    exact hI.ahead
  · rw [h.tokenFamilies]
    exact hI.trusted

/-! ## What a login does -/

def LoginCall.family (a : LoginCall) : TokenFamilyORM := { familyId := a.familyId, email := a.email }

def LoginCall.session (cfg : AuthSettings) (a : LoginCall) : SessionORM :=
  newSession cfg a.accessToken a.refreshToken a.email a.familyId 0 a.now

/-- A login adds nothing, a family, or a family with a session. -/
inductive LoginEffect (cfg : AuthSettings) (a : LoginCall) (db db' : AuthDb) : Prop where
  | rejected (hsame : SameTables db db')
  | halfWay (db₀ : AuthDb) (hsame : SameTables db db₀)
      (hvalid : (insertFamily a.family db₀).Valid) (heq : db' = insertFamily a.family db₀)
  | accepted (db₀ : AuthDb) (hsame : SameTables db db₀)
      (hfamily : (insertFamily a.family db₀).Valid)
      (hsession : (insertSession (a.session cfg) (insertFamily a.family db₀)).Valid)
      (heq : db' = insertSession (a.session cfg) (insertFamily a.family db₀))

theorem rejectLogin_same (cfg : AuthSettings) (a : LoginCall) (db : AuthDb) :
    SameTables db (rejectLogin cfg a db).2 := by
  have hincrement : SameTables db (incrementFailedAttempts a.email db) :=
    .updateUser db a.email fun _ => rfl
  unfold rejectLogin
  dsimp only
  split
  · exact hincrement.trans (.logEvent _ _)
  · split
    · exact hincrement.trans (.updateUser _ a.email fun _ => rfl)
    · exact hincrement

theorem acceptLogin_effect (cfg : AuthSettings) (a : LoginCall) (storedUser : UserORM)
    (db : AuthDb) : LoginEffect cfg a db (acceptLogin cfg a storedUser db).2 := by
  have hreset : SameTables db (resetFailedAttempts a.email db) :=
    .updateUser db a.email fun _ => rfl
  unfold acceptLogin
  dsimp only
  by_cases hfamily : (insertFamily a.family (resetFailedAttempts a.email db)).Valid
  · rw [show ({ familyId := a.familyId, email := a.email } : TokenFamilyORM) = a.family from rfl,
      commit_of_valid hfamily]
    dsimp only
    by_cases hsession :
        (insertSession (a.session cfg) (insertFamily a.family (resetFailedAttempts a.email db))).Valid
    · rw [show newSession cfg a.accessToken a.refreshToken a.email a.familyId 0 a.now =
        a.session cfg from rfl, commit_of_valid hsession]
      exact .accepted _ hreset hfamily hsession rfl
    · obtain ⟨name, hname⟩ := commit_of_not_valid hsession ()
      rw [show newSession cfg a.accessToken a.refreshToken a.email a.familyId 0 a.now =
        a.session cfg from rfl, hname]
      exact .halfWay _ hreset hfamily rfl
  · obtain ⟨name, hname⟩ := commit_of_not_valid hfamily ()
    rw [show ({ familyId := a.familyId, email := a.email } : TokenFamilyORM) = a.family from rfl,
      hname]
    exact .rejected hreset

theorem login_effect (cfg : AuthSettings) (a : LoginCall) (db : AuthDb) :
    LoginEffect cfg a db (login cfg a db).2 := by
  unfold login
  split
  · exact .rejected ⟨rfl, rfl, rfl⟩
  · exact .rejected (.logEvent _ _)
  · split
    · exact .rejected (rejectLogin_same cfg a db)
    · split
      · exact acceptLogin_effect cfg a _ db
      · exact .rejected (rejectLogin_same cfg a db)

/-! ## What a refresh does -/

/-- The session a rotation makes, of a family whose counter was `sequence`. -/
def RefreshCall.session (cfg : AuthSettings) (a : RefreshCall) (email familyId : String)
    (sequence : Int) : SessionORM :=
  newSession cfg a.newAccess a.newRefresh email familyId (sequence + 1 + 1) a.now

/-- A rotation up to the deletion of the old session. -/
def rotatedOut (old : SessionORM) (family : TokenFamilyORM) (db : AuthDb) : AuthDb :=
  deleteSession old.accessToken
    (updateFamily family.familyId (fun f => { f with currentSequence := family.currentSequence + 1 })
      db)

theorem rotatedOut_valid (h : db.Valid) (old : SessionORM) (family : TokenFamilyORM) :
    (rotatedOut old family db).Valid := by
  unfold rotatedOut
  rw [deleteSession_eq]
  apply AuthDb.Valid.withoutSessions
  exact h.updateFamily _ (fun _ => rfl) fun _ => rfl

variable {s old : SessionORM}

theorem mem_rotatedOut_sessions {family : TokenFamilyORM} :
    s ∈ (rotatedOut old family db).sessions ↔
      s ∈ db.sessions ∧ s.accessToken ≠ old.accessToken := by
  show s ∈ db.sessions.filter _ ↔ _
  rw [List.mem_filter, decide_eq_true_eq]

theorem getFamily_familyId {family : TokenFamilyORM} (h : getFamily db familyId = some family) :
    family.familyId = familyId := by
  unfold getFamily at h
  simpa using List.find?_some h

theorem getFamily_update {family : TokenFamilyORM} (hfamily : getFamily db familyId = some family)
    {f : TokenFamilyORM → TokenFamilyORM} (hid : ∀ r, (f r).familyId = r.familyId) :
    getFamily (updateFamily familyId f db) familyId = some (f family) := by
  unfold getFamily at hfamily ⊢
  show (db.tokenFamilies.map _).find? _ = _
  rw [find_map_of_key hid, hfamily]
  rfl

theorem getFamily_of_mem (h : db.Valid) {family : TokenFamilyORM} (hmem : family ∈ db.tokenFamilies) :
    getFamily db family.familyId = some family := by
  have hfind := find_of_key_eq h.families.pkey hmem rfl
  unfold getFamily
  simpa using hfind

theorem getSession_of_mem (h : db.Valid) {s : SessionORM} (hmem : s ∈ db.sessions) :
    getSession db s.accessToken = some s := by
  have hfind := find_of_key_eq h.sessions.pkey hmem rfl
  unfold getSession
  simpa using hfind

theorem getByEmail_isSome (h : email ∈ db.userEmails) :
    ∃ user, getByEmail db email = some user := by
  obtain ⟨u, hu, rfl⟩ := List.mem_map.mp h
  apply Option.isSome_iff_exists.mp
  unfold getByEmail
  rw [List.find?_isSome]
  exact ⟨u, hu, by simp⟩

/-- The rotation of a session that is not behind its family, statement by statement: the old
session goes, and then the new one comes or the INSERT fails. -/
theorem rotation_alone (cfg : AuthSettings) (h : db.Valid) {family : TokenFamilyORM}
    (hold : old ∈ db.sessions) (hfamily : family ∈ db.tokenFamilies) (a : RefreshCall) :
    ((insertSession (a.session cfg old.email family.familyId family.currentSequence)
          (rotatedOut old family db)).Valid ∧
        (refreshCall cfg a).alone (.selectIncremented old family) db =
          (.error (.attributeError "'UserORM' object has no attribute 'user_id'"),
            insertSession (a.session cfg old.email family.familyId family.currentSequence)
              (rotatedOut old family db))) ∨
      (¬ (insertSession (a.session cfg old.email family.familyId family.currentSequence)
          (rotatedOut old family db)).Valid ∧
        ∃ name, (refreshCall cfg a).alone (.selectIncremented old family) db =
          (.error (.integrityError name), rotatedOut old family db)) := by
  have hget := getFamily_of_mem h hfamily
  obtain ⟨user, huser⟩ := getByEmail_isSome (h.sessions.emailFkey old hold)
  let advance : TokenFamilyORM → TokenFamilyORM :=
    fun f => { f with currentSequence := family.currentSequence + 1 }
  let advanced := updateFamily family.familyId advance db
  have hvalid : advanced.Valid := h.updateFamily _ (fun _ => rfl) fun _ => rfl
  have hadvanced : getFamily advanced family.familyId = some (advance family) :=
    getFamily_update hget fun _ => rfl
  have hsession : getSession advanced old.accessToken = some old := getSession_of_mem hvalid hold
  have hout : (rotatedOut old family db).Valid := rotatedOut_valid h old family
  have h₁ : (refreshCall cfg a).step (.selectIncremented old family) db =
      (.running (.updateSequence old family), db) := by
    simp only [refreshCall_step, RefreshPc.step, hget]
    rfl
  have h₂ : (refreshCall cfg a).step (.updateSequence old family) db =
      (.running (.refreshIncremented old family), advanced) := by
    simp only [refreshCall_step, RefreshPc.step, hget]
    exact RefreshPc.commit_of_valid hvalid
  have h₃ : (refreshCall cfg a).step (.refreshIncremented old family) advanced =
      (.running (.reloadOld old (advance family)), advanced) := by
    simp only [refreshCall_step, RefreshPc.step, hadvanced]
  have h₄ : (refreshCall cfg a).step (.reloadOld old (advance family)) advanced =
      (.running (.selectOld old (advance family)), advanced) := by
    simp only [refreshCall_step, RefreshPc.step, hsession]
    rfl
  have h₅ : (refreshCall cfg a).step (.selectOld old (advance family)) advanced =
      (.running (.deleteOld old (advance family)), advanced) := by
    simp only [refreshCall_step, RefreshPc.step, hsession]
    rfl
  have h₆ : (refreshCall cfg a).step (.deleteOld old (advance family)) advanced =
      (.running (.selectStoredUser old (advance family) true), rotatedOut old family db) :=
    RefreshPc.commit_of_valid hout
  have h₇ : (refreshCall cfg a).step (.selectStoredUser old (advance family) true)
      (rotatedOut old family db) =
      (.running (.reloadFamily old (advance family) user), rotatedOut old family db) := by
    have huser' : getByEmail (rotatedOut old family db) old.email = some user := huser
    simp only [refreshCall_step, RefreshPc.step, huser']
    rfl
  have h₈ : (refreshCall cfg a).step (.reloadFamily old (advance family) user)
      (rotatedOut old family db) =
      (.running (.insertSession old (advance family) user), rotatedOut old family db) := by
    have hadvanced' : getFamily (rotatedOut old family db) (advance family).familyId =
        some (advance family) := hadvanced
    simp only [refreshCall_step, RefreshPc.step, hadvanced']
  rw [Call.alone_running h₁, Call.alone_running h₂, Call.alone_running h₃, Call.alone_running h₄,
    Call.alone_running h₅, Call.alone_running h₆, Call.alone_running h₇, Call.alone_running h₈]
  -- what is left is the INSERT, the reload of the new session and the failing attribute
  by_cases hnew : (insertSession (a.session cfg old.email family.familyId family.currentSequence)
      (rotatedOut old family db)).Valid
  · refine .inl ⟨hnew, ?_⟩
    have h₉ : (refreshCall cfg a).step (.insertSession old (advance family) user)
        (rotatedOut old family db) = (.running (.refreshSession old (advance family) user),
          insertSession (a.session cfg old.email family.familyId family.currentSequence)
            (rotatedOut old family db)) :=
      RefreshPc.commit_of_valid hnew
    have hstored := getSession_of_mem hnew (List.mem_append_right _ (List.mem_singleton_self _))
    have h₁₀ : (refreshCall cfg a).step (.refreshSession old (advance family) user)
        (insertSession (a.session cfg old.email family.familyId family.currentSequence)
          (rotatedOut old family db)) =
        (.ended (.error (.attributeError "'UserORM' object has no attribute 'user_id'")),
          insertSession (a.session cfg old.email family.familyId family.currentSequence)
            (rotatedOut old family db)) := by
      simp only [refreshCall_step, RefreshPc.step, show cfg.hashToken a.newAccess =
        (a.session cfg old.email family.familyId family.currentSequence).accessToken from rfl,
        hstored]
      rfl
    rw [Call.alone_running h₉, Call.alone_ended h₁₀]
  · obtain ⟨name, hname⟩ := RefreshPc.commit_of_not_valid hnew
      (.refreshSession old (advance family) user)
    have h₉ : (refreshCall cfg a).step (.insertSession old (advance family) user)
        (rotatedOut old family db) = (.ended (.error (.integrityError name)),
          rotatedOut old family db) := hname
    exact .inr ⟨hnew, name, Call.alone_ended h₉⟩

/-- The token is that of a stored session, whose account is not locked. -/
structure RefreshCall.Presents (cfg : AuthSettings) (a : RefreshCall) (db : AuthDb)
    (old : SessionORM) : Prop where
  found : getSessionByRefreshToken db (cfg.hashToken a.refreshToken) = some old
  unlocked : isAccountLocked db old.email a.checkedAt = .ok false

/-- No session but the old one has a hash of the drawn tokens. -/
def RefreshCall.DrawsFresh (cfg : AuthSettings) (a : RefreshCall) (db : AuthDb)
    (old : SessionORM) : Prop :=
  ∀ s ∈ db.sessions, s.accessToken ≠ old.accessToken →
    s.accessToken ≠ cfg.hashToken a.newAccess ∧ s.refreshToken ≠ cfg.hashToken a.newRefresh

def RefreshCall.Rotates (cfg : AuthSettings) (a : RefreshCall) (db : AuthDb) : Prop :=
  ∃ old, a.Presents cfg db old ∧ a.DrawsFresh cfg db old

theorem getSessionByRefreshToken_mem {refreshToken : String}
    (h : getSessionByRefreshToken db refreshToken = some old) :
    old ∈ db.sessions ∧ old.refreshToken = refreshToken := by
  unfold getSessionByRefreshToken at h
  exact ⟨List.mem_of_find?_eq_some h, by simpa using List.find?_some h⟩

theorem getFamily_mem {family : TokenFamilyORM} (h : getFamily db familyId = some family) :
    family ∈ db.tokenFamilies :=
  List.mem_of_find?_eq_some h

theorem AuthDb.Valid.family (h : db.Valid) (hs : s ∈ db.sessions) (hf : s.familyId = some familyId) :
    ∃ family, getFamily db familyId = some family := by
  obtain ⟨family, hmem, rfl⟩ := List.mem_map.mp (h.sessions.familyFkey s hs familyId hf)
  exact ⟨family, getFamily_of_mem h hmem⟩

theorem rotated_valid_iff (h : db.Valid) {family : TokenFamilyORM} (hold : old ∈ db.sessions)
    (hfamily : family ∈ db.tokenFamilies) (a : RefreshCall) :
    (insertSession (a.session cfg old.email family.familyId family.currentSequence)
      (rotatedOut old family db)).Valid ↔ a.DrawsFresh cfg db old := by
  rw [valid_insertSession_iff (rotatedOut_valid h old family)]
  constructor
  · intro hadmits s hs hne
    have hs' : s ∈ (rotatedOut old family db).sessions := mem_rotatedOut_sessions.mpr ⟨hs, hne⟩
    exact ⟨hadmits.accessToken s hs', hadmits.refreshToken s hs'⟩
  · intro hfresh
    refine ⟨h.sessions.emailFkey old hold, ?_, ?_, ?_⟩
    · intro f hf
      obtain rfl := Option.some.inj hf
      show family.familyId ∈ (updateFamily family.familyId _ db).familyIds
      rw [familyIds_updateFamily]
      · exact List.mem_map_of_mem hfamily
      · exact fun _ => rfl
    · intro s hs
      obtain ⟨hs, hne⟩ := mem_rotatedOut_sessions.mp hs
      exact (hfresh s hs hne).1
    · intro s hs
      obtain ⟨hs, hne⟩ := mem_rotatedOut_sessions.mp hs
      exact (hfresh s hs hne).2

/-- **What a refresh does** where the sessions are not behind their families: nothing but an audit
entry, a rotation, or a rotation that stops short of the new session. -/
inductive RefreshEffect (cfg : AuthSettings) (a : RefreshCall) (db db' : AuthDb) : Prop where
  | rejected (hsame : SameTables db db') (hnot : ¬ a.Rotates cfg db)
  | halfWay (old : SessionORM) (family : TokenFamilyORM) (hpresents : a.Presents cfg db old)
      (hfamily : family ∈ db.tokenFamilies) (howned : old.familyId = some family.familyId)
      (hnot : ¬ a.Rotates cfg db) (heq : db' = rotatedOut old family db)
  | rotated (old : SessionORM) (family : TokenFamilyORM) (hpresents : a.Presents cfg db old)
      (hfamily : family ∈ db.tokenFamilies) (howned : old.familyId = some family.familyId)
      (hrotates : a.Rotates cfg db)
      (hvalid : (insertSession (a.session cfg old.email family.familyId family.currentSequence)
        (rotatedOut old family db)).Valid)
      (heq : db' = insertSession
        (a.session cfg old.email family.familyId family.currentSequence)
        (rotatedOut old family db))

theorem refresh_unknown (a : RefreshCall)
    (h : getSessionByRefreshToken db (cfg.hashToken a.refreshToken) = none) :
    refresh cfg a db = (.error (.valueError "Invalid or expired refresh token"), db) := by
  apply Call.alone_ended
  simp only [refreshCall_step, RefreshPc.step, h]
  rfl

theorem refresh_effect (cfg : AuthSettings) (h : FamilyInvariant db) (a : RefreshCall) :
    RefreshEffect cfg a db (refresh cfg a db).2 := by
  cases hfound : getSessionByRefreshToken db (cfg.hashToken a.refreshToken) with
  | none =>
    rw [refresh_unknown a hfound]
    refine .rejected ⟨rfl, rfl, rfl⟩ ?_
    rintro ⟨old, hpresents, -⟩
    rw [hpresents.found] at hfound
    cases hfound
  | some old =>
    obtain ⟨hold, -⟩ := getSessionByRefreshToken_mem hfound
    have h₁ : (refreshCall cfg a).step .selectSession db = (.running (.selectUser old), db) := by
      simp only [refreshCall_step, RefreshPc.step, hfound]
    -- no other answer to the lock check lets the session through
    have hnot : isAccountLocked db old.email a.checkedAt ≠ .ok false → ¬ a.Rotates cfg db := by
      rintro hlocked ⟨old', hpresents, -⟩
      obtain rfl : old = old' := Option.some.inj (hfound.symm.trans hpresents.found)
      exact hlocked hpresents.unlocked
    unfold refresh
    rw [Call.alone_running h₁]
    cases hlock : isAccountLocked db old.email a.checkedAt with
    | error e =>
      have h₂ : (refreshCall cfg a).step (.selectUser old) db = (.ended (.error e), db) := by
        simp only [refreshCall_step, RefreshPc.step, hlock]
        rfl
      rw [Call.alone_ended h₂]
      exact .rejected ⟨rfl, rfl, rfl⟩ (hnot (by rw [hlock]; nofun))
    | ok locked =>
      cases locked with
      | true =>
        have h₂ : ∃ entry result, (refreshCall cfg a).step (.selectUser old) db =
            (.running (.logEvent entry result), db) := by
          simp only [refreshCall_step, RefreshPc.step, hlock]
          exact ⟨_, _, rfl⟩
        obtain ⟨entry, result, h₂⟩ := h₂
        have h₃ : (refreshCall cfg a).step (.logEvent entry result) db =
            (.ended result, db.logEvent entry) := rfl
        rw [Call.alone_running h₂, Call.alone_ended h₃]
        exact .rejected (.logEvent db entry) (hnot (by rw [hlock]; nofun))
      | false =>
        obtain ⟨familyId, hid⟩ := h.owned old hold
        obtain ⟨family, hget⟩ := h.valid.family hold hid
        obtain rfl := getFamily_familyId hget
        have hfamily := getFamily_mem hget
        have h₂ : (refreshCall cfg a).step (.selectUser old) db =
            (.running (.selectFamily old family.familyId false), db) := by
          simp only [refreshCall_step, RefreshPc.step, hlock, hid]
        have hahead : ¬ old.sequence < family.currentSequence :=
          Int.not_lt.mpr (h.ahead old hold family hfamily hid)
        have h₃ : (refreshCall cfg a).step (.selectFamily old family.familyId false) db =
            (.running (.selectIncremented old family), db) := by
          simp only [refreshCall_step, RefreshPc.step, hget, h.trusted family hfamily,
            RefreshPc.checkReuse, if_neg hahead]
          rfl
        rw [Call.alone_running h₂, Call.alone_running h₃]
        have hpresents : a.Presents cfg db old := ⟨hfound, hlock⟩
        rcases rotation_alone cfg h.valid hold hfamily a with
          ⟨hvalid, heq⟩ | ⟨hinvalid, name, heq⟩
        · rw [heq]
          refine .rotated old family hpresents hfamily hid ?_ hvalid rfl
          exact ⟨old, hpresents, (rotated_valid_iff h.valid hold hfamily a).mp hvalid⟩
        · rw [heq]
          refine .halfWay old family hpresents hfamily hid ?_ rfl
          rintro ⟨old', hpresents', hfresh⟩
          obtain rfl : old = old' := Option.some.inj (hfound.symm.trans hpresents'.found)
          exact hinvalid ((rotated_valid_iff h.valid hold hfamily a).mpr hfresh)

/-! ## What a logout does -/

/-- The database without the sessions and the families of an email. -/
def AuthDb.withoutEmail (db : AuthDb) (email : String) : AuthDb :=
  { db with
    tokenFamilies := db.tokenFamilies.filter fun f => decide (f.email ≠ email)
    sessions := db.sessions.filter fun s => decide (s.email ≠ email) }

theorem mem_listSessionsByEmail :
    s ∈ listSessionsByEmail db email ↔ s ∈ db.sessions ∧ s.email = email := by
  unfold listSessionsByEmail
  rw [List.mem_insertionSort, List.mem_filter, decide_eq_true_eq]

theorem mem_listedSessions (h : db.Valid) (hs : s ∈ db.sessions) :
    s.email = email ↔
      s.accessToken ∈ (listSessionsByEmail db email).map (·.accessToken) := by
  constructor
  · intro hemail
    exact List.mem_map_of_mem (mem_listSessionsByEmail.mpr ⟨hs, hemail⟩)
  · intro hmem
    obtain ⟨row, hrow, hkey⟩ := List.mem_map.mp hmem
    obtain ⟨hrow, hemail⟩ := mem_listSessionsByEmail.mp hrow
    obtain rfl := eq_of_key_eq h.sessions.pkey hrow hs (congrArg some hkey) rfl
    exact hemail

theorem withoutSessions_listed (h : db.Valid) (email : String) :
    (db.withoutSessions ((listSessionsByEmail db email).map (·.accessToken))).sessions =
      db.sessions.filter fun s => decide (s.email ≠ email) := by
  apply List.filter_congr
  intro s hs
  apply decide_eq_decide.mpr
  rw [not_iff_not]
  exact (mem_listedSessions h hs).symm

theorem mem_selectedFamilies (h : db.Valid) {f : TokenFamilyORM} (hf : f ∈ db.tokenFamilies) :
    f.email = email ↔ f.familyId ∈
      (db.tokenFamilies.filter fun f => decide (f.email = email)).map (·.familyId) := by
  constructor
  · intro hemail
    exact List.mem_map_of_mem (List.mem_filter.mpr ⟨hf, decide_eq_true hemail⟩)
  · intro hmem
    obtain ⟨row, hrow, hid⟩ := List.mem_map.mp hmem
    obtain ⟨hrow, hemail⟩ := List.mem_filter.mp hrow
    obtain rfl := eq_of_key_eq h.families.pkey hrow hf (congrArg some hid) rfl
    exact of_decide_eq_true hemail

theorem withoutFamilies_selected (h : db.Valid) (email : String) :
    (db.withoutFamilies
        ((db.tokenFamilies.filter fun f => decide (f.email = email)).map (·.familyId))).tokenFamilies =
      db.tokenFamilies.filter fun f => decide (f.email ≠ email) := by
  apply List.filter_congr
  intro f hf
  apply decide_eq_decide.mpr
  rw [not_iff_not]
  exact (mem_selectedFamilies h hf).symm

theorem AuthDb.Consistent.families_free (h : db.Consistent) {rows : List TokenFamilyORM}
    (hgone : ∀ s ∈ db.sessions, s.email ≠ email)
    (hlisted : ∀ f ∈ db.tokenFamilies, f.email = email ↔ f.familyId ∈ rows.map (·.familyId)) :
    ∀ s ∈ db.sessions, ∀ f, s.familyId = some f → f ∉ rows.map (·.familyId) := by
  intro s hs id hid hmem
  obtain ⟨f, hf, rfl⟩ := List.mem_map.mp (h.valid.sessions.familyFkey s hs id hid)
  apply hgone s hs
  rw [h.email s hs f hf hid]
  exact (hlisted f hf).mpr hmem

theorem logoutAllSessions_eq (h : db.Consistent) (email : String) :
    ∃ count logs, logoutAllSessions email db =
      (.ok count, { db.withoutEmail email with auditLogs := logs }) := by
  let listed := listSessionsByEmail db email
  let db₁ := db.withoutSessions (listed.map (·.accessToken))
  have hvalid₁ : db₁.Valid := h.valid.withoutSessions _
  have hsessions : db₁.sessions = db.sessions.filter fun s => decide (s.email ≠ email) :=
    withoutSessions_listed h.valid email
  let selected := db.tokenFamilies.filter fun f => decide (f.email = email)
  let db₂ := db₁.withoutFamilies (selected.map (·.familyId))
  have hfamilies : db₂.tokenFamilies = db.tokenFamilies.filter fun f => decide (f.email ≠ email) :=
    withoutFamilies_selected h.valid email
  have hgone : ∀ s ∈ db₁.sessions, s.email ≠ email := by
    intro s hs
    rw [hsessions] at hs
    exact of_decide_eq_true (List.mem_filter.mp hs).2
  have hc₁ : db₁.Consistent :=
    h.mono hvalid₁ List.filter_sublist.subset (.of_subset (List.Subset.refl _))
  -- a session that is left has another email, and so has its family
  have hfree : ∀ s ∈ db₁.sessions, ∀ f, s.familyId = some f → f ∉ selected.map (·.familyId) :=
    hc₁.families_free hgone fun f hf => mem_selectedFamilies hvalid₁ hf
  have h₁ : (logoutAllCall email).step .selectSessions db =
      (.running (.deleteSessions listed), db) := rfl
  have h₂ : (logoutAllCall email).step (.deleteSessions listed) db =
      (.running (.selectFamilies listed.length), db₁) := by
    simp only [logoutAllCall_step, LogoutAllPc.step, LogoutAllPc.commit]
    rw [commit_deleteSessions h.valid]
  have h₃ : (logoutAllCall email).step (.selectFamilies listed.length) db₁ =
      (.running (.deleteFamilies listed.length selected), db₁) := rfl
  have h₄ : (logoutAllCall email).step (.deleteFamilies listed.length selected) db₁ =
      (.running (.logEvent listed.length), db₂) := by
    simp only [logoutAllCall_step, LogoutAllPc.step, LogoutAllPc.commit]
    rw [commit_deleteFamilies hvalid₁ hfree]
  have h₅ : ∃ entry, (logoutAllCall email).step (.logEvent listed.length) db₂ =
      (.ended (.ok listed.length), db₂.logEvent entry) := ⟨_, rfl⟩
  obtain ⟨entry, h₅⟩ := h₅
  refine ⟨listed.length, db₂.auditLogs ++ [entry], ?_⟩
  unfold logoutAllSessions
  rw [Call.alone_running h₁, Call.alone_running h₂, Call.alone_running h₃, Call.alone_running h₄,
    Call.alone_ended h₅]
  unfold AuthDb.logEvent AuthDb.withoutEmail
  rw [← hsessions, ← hfamilies]
  rfl

theorem AuthDb.Consistent.withoutEmail_valid (h : db.Consistent) (email : String) :
    (db.withoutEmail email).Valid := by
  have hfamilies : (db.withoutEmail email).tokenFamilies.Sublist db.tokenFamilies :=
    List.filter_sublist
  have hsessions : (db.withoutEmail email).sessions.Sublist db.sessions := List.filter_sublist
  refine ⟨h.valid.users, ⟨?_, ?_⟩, ?_, ?_, ?_, ?_⟩
  · exact h.valid.families.pkey.sublist (hfamilies.filterMap _)
  · exact fun f hf => h.valid.families.emailFkey f (hfamilies.subset hf)
  · exact h.valid.sessions.pkey.sublist (hsessions.filterMap _)
  · exact h.valid.sessions.refreshToken.sublist (hsessions.filterMap _)
  · exact fun s hs => h.valid.sessions.emailFkey s (hsessions.subset hs)
  · intro s hs familyId hf
    obtain ⟨hs, hne⟩ := List.mem_filter.mp hs
    obtain ⟨family, hmem, rfl⟩ := List.mem_map.mp (h.valid.sessions.familyFkey s hs familyId hf)
    apply List.mem_map_of_mem
    refine List.mem_filter.mpr ⟨hmem, ?_⟩
    rw [← h.email s hs family hmem hf]
    exact hne

theorem logout_effect (cfg : AuthSettings) (h : db.Valid) (token : String) :
    ∃ accessTokens, SameTables (db.withoutSessions accessTokens) (logout cfg token db).2 := by
  unfold logout
  split
  · refine ⟨[], ?_⟩
    rw [withoutSessions_nil]
    exact ⟨rfl, rfl, rfl⟩
  · rename_i session _
    refine ⟨[session.accessToken], ?_⟩
    have hcommit := commit_deleteSessions h [session] ()
    rw [List.map_singleton] at hcommit
    rw [hcommit]
    exact .logEvent _ _

end NocIq
