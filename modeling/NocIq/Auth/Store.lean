import Mathlib.Data.List.Sort
import NocIq.Auth.Schema

/-!
# NocIq — the authentication store

Login, logout and the two lookups of `AuthStore`, with the repository methods they call. A call
takes the readings of the clock it makes and the identifiers it draws with `uuid4` as arguments;
hashing is a parameter (`AuthSettings`).

* **`login` / `logout`** — with the error that keeps a login from returning.
* **`getUserForToken` / `getUserSessions`** — the two lookups, each with its own check of the expiry.
-/

namespace NocIq

open Relational

/-! ## Settings and requests -/

/-- The settings of the store, the functions of `app.core.security`, and how the two columns give
a datetime back: aware or naive. `importedAt` is the default of `created_at`, which is evaluated
once, when the module is imported. -/
structure AuthSettings where
  authMaxFailedAttempts : Int := 5
  authLockoutDurationMinutes : Int := 15
  hashToken : String → String
  verifyPassword : String → String → Bool
  lockedUntilAware : Bool := false
  expiresAtAware : Bool := false
  importedAt : Datetime

def tokenTtlSeconds : Int := 3600

/-- What a `DateTime` column gives back of a datetime in UTC. -/
def columnValue (isAware : Bool) (value : Datetime) : Datetime :=
  if isAware then value else value.withoutTzinfo

inductive Role where
  | admin
  | engineer
  deriving DecidableEq, Repr

/-- `Role(value)`. -/
def Role.ofValue (value : String) : Except Exc Role :=
  if value = "admin" then .ok .admin
  else if value = "engineer" then .ok .engineer
  else .error (.valueError s!"'{value}' is not a valid Role")

structure AuthUser where
  id : String
  email : String
  fullName : Option String
  role : Role
  stellarWallet : Option String
  createdAt : Datetime
  deriving DecidableEq, Repr

structure AuthSessionResponse where
  accessToken : String
  refreshToken : String
  tokenType : String := "bearer"
  expiresIn : Int
  user : AuthUser
  deriving DecidableEq, Repr

/-- One dictionary of `get_user_sessions`. -/
structure SessionInfo where
  accessTokenPreview : Option String
  refreshTokenPreview : Option String
  email : String
  expiresAt : Datetime
  createdAt : Datetime
  isActive : Bool
  deriving DecidableEq, Repr

/-- A call of `login`: the clock at the lock check and at the end, and what it draws. -/
structure LoginCall where
  email : String
  password : String
  checkedAt : Time
  now : Time
  familyId : String
  accessToken : String
  refreshToken : String
  deriving DecidableEq, Repr

/-! ## The user repository -/

def userOrmToPydantic (orm : UserORM) : Except Exc AuthUser :=
  match Role.ofValue orm.role with
  | .error e => .error e
  | .ok role => .ok { orm with role }

/-- `stored_user.user_id`. The key of the model is called `id`, and it has no `user_id`. -/
def UserORM.userId (_ : UserORM) : Except Exc String :=
  .error (.attributeError "'UserORM' object has no attribute 'user_id'")

def getByEmail (db : AuthDb) (email : String) : Option UserORM :=
  db.users.find? fun u => decide (u.email = email)

/-- `locked_until > datetime.utcnow()`. -/
def isAccountLocked (db : AuthDb) (email : String) (now : Time) : Except Exc Bool :=
  match getByEmail db email with
  | none => .ok false
  | some user =>
    match user.lockedUntil with
    | none => .ok false
    | some lockedUntil => (Datetime.utcnow now).lt lockedUntil

def incrementFailedAttempts (email : String) : Statement AuthDb :=
  updateUser email fun u =>
    { u with failedLoginAttempts := some (u.failedLoginAttempts.getD 0 + 1) }

def resetFailedAttempts (email : String) : Statement AuthDb :=
  updateUser email fun u => { u with failedLoginAttempts := some 0, lockedUntil := none }

def lockAccount (cfg : AuthSettings) (email : String) (lockedUntil : Datetime) :
    Statement AuthDb :=
  updateUser email fun u =>
    { u with lockedUntil := some (columnValue cfg.lockedUntilAware lockedUntil) }

/-! ## The session repository -/

def getSession (db : AuthDb) (accessToken : String) : Option SessionORM :=
  db.sessions.find? fun s => decide (s.accessToken = accessToken)

def getSessionByRefreshToken (db : AuthDb) (refreshToken : String) : Option SessionORM :=
  db.sessions.find? fun s => decide (s.refreshToken = refreshToken)

def listSessionsByEmail (db : AuthDb) (email : String) : List SessionORM :=
  (db.sessions.filter fun s => decide (s.email = email)).insertionSort
    fun a b => b.createdAt.instant ≤ a.createdAt.instant

/-- The row `create_session` adds, as it is read back. -/
def newSession (cfg : AuthSettings) (accessToken refreshToken email : String) (familyId : String)
    (sequence : Int) (now : Time) : SessionORM where
  accessToken := cfg.hashToken accessToken
  refreshToken := cfg.hashToken refreshToken
  email := email
  familyId := some familyId
  sequence := sequence
  expiresAt := columnValue cfg.expiresAtAware ((Datetime.now now).add (timedelta 0 0 tokenTtlSeconds))
  createdAt := columnValue cfg.expiresAtAware cfg.importedAt

/-! ## `login` -/

def acceptLogin (cfg : AuthSettings) (a : LoginCall) (storedUser : UserORM) (db : AuthDb) :
    Except Exc AuthSessionResponse × AuthDb :=
  let db := resetFailedAttempts a.email db
  let family : TokenFamilyORM := { familyId := a.familyId, email := a.email }
  match db.commit [insertFamily family] () with
  | (.error e, db) => (.error e, db)
  | (.ok _, db) =>
    let session := newSession cfg a.accessToken a.refreshToken a.email a.familyId 0 a.now
    match db.commit [insertSession session] () with
    | (.error e, db) => (.error e, db)
    | (.ok _, db) =>
      -- everything is committed when the audit entry asks the user for its `user_id`
      match storedUser.userId with
      | .error e => (.error e, db)
      | .ok actorId =>
        let db := db.logEvent
          { eventType := "login_success", email := a.email, actorId := some actorId }
        match userOrmToPydantic storedUser with
        | .error e => (.error e, db)
        | .ok user =>
          let response : AuthSessionResponse :=
            { accessToken := a.accessToken, refreshToken := a.refreshToken
              expiresIn := tokenTtlSeconds, user }
          (.ok response, db)

/-- The failure path. `storedUser` is reloaded after the increment. -/
def rejectLogin (cfg : AuthSettings) (a : LoginCall) (db : AuthDb) :
    Except Exc AuthSessionResponse × AuthDb :=
  let db := incrementFailedAttempts a.email db
  match getByEmail db a.email with
  | none =>
    (.error (.valueError "Invalid credentials"), db.logEvent
      { eventType := "login_failed", email := a.email
        details := [("reason", .str "invalid_credentials")] })
  | some storedUser =>
    -- the limit is compared with the counter after the increment
    if cfg.authMaxFailedAttempts ≤ storedUser.failedLoginAttempts.getD 0 then
      let minutes := cfg.authLockoutDurationMinutes
      let db := lockAccount cfg a.email ((Datetime.now a.now).add (timedelta 0 minutes 0)) db
      match storedUser.userId with
      | .error e => (.error e, db)
      | .ok actorId =>
        (.error (.valueError
          s!"Account locked due to too many failed attempts. Try again in {minutes} minutes"),
          db.logEvent
            { eventType := "account_locked", email := a.email, actorId := some actorId
              details := [("lockout_duration_minutes", .int minutes),
                ("failed_attempts", .int (storedUser.failedLoginAttempts.getD 0))] })
    else
      match storedUser.userId with
      | .error e => (.error e, db)
      | .ok actorId =>
        (.error (.valueError "Invalid credentials"), db.logEvent
          { eventType := "login_failed", email := a.email, actorId := some actorId
            details := [("reason", .str "invalid_credentials")] })

/-- `AuthStore.login`. -/
def login (cfg : AuthSettings) (a : LoginCall) (db : AuthDb) :
    Except Exc AuthSessionResponse × AuthDb :=
  match isAccountLocked db a.email a.checkedAt with
  | .error e => (.error e, db)
  | .ok true =>
    (.error (.valueError "Account is temporarily locked due to too many failed login attempts"),
      db.logEvent { eventType := "login_failed_locked", email := a.email
                    details := [("reason", .str "account_locked")] })
  | .ok false =>
    match getByEmail db a.email with
    | none => rejectLogin cfg a db
    | some storedUser =>
      if cfg.verifyPassword a.password storedUser.hashedPassword then
        acceptLogin cfg a storedUser db
      else rejectLogin cfg a db

/-! ## `logout` and the lookups -/

/-- `AuthStore.logout`. -/
def logout (cfg : AuthSettings) (token : String) (db : AuthDb) : Except Exc Unit × AuthDb :=
  match getSession db (cfg.hashToken token) with
  | none => (.ok (), db)
  | some session =>
    match db.commit [deleteSession session.accessToken] () with
    | (.error e, db) => (.error e, db)
    | (.ok _, db) => (.ok (), db.logEvent { eventType := "logout", email := session.email })

/-- `now > expires_at` in `get_user_for_token`. An aware `expires_at` loses its offset, and the
clock is read again, naive; a naive one meets the aware clock. -/
def tokenExpired (expiresAt : Datetime) (now : Time) : Except Exc Bool :=
  if expiresAt.hasTzinfo then expiresAt.withoutTzinfo.lt (Datetime.utcnow now)
  else expiresAt.lt (Datetime.now now)

/-- `AuthStore.get_user_for_token`. -/
def getUserForToken (cfg : AuthSettings) (token : String) (now : Time) (db : AuthDb) :
    Except Exc (Option AuthUser) × AuthDb :=
  match getSession db (cfg.hashToken token) with
  | none => (.ok none, db)
  | some session =>
    match tokenExpired session.expiresAt now with
    | .error e => (.error e, db)
    | .ok true => db.commit [deleteSession session.accessToken] none
    | .ok false =>
      match getByEmail db session.email with
      | none => (.ok none, db)
      | some storedUser => ((userOrmToPydantic storedUser).map some, db)

/-- `now > expires_at` in `get_user_sessions`, where `expires_at` is made naive and `now` is not. -/
def sessionExpired (expiresAt : Datetime) (now : Time) : Except Exc Bool :=
  expiresAt.withoutTzinfo.lt (Datetime.now now)

/-- `token[:12] + "..." if token else None`. -/
def tokenPreview (token : String) : Option String :=
  if token = "" then none else some (String.ofList (token.toList.take 12) ++ "...")

def sessionInfo (now : Time) (session : SessionORM) : Except Exc SessionInfo :=
  match sessionExpired session.expiresAt now with
  | .error e => .error e
  | .ok isExpired =>
    .ok { accessTokenPreview := tokenPreview session.accessToken
          refreshTokenPreview := tokenPreview session.refreshToken
          email := session.email
          expiresAt := session.expiresAt
          createdAt := session.createdAt
          isActive := !isExpired }

/-- `AuthStore.get_user_sessions`. -/
def getUserSessions (email : String) (now : Time) (db : AuthDb) : Except Exc (List SessionInfo) :=
  (listSessionsByEmail db email).mapM (sessionInfo now)

/-! ## One user -/

def readableSettings : AuthSettings where
  hashToken token := "hash of " ++ token
  verifyPassword password hashedPassword := decide (hashedPassword = "hash of " ++ password)
  importedAt := .aware 0 0

def registeredUser : UserORM where
  id := "user_1"
  email := "user@example.com"
  hashedPassword := "hash of Password123!"
  createdAt := .naive 0

def oneUser : AuthDb where
  users := [registeredUser]

end NocIq
