import NocIq.Auth.Rotation

/-!
# NocIq — lockout

The rule an account lock is meant to follow (`Lockout`), and what sequences of logins against a
registered account do. Outside a lock a login of a registered user never answers: the store asks
the user for a `user_id` before it returns or rejects.

* **`login_inside` / `login_outside`** — a login inside a lock, and any other.
* **`lockout_law_iff`** — the rule holds of a sequence exactly if all of its attempts fall inside
  a lock that was open before the first, read back naive.
-/

namespace NocIq

open Relational

variable {cfg : AuthSettings} {db : AuthDb} {email : String} {user : UserORM}

/-! ## The rule -/

/-- An account as the rule sees it: the failures since the last success or the end of the last
lock, and the end of the lock. -/
structure Lockout where
  failures : Int
  lockedUntil : Option Time
  deriving DecidableEq, Repr

namespace Lockout

def isLocked (l : Lockout) (now : Time) : Bool :=
  match l.lockedUntil with
  | none => false
  | some lockedUntil => decide (now < lockedUntil)

/-- A lock that is over takes its failures along. -/
def expire (l : Lockout) (now : Time) : Lockout :=
  match l.lockedUntil with
  | none => l
  | some lockedUntil => if now < lockedUntil then l else ⟨0, none⟩

/-- Whether the attempt succeeds, and the account after it. -/
def attempt (cfg : AuthSettings) (l : Lockout) (a : LoginCall) (isRight : Bool) : Bool × Lockout :=
  let l := l.expire a.checkedAt
  if l.isLocked a.checkedAt then (false, l)
  else if isRight then (true, ⟨0, none⟩)
  else if l.failures + 1 = cfg.authMaxFailedAttempts then
    (false, ⟨l.failures + 1, some (a.now + timedelta 0 cfg.authLockoutDurationMinutes 0)⟩)
  else (false, ⟨l.failures + 1, none⟩)

/-- The account as the row of its user has it. -/
def ofUser (user : UserORM) : Lockout :=
  ⟨user.failedLoginAttempts.getD 0, user.lockedUntil.map Datetime.instant⟩

end Lockout

def LoginCall.isRight (cfg : AuthSettings) (a : LoginCall) (user : UserORM) : Bool :=
  cfg.verifyPassword a.password user.hashedPassword

/-- A success returns, and a rejection is a `ValueError`. -/
def Answers (result : Except Exc AuthSessionResponse) (succeeds : Bool) : Prop :=
  if succeeds then ∃ response, result = .ok response
  else ∃ message, result = .error (.valueError message)

/-- From `now` on, the row of the user is locked when the rule says so. -/
def ShowsLock (db : AuthDb) (email : String) (l : Lockout) (now : Time) : Prop :=
  ∀ t, now ≤ t → isAccountLocked db email t = .ok (l.isLocked t)

/-- **The rule**, for a sequence of attempts from an account in state `l`. -/
def LockoutLaw (cfg : AuthSettings) (user : UserORM) : Lockout → AuthDb → List LoginCall → Prop
  | _, _, [] => True
  | l, db, a :: attempts =>
    let next := l.attempt cfg a (a.isRight cfg user)
    Answers (login cfg a db).1 next.1 ∧ ShowsLock (login cfg a db).2 user.email next.2 a.now ∧
      LockoutLaw cfg user next.2 (login cfg a db).2 attempts

/-! ## What a login answers -/

/-- The attempt falls inside a lock that the row has, read back naive. -/
def InsideLock (user : UserORM) (a : LoginCall) : Prop :=
  ∃ lockedUntil, user.lockedUntil = some lockedUntil ∧ lockedUntil.hasTzinfo = false ∧
    a.checkedAt < lockedUntil.instant

theorem isAccountLocked_of_user (h : getByEmail db email = some user) (now : Time) :
    isAccountLocked db email now =
      match user.lockedUntil with
      | none => .ok false
      | some lockedUntil => (Datetime.utcnow now).lt lockedUntil := by
  unfold isAccountLocked
  cases hfound : getByEmail db email with
  | none =>
    rw [hfound] at h
    cases h
  | some found =>
    rw [hfound] at h
    obtain rfl := Option.some.inj h
    rfl

variable {a : LoginCall}

theorem login_inside (cfg : AuthSettings) (h : getByEmail db a.email = some user)
    (hinside : InsideLock user a) :
    ∃ message entry, login cfg a db = (.error (.valueError message), db.logEvent entry) := by
  obtain ⟨lockedUntil, hlocked, hnaive, hbefore⟩ := hinside
  have hcheck : isAccountLocked db a.email a.checkedAt = .ok true := by
    rw [isAccountLocked_of_user h, hlocked]
    show (Datetime.utcnow a.checkedAt).lt lockedUntil = _
    rw [Datetime.lt_instants (by rw [hnaive]; rfl), Datetime.instant_utcnow,
      decide_eq_true hbefore]
  unfold login
  rw [hcheck]
  exact ⟨_, _, rfl⟩

theorem acceptLogin_error (a : LoginCall) (storedUser : UserORM) :
    ∃ e, (acceptLogin cfg a storedUser db).1 = .error e ∧ ∀ message, e ≠ .valueError message := by
  unfold acceptLogin
  dsimp only
  split
  · rename_i e db' hcommit
    refine ⟨e, rfl, ?_⟩
    rintro message rfl
    unfold AuthDb.commit at hcommit
    split at hcommit
    · cases hcommit
    · cases hcommit
  · split
    · rename_i e db' hcommit
      refine ⟨e, rfl, ?_⟩
      rintro message rfl
      unfold AuthDb.commit at hcommit
      split at hcommit
      · cases hcommit
      · cases hcommit
    · exact ⟨_, rfl, fun _ => nofun⟩

theorem getByEmail_updateUser (h : getByEmail db email = some user) {f : UserORM → UserORM}
    (hemail : ∀ u, (f u).email = u.email) :
    getByEmail (updateUser email f db) email = some (f user) := by
  unfold getByEmail at h ⊢
  show (db.users.map _).find? _ = _
  rw [find_map_of_key hemail, h]
  rfl

/-- The row of a user after a failure: one more is counted, and at the limit the account is
locked from now. -/
def afterFailure (cfg : AuthSettings) (now : Time) (user : UserORM) : UserORM :=
  let failures := user.failedLoginAttempts.getD 0 + 1
  if cfg.authMaxFailedAttempts ≤ failures then
    let lockedUntil := (Datetime.now now).add (timedelta 0 cfg.authLockoutDurationMinutes 0)
    { user with
      failedLoginAttempts := some failures
      lockedUntil := some (columnValue cfg.lockedUntilAware lockedUntil) }
  else { user with failedLoginAttempts := some failures }

/-- The failure path for a registered user: it raises something other than a `ValueError`, with the
failure counted and the lock stored. -/
theorem rejectLogin_eq (h : getByEmail db a.email = some user) :
    (∃ e, (rejectLogin cfg a db).1 = .error e ∧ ∀ message, e ≠ .valueError message) ∧
      getByEmail (rejectLogin cfg a db).2 a.email = some (afterFailure cfg a.now user) := by
  have hcounted : getByEmail (incrementFailedAttempts a.email db) a.email =
      some { user with failedLoginAttempts := some (user.failedLoginAttempts.getD 0 + 1) } :=
    getByEmail_updateUser h fun _ => rfl
  unfold rejectLogin afterFailure
  dsimp only
  rw [hcounted]
  dsimp only [Option.getD_some]
  by_cases hlimit : cfg.authMaxFailedAttempts ≤ user.failedLoginAttempts.getD 0 + 1
  · rw [if_pos hlimit, if_pos hlimit]
    exact ⟨⟨_, rfl, fun _ => nofun⟩, getByEmail_updateUser hcounted fun _ => rfl⟩
  · rw [if_neg hlimit, if_neg hlimit]
    exact ⟨⟨_, rfl, fun _ => nofun⟩, hcounted⟩

/-- Outside a lock, or with one read back aware, the attempt raises something other than a
`ValueError`, whatever the password. -/
theorem login_outside (cfg : AuthSettings) (h : getByEmail db a.email = some user)
    (houtside : ¬ InsideLock user a) :
    ∃ e, (login cfg a db).1 = .error e ∧ ∀ message, e ≠ .valueError message := by
  -- the lock check lets the attempt through, or raises
  have hopen : (∃ message, isAccountLocked db a.email a.checkedAt = .error (.typeError message)) ∨
      isAccountLocked db a.email a.checkedAt = .ok false := by
    rw [isAccountLocked_of_user h]
    cases hlocked : user.lockedUntil with
    | none => exact .inr rfl
    | some lockedUntil =>
      cases htz : lockedUntil.hasTzinfo with
      | true =>
        refine .inl ⟨_, Datetime.lt_typeError ?_⟩
        rw [htz]
        nofun
      | false =>
        right
        show (Datetime.utcnow a.checkedAt).lt lockedUntil = _
        rw [Datetime.lt_instants (by rw [htz]; rfl)]
        have hover : ¬ a.checkedAt < lockedUntil.instant :=
          fun hbefore => houtside ⟨lockedUntil, hlocked, htz, hbefore⟩
        exact congrArg Except.ok (decide_eq_false hover)
  -- either way: past the check, both paths read `user_id`
  unfold login
  rcases hopen with ⟨message, hcheck⟩ | hcheck
  · rw [hcheck]
    exact ⟨_, rfl, fun _ => nofun⟩
  · rw [hcheck, h]
    dsimp only
    split
    · exact acceptLogin_error a user
    · exact (rejectLogin_eq h).1

/-! ## Sequences of attempts -/

theorem Lockout.attempt_inside (h : InsideLock user a) (isRight : Bool) :
    (Lockout.ofUser user).attempt cfg a isRight = (false, Lockout.ofUser user) := by
  obtain ⟨lockedUntil, hlocked, -, hbefore⟩ := h
  have hexpire : (Lockout.ofUser user).expire a.checkedAt = Lockout.ofUser user := by
    unfold Lockout.expire Lockout.ofUser
    rw [hlocked]
    exact if_pos hbefore
  have hisLocked : (Lockout.ofUser user).isLocked a.checkedAt = true := by
    unfold Lockout.isLocked Lockout.ofUser
    rw [hlocked]
    exact decide_eq_true hbefore
  unfold Lockout.attempt
  simp only [hexpire, hisLocked, if_true]

theorem showsLock_ofUser (h : getByEmail db email = some user)
    (hnaive : ∀ lockedUntil, user.lockedUntil = some lockedUntil → lockedUntil.hasTzinfo = false)
    (now : Time) : ShowsLock db email (Lockout.ofUser user) now := by
  intro t _
  rw [isAccountLocked_of_user h]
  unfold Lockout.isLocked Lockout.ofUser
  cases hlocked : user.lockedUntil with
  | none => rfl
  | some lockedUntil =>
    show (Datetime.utcnow t).lt lockedUntil = _
    rw [Datetime.lt_instants (by rw [hnaive lockedUntil hlocked]; rfl)]
    rfl

/-- **Lockout.** The rule holds of a sequence of attempts against a registered account exactly if
each of them falls inside a lock the account came with, read back naive. -/
theorem lockout_law_iff (h : getByEmail db user.email = some user) {attempts : List LoginCall}
    (hattempts : ∀ a ∈ attempts, a.email = user.email) :
    LockoutLaw cfg user (Lockout.ofUser user) db attempts ↔
      ∀ a ∈ attempts, InsideLock user a := by
  induction attempts generalizing db with
  | nil => exact iff_of_true trivial fun a ha => absurd ha List.not_mem_nil
  | cons a attempts ih =>
    have hemail : a.email = user.email := hattempts a List.mem_cons_self
    have hrest : ∀ a ∈ attempts, a.email = user.email :=
      fun a ha => hattempts a (List.mem_cons_of_mem _ ha)
    have ha : getByEmail db a.email = some user := by
      rw [hemail]
      exact h
    unfold LockoutLaw
    rw [List.forall_mem_cons]
    by_cases hinside : InsideLock user a
    · -- the attempt leaves the row as it was, so the rest of the sequence starts over
      obtain ⟨message, entry, hlogin⟩ := login_inside cfg ha hinside
      have hnaive : ∀ lockedUntil, user.lockedUntil = some lockedUntil →
          lockedUntil.hasTzinfo = false := by
        obtain ⟨lockedUntil, hlocked, hnaive, -⟩ := hinside
        intro lockedUntil' hlocked'
        obtain rfl : lockedUntil = lockedUntil' := Option.some.inj (hlocked.symm.trans hlocked')
        exact hnaive
      have hdb : getByEmail (db.logEvent entry) user.email = some user := h
      rw [hlogin, Lockout.attempt_inside hinside]
      dsimp only
      rw [ih hdb hrest]
      constructor
      · rintro ⟨-, -, hlaw⟩
        exact ⟨hinside, hlaw⟩
      · rintro ⟨-, hlaw⟩
        exact ⟨⟨message, rfl⟩, showsLock_ofUser hdb hnaive a.now, hlaw⟩
    · refine iff_of_false ?_ fun hall => hinside hall.1
      rintro ⟨hanswers, -, -⟩
      obtain ⟨e, he, hne⟩ := login_outside cfg ha hinside
      unfold Answers at hanswers
      rw [he] at hanswers
      split at hanswers
      · obtain ⟨response, hresponse⟩ := hanswers
        cases hresponse
      · obtain ⟨message, hmessage⟩ := hanswers
        exact hne message (Except.error.inj hmessage)

/-! ## One user -/

def lockedUser : UserORM :=
  { registeredUser with
    failedLoginAttempts := some 5
    lockedUntil := some (.naive (timedelta 0 15 0)) }

def rightLogin : LoginCall where
  email := "user@example.com"
  password := "Password123!"
  checkedAt := 60000000
  now := 60000000
  familyId := "fam_1"
  accessToken := "atk_1"
  refreshToken := "rtk_1"

theorem lockout_law_of_lockedUser :
    LockoutLaw readableSettings lockedUser (Lockout.ofUser lockedUser) { users := [lockedUser] }
      [rightLogin] := by
  refine (lockout_law_iff (by decide +kernel) ?_).mpr ?_
  · intro a ha
    rw [List.mem_singleton.mp ha]
    rfl
  · intro a ha
    rw [List.mem_singleton.mp ha]
    exact ⟨.naive (timedelta 0 15 0), rfl, rfl, by decide +kernel⟩

/-- The first login of a fresh account, with the right password, raises an `AttributeError` after
it has stored its session; with a wrong one it raises it instead of rejecting. -/
theorem lockout_law_broken :
    (login readableSettings rightLogin oneUser).1 =
        .error (.attributeError "'UserORM' object has no attribute 'user_id'") ∧
      (login readableSettings { rightLogin with password := "wrong" } oneUser).1 =
        .error (.attributeError "'UserORM' object has no attribute 'user_id'") ∧
      ¬ LockoutLaw readableSettings registeredUser (Lockout.ofUser registeredUser) oneUser
        [rightLogin] := by
  refine ⟨by decide +kernel, by decide +kernel, ?_⟩
  rintro ⟨⟨response, hresponse⟩, -⟩
  have herror : (login readableSettings rightLogin oneUser).1 =
      .error (.attributeError "'UserORM' object has no attribute 'user_id'") := by decide +kernel
  rw [herror] at hresponse
  cases hresponse

end NocIq
