import NocIq.Auth.Rotation

/-!
# NocIq — session expiry

Three paths look at a session that may have expired. `get_user_for_token` compares wall clocks and
drops the offset of an aware `expires_at`; a naive one it compares with an aware clock.
`get_user_sessions` makes `expires_at` naive and compares it with an aware clock, always.
`refresh` does not look.

* **`not_expiryLaw`** — no stored session is treated by one predicate.
-/

namespace NocIq

open Relational

variable {cfg : AuthSettings} {db : AuthDb} {session : SessionORM}

/-- The three paths agree on whether the session has expired at `now`, and none of them raises a
`TypeError`. The session is reached through its tokens. -/
structure ExpiryLaw (cfg : AuthSettings) (db : AuthDb) (session : SessionORM) (now : Time) : Prop where
  authenticates : ∀ token user, cfg.hashToken token = session.accessToken →
    (getUserForToken cfg token now db).1 = .ok (some user) → now ≤ session.expiresAt.instant
  reports : ∀ infos, getUserSessions session.email now db = .ok infos →
    ∀ p ∈ (listSessionsByEmail db session.email).zip infos, p.1 = session →
      p.2.isActive = decide (now ≤ session.expiresAt.instant)
  refreshes : ∀ a : RefreshCall, cfg.hashToken a.refreshToken = session.refreshToken →
    a.checkedAt = now → a.now = now → session.expiresAt.instant < now →
      ∃ message, (refresh cfg a db).1 = .error (.valueError message)
  lookup : ∀ token message, cfg.hashToken token = session.accessToken →
    (getUserForToken cfg token now db).1 ≠ .error (.typeError message)
  inventory : ∀ message, getUserSessions session.email now db ≠ .error (.typeError message)
  rotation : ∀ (a : RefreshCall) message, cfg.hashToken a.refreshToken = session.refreshToken →
    a.checkedAt = now → a.now = now → (refresh cfg a db).1 ≠ .error (.typeError message)

/-! ## `get_user_sessions` -/

theorem sessionInfo_typeError (now : Time) (s : SessionORM) :
    sessionInfo now s =
      .error (.typeError "can't compare offset-naive and offset-aware datetimes") := by
  have hexpired : sessionExpired s.expiresAt now =
      .error (.typeError "can't compare offset-naive and offset-aware datetimes") := by
    refine Datetime.lt_typeError ?_
    rw [Datetime.hasTzinfo_withoutTzinfo]
    nofun
  unfold sessionInfo
  rw [hexpired]

theorem getUserSessions_typeError (h : session ∈ db.sessions) (now : Time) :
    getUserSessions session.email now db =
      .error (.typeError "can't compare offset-naive and offset-aware datetimes") := by
  have hmem : session ∈ listSessionsByEmail db session.email := by
    unfold listSessionsByEmail
    rw [List.mem_insertionSort, List.mem_filter, decide_eq_true_eq]
    exact ⟨h, rfl⟩
  unfold getUserSessions
  cases hlisted : listSessionsByEmail db session.email with
  | nil =>
    rw [hlisted] at hmem
    exact absurd hmem List.not_mem_nil
  | cons s rest =>
    rw [List.mapM_cons, sessionInfo_typeError]
    rfl

/-! ## The law -/

/-- **Session expiry.** There is no session and no time for which the three paths follow one
predicate: the inventory raises a `TypeError` for every stored session. -/
theorem not_expiryLaw (cfg : AuthSettings) (h : session ∈ db.sessions) (now : Time) :
    ¬ ExpiryLaw cfg db session now :=
  fun hlaw => hlaw.inventory _ (getUserSessions_typeError h now)

/-- A session of the registered user, read back naive. -/
def naiveSession : SessionORM where
  accessToken := "hash of atk_1"
  refreshToken := "hash of rtk_1"
  email := "user@example.com"
  familyId := some "fam_1"
  sequence := 0
  expiresAt := .naive 3600000000
  createdAt := .naive 0

def oneSession : AuthDb where
  users := [registeredUser]
  tokenFamilies := [{ familyId := "fam_1", email := "user@example.com" }]
  sessions := [naiveSession]

theorem not_expiryLaw_naiveSession : ¬ ExpiryLaw readableSettings oneSession naiveSession 0 :=
  not_expiryLaw readableSettings (List.mem_singleton_self _) 0

def lateRefresh : RefreshCall where
  refreshToken := "rtk_1"
  checkedAt := 7200000000
  now := 7200000000
  familyId := "fam_2"
  newAccess := "atk_2"
  newRefresh := "rtk_2"

/-- At the time of the login both lookups raise, and two hours later the refresh still rotates. -/
theorem expiry_law_broken :
    (getUserForToken readableSettings "atk_1" 0 oneSession).1 =
        .error (.typeError "can't compare offset-naive and offset-aware datetimes") ∧
      getUserSessions "user@example.com" 0 oneSession =
        .error (.typeError "can't compare offset-naive and offset-aware datetimes") ∧
      lateRefresh.Rotates readableSettings oneSession ∧
      ¬ ∀ session ∈ oneSession.sessions, ∀ now, ExpiryLaw readableSettings oneSession session now := by
  have hrotates : lateRefresh.Rotates readableSettings oneSession := by
    refine ⟨naiveSession, ⟨by decide +kernel, by decide +kernel⟩, ?_⟩
    unfold RefreshCall.DrawsFresh
    decide +kernel
  refine ⟨by decide +kernel, by decide +kernel, hrotates, fun hlaw => ?_⟩
  exact (hlaw naiveSession (List.mem_singleton_self _) 0).inventory _
    (getUserSessions_typeError (List.mem_singleton_self _) 0)

end NocIq
