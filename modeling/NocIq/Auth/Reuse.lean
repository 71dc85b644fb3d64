import NocIq.Auth.TokenFamilies

/-!
# NocIq — reuse of rotated refresh tokens

`refresh` tells a reused token by a session whose sequence is behind the counter of its family.
But a rotation deletes the session of its token, and with it the hash the token is looked up by: a
reused token is an unknown one, and the comparison never sees it.

* **`unknown_of_rotatedAway`** — no session has the hash of a rotated token.
* **`reuse_detected_iff`** — a reused token has no effect, so the family is found compromised and
  without sessions only if there is no row of it left.
-/

namespace NocIq

open Relational Interleaving

variable {cfg : AuthSettings} {db db' : AuthDb}

/-- The refresh token the call draws. -/
def AuthEvent.drawn : AuthEvent → Option String
  | .login a => some a.refreshToken
  | .refresh a => some a.newRefresh
  | _ => none

/-- A refresh of the run has rotated the token, whose session was of the family, and no call from
then on has drawn a token with the same hash. -/
structure RotatedAway (cfg : AuthSettings) (steps : List (AuthDb × AuthEvent))
    (token familyId : String) : Prop where
  rotation : ∃ before m a old after, steps = before ++ (m, .refresh a) :: after ∧
    a.refreshToken = token ∧ a.Presents cfg m old ∧ a.DrawsFresh cfg m old ∧
    old.familyId = some familyId ∧
    ∀ x ∈ (m, .refresh a) :: after, ∀ drawn, x.2.drawn = some drawn →
      cfg.hashToken drawn ≠ cfg.hashToken token

/-- Every row of the family is marked compromised, and no session of it is left. -/
structure Detected (db : AuthDb) (familyId : String) : Prop where
  compromised : ∀ f ∈ db.tokenFamilies, f.familyId = familyId → f.compromised = true
  sessions : ∀ s ∈ db.sessions, s.familyId ≠ some familyId

/-! ## The hash of a rotated token -/

/-- No session has the hash of the token. -/
def Unknown (cfg : AuthSettings) (db : AuthDb) (token : String) : Prop :=
  ∀ s ∈ db.sessions, s.refreshToken ≠ cfg.hashToken token

variable {token : String}

theorem SameTables.unknown (h : SameTables db db') (hu : Unknown cfg db token) :
    Unknown cfg db' token := by
  unfold Unknown
  rw [h.sessions]
  exact hu

theorem Unknown.insertSession {session : SessionORM} (h : Unknown cfg db token)
    (hne : session.refreshToken ≠ cfg.hashToken token) :
    Unknown cfg (insertSession session db) token := by
  intro s hs
  rcases List.mem_append.mp hs with hs | hs
  · exact h s hs
  · rw [List.mem_singleton.mp hs]
    exact hne

/-- **The step lemma.** Only a call that draws the hash makes it known. -/
theorem Unknown.serveAuth (h : Unknown cfg db token) (hI : FamilyInvariant db) (e : AuthEvent)
    (hdrawn : ∀ drawn, e.drawn = some drawn → cfg.hashToken drawn ≠ cfg.hashToken token) :
    Unknown cfg (serveAuth cfg db e) token := by
  have hfewer : ∀ db' : AuthDb, db'.sessions ⊆ db.sessions → Unknown cfg db' token :=
    fun _ hsub s hs => h s (hsub hs)
  cases e with
  | login a =>
    show Unknown cfg (login cfg a db).2 token
    cases login_effect cfg a db with
    | rejected hsame => exact hsame.unknown h
    | halfWay db₀ hsame _ heq =>
      rw [heq]
      exact hsame.unknown h
    | accepted db₀ hsame _ _ heq =>
      have h₀ : Unknown cfg (NocIq.insertFamily a.family db₀) token := hsame.unknown h
      rw [heq]
      exact h₀.insertSession (hdrawn a.refreshToken rfl)
  | refresh a =>
    show Unknown cfg (NocIq.refresh cfg a db).2 token
    cases refresh_effect cfg hI a with
    | rejected hsame => exact hsame.unknown h
    | halfWay old family _ _ _ _ heq =>
      -- the old session is gone, and no new one has come
      rw [heq]
      exact hfewer _ List.filter_sublist.subset
    | rotated old family _ _ _ _ _ heq =>
      have hout : Unknown cfg (rotatedOut old family db) token :=
        hfewer _ List.filter_sublist.subset
      rw [heq]
      exact hout.insertSession (hdrawn a.newRefresh rfl)
  | logout token' =>
    obtain ⟨accessTokens, hsame⟩ := logout_effect cfg hI.valid token'
    exact hsame.unknown (hfewer _ List.filter_sublist.subset)
  | logoutAllSessions email =>
    obtain ⟨count, logs, heq⟩ := logoutAllSessions_eq hI.toConsistent email
    show Unknown cfg (NocIq.logoutAllSessions email db).2 token
    rw [heq]
    exact hfewer (db.withoutEmail email) List.filter_sublist.subset

/-- The rotation itself: the unique index leaves no second session with the hash of its token. -/
theorem unknown_of_rotation (hI : FamilyInvariant db) {a : RefreshCall} {old : SessionORM}
    (hpresents : a.Presents cfg db old) (hfresh : a.DrawsFresh cfg db old)
    (hdrawn : cfg.hashToken a.newRefresh ≠ cfg.hashToken a.refreshToken) :
    Unknown cfg (refresh cfg a db).2 a.refreshToken := by
  obtain ⟨hold, htoken⟩ := getSessionByRefreshToken_mem hpresents.found
  cases refresh_effect cfg hI a with
  | rejected hsame hnot => exact absurd ⟨old, hpresents, hfresh⟩ hnot
  | halfWay old' family _ _ _ hnot => exact absurd ⟨old, hpresents, hfresh⟩ hnot
  | rotated old' family hpresents' _ _ _ _ heq =>
    obtain rfl : old = old' := Option.some.inj (hpresents.found.symm.trans hpresents'.found)
    rw [heq]
    refine Unknown.insertSession ?_ hdrawn
    intro s hs hhash
    obtain ⟨hs, hne⟩ := mem_rotatedOut_sessions.mp hs
    obtain rfl := eq_of_key_eq hI.valid.sessions.refreshToken hs hold (congrArg some hhash)
      (congrArg some htoken)
    exact hne rfl

/-- **The run lemma.** Where a run has rotated a token away, no session has its hash. -/
theorem unknown_of_rotatedAway {steps : List (AuthDb × AuthEvent)} {familyId : String}
    (h : db.Initial) (hrun : AuthRun cfg db steps db')
    (hrotated : RotatedAway cfg steps token familyId) : Unknown cfg db' token := by
  obtain ⟨before, m, a, old, after, rfl, rfl, hpresents, hfresh, -, hdrawn⟩ := hrotated.rotation
  obtain ⟨u, hbefore, hstep, hafter⟩ := hrun.split
  have hm : FamilyInvariant m := family_invariant_of_run h hbefore
  have hu : FamilyInvariant u ∧ Unknown cfg u a.refreshToken := by
    obtain rfl : (refresh cfg a m).2 = u := hstep
    exact ⟨hm.refresh a, unknown_of_rotation hm hpresents hfresh
      (hdrawn _ List.mem_cons_self _ rfl)⟩
  refine (hafter.invariant_of_steps (I := fun db => FamilyInvariant db ∧
    Unknown cfg db a.refreshToken) hu ?_).2
  rintro x hx t ⟨hI, hunknown⟩ rfl
  exact ⟨hI.serveAuth x.2,
    hunknown.serveAuth hI x.2 (hdrawn x (List.mem_cons_of_mem _ hx))⟩

/-! ## Reuse -/

/-- **Reuse of a rotated token.** Presented again, it is answered like any unknown token and
changes nothing; so the family is found compromised and without sessions exactly if no row of it is
stored, that is, if `logout_all_sessions` has deleted it. -/
theorem reuse_detected_iff {steps : List (AuthDb × AuthEvent)} {token familyId : String}
    (h : db.Initial) (hrun : AuthRun cfg db steps db')
    (hrotated : RotatedAway cfg steps token familyId) {b : RefreshCall}
    (hb : b.refreshToken = token) :
    Detected (refresh cfg b db').2 familyId ↔ familyId ∉ db'.familyIds := by
  have hI := family_invariant_of_run h hrun
  have hunknown := unknown_of_rotatedAway h hrun hrotated
  have hnone : getSessionByRefreshToken db' (cfg.hashToken b.refreshToken) = none := by
    rw [hb]
    apply List.find?_eq_none.mpr
    intro s hs
    rw [decide_eq_true_eq]
    exact hunknown s hs
  rw [refresh_unknown b hnone]
  constructor
  · intro hdetected hmem
    obtain ⟨f, hf, hid⟩ := List.mem_map.mp hmem
    -- no family of the run is ever compromised
    have hcompromised := hdetected.compromised f hf hid
    rw [hI.trusted f hf] at hcompromised
    cases hcompromised
  · intro hgone
    refine ⟨?_, ?_⟩
    · intro f hf hid
      exact absurd (List.mem_map.mpr ⟨f, hf, hid⟩) hgone
    · intro s hs hfamily
      exact hgone (hI.valid.sessions.familyFkey s hs familyId hfamily)

/-! ## The first token, presented again -/

def secondRefresh : RefreshCall where
  refreshToken := "rtk_1"
  checkedAt := 120000000
  now := 120000000
  familyId := "fam_3"
  newAccess := "atk_3"
  newRefresh := "rtk_3"

def rotatingRun : List (AuthDb × AuthEvent) :=
  Runs.replay (serveAuth readableSettings) oneUser [.login firstLogin, .refresh firstRefresh]

def rotatedDb : AuthDb :=
  serveAuth readableSettings (serveAuth readableSettings oneUser (.login firstLogin))
    (.refresh firstRefresh)

theorem rotatingRun_run : AuthRun readableSettings oneUser rotatingRun rotatedDb :=
  Runs.replay_run (serveAuth readableSettings) oneUser [.login firstLogin, .refresh firstRefresh]

theorem rotatingRun_rotatedAway : RotatedAway readableSettings rotatingRun "rtk_1" "fam_1" := by
  refine ⟨[(oneUser, .login firstLogin)], _, firstRefresh, firstLogin.session readableSettings, [],
    rfl, rfl, ⟨by decide +kernel, by decide +kernel⟩, ?_, rfl, ?_⟩
  · unfold RefreshCall.DrawsFresh
    decide +kernel
  · intro x hx drawn hdrawn
    rw [List.mem_singleton.mp hx] at hdrawn
    obtain rfl := Option.some.inj hdrawn
    decide +kernel

theorem reuse_detected_of_rotatingRun :
    Detected (refresh readableSettings secondRefresh rotatedDb).2 "fam_1" ↔
      "fam_1" ∉ rotatedDb.familyIds :=
  reuse_detected_iff oneUser_initial rotatingRun_run rotatingRun_rotatedAway rfl

/-- The family is neither marked nor emptied, and the new session of the family goes on. -/
theorem reuse_undetected :
    refresh readableSettings secondRefresh rotatedDb =
        (.error (.valueError "Invalid or expired refresh token"), rotatedDb) ∧
      ¬ ∀ steps db token familyId, AuthRun readableSettings oneUser steps db →
        RotatedAway readableSettings steps token familyId → ∀ b : RefreshCall,
          b.refreshToken = token → Detected (refresh readableSettings b db).2 familyId := by
  have hunknown : refresh readableSettings secondRefresh rotatedDb =
      (.error (.valueError "Invalid or expired refresh token"), rotatedDb) :=
    refresh_unknown secondRefresh (by decide +kernel)
  refine ⟨hunknown, fun hlaw => ?_⟩
  have hdetected := hlaw _ _ _ _ rotatingRun_run rotatingRun_rotatedAway secondRefresh rfl
  rw [hunknown] at hdetected
  have hsession := hdetected.sessions
    (newSession readableSettings "atk_2" "rtk_2" "user@example.com" "fam_1" 2 60000000)
    (by decide +kernel)
  exact hsession rfl

end NocIq
