import NocIq.Auth.ConcurrentRefresh
import NocIq.Auth.Reachable

/-!
# NocIq — logging out everywhere during a refresh

One call of `logout_all_sessions` for an email and one call of `refresh` with the token of a
session of that email, statement by statement in any order. The logout deletes the sessions it has
listed and then the families it has listed; a session the refresh inserts after the first listing
is in neither, and keeps its family from being deleted.

* **`LoggingOut`** — what the logout has achieved, by the statement that comes next.
* **`LogoutRace.refresh_step` / `LogoutRace.logout_step`** — the steps keep that, unless the refresh
  inserts its session between the two listings.
* **`logout_everywhere_of_run`** — so logging out everywhere is final in the runs that are left.
-/

namespace NocIq

open Relational Interleaving

variable {cfg : AuthSettings} {db db' db₀ : AuthDb} {token email familyId : String}

abbrev LogoutConfig :=
  Config AuthDb RefreshPc (Except Exc AuthSessionResponse) LogoutAllPc (Except Exc Nat)

def logoutStart (db : AuthDb) : LogoutConfig :=
  ⟨db, .running .selectSession, .running .selectSessions⟩

/-- The sessions have been listed and the families have not been deleted. -/
def betweenListings : LogoutAllControl → Bool
  | .running (.deleteSessions _) | .running (.selectFamilies _) | .running (.deleteFamilies _ _) =>
    true
  | _ => false

/-- No stored session has a hash of the drawn tokens. -/
def RefreshCall.drawsNew (cfg : AuthSettings) (a : RefreshCall) (db : AuthDb) : Bool :=
  db.sessions.all fun s =>
    decide (s.accessToken ≠ cfg.hashToken a.newAccess) &&
      decide (s.refreshToken ≠ cfg.hashToken a.newRefresh)

/-- The INSERT of the new session comes, and violates no unique key, between the listings. -/
def insertsBetween (cfg : AuthSettings) (a : RefreshCall) (x : LogoutConfig × Side) : Bool :=
  match x.2, x.1.left with
  | .left, .running (.insertSession _ _ _) =>
    a.drawsNew cfg x.1.shared && betweenListings x.1.right
  | _, _ => false

/-! ## The law -/

/-- A call of `logout_all_sessions` for the email, and a refresh of one of its sessions: neither
takes forever, the logout does not fail, and when both have ended no session of the email is left,
and none of the tokens that its sessions had in the course of the run is good for anything. -/
structure LogoutLaw (cfg : AuthSettings) (a : RefreshCall) (email : String)
    (steps : List (LogoutConfig × Side)) (k : LogoutConfig) : Prop where
  bounded : steps.length ≤ 30
  completes : (∀ side k', ¬ Step (refreshCall cfg a) (logoutAllCall email) k side k') →
    ∃ result count, k.left = .ended result ∧ k.right = .ended (.ok count)
  succeeds : ∀ e, k.right ≠ .ended (.error e)
  sessions : ∀ result count, k.left = .ended result → k.right = .ended count →
    ∀ s ∈ k.shared.sessions, s.email ≠ email
  authenticates : ∀ result count, k.left = .ended result → k.right = .ended count →
    ∀ x ∈ steps, ∀ s ∈ x.1.shared.sessions, s.email = email →
      ∀ t now, cfg.hashToken t = s.accessToken →
        getUserForToken cfg t now k.shared = (.ok none, k.shared)
  refreshes : ∀ result count, k.left = .ended result → k.right = .ended count →
    ∀ x ∈ steps, ∀ s ∈ x.1.shared.sessions, s.email = email →
      ∀ b : RefreshCall, cfg.hashToken b.refreshToken = s.refreshToken →
        refresh cfg b k.shared =
          (.error (.valueError "Invalid or expired refresh token"), k.shared)

/-! ## The invariant -/

def ofEmail (email : String) (s : SessionORM) : Bool := decide (s.email = email)

/-- What the logout has achieved. -/
def LoggingOut (email : String) (db₀ db : AuthDb) : LogoutAllControl → Prop
  | .running .selectSessions => True
  | .running (.deleteSessions rows) =>
    (∀ s ∈ db.sessions, s.email = email → s.accessToken ∈ rows.map (·.accessToken)) ∧
      ∀ s ∈ db₀.rest (ofEmail email), s.accessToken ∉ rows.map (·.accessToken)
  | .running (.selectFamilies _) => ∀ s ∈ db.sessions, s.email ≠ email
  | .running (.deleteFamilies _ rows) =>
    (∀ s ∈ db.sessions, s.email ≠ email) ∧
      ∀ f ∈ db.tokenFamilies, f.email = email ↔ f.familyId ∈ rows.map (·.familyId)
  | .running (.logEvent _) | .ended (.ok _) =>
    (∀ s ∈ db.sessions, s.email ≠ email) ∧ ∀ f ∈ db.tokenFamilies, f.email ≠ email
  | .ended (.error _) => False

/-- A refresh with the token, of a session of the family, and a logout of its email: what they may
be with the database between them, `db₀` being the one they started from. -/
structure LogoutRace (cfg : AuthSettings) (token email familyId : String) (db₀ : AuthDb)
    (k : LogoutConfig) : Prop where
  consistent : k.shared.Consistent
  agree : ∀ f ∈ k.shared.tokenFamilies, f.familyId = familyId → f.email = email
  rest : k.shared.rest (ofEmail email) = db₀.rest (ofEmail email)
  presented : ∀ s ∈ k.shared.sessions, s.refreshToken = cfg.hashToken token →
    s.familyId = some familyId
  left : RefreshControlOn
    (fun old => old.email = email ∧ ∀ s ∈ db₀.rest (ofEmail email), s.accessToken ≠ old.accessToken)
    familyId k.left
  right : LoggingOut email db₀ k.shared k.right

variable {k : LogoutConfig}

theorem LogoutRace.of_family (h : LogoutRace cfg token email familyId db₀ k) {old : SessionORM}
    (hold : old ∈ k.shared.sessions) (hfamily : old.familyId = some familyId) :
    old.email = email ∧ ∀ s ∈ db₀.rest (ofEmail email), s.accessToken ≠ old.accessToken := by
  have hemail := h.consistent.email_of_family h.agree hold hfamily
  refine ⟨hemail, ?_⟩
  rw [← h.rest]
  exact key_outside h.consistent.valid hold (decide_eq_true hemail)

/-! ## The steps of the refresh -/

/-- The sessions after a statement are sessions from before it, or the INSERT has added the new one;
then the family is stored, and the drawn tokens are new. -/
theorem RefreshPc.On.inserts {P : SessionORM → Prop} {pc : RefreshPc} (h : pc.On P familyId)
    (cfg : AuthSettings) (hvalid : db.Valid) (a : RefreshCall) :
    (pc.step cfg a db).2.sessions ⊆ db.sessions ∨
      ((∃ old family user, pc = .insertSession old family user) ∧ familyId ∈ db.familyIds ∧
        a.drawsNew cfg db = true) := by
  cases h.writes cfg hvalid a with
  | keeps hsessions =>
    left
    rw [hsessions]
    exact List.Subset.refl _
  | deletesOld old family _ _ hsessions =>
    left
    rw [hsessions]
    exact List.filter_sublist.subset
  | deletesFamily old family isExpired rows _ _ hsessions =>
    left
    rw [hsessions]
    exact List.filter_sublist.subset
  | inserts old family user hpc _ hfamily hsessions =>
    right
    obtain ⟨hvalid', -⟩ := h.keeps cfg hvalid a
    have hkeys := hvalid'.sessions
    rw [hsessions] at hkeys
    subst hpc
    refine ⟨⟨old, family, user, rfl⟩, ?_, ?_⟩
    · rw [← h.2]
      exact hfamily
    · -- the unique keys hold of the sessions with the new one
      unfold RefreshCall.drawsNew
      rw [List.all_eq_true]
      intro s hs
      rw [Bool.and_eq_true, decide_eq_true_eq, decide_eq_true_eq]
      constructor
      · intro heq
        exact (nodup_keys_concat.mp hkeys.pkey).2 s hs _ rfl (congrArg some heq)
      · intro heq
        exact (nodup_keys_concat.mp hkeys.refreshToken).2 s hs _ rfl (congrArg some heq)

theorem LoggingOut.of_subset {control : LogoutAllControl} (h : LoggingOut email db₀ db control)
    (hsessions : db'.sessions ⊆ db.sessions) (hfamilies : SameFamilies db db') :
    LoggingOut email db₀ db' control := by
  have hgone : (∀ s ∈ db.sessions, s.email ≠ email) → ∀ s ∈ db'.sessions, s.email ≠ email :=
    fun hall s hs => hall s (hsessions hs)
  have hfrom := hfamilies.familiesFrom
  have hnone : (∀ f ∈ db.tokenFamilies, f.email ≠ email) →
      ∀ f ∈ db'.tokenFamilies, f.email ≠ email := by
    intro hall f' hf'
    obtain ⟨f, hf, -, hemail⟩ := hfrom f' hf'
    rw [← hemail]
    exact hall f hf
  -- fewer sessions and the same families: each phase is about all of them
  cases control with
  | running pc =>
    cases pc with
    | selectSessions => trivial
    | deleteSessions rows => exact ⟨fun s hs => h.1 s (hsessions hs), h.2⟩
    | selectFamilies count => exact hgone h
    | deleteFamilies count rows =>
      refine ⟨hgone h.1, fun f' hf' => ?_⟩
      obtain ⟨f, hf, hid, hemail⟩ := hfrom f' hf'
      rw [← hid, ← hemail]
      exact h.2 f hf
    | logEvent count => exact ⟨hgone h.1, hnone h.2⟩
  | ended result =>
    cases result with
    | error e => exact h.elim
    | ok count => exact ⟨hgone h.1, hnone h.2⟩

/-- **The step lemma of the refresh.** -/
theorem LogoutRace.refresh_step {pc : RefreshPc} {right : LogoutAllControl} {a : RefreshCall}
    (h : LogoutRace cfg a.refreshToken email familyId db₀ ⟨db, .running pc, right⟩)
    (hclear : insertsBetween cfg a (⟨db, .running pc, right⟩, .left) = false) :
    LogoutRace cfg a.refreshToken email familyId db₀
      ⟨(pc.step cfg a db).2, (pc.step cfg a db).1, right⟩ := by
  have hc : db.Consistent := h.consistent
  have hon : pc.On _ familyId := h.left
  have hagree : ∀ f ∈ db.tokenFamilies, f.familyId = familyId → f.email = email := h.agree
  obtain ⟨hc', hfrom⟩ := hc.refresh_step cfg (fun _ hold => hold.1) hon hagree a
  obtain ⟨-, hfamilies⟩ := hon.keeps cfg hc.valid a
  have hrest := hon.rest cfg (p := ofEmail email) hc.valid a
    (by
      intro old hold
      rw [show db.rest (ofEmail email) = db₀.rest (ofEmail email) from h.rest]
      exact hold.2)
    fun old _ hold => decide_eq_true hold.1
  refine ⟨hc', hfrom.agree hagree, hrest.trans h.rest, ?_, ?_, ?_⟩
  · intro s hs hhash
    rcases hon.mem_sessions cfg hc.valid a hs with
      hs | ⟨old, family, user, -, -, -, rfl⟩
    · exact h.presented s hs hhash
    · rfl
  · refine hon.step cfg a ?_ fun s hs hfamily => h.of_family hs hfamily
    intro _ old hfound
    obtain ⟨hold, htoken⟩ := getSessionByRefreshToken_mem hfound
    have hfamily := h.presented old hold htoken
    exact ⟨h.of_family hold hfamily, hfamily⟩
  · rcases hon.inserts cfg hc.valid a with
      hsub | ⟨⟨old, family, user, rfl⟩, hstored, hnew⟩
    · exact h.right.of_subset hsub hfamilies
    · -- the INSERT comes before the first listing, or finds no family
      have hright : LoggingOut email db₀ db right := h.right
      have hbetween : betweenListings right = false := by
        have hand : (a.drawsNew cfg db && betweenListings right) = false := hclear
        rw [hnew, Bool.true_and] at hand
        exact hand
      have hnone : ¬ ∀ f ∈ db.tokenFamilies, f.email ≠ email := by
        intro hall
        obtain ⟨f, hf, hid⟩ := List.mem_map.mp hstored
        exact hall f hf (hagree f hf hid)
      cases right with
      | running pc =>
        cases pc with
        | selectSessions => trivial
        | logEvent count => exact absurd hright.2 hnone
        | _ => cases hbetween
      | ended result =>
        cases result with
        | error e => exact hright.elim
        | ok count => exact absurd hright.2 hnone

/-! ## The steps of the logout -/

theorem loggingOut_listed (hvalid : db.Valid)
    (hrest : db.rest (ofEmail email) = db₀.rest (ofEmail email)) :
    LoggingOut email db₀ db (.running (.deleteSessions (listSessionsByEmail db email))) := by
  refine ⟨fun s hs hemail => ?_, fun s hs hmem => ?_⟩
  · exact (mem_listedSessions hvalid hs).mp hemail
  · obtain ⟨row, hrow, hkey⟩ := List.mem_map.mp hmem
    obtain ⟨hrow, hemail⟩ := mem_listSessionsByEmail.mp hrow
    rw [← hrest] at hs
    exact key_outside hvalid hrow (decide_eq_true hemail) s hs hkey.symm

theorem LoggingOut.step {pc : LogoutAllPc} (h : LoggingOut email db₀ db (.running pc))
    (hc : db.Consistent) (hrest : db.rest (ofEmail email) = db₀.rest (ofEmail email)) :
    (pc.step email db).2.sessions ⊆ db.sessions ∧
      (pc.step email db).2.rest (ofEmail email) = db.rest (ofEmail email) ∧
      LoggingOut email db₀ (pc.step email db).2 (pc.step email db).1 := by
  cases pc with
  | selectSessions => exact ⟨List.Subset.refl _, rfl, loggingOut_listed hc.valid hrest⟩
  | deleteSessions rows =>
    dsimp only [LogoutAllPc.step]
    rw [LogoutAllPc.commit_deleteSessions hc.valid]
    refine ⟨List.filter_sublist.subset, ?_, ?_⟩
    · apply rest_withoutSessions
      rw [hrest]
      exact h.2
    · intro s hs hemail
      obtain ⟨hs, hkey⟩ := List.mem_filter.mp hs
      exact of_decide_eq_true hkey (h.1 s hs hemail)
  | selectFamilies count =>
    exact ⟨List.Subset.refl _, rfl, h, fun f hf => mem_selectedFamilies hc.valid hf⟩
  | deleteFamilies count rows =>
    -- nobody has a session in the listed families, so the constraint lets them go
    dsimp only [LogoutAllPc.step, LogoutAllPc.commit]
    rw [commit_deleteFamilies hc.valid (hc.families_free h.1 h.2)]
    refine ⟨List.Subset.refl _, rfl, h.1, fun f hf hemail => ?_⟩
    obtain ⟨hf, hkept⟩ := List.mem_filter.mp hf
    exact of_decide_eq_true hkept ((h.2 f hf).mp hemail)
  | logEvent count => exact ⟨List.Subset.refl _, rfl, h⟩

/-- **The step lemma of the logout.** -/
theorem LogoutRace.logout_step {left : RefreshControl} {pc : LogoutAllPc}
    (h : LogoutRace cfg token email familyId db₀ ⟨db, left, .running pc⟩) :
    LogoutRace cfg token email familyId db₀
      ⟨(pc.step email db).2, left, (pc.step email db).1⟩ := by
  have hright : LoggingOut email db₀ db (.running pc) := h.right
  obtain ⟨hsessions, hrest, hnext⟩ := hright.step h.consistent h.rest
  obtain ⟨hc, -, hfrom⟩ := logoutAll_guarantees email pc db h.consistent trivial
  exact ⟨hc, hfrom.agree h.agree, hrest.trans h.rest,
    fun s hs => h.presented s (hsessions hs), h.left, hnext⟩

/-! ## Runs of the two calls -/

theorem LogoutRace.initial (h : db.Consistent) {old : SessionORM} (hold : old ∈ db.sessions)
    (htoken : old.refreshToken = cfg.hashToken token) (hemail : old.email = email) :
    ∃ familyId, LogoutRace cfg token email familyId db (logoutStart db) := by
  obtain ⟨familyId, hfamily⟩ := h.owned old hold
  refine ⟨familyId, h, ?_, rfl, ?_, trivial, trivial⟩
  · intro f hf hid
    rw [← hemail]
    exact (h.email old hold f hf (hid ▸ hfamily)).symm
  · intro s hs hhash
    obtain rfl := eq_of_key_eq h.valid.sessions.refreshToken hs hold (congrArg some hhash)
      (congrArg some htoken)
    exact hfamily

/-- **The run lemma.** -/
theorem LogoutRace.run {a : RefreshCall} {steps : List (LogoutConfig × Side)} {k' : LogoutConfig}
    (h : LogoutRace cfg a.refreshToken email familyId db₀ k)
    (hrun : Run (refreshCall cfg a) (logoutAllCall email) k steps k')
    (hclear : ∀ x ∈ steps, insertsBetween cfg a x = false) :
    LogoutRace cfg a.refreshToken email familyId db₀ k' := by
  refine hrun.invariant_of_steps h ?_
  rintro ⟨k, side⟩ hx k' hk hstep
  have hbefore := hclear _ hx
  cases hstep with
  | left db pc right => exact hk.refresh_step hbefore
  | right db left pc => exact hk.logout_step

theorem LogoutRace.ended (h : LogoutRace cfg token email familyId db₀ k) {result : Except Exc Nat}
    (hended : k.right = .ended result) :
    (∃ count, result = .ok count) ∧ ∀ s ∈ k.shared.sessions, s.email ≠ email := by
  have hright := h.right
  rw [hended] at hright
  cases result with
  | error e => exact hright.elim
  | ok count => exact ⟨⟨count, rfl⟩, hright.1⟩

/-- A key that a session of the email has had in the run is not among the keys that are left: the
sessions that are left were there all along, next to it. -/
theorem LogoutRace.key_gone {k' : LogoutConfig} (h : LogoutRace cfg token email familyId db₀ k)
    (h' : LogoutRace cfg token email familyId db₀ k')
    (hgone : ∀ s ∈ k'.shared.sessions, s.email ≠ email) {key : SessionORM → String}
    (hunique : (k.shared.sessions.filterMap fun s => some (key s)).Nodup) {s : SessionORM}
    (hs : s ∈ k.shared.sessions) (hemail : s.email = email) :
    ∀ s' ∈ k'.shared.sessions, key s' ≠ key s := by
  intro s' hs' hkey
  have hmem : s' ∈ k'.shared.rest (ofEmail email) :=
    mem_rest.mpr ⟨hs', decide_eq_false (hgone s' hs')⟩
  rw [h'.rest, ← h.rest] at hmem
  obtain ⟨hmem, -⟩ := mem_rest.mp hmem
  obtain rfl := eq_of_key_eq hunique hmem hs (congrArg some hkey) rfl
  exact hgone s' hs' hemail

theorem LogoutRace.law {a : RefreshCall} {steps : List (LogoutConfig × Side)}
    (h : LogoutRace cfg a.refreshToken email familyId db₀ (logoutStart db₀))
    (hrun : Run (refreshCall cfg a) (logoutAllCall email) (logoutStart db₀) steps k)
    (hclear : ∀ x ∈ steps, insertsBetween cfg a x = false) : LogoutLaw cfg a email steps k := by
  have hk := h.run hrun hclear
  -- what the run leaves is a state of the same kind
  have hvisited : ∀ x ∈ steps, LogoutRace cfg a.refreshToken email familyId db₀ x.1 := by
    intro x hx
    obtain ⟨before, after, rfl⟩ := List.append_of_mem hx
    obtain ⟨k', hbefore, -, -⟩ := hrun.split
    exact h.run hbefore fun y hy => hclear y (List.mem_append_left _ hy)
  refine ⟨?_, ?_, ?_, ?_, ?_, ?_⟩
  · have hlength := steps_length_add_le hrun
    have hstart : (logoutStart db₀).left.stepsLeft (refreshCall cfg a) +
        (logoutStart db₀).right.stepsLeft (logoutAllCall email) = 30 := rfl
    omega
  · intro hstuck
    obtain ⟨result, result', hleft, hright⟩ := ends_of_stuck hstuck
    obtain ⟨⟨count, rfl⟩, -⟩ := hk.ended hright
    exact ⟨result, count, hleft, hright⟩
  · intro e hright
    obtain ⟨⟨count, hcount⟩, -⟩ := hk.ended hright
    cases hcount
  · exact fun _ result' _ hright => (hk.ended hright).2
  · intro _ result' _ hright x hx s hs hemail t now htoken
    obtain ⟨-, hgone⟩ := hk.ended hright
    have hx := hvisited x hx
    have hnone : getSession k.shared (cfg.hashToken t) = none := by
      unfold getSession
      rw [List.find?_eq_none]
      intro s' hs' hkey
      rw [decide_eq_true_eq, htoken] at hkey
      exact hx.key_gone hk hgone hx.consistent.valid.sessions.pkey hs hemail s' hs' hkey
    unfold getUserForToken
    rw [hnone]
  · intro _ result' _ hright x hx s hs hemail b htoken
    obtain ⟨-, hgone⟩ := hk.ended hright
    have hx := hvisited x hx
    apply refresh_unknown
    unfold getSessionByRefreshToken
    rw [List.find?_eq_none]
    intro s' hs' hkey
    rw [decide_eq_true_eq, htoken] at hkey
    exact hx.key_gone hk hgone hx.consistent.valid.sessions.refreshToken hs hemail s' hs' hkey

/-- **Logging out everywhere.** From a reachable state, a logout everywhere and a refresh of a
session of the same email, in any order of their statements: in every run in which the refresh
does not insert its session after the logout has listed the sessions and before it has deleted the
families, the law holds. -/
theorem logout_everywhere_of_run {a : RefreshCall} {old : SessionORM}
    {steps : List (LogoutConfig × Side)} {k : LogoutConfig} (h : AuthReachable cfg db₀)
    (hold : old ∈ db₀.sessions) (htoken : old.refreshToken = cfg.hashToken a.refreshToken)
    (hrun : Run (refreshCall cfg a) (logoutAllCall old.email) (logoutStart db₀) steps k)
    (hclear : ∀ x ∈ steps, insertsBetween cfg a x = false) :
    LogoutLaw cfg a old.email steps k := by
  obtain ⟨familyId, hrace⟩ := LogoutRace.initial (consistent_of_reachable h) hold htoken rfl
  exact hrace.law hrun hclear

/-! ## The first token, refreshed during a logout -/

def firstSession : SessionORM := firstLogin.session readableSettings

theorem loggedIn_reachable : AuthReachable readableSettings loggedIn :=
  .call (.initial oneUser_initial) (.login firstLogin)

def refreshAndLogout (sides : List Side) : List (LogoutConfig × Side) × LogoutConfig :=
  play (refreshCall readableSettings firstRefresh) (logoutAllCall firstSession.email)
    (logoutStart loggedIn) sides

/-- The logout comes between the refresh's last look at the old session and its DELETE. -/
theorem logout_everywhere_between :
    LogoutLaw readableSettings firstRefresh firstSession.email
      (refreshAndLogout (List.replicate 8 .left ++ List.replicate 5 .right ++
        List.replicate 3 .left)).1
      (refreshAndLogout (List.replicate 8 .left ++ List.replicate 5 .right ++
        List.replicate 3 .left)).2 := by
  have hrun := play_run (refreshCall readableSettings firstRefresh)
    (logoutAllCall firstSession.email) (logoutStart loggedIn)
    (List.replicate 8 .left ++ List.replicate 5 .right ++ List.replicate 3 .left)
  have hclear : ∀ x ∈ (refreshAndLogout (List.replicate 8 .left ++ List.replicate 5 .right ++
      List.replicate 3 .left)).1, insertsBetween readableSettings firstRefresh x = false := by
    decide +kernel
  have hold : firstSession ∈ loggedIn.sessions := by decide +kernel
  exact logout_everywhere_of_run loggedIn_reachable hold rfl hrun hclear

/-- The refresh deletes the old session; the logout lists and deletes the sessions there are; the
refresh inserts its session, and the logout fails to delete the family. -/
def insertedBetween : List Side :=
  List.replicate 11 .left ++ List.replicate 2 .right ++ List.replicate 2 .left ++
    List.replicate 2 .right

theorem logout_everywhere_broken :
    (refreshAndLogout insertedBetween).2.right =
        .ended (.error (.integrityError "fk_sessions_token_families")) ∧
      (refreshAndLogout insertedBetween).2.shared.sessions.map (fun s => (s.email, s.refreshToken)) =
        [(firstSession.email, readableSettings.hashToken firstRefresh.newRefresh)] ∧
      ¬ ∀ steps k, Run (refreshCall readableSettings firstRefresh)
        (logoutAllCall firstSession.email) (logoutStart loggedIn) steps k →
          LogoutLaw readableSettings firstRefresh firstSession.email steps k := by
  have hfails : (refreshAndLogout insertedBetween).2.right =
      .ended (.error (.integrityError "fk_sessions_token_families")) := by decide +kernel
  refine ⟨hfails, by decide +kernel, fun hlaw => ?_⟩
  have hrun := play_run (refreshCall readableSettings firstRefresh)
    (logoutAllCall firstSession.email) (logoutStart loggedIn) insertedBetween
  exact (hlaw _ _ hrun).succeeds _ hfails

end NocIq
