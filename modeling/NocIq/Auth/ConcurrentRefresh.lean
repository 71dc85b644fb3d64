import NocIq.Auth.RefreshSteps
import NocIq.Auth.TokenFamilies

/-!
# NocIq — two refreshes of one token

Two calls of `refresh` with the same token, statement by statement in any order. Each reads the old
session, advances the counter, reads the old session again, deletes it and inserts a new one, with
a COMMIT after every write. A call that has read the old session for the last time goes on to
insert, whether or not its DELETE still finds a row; so the old session may be replaced twice.

* **`RefreshPc.debt`** counts a session that is still to come, and `SingleUse` says that the
  sessions of the family and the debts of both calls are at most one.
* **`SingleUse.step`** — a step keeps that unless it deletes the old session while the other call
  is past its last look at it.
* **`single_use_of_run`** — so do runs.
-/

namespace NocIq

open Relational Interleaving

variable {cfg : AuthSettings} {db db' db₀ : AuthDb} {token familyId : String}

/-! ## Sessions of a family -/

def ofFamily (familyId : String) (s : SessionORM) : Bool := decide (s.familyId = some familyId)

def AuthDb.sessionCount (db : AuthDb) (familyId : String) : Nat :=
  (db.sessions.filter (ofFamily familyId)).length

theorem sessionCount_congr (h : db'.sessions = db.sessions) (familyId : String) :
    db'.sessionCount familyId = db.sessionCount familyId := by
  unfold AuthDb.sessionCount
  rw [h]

theorem sessionCount_withoutSessions_le (db : AuthDb) (familyId : String)
    (accessTokens : List String) :
    (db.withoutSessions accessTokens).sessionCount familyId ≤ db.sessionCount familyId :=
  (List.filter_sublist.filter _).length_le

variable {s : SessionORM}

theorem sessionCount_withoutSessions_lt {accessTokens : List String} (hs : s ∈ db.sessions)
    (hfamily : s.familyId = some familyId) (hkey : s.accessToken ∈ accessTokens) :
    (db.withoutSessions accessTokens).sessionCount familyId < db.sessionCount familyId := by
  unfold AuthDb.sessionCount AuthDb.withoutSessions
  dsimp only
  rw [List.filter_comm]
  apply List.length_filter_lt_length_iff_exists.mpr
  refine ⟨s, List.mem_filter.mpr ⟨hs, decide_eq_true hfamily⟩, ?_⟩
  rw [decide_eq_true_eq]
  exact not_not_intro hkey

theorem sessionCount_of_rest {other : String} (hne : other ≠ familyId) :
    db.sessionCount other = ((db.rest (ofFamily familyId)).filter (ofFamily other)).length := by
  unfold AuthDb.sessionCount AuthDb.rest
  rw [List.filter_filter]
  congr 1
  apply List.filter_congr
  intro s _
  unfold ofFamily
  by_cases hs : s.familyId = some other
  · have hnot : s.familyId ≠ some familyId := by
      rw [hs]
      exact fun heq => hne (Option.some.inj heq)
    rw [decide_eq_true hs, decide_eq_false hnot]
    rfl
  · rw [decide_eq_false hs]
    rfl

/-! ## The invariant -/

/-- The key of the old session, at a call that has read it for the last time and not deleted it. -/
def deleting : RefreshControl → Option String
  | .running (.selectOld old _) | .running (.deleteOld old _) => some old.accessToken
  | _ => none

theorem getSession_some {accessToken : String} (h : getSession db accessToken = some s) :
    s ∈ db.sessions ∧ s.accessToken = accessToken := by
  unfold getSession at h
  exact ⟨List.mem_of_find?_eq_some h, by simpa using List.find?_some h⟩

theorem getSession_isSome {accessToken : String} :
    (getSession db accessToken).isSome = true ↔ ∃ s ∈ db.sessions, s.accessToken = accessToken := by
  unfold getSession
  rw [List.find?_isSome]
  simp only [decide_eq_true_eq]

theorem refreshDebt_change (db db' : AuthDb) (control : RefreshControl) :
    refreshDebt db' control ≤ refreshDebt db control ∨
      ∃ s ∈ db.sessions, deleting control = some s.accessToken ∧
        (getSession db' s.accessToken).isSome = false ∧ refreshDebt db' control = 1 ∧
        refreshDebt db control = 0 := by
  -- the two positions that look at the old session again
  have hlost : ∀ old : SessionORM, deleting control = some old.accessToken →
      (∀ db, refreshDebt db control = if (getSession db old.accessToken).isSome then 0 else 1) →
      refreshDebt db' control ≤ refreshDebt db control ∨
        ∃ s ∈ db.sessions, deleting control = some s.accessToken ∧
          (getSession db' s.accessToken).isSome = false ∧ refreshDebt db' control = 1 ∧
          refreshDebt db control = 0 := by
    intro old hdeleting hdebt
    rw [hdebt db, hdebt db']
    cases hafter : (getSession db' old.accessToken).isSome with
    | true => exact .inl (Nat.zero_le _)
    | false =>
      cases hbefore : (getSession db old.accessToken).isSome with
      | false => exact .inl (Nat.le_refl _)
      | true =>
        obtain ⟨s, hs, hkey⟩ := getSession_isSome.mp hbefore
        refine .inr ⟨s, hs, ?_, ?_, rfl, rfl⟩
        · rw [hdeleting, hkey]
        · rw [hkey]
          exact hafter
  cases control with
  | ended result => exact .inl (Nat.le_refl 0)
  | running pc =>
    cases pc with
    | selectOld old family => exact hlost old rfl fun _ => rfl
    | deleteOld old family => exact hlost old rfl fun _ => rfl
    | _ => exact .inl (Nat.le_refl _)

theorem refreshDebt_congr (h : db'.sessions = db.sessions) (control : RefreshControl) :
    refreshDebt db' control = refreshDebt db control := by
  have hget : ∀ k, getSession db' k = getSession db k := by
    intro k
    unfold getSession
    rw [h]
  cases control with
  | ended result => rfl
  | running pc =>
    cases pc with
    | selectOld old family =>
      show (if (getSession db' old.accessToken).isSome then 0 else 1) = _
      rw [hget]
      rfl
    | deleteOld old family =>
      show (if (getSession db' old.accessToken).isSome then 0 else 1) = _
      rw [hget]
      rfl
    | _ => rfl

theorem mem_of_withoutSessions {accessTokens : List String} (hs : s ∈ db.sessions)
    (hsessions : db'.sessions = (db.withoutSessions accessTokens).sessions)
    (hgone : (getSession db' s.accessToken).isSome = false) : s.accessToken ∈ accessTokens := by
  by_contra hnot
  have hstays : (getSession db' s.accessToken).isSome = true := by
    refine getSession_isSome.mpr ⟨s, ?_, rfl⟩
    rw [hsessions]
    exact List.mem_filter.mpr ⟨hs, decide_eq_true hnot⟩
  rw [hgone] at hstays
  cases hstays

/-- Two calls of `refresh` with the token, of a session of the family: what `x` and `y` may be with
the database between them, `db₀` being the one they started from. -/
structure SingleUse (cfg : AuthSettings) (token familyId : String) (db₀ db : AuthDb)
    (x y : RefreshControl) : Prop where
  valid : db.Valid
  families : SameFamilies db₀ db
  rest : db.rest (ofFamily familyId) = db₀.rest (ofFamily familyId)
  presented : ∀ s ∈ db.sessions, s.refreshToken = cfg.hashToken token → s.familyId = some familyId
  left : RefreshControlOn
    (fun old => ∀ s ∈ db₀.rest (ofFamily familyId), s.accessToken ≠ old.accessToken) familyId x
  right : RefreshControlOn
    (fun old => ∀ s ∈ db₀.rest (ofFamily familyId), s.accessToken ≠ old.accessToken) familyId y
  leftStored : ∀ pc, x = .running pc → pc ≠ .selectSession → familyId ∈ db₀.familyIds
  rightStored : ∀ pc, y = .running pc → pc ≠ .selectSession → familyId ∈ db₀.familyIds
  single : db.sessionCount familyId + refreshDebt db x + refreshDebt db y ≤ 1

variable {y : RefreshControl}

theorem SingleUse.symm {x : RefreshControl} (h : SingleUse cfg token familyId db₀ db x y) :
    SingleUse cfg token familyId db₀ db y x := by
  obtain ⟨hvalid, hfamilies, hrest, hpresented, hleft, hright, hls, hrs, hsingle⟩ := h
  refine ⟨hvalid, hfamilies, hrest, hpresented, hright, hleft, hrs, hls, ?_⟩
  omega

theorem familyId_of_key {old : SessionORM} (hs : s ∈ db.sessions)
    (hkey : s.accessToken = old.accessToken)
    (hout : ∀ s ∈ db.rest (ofFamily familyId), s.accessToken ≠ old.accessToken) :
    s.familyId = some familyId := by
  by_contra hne
  exact hout s (mem_rest.mpr ⟨hs, decide_eq_false hne⟩) hkey

theorem SingleUse.familyId_of_deleting {x : RefreshControl}
    (h : SingleUse cfg token familyId db₀ db x y) (hs : s ∈ db.sessions)
    (hdeleting : deleting y = some s.accessToken) : s.familyId = some familyId := by
  have hright := h.right
  unfold deleting at hdeleting
  split at hdeleting
  · rename_i old family
    refine familyId_of_key hs (Option.some.inj hdeleting).symm ?_
    rw [h.rest]
    exact hright.1
  · rename_i old family
    refine familyId_of_key hs (Option.some.inj hdeleting).symm ?_
    rw [h.rest]
    exact hright.1
  · cases hdeleting

/-- **The sessions and the debts.** A step raises their sum only if it deletes the old session
while the other call is past its last look at it. -/
theorem SingleUse.single_step {pc : RefreshPc}
    (h : SingleUse cfg token familyId db₀ db (.running pc) y) (a : RefreshCall)
    (hclear : ∀ old family, pc = .deleteOld old family →
      (getSession db old.accessToken).isSome = true → deleting y ≠ some old.accessToken)
    :
    (pc.step cfg a db).2.sessionCount familyId +
        refreshDebt (pc.step cfg a db).2 (pc.step cfg a db).1 +
        refreshDebt (pc.step cfg a db).2 y ≤
      db.sessionCount familyId + pc.debt db + refreshDebt db y := by
  have hleft : pc.On _ familyId := h.left
  have hchange := refreshDebt_change db (pc.step cfg a db).2 y
  cases hleft.writes cfg h.valid a with
  | keeps hsessions hdebt =>
    have hle : refreshDebt db (pc.step cfg a db).1 ≤ pc.debt db := by
      refine hdebt fun old family hpc => ?_
      have hstored : familyId ∈ db.familyIds := by
        rw [h.families.familyIds]
        exact h.leftStored pc rfl (by rw [hpc]; nofun)
      subst hpc
      obtain ⟨f, hf, hid⟩ := List.mem_map.mp hstored
      unfold getFamily
      rw [List.find?_isSome]
      exact ⟨f, hf, decide_eq_true (hid.trans hleft.2.symm)⟩
    rw [sessionCount_congr hsessions, refreshDebt_congr hsessions, refreshDebt_congr hsessions]
    omega
  | deletesOld old family hpc hcontrol hsessions =>
    have howes : refreshDebt (pc.step cfg a db).2 (pc.step cfg a db).1 = 1 := by
      rw [hcontrol]
      rfl
    rcases hchange with hle | ⟨s, hs, hdeleting, hgone, -, -⟩
    · rw [howes, sessionCount_congr hsessions]
      subst hpc
      show _ ≤ _ + (if (getSession db old.accessToken).isSome then 0 else 1) + _
      cases hfound : getSession db old.accessToken with
      | none =>
        have hcount := sessionCount_withoutSessions_le db familyId [old.accessToken]
        show _ ≤ _ + 1 + _
        omega
      | some s =>
        obtain ⟨hs, hkey⟩ := getSession_some hfound
        have hfamily : s.familyId = some familyId := by
          refine familyId_of_key hs hkey ?_
          rw [h.rest]
          exact hleft.1
        have hmem : s.accessToken ∈ [old.accessToken] := List.mem_singleton.mpr hkey
        have hcount := sessionCount_withoutSessions_lt hs hfamily hmem
        show _ ≤ _ + 0 + _
        omega
    · -- the other call would have to be about to delete the same session
      have hkey := List.mem_singleton.mp (mem_of_withoutSessions hs hsessions hgone)
      rw [hkey] at hdeleting
      exact absurd hdeleting (hclear old family hpc (getSession_isSome.mpr ⟨s, hs, hkey⟩))
  | deletesFamily old family isExpired rows hpc hdebt hsessions =>
    rw [hdebt, sessionCount_congr hsessions]
    rcases hchange with hle | ⟨s, hs, hdeleting, hgone, hafter, hbefore⟩
    · have hcount := sessionCount_withoutSessions_le db familyId (rows.map (·.accessToken))
      omega
    · have hcount := sessionCount_withoutSessions_lt hs (h.familyId_of_deleting hs hdeleting)
        (mem_of_withoutSessions hs hsessions hgone)
      omega
  | inserts old family storedUser hpc hcontrol hfamily hsessions =>
    have howes : refreshDebt (pc.step cfg a db).2 (pc.step cfg a db).1 = 0 := by
      rw [hcontrol]
      rfl
    have hcount : (pc.step cfg a db).2.sessionCount familyId = db.sessionCount familyId + 1 := by
      have hnew : ofFamily familyId (newSession cfg a.newAccess a.newRefresh old.email
          family.familyId (family.currentSequence + 1) a.now) = true := by
        subst hpc
        exact decide_eq_true (congrArg some hleft.2)
      unfold AuthDb.sessionCount
      rw [hsessions, List.filter_append, List.filter_singleton, hnew, List.length_append]
      rfl
    rw [howes, hcount]
    subst hpc
    show _ ≤ _ + 1 + _
    rcases hchange with hle | ⟨s, hs, -, hgone, -, -⟩
    · omega
    · have hstays : (getSession (RefreshPc.step cfg a (.insertSession old family storedUser) db).2
          s.accessToken).isSome = true := by
        refine getSession_isSome.mpr ⟨s, ?_, rfl⟩
        rw [hsessions]
        exact List.mem_append_left _ hs
      rw [hgone] at hstays
      cases hstays

/-- **The step lemma.** -/
theorem SingleUse.step {pc : RefreshPc} (h : SingleUse cfg token familyId db₀ db (.running pc) y)
    {a : RefreshCall} (ha : a.refreshToken = token)
    (hclear : ∀ old family, pc = .deleteOld old family →
      (getSession db old.accessToken).isSome = true → deleting y ≠ some old.accessToken)
    :
    SingleUse cfg token familyId db₀ (pc.step cfg a db).2 (pc.step cfg a db).1 y := by
  have hleft : pc.On _ familyId := h.left
  obtain ⟨hvalid, hfamilies⟩ := hleft.keeps cfg h.valid a
  have hselect : ∀ old, getSessionByRefreshToken db (cfg.hashToken a.refreshToken) = some old →
      old ∈ db.sessions ∧ old.familyId = some familyId := by
    intro old hfound
    obtain ⟨hold, htoken⟩ := getSessionByRefreshToken_mem hfound
    rw [ha] at htoken
    exact ⟨hold, h.presented old hold htoken⟩
  refine ⟨hvalid, h.families.trans hfamilies, ?_, ?_, ?_, h.right, ?_, h.rightStored, ?_⟩
  · rw [hleft.rest cfg (p := ofFamily familyId) h.valid a, h.rest]
    · intro old hold
      rw [h.rest]
      exact hold
    · exact fun old sequence _ => decide_eq_true rfl
  · intro s hs hhash
    rcases hleft.mem_sessions cfg h.valid a hs with hs | ⟨old, family, user, -, -, -, rfl⟩
    · exact h.presented s hs hhash
    · rfl
  · refine hleft.step cfg a ?_ ?_
    · intro _ old hfound
      obtain ⟨hold, hfamily⟩ := hselect old hfound
      refine ⟨?_, hfamily⟩
      rw [← h.rest]
      exact key_outside h.valid hold (decide_eq_true hfamily)
    · intro s hs hfamily
      rw [← h.rest]
      exact key_outside h.valid hs (decide_eq_true hfamily)
  · intro pc' hpc' _
    by_cases hfirst : pc = .selectSession
    · -- the SELECT has found a session of the family, whose row the foreign key keeps
      subst hfirst
      cases hfound : getSessionByRefreshToken db (cfg.hashToken a.refreshToken) with
      | none =>
        simp only [RefreshPc.step, hfound, RefreshPc.raise] at hpc'
        cases hpc'
      | some old =>
        obtain ⟨hold, hfamily⟩ := hselect old hfound
        rw [← h.families.familyIds]
        exact h.valid.sessions.familyFkey old hold familyId hfamily
    · exact h.leftStored pc rfl hfirst
  · exact Nat.le_trans (h.single_step a hclear) h.single

/-! ## Runs of two calls -/

abbrev RefreshConfig :=
  Config AuthDb RefreshPc (Except Exc AuthSessionResponse) RefreshPc (Except Exc AuthSessionResponse)

def bothStart (db : AuthDb) : RefreshConfig :=
  ⟨db, .running .selectSession, .running .selectSession⟩

/-- The call at `x` deletes the stored old session while the one at `y` has read it for the last
time and not deleted it. -/
def deletesLate (db : AuthDb) (x y : RefreshControl) : Bool :=
  match x with
  | .running (.deleteOld old _) =>
    (getSession db old.accessToken).isSome && decide (deleting y = some old.accessToken)
  | _ => false

def lateDelete (x : RefreshConfig × Side) : Bool :=
  match x.2 with
  | .left => deletesLate x.1.shared x.1.left x.1.right
  | .right => deletesLate x.1.shared x.1.right x.1.left

/-- At most one of the calls returns tokens, and once both have ended no family has more than one
session. -/
structure SingleUseLaw (k : RefreshConfig) : Prop where
  answers : ∀ response response', k.left = .ended (.ok response) →
    k.right ≠ .ended (.ok response')
  sessions : ∀ result result', k.left = .ended result → k.right = .ended result' →
    ∀ f ∈ k.shared.tokenFamilies, k.shared.sessionCount f.familyId ≤ 1

theorem SingleUse.initial (h : FamilyInvariant db)
    (hpresented : ∀ s ∈ db.sessions, s.refreshToken = cfg.hashToken token →
      s.familyId = some familyId) :
    SingleUse cfg token familyId db db (.running .selectSession) (.running .selectSession) where
  valid := h.valid
  families := .refl db
  rest := rfl
  presented := hpresented
  left := trivial
  right := trivial
  leftStored _ hpc hne := absurd (Control.running.inj hpc).symm hne
  rightStored _ hpc hne := absurd (Control.running.inj hpc).symm hne
  single := filter_key_length_le_one h.one familyId

theorem SingleUse.law {k : RefreshConfig}
    (h : SingleUse cfg token familyId db₀ k.shared k.left k.right) (h₀ : FamilyInvariant db₀) :
    SingleUseLaw k := by
  refine ⟨?_, ?_⟩
  · intro response response' hleft
    have hon := h.left
    rw [hleft] at hon
    obtain ⟨e, he⟩ := hon
    cases he
  · intro result result' _ _ f _
    by_cases hf : f.familyId = familyId
    · rw [hf]
      have hsingle := h.single
      omega
    · rw [sessionCount_of_rest hf, h.rest, ← sessionCount_of_rest hf]
      exact filter_key_length_le_one h₀.one f.familyId

/-- **Single use.** Two calls of `refresh` with the same token, from a state that logins, refreshes
and logouts have led to one after another: in every run in which no call deletes the stored old
session while the other is past its last look at it, at most one of them returns tokens and no
family ends up with two sessions. -/
theorem single_use_of_run {db₁ : AuthDb} {events : List (AuthDb × AuthEvent)} {a b : RefreshCall}
    {steps : List (RefreshConfig × Side)} {k : RefreshConfig} (h : db₁.Initial)
    (hsequential : AuthRun cfg db₁ events db₀) (hsame : a.refreshToken = b.refreshToken)
    (hrun : Run (refreshCall cfg a) (refreshCall cfg b) (bothStart db₀) steps k)
    (hclear : ∀ x ∈ steps, lateDelete x = false) : SingleUseLaw k := by
  have h₀ := family_invariant_of_run h hsequential
  -- the family of the session the token belongs to, if there is one
  have hfamily : ∃ familyId, ∀ s ∈ db₀.sessions, s.refreshToken = cfg.hashToken a.refreshToken →
      s.familyId = some familyId := by
    by_cases hstored : ∃ s ∈ db₀.sessions, s.refreshToken = cfg.hashToken a.refreshToken
    · obtain ⟨old, hold, htoken⟩ := hstored
      obtain ⟨familyId, hfamily⟩ := h₀.owned old hold
      refine ⟨familyId, fun s hs hhash => ?_⟩
      obtain rfl := eq_of_key_eq h₀.valid.sessions.refreshToken hs hold (congrArg some hhash)
        (congrArg some htoken)
      exact hfamily
    · exact ⟨"", fun s hs hhash => absurd ⟨s, hs, hhash⟩ hstored⟩
  obtain ⟨familyId, hpresented⟩ := hfamily
  have hsingle : SingleUse cfg a.refreshToken familyId db₀ k.shared k.left k.right := by
    refine hrun.invariant_of_steps (I := fun k => SingleUse cfg a.refreshToken familyId db₀ k.shared
      k.left k.right) (.initial h₀ hpresented) ?_
    rintro ⟨k, side⟩ hx k' hk hstep
    have hlate := hclear _ hx
    cases hstep with
    | left db pc right =>
      refine SingleUse.step hk rfl fun old family hpc hstored hdeleting => ?_
      subst hpc
      have htrue : lateDelete (⟨db, .running (.deleteOld old family), right⟩, .left) = true := by
        show (_ && _) = true
        rw [hstored, decide_eq_true hdeleting]
        rfl
      rw [htrue] at hlate
      cases hlate
    | right db left pc =>
      refine (SingleUse.step hk.symm hsame.symm fun old family hpc hstored hdeleting => ?_).symm
      subst hpc
      have htrue : lateDelete (⟨db, left, .running (.deleteOld old family)⟩, .right) = true := by
        show (_ && _) = true
        rw [hstored, decide_eq_true hdeleting]
        rfl
      rw [htrue] at hlate
      cases hlate
  exact hsingle.law h₀

/-! ## The first token, refreshed twice at once -/

def otherRefresh : RefreshCall where
  refreshToken := "rtk_1"
  checkedAt := 60000000
  now := 60000000
  familyId := "fam_3"
  newAccess := "atk_3"
  newRefresh := "rtk_3"

def loggedIn : AuthDb := serveAuth readableSettings oneUser (.login firstLogin)

def refreshTwice (sides : List Side) : List (RefreshConfig × Side) × RefreshConfig :=
  play (refreshCall readableSettings firstRefresh) (refreshCall readableSettings otherRefresh)
    (bothStart loggedIn) sides

/-- One call after the other: the second does not find the token. -/
theorem single_use_of_one_by_one :
    SingleUseLaw (refreshTwice (List.replicate 13 .left ++ [.right])).2 := by
  have hrun := play_run (refreshCall readableSettings firstRefresh)
    (refreshCall readableSettings otherRefresh) (bothStart loggedIn)
    (List.replicate 13 .left ++ [.right])
  have hsequential : AuthRun readableSettings oneUser [(oneUser, .login firstLogin)] loggedIn :=
    Runs.replay_run (serveAuth readableSettings) oneUser [.login firstLogin]
  have hclear : ∀ x ∈ (refreshTwice (List.replicate 13 .left ++ [.right])).1,
      lateDelete x = false := by decide +kernel
  exact single_use_of_run (a := firstRefresh) (b := otherRefresh) oneUser_initial hsequential rfl
    hrun hclear

/-- Both calls pass the comparison with the counter and read the old session for the last time;
then both delete it, and both insert. -/
def bothAtOnce : List Side :=
  List.replicate 3 .left ++ List.replicate 3 .right ++ List.replicate 5 .left ++
    List.replicate 5 .right ++ List.replicate 5 .left ++ List.replicate 5 .right

theorem single_use_broken :
    (refreshTwice bothAtOnce).2.shared.sessionCount "fam_1" = 2 ∧
      ¬ ∀ steps k, Run (refreshCall readableSettings firstRefresh)
        (refreshCall readableSettings otherRefresh) (bothStart loggedIn) steps k →
          SingleUseLaw k := by
  have hcount : (refreshTwice bothAtOnce).2.shared.sessionCount "fam_1" = 2 := by decide +kernel
  refine ⟨hcount, fun hlaw => ?_⟩
  have hrun := play_run (refreshCall readableSettings firstRefresh)
    (refreshCall readableSettings otherRefresh) (bothStart loggedIn) bothAtOnce
  have hone : (refreshTwice bothAtOnce).2.shared.sessionCount "fam_1" ≤ 1 :=
    (hlaw _ _ hrun).sessions
      (.error (.attributeError "'UserORM' object has no attribute 'user_id'"))
      (.error (.attributeError "'UserORM' object has no attribute 'user_id'"))
      (by decide +kernel) (by decide +kernel)
      { familyId := "fam_1", email := "user@example.com", currentSequence := 1 } (by decide +kernel)
  omega

end NocIq
