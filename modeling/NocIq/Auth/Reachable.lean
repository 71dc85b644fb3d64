import NocIq.Auth.RefreshSteps

/-!
# NocIq — reachable authentication states

The states that logins, refreshes and logouts lead to from a store nobody has logged in to, one
after another or two refreshes and logouts everywhere at once (`AuthReachable`). Sessions may lose
their place in a family this way, but not the family: a session has one, of its own email.

* **`refresh_guarantees` / `logoutAll_guarantees`** — what a statement keeps and what it promises
  the call next to it.
* **`consistent_of_reachable`** — every reachable state is consistent.
-/

namespace NocIq

open Relational Interleaving

variable {cfg : AuthSettings} {db db' : AuthDb}

/-! ## Commits of more than one statement -/

theorem commit_cases {α : Type} (h : db.Valid) (pending : List (Statement AuthDb)) (result : α) :
    ((pending.foldl (fun db f => f db) db).Valid ∧
        db.commit pending result = (.ok result, pending.foldl (fun db f => f db) db)) ∨
      ∃ name, db.commit pending result = (.error (.integrityError name), db) := by
  unfold AuthDb.commit
  by_cases hsat : SatisfiesEach authSchema pending db
  · left
    rw [execAll_of_satisfiesEach hsat]
    exact ⟨(satisfies_authSchema_iff _).mp (hsat.foldl ((satisfies_authSchema_iff db).mpr h)), rfl⟩
  · obtain ⟨name, hname⟩ := execAll_of_not_satisfiesEach hsat
    right
    rw [hname]
    exact ⟨name, rfl⟩

theorem foldl_deleteFamily (rows : List TokenFamilyORM) (db : AuthDb) :
    (rows.map fun f => deleteFamily f.familyId).foldl (fun db f => f db) db =
      db.withoutFamilies (rows.map (·.familyId)) := by
  induction rows generalizing db with
  | nil => exact (withoutFamilies_nil db).symm
  | cons f rows ih =>
    rw [List.map_cons, List.foldl_cons, ih, List.map_cons, withoutFamilies_cons]

theorem LogoutAllPc.commit_deleteSessions (h : db.Valid) (rows : List SessionORM)
    (next : LogoutAllPc) :
    commit (rows.map fun s => deleteSession s.accessToken) next db =
      (.running next, db.withoutSessions (rows.map (·.accessToken))) := by
  unfold commit
  rw [NocIq.commit_deleteSessions h]

/-! ## What the calls guarantee -/

/-- From its first SELECT on, a refresh works on a session of a family with the same email. -/
def RefreshAsserts (control : RefreshControl) (db : AuthDb) : Prop :=
  ∀ pc, control = .running pc → pc ≠ .selectSession → ∃ email familyId,
    pc.On (fun old => old.email = email) familyId ∧
      ∀ f ∈ db.tokenFamilies, f.familyId = familyId → f.email = email

theorem RefreshAsserts.stable : StableUnder RefreshAsserts FamiliesFrom := by
  intro control db db' h hfrom pc hpc hne
  obtain ⟨email, familyId, hon, hagree⟩ := h pc hpc hne
  exact ⟨email, familyId, hon, hfrom.agree hagree⟩

theorem AuthDb.Consistent.email_of_family (h : db.Consistent) {email familyId : String}
    (hagree : ∀ f ∈ db.tokenFamilies, f.familyId = familyId → f.email = email) {s : SessionORM}
    (hs : s ∈ db.sessions) (hfamily : s.familyId = some familyId) : s.email = email := by
  obtain ⟨f, hf, hid⟩ := List.mem_map.mp (h.valid.sessions.familyFkey s hs familyId hfamily)
  rw [h.email s hs f hf (hid ▸ hfamily)]
  exact hagree f hf hid

theorem AuthDb.Consistent.refresh_step (h : db.Consistent) (cfg : AuthSettings)
    {P : SessionORM → Prop} {pc : RefreshPc} {email familyId : String}
    (hP : ∀ old, P old → old.email = email) (hon : pc.On P familyId)
    (hagree : ∀ f ∈ db.tokenFamilies, f.familyId = familyId → f.email = email) (a : RefreshCall) :
    (pc.step cfg a db).2.Consistent ∧ FamiliesFrom db (pc.step cfg a db).2 := by
  obtain ⟨hvalid, hsame⟩ := hon.keeps cfg h.valid a
  have hfrom := hsame.familiesFrom
  refine ⟨⟨hvalid, ?_, ?_⟩, hfrom⟩
  · intro s hs
    rcases hon.mem_sessions cfg h.valid a hs with hs | ⟨old, family, user, -, -, -, rfl⟩
    · exact h.owned s hs
    · exact ⟨familyId, rfl⟩
  · intro s hs f' hf' hsf
    obtain ⟨f, hf, hid, hemail⟩ := hfrom f' hf'
    rw [← hemail]
    rw [← hid] at hsf
    rcases hon.mem_sessions cfg h.valid a hs with
      hs | ⟨old, family, user, -, hold, -, rfl⟩
    · exact h.email s hs f hf hsf
    · rw [hagree f hf (Option.some.inj hsf).symm]
      exact hP old hold

theorem refresh_guarantees (cfg : AuthSettings) (a : RefreshCall) :
    Guarantees (refreshCall cfg a) AuthDb.Consistent RefreshAsserts FamiliesFrom := by
  intro pc db hc hasserts
  rw [refreshCall_step]
  -- the first SELECT chooses the session; every other statement is about it
  by_cases hfirst : pc = .selectSession
  · subst hfirst
    cases hfound : getSessionByRefreshToken db (cfg.hashToken a.refreshToken) with
    | none =>
      simp only [RefreshPc.step, hfound, RefreshPc.raise]
      refine ⟨hc, ?_, .of_subset (List.Subset.refl _)⟩
      intro pc hpc
      cases hpc
    | some old =>
      simp only [RefreshPc.step, hfound]
      obtain ⟨hold, -⟩ := getSessionByRefreshToken_mem hfound
      obtain ⟨familyId, hfamily⟩ := hc.owned old hold
      refine ⟨hc, ?_, .of_subset (List.Subset.refl _)⟩
      intro pc hpc _
      obtain rfl := Control.running.inj hpc
      refine ⟨old.email, familyId, ⟨rfl, hfamily⟩, fun f hf hid => ?_⟩
      exact (hc.email old hold f hf (hid ▸ hfamily)).symm
  · obtain ⟨email, familyId, hon, hagree⟩ := hasserts pc rfl hfirst
    obtain ⟨hc', hfrom⟩ := hc.refresh_step cfg (fun _ heq => heq) hon hagree a
    have hcontrol := hon.step cfg a (fun heq => absurd heq hfirst)
      fun s hs hfamily => hc.email_of_family hagree hs hfamily
    refine ⟨hc', ?_, hfrom⟩
    intro pc' hpc' _
    rw [hpc'] at hcontrol
    exact ⟨email, familyId, hcontrol, hfrom.agree hagree⟩

theorem logoutAll_guarantees (email : String) :
    Guarantees (logoutAllCall email) AuthDb.Consistent (fun _ _ => True) FamiliesFrom := by
  intro pc db hc _
  rw [logoutAllCall_step]
  have hsame : FamiliesFrom db db := .of_subset (List.Subset.refl _)
  cases pc with
  | selectSessions => exact ⟨hc, trivial, hsame⟩
  | selectFamilies count => exact ⟨hc, trivial, hsame⟩
  | logEvent count => exact ⟨(SameTables.logEvent db _).consistent hc, trivial, hsame⟩
  | deleteSessions rows =>
    dsimp only [LogoutAllPc.step]
    rw [LogoutAllPc.commit_deleteSessions hc.valid]
    refine ⟨hc.mono (hc.valid.withoutSessions _) ?_ hsame, trivial, hsame⟩
    exact List.filter_sublist.subset
  | deleteFamilies count rows =>
    dsimp only [LogoutAllPc.step, LogoutAllPc.commit]
    -- the families may have sessions again by now; then nothing is deleted
    rcases commit_cases hc.valid (rows.map fun f => deleteFamily f.familyId) () with
      ⟨hvalid, hcommit⟩ | ⟨name, hcommit⟩
    · rw [hcommit]
      rw [foldl_deleteFamily] at hvalid ⊢
      have hfewer : FamiliesFrom db (db.withoutFamilies (rows.map (·.familyId))) :=
        .of_subset List.filter_sublist.subset
      exact ⟨hc.mono hvalid (List.Subset.refl _) hfewer, trivial, hfewer⟩
    · rw [hcommit]
      exact ⟨hc, trivial, hsame⟩

/-! ## Reachable states -/

/-- The states of the store. -/
inductive AuthReachable (cfg : AuthSettings) : AuthDb → Prop where
  | initial {db : AuthDb} (h : db.Initial) : AuthReachable cfg db
  | call {db : AuthDb} (h : AuthReachable cfg db) (e : AuthEvent) :
    AuthReachable cfg (serveAuth cfg db e)
  | refreshes {db : AuthDb} (h : AuthReachable cfg db) (a b : RefreshCall) {steps k}
      (hrun : Run (refreshCall cfg a) (refreshCall cfg b)
        ⟨db, .running .selectSession, .running .selectSession⟩ steps k) : AuthReachable cfg k.shared
  | refreshLogout {db : AuthDb} (h : AuthReachable cfg db) (a : RefreshCall) (email : String)
      {steps k} (hrun : Run (refreshCall cfg a) (logoutAllCall email)
        ⟨db, .running .selectSession, .running .selectSessions⟩ steps k) :
    AuthReachable cfg k.shared
  | logouts {db : AuthDb} (h : AuthReachable cfg db) (email email' : String) {steps k}
      (hrun : Run (logoutAllCall email) (logoutAllCall email')
        ⟨db, .running .selectSessions, .running .selectSessions⟩ steps k) :
    AuthReachable cfg k.shared

theorem RefreshAsserts.start (db : AuthDb) : RefreshAsserts (.running .selectSession) db :=
  fun _ hpc hne => absurd (Control.running.inj hpc).symm hne

theorem AuthDb.Consistent.login (h : db.Consistent) (a : LoginCall) :
    (login cfg a db).2.Consistent := by
  cases login_effect cfg a db with
  | rejected hsame => exact hsame.consistent h
  | halfWay db₀ hsame hvalid heq =>
    rw [heq]
    exact (hsame.consistent h).insertFamily hvalid
  | accepted db₀ hsame hfamily hsession heq =>
    have h₀ := hsame.consistent h
    rw [heq]
    refine (h₀.insertFamily hfamily).insertSession hsession rfl fun f hf hid => ?_
    have hmem : a.family ∈ (NocIq.insertFamily a.family db₀).tokenFamilies :=
      List.mem_append_right _ (List.mem_singleton_self _)
    obtain rfl := eq_of_key_eq hfamily.families.pkey hf hmem rfl (congrArg some hid.symm)
    rfl

theorem AuthDb.Consistent.serveAuth (h : db.Consistent) (e : AuthEvent) :
    (serveAuth cfg db e).Consistent := by
  cases e with
  | login a => exact h.login a
  | refresh a =>
    have halone := Call.alone_invariant (c := refreshCall cfg a)
      (I := fun control db => db.Consistent ∧ RefreshAsserts control db)
      (fun pc db hI =>
        have hstep := refresh_guarantees cfg a pc db hI.1 hI.2
        ⟨hstep.1, hstep.2.1⟩)
      ⟨h, RefreshAsserts.start db⟩
    exact halone.1
  | logout token =>
    obtain ⟨accessTokens, hsame⟩ := logout_effect cfg h.valid token
    apply hsame.consistent
    exact h.mono (h.valid.withoutSessions _) List.filter_sublist.subset
      (.of_subset (List.Subset.refl _))
  | logoutAllSessions email =>
    show ((logoutAllCall email).alone .selectSessions db).2.Consistent
    exact Call.alone_invariant (c := logoutAllCall email) (I := fun _ db => db.Consistent)
      (fun pc db hI => (logoutAll_guarantees email pc db hI trivial).1) h

/-- **Reachable states are consistent.** Two calls at once by the rely-guarantee rule. -/
theorem consistent_of_reachable (h : AuthReachable cfg db) : db.Consistent := by
  have htrue : StableUnder (fun (_ : LogoutAllControl) (_ : AuthDb) => True) FamiliesFrom :=
    fun _ _ _ _ _ => trivial
  induction h with
  | initial h =>
    refine ⟨h.valid, fun s hs => ?_, fun s hs => ?_⟩
    · rw [h.sessions] at hs
      exact absurd hs List.not_mem_nil
    · rw [h.sessions] at hs
      exact absurd hs List.not_mem_nil
  | call _ e ih => exact ih.serveAuth e
  | refreshes _ a b hrun ih =>
    exact (relyGuarantee (refresh_guarantees cfg a) (refresh_guarantees cfg b)
      RefreshAsserts.stable RefreshAsserts.stable
      ⟨ih, RefreshAsserts.start _, RefreshAsserts.start _⟩ hrun).shared
  | refreshLogout _ a email hrun ih =>
    exact (relyGuarantee (refresh_guarantees cfg a) (logoutAll_guarantees email)
      RefreshAsserts.stable htrue ⟨ih, RefreshAsserts.start _, trivial⟩ hrun).shared
  | logouts _ email email' hrun ih =>
    exact (relyGuarantee (logoutAll_guarantees email) (logoutAll_guarantees email')
      htrue htrue ⟨ih, trivial, trivial⟩ hrun).shared

end NocIq
