import NocIq.Auth.Rotation

/-!
# NocIq — token families over runs

Runs of `login`, `refresh`, `logout` and `logout_all_sessions` from a store nobody has logged in
to. A rotation advances the counter of the family, reads it back and gives the new session the
value after that, so every rotated session is one ahead of its family.

* **`FamilyInvariant.serveAuth`** — what every call keeps.
* **`token_family_law_of_run`** — the sessions are at the counters of their families exactly in
  the runs without a rotation.
-/

namespace NocIq

open Relational Interleaving

variable {cfg : AuthSettings} {db db' : AuthDb}

/-! ## The invariant is kept -/

theorem FamilyInvariant.sublist (h : FamilyInvariant db) (hvalid : db'.Valid)
    (hsessions : db'.sessions.Sublist db.sessions)
    (hfamilies : db'.tokenFamilies ⊆ db.tokenFamilies) : FamilyInvariant db' where
  toConsistent := h.mono hvalid hsessions.subset (.of_subset hfamilies)
  one := h.one.sublist (hsessions.filterMap _)
  ahead s hs f hf := h.ahead s (hsessions.subset hs) f (hfamilies hf)
  trusted f hf := h.trusted f (hfamilies hf)

variable {family : TokenFamilyORM}

theorem FamilyInvariant.insertFamily (h : FamilyInvariant db)
    (hvalid : (insertFamily family db).Valid) (htrusted : family.compromised = false) :
    FamilyInvariant (insertFamily family db) := by
  have hunowned := insertFamily_unowned h.valid hvalid
  refine ⟨h.toConsistent.insertFamily hvalid, h.one, ?_, ?_⟩
  · intro s hs f hf hsf
    rcases List.mem_append.mp hf with hf | hf
    · exact h.ahead s hs f hf hsf
    · rw [List.mem_singleton.mp hf] at hsf
      exact absurd hsf (hunowned s hs)
  · intro f hf
    rcases List.mem_append.mp hf with hf | hf
    · exact h.trusted f hf
    · rw [List.mem_singleton.mp hf]
      exact htrusted

theorem FamilyInvariant.insertSession (h : FamilyInvariant db) {session : SessionORM}
    (hvalid : (insertSession session db).Valid) (hfamily : family ∈ db.tokenFamilies)
    (howned : session.familyId = some family.familyId) (hemail : session.email = family.email)
    (hahead : family.currentSequence ≤ session.sequence)
    (hunowned : ∀ s ∈ db.sessions, s.familyId ≠ some family.familyId) :
    FamilyInvariant (insertSession session db) := by
  -- the primary key leaves one row for the family of the session
  have hsame : ∀ f ∈ db.tokenFamilies, session.familyId = some f.familyId → f = family := by
    intro f hf hsf
    exact eq_of_key_eq h.valid.families.pkey hf hfamily rfl (howned.symm.trans hsf)
  refine ⟨h.toConsistent.insertSession hvalid howned ?_, ?_, ?_, h.trusted⟩
  · intro f hf hid
    rw [hsame f hf (howned.trans (congrArg some hid.symm))]
    exact hemail
  · refine nodup_keys_concat.mpr ⟨h.one, ?_⟩
    intro s hs k hk
    rw [← hk, howned]
    exact hunowned s hs
  · intro s hs f hf hsf
    rcases List.mem_append.mp hs with hs | hs
    · exact h.ahead s hs f hf hsf
    · rw [List.mem_singleton.mp hs] at hsf ⊢
      rw [hsame f hf hsf]
      exact hahead

/-- The families of a rotation: the counter of one is set. -/
theorem mem_rotatedOut_families {old : SessionORM} {f : TokenFamilyORM}
    (h : f ∈ (rotatedOut old family db).tokenFamilies) :
    (f ∈ db.tokenFamilies ∧ f.familyId ≠ family.familyId) ∨
      ∃ f₀ ∈ db.tokenFamilies, f₀.familyId = family.familyId ∧
        f = { f₀ with currentSequence := family.currentSequence + 1 } := by
  obtain ⟨f₀, hf₀, rfl⟩ := List.mem_map.mp h
  by_cases hid : f₀.familyId = family.familyId
  · rw [if_pos hid]
    exact .inr ⟨f₀, hf₀, hid, rfl⟩
  · rw [if_neg hid]
    exact .inl ⟨hf₀, hid⟩

theorem FamilyInvariant.rotatedOut_unowned (h : FamilyInvariant db) {old : SessionORM}
    (hold : old ∈ db.sessions) (howned : old.familyId = some family.familyId) :
    ∀ s ∈ (rotatedOut old family db).sessions, s.familyId ≠ some family.familyId := by
  intro s hs heq
  obtain ⟨hs, hne⟩ := mem_rotatedOut_sessions.mp hs
  obtain rfl := eq_of_key_eq h.one hs hold heq howned
  exact hne rfl

theorem FamilyInvariant.rotatedOut (h : FamilyInvariant db) {old : SessionORM}
    (hold : old ∈ db.sessions) (howned : old.familyId = some family.familyId) :
    FamilyInvariant (rotatedOut old family db) := by
  have hunowned := h.rotatedOut_unowned hold howned
  have hsub : (NocIq.rotatedOut old family db).sessions.Sublist db.sessions := List.filter_sublist
  -- the sessions that are left belong to families the rotation does not touch
  have hother : ∀ s ∈ (NocIq.rotatedOut old family db).sessions,
      ∀ f ∈ (NocIq.rotatedOut old family db).tokenFamilies, s.familyId = some f.familyId →
        f ∈ db.tokenFamilies := by
    intro s hs f hf hsf
    rcases mem_rotatedOut_families hf with ⟨hf, -⟩ | ⟨f₀, -, hid, rfl⟩
    · exact hf
    · exact absurd (hsf.trans (congrArg some hid)) (hunowned s hs)
  refine ⟨h.mono (rotatedOut_valid h.valid old family) hsub.subset ?_, ?_, ?_, ?_⟩
  · intro f hf
    rcases mem_rotatedOut_families hf with ⟨hf, -⟩ | ⟨f₀, hf₀, -, rfl⟩
    · exact ⟨f, hf, rfl, rfl⟩
    · exact ⟨f₀, hf₀, rfl, rfl⟩
  · exact h.one.sublist (hsub.filterMap _)
  · intro s hs f hf hsf
    exact h.ahead s (hsub.subset hs) f (hother s hs f hf hsf) hsf
  · intro f hf
    rcases mem_rotatedOut_families hf with ⟨hf, -⟩ | ⟨f₀, hf₀, -, rfl⟩
    · exact h.trusted f hf
    · exact h.trusted f₀ hf₀

theorem rotatedOut_family (old : SessionORM) (hfamily : family ∈ db.tokenFamilies) :
    { family with currentSequence := family.currentSequence + 1 } ∈
      (rotatedOut old family db).tokenFamilies := by
  refine List.mem_map.mpr ⟨family, hfamily, ?_⟩
  rw [if_pos rfl]

theorem FamilyInvariant.login (h : FamilyInvariant db) (a : LoginCall) :
    FamilyInvariant (login cfg a db).2 := by
  cases login_effect cfg a db with
  | rejected hsame => exact hsame.invariant h
  | halfWay db₀ hsame hvalid heq =>
    rw [heq]
    exact (hsame.invariant h).insertFamily hvalid rfl
  | accepted db₀ hsame hfamily hsession heq =>
    have h₀ := hsame.invariant h
    rw [heq]
    have hmem : a.family ∈ (NocIq.insertFamily a.family db₀).tokenFamilies :=
      List.mem_append_right _ (List.mem_singleton_self _)
    refine (h₀.insertFamily hfamily rfl).insertSession hsession hmem rfl rfl (Int.le_refl 0) ?_
    · exact insertFamily_unowned h₀.valid hfamily

theorem FamilyInvariant.refresh (h : FamilyInvariant db) (a : RefreshCall) :
    FamilyInvariant (refresh cfg a db).2 := by
  cases refresh_effect cfg h a with
  | rejected hsame => exact hsame.invariant h
  | halfWay old family hpresents _ howned _ heq =>
    rw [heq]
    exact h.rotatedOut (getSessionByRefreshToken_mem hpresents.found).1 howned
  | rotated old family hpresents hfamily howned _ hvalid heq =>
    have hold := (getSessionByRefreshToken_mem hpresents.found).1
    rw [heq]
    refine (h.rotatedOut hold howned).insertSession hvalid (rotatedOut_family old hfamily) rfl
      (h.email old hold family hfamily howned) ?_ (h.rotatedOut_unowned hold howned)
    show family.currentSequence + 1 ≤ family.currentSequence + 1 + 1
    omega

/-- **The step lemma.** Every call keeps the invariant. -/
theorem FamilyInvariant.serveAuth (h : FamilyInvariant db) (e : AuthEvent) :
    FamilyInvariant (serveAuth cfg db e) := by
  cases e with
  | login a => exact h.login a
  | refresh a => exact h.refresh a
  | logout token =>
    obtain ⟨accessTokens, hsame⟩ := logout_effect cfg h.valid token
    apply hsame.invariant
    exact h.sublist (h.valid.withoutSessions _) List.filter_sublist (List.Subset.refl _)
  | logoutAllSessions email =>
    obtain ⟨count, logs, heq⟩ := logoutAllSessions_eq h.toConsistent email
    show FamilyInvariant (NocIq.logoutAllSessions email db).2
    rw [heq]
    have hvalid := h.withoutEmail_valid email
    have hsame : SameTables (db.withoutEmail email) { db.withoutEmail email with auditLogs := logs } :=
      ⟨rfl, rfl, rfl⟩
    apply hsame.invariant
    exact h.sublist hvalid List.filter_sublist List.filter_sublist.subset

theorem AuthDb.Initial.invariant (h : db.Initial) : FamilyInvariant db := by
  have hs : ∀ s, s ∉ db.sessions := by
    rw [h.sessions]
    exact fun _ => List.not_mem_nil
  have hf : ∀ f, f ∉ db.tokenFamilies := by
    rw [h.tokenFamilies]
    exact fun _ => List.not_mem_nil
  refine ⟨⟨h.valid, ?_, ?_⟩, ?_, ?_, ?_⟩
  · exact fun s hmem => absurd hmem (hs s)
  · exact fun s hmem => absurd hmem (hs s)
  · rw [h.sessions]
    exact List.nodup_nil
  · exact fun s hmem => absurd hmem (hs s)
  · exact fun f hmem => absurd hmem (hf f)

/-- **The run lemma.** -/
theorem family_invariant_of_run {steps : List (AuthDb × AuthEvent)} (h : db.Initial)
    (hrun : AuthRun cfg db steps db') : FamilyInvariant db' := by
  refine hrun.invariant h.invariant ?_
  rintro t e u ht rfl
  exact ht.serveAuth e

/-! ## The law of token families -/

/-- Every family has at most one session, and its sequence is the counter of the family. -/
structure TokenFamilyLaw (db : AuthDb) : Prop where
  one : ∀ f ∈ db.tokenFamilies,
    (db.sessions.filter fun s => decide (s.familyId = some f.familyId)).length ≤ 1
  current : ∀ f ∈ db.tokenFamilies, ∀ s ∈ db.sessions, s.familyId = some f.familyId →
    s.sequence = f.currentSequence

theorem FamilyInvariant.tokenFamilyLaw (h : FamilyInvariant db)
    (hcurrent : ∀ f ∈ db.tokenFamilies, ∀ s ∈ db.sessions, s.familyId = some f.familyId →
      s.sequence = f.currentSequence) : TokenFamilyLaw db :=
  ⟨fun f _ => filter_key_length_le_one h.one f.familyId, hcurrent⟩

theorem SameTables.law (h : SameTables db db') (hlaw : TokenFamilyLaw db) : TokenFamilyLaw db' := by
  obtain ⟨hone, hcurrent⟩ := hlaw
  refine ⟨?_, ?_⟩
  · rw [h.tokenFamilies, h.sessions]
    exact hone
  · rw [h.tokenFamilies, h.sessions]
    exact hcurrent

theorem TokenFamilyLaw.sublist (h : TokenFamilyLaw db) (hI : FamilyInvariant db')
    (hsessions : db'.sessions ⊆ db.sessions) (hfamilies : db'.tokenFamilies ⊆ db.tokenFamilies) :
    TokenFamilyLaw db' :=
  hI.tokenFamilyLaw fun f hf s hs => h.current f (hfamilies hf) s (hsessions hs)

theorem TokenFamilyLaw.insertFamily (h : TokenFamilyLaw db) (hI : FamilyInvariant db)
    (hvalid : (insertFamily family db).Valid) (htrusted : family.compromised = false) :
    TokenFamilyLaw (insertFamily family db) := by
  refine (hI.insertFamily hvalid htrusted).tokenFamilyLaw ?_
  intro f hf s hs hsf
  rcases List.mem_append.mp hf with hf | hf
  · exact h.current f hf s hs hsf
  · rw [List.mem_singleton.mp hf] at hsf
    exact absurd hsf (insertFamily_unowned hI.valid hvalid s hs)

theorem TokenFamilyLaw.login (h : TokenFamilyLaw db) (hI : FamilyInvariant db) (a : LoginCall) :
    TokenFamilyLaw (login cfg a db).2 := by
  have hI' : FamilyInvariant (NocIq.login cfg a db).2 := hI.login a
  cases login_effect cfg a db with
  | rejected hsame => exact hsame.law h
  | halfWay db₀ hsame hvalid heq =>
    rw [heq]
    exact (hsame.law h).insertFamily (hsame.invariant hI) hvalid rfl
  | accepted db₀ hsame hfamily hsession heq =>
    have hlaw := (hsame.law h).insertFamily (hsame.invariant hI) hfamily rfl
    rw [heq] at hI' ⊢
    refine hI'.tokenFamilyLaw ?_
    intro f hf s hs hsf
    rcases List.mem_append.mp hs with hs | hs
    · exact hlaw.current f hf s hs hsf
    · rw [List.mem_singleton.mp hs] at hsf ⊢
      have hmem : a.family ∈ (NocIq.insertFamily a.family db₀).tokenFamilies :=
        List.mem_append_right _ (List.mem_singleton_self _)
      obtain rfl := eq_of_key_eq hfamily.families.pkey hf hmem rfl hsf
      rfl

theorem TokenFamilyLaw.refresh_iff (h : TokenFamilyLaw db) (hI : FamilyInvariant db)
    (a : RefreshCall) : TokenFamilyLaw (refresh cfg a db).2 ↔ ¬ a.Rotates cfg db := by
  have hI' : FamilyInvariant (NocIq.refresh cfg a db).2 := hI.refresh a
  cases refresh_effect cfg hI a with
  | rejected hsame hnot => exact iff_of_true (hsame.law h) hnot
  | halfWay old family hpresents hfamily howned hnot heq =>
    have hold := (getSessionByRefreshToken_mem hpresents.found).1
    -- the family that has advanced has no session left
    rw [heq] at hI' ⊢
    refine iff_of_true (hI'.tokenFamilyLaw ?_) hnot
    intro f hf s hs hsf
    rcases mem_rotatedOut_families hf with ⟨hf, -⟩ | ⟨f₀, -, hid, rfl⟩
    · exact h.current f hf s (mem_rotatedOut_sessions.mp hs).1 hsf
    · exact absurd (hsf.trans (congrArg some hid)) (hI.rotatedOut_unowned hold howned s hs)
  | rotated old family _ hfamily _ hrotates _ heq =>
    -- the new session counts from the advanced counter: two more, where the family has one more
    refine iff_of_false ?_ (not_not_intro hrotates)
    intro hlaw
    rw [heq] at hlaw
    have hsession : a.session cfg old.email family.familyId family.currentSequence ∈
        (NocIq.insertSession (a.session cfg old.email family.familyId family.currentSequence)
          (rotatedOut old family db)).sessions :=
      List.mem_append_right _ (List.mem_singleton_self _)
    have hcurrent : family.currentSequence + 1 + 1 = family.currentSequence + 1 :=
      hlaw.current _ (rotatedOut_family old hfamily) _ hsession rfl
    omega

def AuthEvent.NoRotation (cfg : AuthSettings) (db : AuthDb) : AuthEvent → Prop
  | .refresh a => ¬ a.Rotates cfg db
  | _ => True

theorem TokenFamilyLaw.serveAuth_iff (h : TokenFamilyLaw db) (hI : FamilyInvariant db)
    (e : AuthEvent) : TokenFamilyLaw (serveAuth cfg db e) ↔ e.NoRotation cfg db := by
  have hI' : FamilyInvariant (serveAuth cfg db e) := hI.serveAuth e
  cases e with
  | login a => exact iff_of_true (h.login hI a) trivial
  | refresh a => exact h.refresh_iff hI a
  | logout token =>
    obtain ⟨accessTokens, hsame⟩ := logout_effect cfg hI.valid token
    refine iff_of_true (h.sublist hI' ?_ ?_) trivial
    · show (logout cfg token db).2.sessions ⊆ _
      rw [hsame.sessions]
      exact List.filter_sublist.subset
    · show (logout cfg token db).2.tokenFamilies ⊆ _
      rw [hsame.tokenFamilies]
      exact List.Subset.refl _
  | logoutAllSessions email =>
    obtain ⟨count, logs, heq⟩ := logoutAllSessions_eq hI.toConsistent email
    refine iff_of_true (h.sublist hI' ?_ ?_) trivial
    · show (NocIq.logoutAllSessions email db).2.sessions ⊆ _
      rw [heq]
      exact List.filter_sublist.subset
    · show (NocIq.logoutAllSessions email db).2.tokenFamilies ⊆ _
      rw [heq]
      exact List.filter_sublist.subset

/-- **Token families.** A run visits only states whose sessions are at the counters of their
families exactly if no call of it rotates a session. -/
theorem token_family_law_of_run {steps : List (AuthDb × AuthEvent)} (h : db.Initial)
    (hrun : AuthRun cfg db steps db') :
    ((∀ x ∈ steps, TokenFamilyLaw x.1) ∧ TokenFamilyLaw db') ↔
      ∀ x ∈ steps, x.2.NoRotation cfg x.1 := by
  have hlaw : TokenFamilyLaw db := by
    refine h.invariant.tokenFamilyLaw fun f hf => ?_
    rw [h.tokenFamilies] at hf
    exact absurd hf List.not_mem_nil
  refine Runs.Run.forall_iff (I := FamilyInvariant) (P := TokenFamilyLaw)
    (C := fun db e => e.NoRotation cfg db) h.invariant hlaw ?_ ?_ hrun
  · rintro t e u ht rfl
    exact ht.serveAuth e
  · rintro t e u ht hP rfl
    exact hP.serveAuth_iff ht e

/-! ## One user -/

def firstLogin : LoginCall where
  email := "user@example.com"
  password := "Password123!"
  checkedAt := 0
  now := 0
  familyId := "fam_1"
  accessToken := "atk_1"
  refreshToken := "rtk_1"

def firstRefresh : RefreshCall where
  refreshToken := "rtk_1"
  checkedAt := 60000000
  now := 60000000
  familyId := "fam_2"
  newAccess := "atk_2"
  newRefresh := "rtk_2"

theorem oneUser_initial : oneUser.Initial :=
  ⟨(satisfies_authSchema_iff _).mp (by decide +kernel), rfl, rfl⟩

theorem token_family_law_of_login :
    (∀ x ∈ Runs.replay (serveAuth readableSettings) oneUser [.login firstLogin],
        TokenFamilyLaw x.1) ∧
      TokenFamilyLaw (serveAuth readableSettings oneUser (.login firstLogin)) := by
  have hrun := Runs.replay_run (serveAuth readableSettings) oneUser [.login firstLogin]
  refine (token_family_law_of_run oneUser_initial hrun).mpr fun x hx => ?_
  rw [List.mem_singleton.mp hx]
  trivial

/-- After the login and one rotation the session is at 2 and its family at 1. -/
theorem token_family_law_broken :
    ¬ ∀ steps db, AuthRun readableSettings oneUser steps db → TokenFamilyLaw db := by
  intro hlaw
  have hrun := Runs.replay_run (serveAuth readableSettings) oneUser
    [.login firstLogin, .refresh firstRefresh]
  have hcurrent : (2 : Int) = 1 := (hlaw _ _ hrun).current
    { familyId := "fam_1", email := "user@example.com", currentSequence := 1 } (by decide +kernel)
    (newSession readableSettings "atk_2" "rtk_2" "user@example.com" "fam_1" 2 60000000)
    (by decide +kernel) rfl
  omega

end NocIq
