import NocIq.Lib.ReadCommitted

/-!
# SerialRuns — transactions that do not overlap

* **`Solo.step`** — a transaction that runs while no other one is open computes its sequential
  meaning `exec`; **`Solo.progress`** — and it never waits.
* **`serial_stuck`** — so what the execution of whole transactions keeps, every serial run keeps.
-/

namespace ReadCommitted

set_option linter.unusedSectionVars false

variable {ρ κ α τ : Type} {tbl : Table ρ κ} [DecidableEq κ] [DecidableEq τ] [Fintype τ]
  {s s' : State τ tbl α} {t u : τ}

/-! ## A transaction on its own -/

/-- No other session holds anything; the rows `t` sees have different primary keys, and the
candidates it has still to look at are among them. -/
structure Solo (s : State τ tbl α) (t : τ) : Prop where
  others : ∀ u, u ≠ t → (s.session u).Released
  ids : ((s.view t).map tbl.id).Nodup
  candidates : ∀ pred cs next, (s.session t).control = .locking pred cs next →
    ∀ c ∈ cs, c ∈ s.view t ∧ pred c = true

/-- What the session comes to if nothing else happens. -/
def outcome (s : State τ tbl α) (t : τ) : Option α × List ρ × Nat :=
  match (s.session t).control with
  | .running p => exec p s.committed (s.view t) s.seq
  | .locking _ cs next => exec (next cs.head?) s.committed (s.view t) s.seq
  | .ended result => (result, s.committed, s.seq)

theorem Solo.lockedByOther (h : Solo s t) (k : κ) : s.lockedByOther t k = false := by
  unfold State.lockedByOther
  rw [decide_eq_false_iff_not]
  intro hlocked
  obtain ⟨u, hne, hk⟩ := hlocked
  rw [(h.others u hne).locked] at hk
  exact absurd hk (Finset.notMem_empty k)

theorem Solo.mustWait (h : Solo s t) (row : ρ) : s.mustWait t row = false := by
  unfold State.mustWait
  rw [decide_eq_false_iff_not]
  intro hwait
  obtain ⟨u, hne, hu⟩ := hwait
  rw [(h.others u hne).inserted, (h.others u hne).updated] at hu
  simp at hu

theorem Solo.set (h : Solo s t) (s₀ : State τ tbl α) (hsame : s₀.session = s.session)
    {x : Session tbl α} (hids : (((s₀.set t x).view t).map tbl.id).Nodup)
    (hcandidates : ∀ pred cs next, x.control = .locking pred cs next →
      ∀ c ∈ cs, c ∈ (s₀.set t x).view t ∧ pred c = true) : Solo (s₀.set t x) t := by
  refine ⟨?_, hids, ?_⟩
  · intro u hne
    rw [set_session_other x hne, hsame]
    exact h.others u hne
  · intro pred cs next hc
    rw [set_session_self] at hc
    exact hcandidates pred cs next hc

variable {pred : ρ → Bool}

theorem find_current {rows : List ρ} (hids : (rows.map tbl.id).Nodup) {c : ρ} (hc : c ∈ rows)
    (hpred : pred c = true) :
    rows.find? (fun r => decide (tbl.id r = tbl.id c) && pred r) = some c := by
  cases hfind : rows.find? fun r => decide (tbl.id r = tbl.id c) && pred r with
  | none =>
    have := List.find?_eq_none.mp hfind c hc
    simp [hpred] at this
  | some r =>
    have hr := List.find?_some hfind
    simp only [Bool.and_eq_true, decide_eq_true_eq] at hr
    rw [List.inj_on_of_nodup_map hids (List.mem_of_find?_eq_some hfind) hc hr.1]

theorem version_update {x : Session tbl α} {rows : List ρ} (hids : (rows.map tbl.id).Nodup)
    {f : ρ → ρ} (hid : ∀ r, tbl.id (f r) = tbl.id r) {y : Session tbl α}
    (hy : y.updated = ((rows.map x.version).filter pred).map f ++ x.updated) {r : ρ} (hr : r ∈ rows)
    :
    y.version r = if pred (x.version r) then f (x.version r) else x.version r := by
  have hversion : y.version r = (((((rows.map x.version).filter pred).find?
      ((fun r' => decide (tbl.id r' = tbl.id r)) ∘ f)).map f).or
        (x.updated.find? fun r' => decide (tbl.id r' = tbl.id r))).getD r := by
    show (y.updated.find? fun r' => decide (tbl.id r' = tbl.id r)).getD r = _
    rw [hy, List.find?_append, List.find?_map]
  -- ids are unique, so the version under the id is that of the row
  have hpair : ∀ v ∈ (rows.map x.version).filter pred, tbl.id v = tbl.id r → v = x.version r := by
    intro v hv hvr
    obtain ⟨r', hr', rfl⟩ := List.mem_map.mp (List.mem_filter.mp hv).1
    rw [id_version] at hvr
    rw [List.inj_on_of_nodup_map hids hr' hr hvr]
  cases hfind : ((rows.map x.version).filter pred).find?
      ((fun r' => decide (tbl.id r' = tbl.id r)) ∘ f) with
  | some v =>
    have hv := List.mem_of_find?_eq_some hfind
    have hvr : tbl.id v = tbl.id r := by
      have := List.find?_some hfind
      simpa [hid] using this
    have hsame := hpair v hv hvr
    have hpred : pred (x.version r) = true := by
      rw [← hsame]
      exact (List.mem_filter.mp hv).2
    rw [hversion, hfind, Option.map_some, Option.some_or, Option.getD_some, hsame, if_pos hpred]
  | none =>
    have hpred : pred (x.version r) ≠ true := by
      intro hpred
      have hmem : x.version r ∈ (rows.map x.version).filter pred :=
        List.mem_filter.mpr ⟨List.mem_map_of_mem hr, hpred⟩
      have := List.find?_eq_none.mp hfind _ hmem
      simp [hid] at this
    rw [hversion, hfind, Option.map_none, Option.none_or, if_neg hpred]
    rfl

theorem view_congr (s₀ : State τ tbl α) (hcommitted : s₀.committed = s.committed)
    {x : Session tbl α} (hupdated : x.updated = (s.session t).updated)
    (hinserted : x.inserted = (s.session t).inserted) : (s₀.set t x).view t = s.view t := by
  rw [set_view, hcommitted, hinserted]
  unfold State.view Session.version
  rw [hupdated]

theorem view_ended (s₀ : State τ tbl α) (result : Option α) :
    (s₀.set t { control := .ended result }).view t = s₀.committed := by
  rw [set_view, List.append_nil]
  exact List.map_id s₀.committed

theorem map_id_version (x : Session tbl α) (rows : List ρ) :
    (rows.map x.version).map tbl.id = rows.map tbl.id := by
  rw [List.map_map]
  apply List.map_congr_left
  intro r _
  exact id_version x r

theorem Solo.committed_ids (h : Solo s t) : (s.committed.map tbl.id).Nodup := by
  have hids := h.ids
  unfold State.view at hids
  rw [List.map_append, map_id_version] at hids
  exact (List.nodup_append.mp hids).1

theorem view_update (hids : (s.committed.map tbl.id).Nodup) {f : ρ → ρ}
    (hid : ∀ r, tbl.id (f r) = tbl.id r) {y : Session tbl α}
    (hupdated : y.updated = ((s.committed.map (s.session t).version).filter pred).map f
      ++ (s.session t).updated)
    (hinserted : y.inserted = (s.session t).inserted.map fun r => if pred r then f r else r) :
    (s.set t y).view t = (s.view t).map fun r => if pred r then f r else r := by
  rw [set_view, hinserted]
  unfold State.view
  rw [List.map_append, List.map_map]
  congr 1
  apply List.map_congr_left
  intro r hr
  exact version_update hids hid hupdated hr

theorem Solo.select (h : Solo s t) {next : Option ρ → Prog tbl α}
    (hc : (s.session t).control = .running (.selectForUpdate pred next))
    (hstep : ReadCommitted.step s t = some s') : Solo s' t ∧ outcome s' t = outcome s t := by
  rw [step_select hc] at hstep
  obtain rfl := Option.some.inj hstep
  have hview := view_congr (t := t) s rfl
    (x := { s.session t with
      control := .locking pred ((s.view t).filter pred) next, isOpen := true }) rfl rfl
  refine ⟨h.set s rfl (by rw [hview]; exact h.ids) ?_, ?_⟩
  · intro pred' cs next' hlocking c hmem
    obtain ⟨rfl, rfl, rfl⟩ := Control.locking.inj hlocking
    rw [hview]
    exact List.mem_filter.mp hmem
  · simp only [outcome, set_session_self, hc, hview, exec, List.head?_filter]
    rfl

theorem Solo.lock (h : Solo s t) {cs : List ρ} {next : Option ρ → Prog tbl α}
    (hc : (s.session t).control = .locking pred cs next) (hstep : ReadCommitted.step s t = some s') :
    Solo s' t ∧ outcome s' t = outcome s t := by
  -- nobody holds the candidate and it is unchanged, so it is taken as it was seen
  have htaken : ∃ x : Session tbl α, s' = s.set t x ∧ x.updated = (s.session t).updated ∧
      x.inserted = (s.session t).inserted ∧ x.control = .running (next cs.head?) := by
    cases cs with
    | nil =>
      rw [step_locking_nil hc] at hstep
      exact ⟨_, (Option.some.inj hstep).symm, rfl, rfl, rfl⟩
    | cons c cs =>
      obtain ⟨hmem, hpred⟩ := h.candidates pred (c :: cs) next hc c List.mem_cons_self
      rw [step_locking_cons hc (h.lockedByOther _), find_current h.ids hmem hpred] at hstep
      exact ⟨_, (Option.some.inj hstep).symm, rfl, rfl, rfl⟩
  obtain ⟨x, rfl, hupdated, hinserted, hcontrol⟩ := htaken
  have hview := view_congr (t := t) s rfl hupdated hinserted
  refine ⟨h.set s rfl (by rw [hview]; exact h.ids) (by simp [hcontrol]), ?_⟩
  simp only [outcome, set_session_self, hc, hcontrol, hview]
  rfl

theorem Solo.update (h : Solo s t) {f : ρ → ρ} {hid : ∀ r, tbl.id (f r) = tbl.id r}
    {next : Prog tbl α} (hc : (s.session t).control = .running (.update pred f hid next))
    (hstep : ReadCommitted.step s t = some s') : Solo s' t ∧ outcome s' t = outcome s t := by
  -- nobody else is open, so nobody else holds a lock
  have hfree : (((s.committed.map (s.session t).version).filter pred).any
      fun r => s.lockedByOther t (tbl.id r)) = false := by
    rw [List.any_eq_false]
    intro r _
    rw [h.lockedByOther]
    decide
  have hdone : ∃ x : Session tbl α, s' = s.set t x ∧
      x.updated = ((s.committed.map (s.session t).version).filter pred).map f
        ++ (s.session t).updated ∧
      (x.inserted = (s.session t).inserted.map fun r => if pred r then f r else r) ∧
      x.control = .running next := by
    rw [step_update hc] at hstep
    simp only [hfree, Bool.false_eq_true, if_false, Option.some.injEq] at hstep
    exact ⟨_, hstep.symm, rfl, rfl, rfl⟩
  obtain ⟨x, rfl, hupdated, hinserted, hcontrol⟩ := hdone
  have hview := view_update h.committed_ids hid hupdated hinserted
  -- an UPDATE keeps the primary keys, and with them their uniqueness
  have hkeep : tbl.id ∘ (fun r => if pred r then f r else r) = tbl.id := by
    funext r
    simp only [Function.comp_apply]
    split
    · exact hid r
    · rfl
  have hids : (((s.set t x).view t).map tbl.id).Nodup := by
    rw [hview, List.map_map, hkeep]
    exact h.ids
  refine ⟨h.set s rfl hids (by simp [hcontrol]), ?_⟩
  simp only [outcome, set_session_self, hc, hcontrol, hview, exec]
  rfl

theorem Solo.nextval (h : Solo s t) {next : Nat → Prog tbl α}
    (hc : (s.session t).control = .running (.nextval next))
    (hstep : ReadCommitted.step s t = some s') : Solo s' t ∧ outcome s' t = outcome s t := by
  let drawn : State τ tbl α := { s with seq := s.seq + 1 }
  have hdone : ∃ x : Session tbl α, s' = drawn.set t x ∧ x.updated = (s.session t).updated ∧
      x.inserted = (s.session t).inserted ∧ x.control = .running (next (s.seq + 1)) := by
    rw [step_nextval hc] at hstep
    exact ⟨_, (Option.some.inj hstep).symm, rfl, rfl, rfl⟩
  obtain ⟨x, rfl, hupdated, hinserted, hcontrol⟩ := hdone
  have hview := view_congr (s := s) (t := t) drawn rfl hupdated hinserted
  refine ⟨h.set drawn rfl (by rw [hview]; exact h.ids) (by simp [hcontrol]), ?_⟩
  simp only [outcome, set_session_self, hc, hcontrol, hview, exec]
  rfl

theorem Solo.insert (h : Solo s t) {row : ρ} {next : Prog tbl α}
    (hc : (s.session t).control = .running (.insert row next))
    (hstep : ReadCommitted.step s t = some s') : Solo s' t ∧ outcome s' t = outcome s t := by
  rw [step_insert hc, h.mustWait, if_neg (by decide)] at hstep
  by_cases hany : (s.view t).any (tbl.conflict row) = true
  · rw [if_pos hany] at hstep
    obtain rfl := Option.some.inj hstep
    refine ⟨h.set s rfl (by rw [view_ended]; exact h.committed_ids) (by simp), ?_⟩
    simp only [outcome, set_session_self, hc, exec, if_pos hany]
    rfl
  · rw [if_neg hany] at hstep
    obtain rfl := Option.some.inj hstep
    have hview : (s.set t { s.session t with
        control := .running next, isOpen := true,
        inserted := (s.session t).inserted ++ [row] }).view t = s.view t ++ [row] := by
      rw [set_view, ← List.append_assoc]
      rfl
    -- equal primary keys would be a conflict
    have hids : ((s.view t ++ [row]).map tbl.id).Nodup := by
      rw [List.map_append, List.map_singleton, List.nodup_append]
      refine ⟨h.ids, List.nodup_singleton _, ?_⟩
      intro i hi j hj hij
      obtain ⟨r, hr, rfl⟩ := List.mem_map.mp hi
      rw [List.mem_singleton] at hj
      exact hany (List.any_eq_true.mpr ⟨r, hr, tbl.pkey row r (hj.symm.trans hij.symm)⟩)
    refine ⟨h.set s rfl (by rw [hview]; exact hids) (by simp), ?_⟩
    simp only [outcome, set_session_self, hc, hview, exec, if_neg hany]
    rfl

/-- **A transaction on its own computes its sequential meaning.** -/
theorem Solo.step (h : Solo s t) (hstep : step s t = some s') :
    Solo s' t ∧ outcome s' t = outcome s t := by
  cases hc : (s.session t).control with
  | ended result =>
    rw [step_ended hc] at hstep
    cases hstep
  | locking pred cs next => exact h.lock hc hstep
  | running p =>
    cases p with
    | selectForUpdate pred next => exact h.select hc hstep
    | update pred f hid next => exact h.update hc hstep
    | nextval next => exact h.nextval hc hstep
    | insert row next => exact h.insert hc hstep
    | commit result =>
      -- the view becomes the table, so the sequential meaning is the same one
      rw [step_commit hc] at hstep
      obtain rfl := Option.some.inj hstep
      refine ⟨h.set { s with committed := s.view t } rfl (by rw [view_ended]; exact h.ids)
        (by simp), ?_⟩
      simp only [outcome, set_session_self, hc, exec]
      rfl
    | close result =>
      rw [step_close hc] at hstep
      obtain rfl := Option.some.inj hstep
      refine ⟨h.set s rfl (by rw [view_ended]; exact h.committed_ids) (by simp), ?_⟩
      simp only [outcome, set_session_self, hc, exec]
      rfl
    | raise =>
      rw [step_raise hc] at hstep
      obtain rfl := Option.some.inj hstep
      refine ⟨h.set s rfl (by rw [view_ended]; exact h.committed_ids) (by simp), ?_⟩
      simp only [outcome, set_session_self, hc, exec]
      rfl

/-- **A transaction on its own never waits.** -/
theorem Solo.progress (h : Solo s t) (hnot : ∀ result, (s.session t).control ≠ .ended result) :
    ReadCommitted.step s t ≠ none := by
  cases hc : (s.session t).control with
  | ended result => exact absurd hc (hnot result)
  | locking pred cs next =>
    cases cs with
    | nil =>
      rw [step_locking_nil hc]
      simp
    | cons c cs =>
      rw [step_locking_cons hc (h.lockedByOther _)]
      split
      · simp
      · simp
  | running p =>
    cases p with
    | selectForUpdate pred next =>
      rw [step_select hc]
      simp
    | update pred f hid next =>
      rw [step_update hc]
      simp [h.lockedByOther]
    | nextval next =>
      rw [step_nextval hc]
      simp
    | insert row next =>
      rw [step_insert hc, h.mustWait]
      split
      · rename_i hwait
        cases hwait
      · split
        · simp
        · simp
    | commit result =>
      rw [step_commit hc]
      simp
    | close result =>
      rw [step_close hc]
      simp
    | raise =>
      rw [step_raise hc]
      simp

/-! ## Serial runs -/

/-- Every transaction is opened while no other one is open. -/
def Serial (steps : List (State τ tbl α × τ)) : Prop := ∀ x ∈ steps, Begins x → NoneOpen x.1

instance (steps : List (State τ tbl α × τ)) : Decidable (Serial steps) := by
  unfold Serial Begins NoneOpen; infer_instance

section SerialRuns

variable {prog : τ → Prog tbl α} {J : State τ tbl α → Prop}

/-- Between transactions: every session has not started or has ended. -/
def Quiet (prog : τ → Prog tbl α) (s : State τ tbl α) : Prop :=
  ∀ t, s.session t = { control := .running (prog t) } ∨
    ∃ result, s.session t = { control := .ended result }

/-- One session's transaction, from beginning to end. -/
def executed (prog : τ → Prog tbl α) (s : State τ tbl α) (t : τ) : State τ tbl α :=
  let result := exec (prog t) s.committed s.committed s.seq
  State.set { s with committed := result.2.1, seq := result.2.2 } t { control := .ended result.1 }

/-- The session `t` is on the way from the quiet state `before` to the state after its
transaction. -/
structure Underway (prog : τ → Prog tbl α) (before s : State τ tbl α) (t : τ) : Prop where
  idle : before.session t = { control := .running (prog t) }
  inProgress : (s.session t).InProgress
  solo : Solo s t
  others : ∀ u, u ≠ t → s.session u = before.session u
  outcome : outcome s t = exec (prog t) before.committed before.committed before.seq

/-- A state of a serial run: a quiet one where `J` holds, or one transaction underway from such a
state. -/
def SerialState (prog : τ → Prog tbl α) (J : State τ tbl α → Prop) (s : State τ tbl α) : Prop :=
  (Quiet prog s ∧ J s) ∨ ∃ before t, Quiet prog before ∧ J before ∧ Underway prog before s t

theorem Quiet.closed (h : Quiet prog s) (u : τ) :
    (s.session u).isOpen = false ∧ (s.session u).Released := by
  rcases h u with hu | ⟨result, hu⟩
  · rw [hu]
    exact ⟨rfl, rfl, rfl, rfl⟩
  · rw [hu]
    exact ⟨rfl, rfl, rfl, rfl⟩

theorem Quiet.executed (h : Quiet prog s) (t : τ) : Quiet prog (executed prog s t) := by
  intro u
  unfold ReadCommitted.executed
  by_cases hu : u = t
  · subst hu
    rw [set_session_self]
    exact .inr ⟨_, rfl⟩
  · rw [set_session_other _ hu]
    exact h u

/-- What the execution of a whole transaction keeps, on tables with different primary keys. -/
structure ExecInvariant (prog : τ → Prog tbl α) (J : State τ tbl α → Prop) : Prop where
  ids : ∀ b, J b → (b.committed.map tbl.id).Nodup
  exec : ∀ b v, Quiet prog b → J b → b.session v = { control := .running (prog v) } →
    J (executed prog b v)

/-- The step of the session underway: it goes on, or the transaction has been executed. -/
theorem serialState_of_solo {before : State τ tbl α} (hJ : ExecInvariant prog J)
    (hquiet : Quiet prog before) (hbefore : J before)
    (hidle : before.session t = { control := .running (prog t) })
    (hothers : ∀ u, u ≠ t → s.session u = before.session u) (hsolo : Solo s t)
    (hout : outcome s t = exec (prog t) before.committed before.committed before.seq)
    (hstep : step s t = some s') : SerialState prog J s' := by
  obtain ⟨hsolo', hout'⟩ := hsolo.step hstep
  have hothers' : ∀ u, u ≠ t → s'.session u = before.session u := by
    intro u hu
    rw [step_other hstep hu, hothers u hu]
  rcases step_self hstep with hprogress | ⟨result, hended⟩
  · exact .inr ⟨before, t, hquiet, hbefore, hidle, hprogress, hsolo', hothers', hout'.trans hout⟩
  · -- the end of the transaction is the state its sequential meaning gives
    have hafter : (result, s'.committed, s'.seq)
        = exec (prog t) before.committed before.committed before.seq := by
      rw [← hout, ← hout']
      simp only [outcome, hended]
    have hs' : s' = executed prog before t := by
      unfold executed
      dsimp only
      rw [← hafter]
      refine State.ext rfl rfl ?_
      funext u
      by_cases hu : u = t
      · rw [hu, set_session_self]
        exact hended
      · rw [set_session_other _ hu]
        exact hothers' u hu
    rw [hs']
    exact .inl ⟨hquiet.executed t, hJ.exec before t hquiet hbefore hidle⟩

theorem solo_of_idle (hJ : ExecInvariant prog J) (hquiet : Quiet prog s) (hs : J s)
    (hidle : s.session t = { control := .running (prog t) }) :
    Solo s t ∧ outcome s t = exec (prog t) s.committed s.committed s.seq := by
  have hview : s.view t = s.committed := view_eq_committed (by rw [hidle]) (by rw [hidle])
  refine ⟨⟨fun u _ => (hquiet.closed u).2, by rw [hview]; exact hJ.ids s hs, ?_⟩, ?_⟩
  · intro pred cs next hc
    rw [hidle] at hc
    cases hc
  · simp only [outcome, hidle, hview]

/-- **One step of a serial run.** -/
theorem SerialState.step (hJ : ExecInvariant prog J) (h : SerialState prog J s)
    (hserial : Begins (s, t) → NoneOpen s) (hstep : ReadCommitted.step s t = some s') :
    SerialState prog J s' := by
  rcases h with ⟨hquiet, hs⟩ | ⟨before, v, hquiet, hbefore, hway⟩
  · rcases hquiet t with hidle | ⟨result, hended⟩
    · obtain ⟨hsolo, hout⟩ := solo_of_idle hJ hquiet hs hidle
      exact serialState_of_solo hJ hquiet hs hidle (fun _ _ => rfl) hsolo hout hstep
    · rw [step_ended (by rw [hended])] at hstep
      cases hstep
  · by_cases htv : t = v
    · rw [htv] at hstep
      exact serialState_of_solo hJ hquiet hbefore hway.idle hway.others hway.solo hway.outcome hstep
    · -- another session would open its transaction while `v`'s is open
      have hsession := hway.others t htv
      rcases hquiet t with hidle | ⟨result, hended⟩
      · have hnone := hserial (by rw [Begins, hsession, hidle]) v
        rw [hway.inProgress.isOpen] at hnone
        cases hnone
      · rw [step_ended (by rw [hsession, hended])] at hstep
        cases hstep

theorem SerialState.progress (hJ : ExecInvariant prog J) (h : SerialState prog J s) :
    (J s ∧ ∀ t, ∃ result, s.session t = { control := .ended result }) ∨
      ∃ t s', ReadCommitted.step s t = some s' ∧ (Begins (s, t) → NoneOpen s) := by
  rcases h with ⟨hquiet, hs⟩ | ⟨before, v, hquiet, hbefore, hway⟩
  · by_cases hall : ∀ t, ∃ result, s.session t = { control := .ended result }
    · exact .inl ⟨hs, hall⟩
    · obtain ⟨t, ht⟩ := not_forall.mp hall
      have hidle := (hquiet t).resolve_right ht
      obtain ⟨hsolo, -⟩ := solo_of_idle hJ hquiet hs hidle
      obtain ⟨s', hstep⟩ := Option.ne_none_iff_exists'.mp
        (hsolo.progress (by rw [hidle]; intro result hc; cases hc))
      exact .inr ⟨t, s', hstep, fun _ u => (hquiet.closed u).1⟩
  · obtain ⟨s', hstep⟩ := Option.ne_none_iff_exists'.mp
      (hway.solo.progress hway.inProgress.control)
    refine .inr ⟨v, s', hstep, ?_⟩
    intro hbegins
    rw [Begins, hway.inProgress.isOpen] at hbegins
    cases hbegins

/-- **Serial runs.** What holds initially and is kept by the execution of a whole transaction
holds when no session can step any more, and then all of them have ended. -/
theorem serial_stuck (hJ : ExecInvariant prog J) {s₀ : State τ tbl α}
    (hinit : SerialState prog J s₀) {steps : List (State τ tbl α × τ)}
    (hrun : Run τ tbl α s₀ steps s) (hserial : Serial steps) (hstuck : Stuck s) :
    J s ∧ ∀ t, ∃ result, s.session t = { control := .ended result } := by
  have hstate : SerialState prog J s := by
    refine Runs.Run.invariant_of_steps (I := SerialState prog J) hinit hrun ?_
    intro x hx s' hx' hstep
    exact hx'.step hJ (hserial x hx) hstep
  rcases hstate.progress hJ with hend | ⟨t, s', hstep, -⟩
  · exact hend
  · rw [hstuck t] at hstep
    cases hstep

end SerialRuns

end ReadCommitted
