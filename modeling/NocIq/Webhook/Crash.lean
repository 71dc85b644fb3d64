import NocIq.Webhook.Commits

/-!
# NocIq — crashes between two commits

A process that dies, or that an exception leaves, between two commits leaves the row of the last one
behind, and `retry_pending_deliveries` selects RETRYING rows only.

* **`commits_commit`** — what a commit comes to.
* **`losesNone_step_iff`** — the interruptions that no delivery is lost in.
* **`losesNone_iff`** — hence the runs that lose no delivery.
-/

namespace NocIq

variable {env : WebhookEnv} {s s' : WebhookStore} {p q : WebhookProcess} {id : UUID}
  {d d' : WebhookDelivery} {webhook : Option Webhook} {attempt : Attempt}

/-! ## Deliveries that the retries reach -/

/-- The delivery is finished, or `retry_pending_deliveries` will select it. -/
def WebhookDelivery.NotLost (d : WebhookDelivery) : Prop :=
  d.status ≠ .success → d.status ≠ .deadLetter → d.status = .retrying ∧ d.nextRetryAt.isSome = true

/-- A delivery whose dispatch has begun, and that a retry is still scheduled for: it has been
attempted before, and `next_retry_at` is that of the attempt before. -/
def WebhookDelivery.StillScheduled (d : WebhookDelivery) : Prop :=
  1 < d.attemptCount ∧ d.nextRetryAt.isSome = true

instance (d : WebhookDelivery) : Decidable d.StillScheduled :=
  inferInstanceAs (Decidable (_ ∧ _))

theorem notLost_begun_iff (now : Time) (d : WebhookDelivery) :
    (beginDispatch now d).NotLost ↔ (beginDispatch now d).StillScheduled := by
  have hcount : (beginDispatch now d).attemptCount = d.attemptCount + 1 := rfl
  have hstatus : (beginDispatch now d).status =
      if d.attemptCount + 1 > 1 then .retrying else .pending := rfl
  unfold WebhookDelivery.NotLost WebhookDelivery.StillScheduled
  rw [hcount, hstatus]
  by_cases hagain : d.attemptCount + 1 > 1
  · simp [hagain]
  · simp [hagain]

theorem notLost_dispatchRow (h : ¬ Raises webhook attempt d) :
    (dispatchRow env webhook attempt d).row.NotLost := by
  have hspec := dispatchRow_spec env webhook attempt d
  generalize dispatchRow env webhook attempt d = effect at hspec ⊢
  cases hspec with
  | raised hraises => exact absurd hraises h
  | delivered => exact fun hsuccess _ => absurd rfl hsuccess
  | deadLettered => exact fun _ hdead => absurd rfl hdead
  | scheduled => exact fun _ _ => ⟨rfl, rfl⟩

theorem dispatchRow_of_raises (h : Raises webhook attempt d) :
    (dispatchRow env webhook attempt d).row = beginDispatch attempt.started d ∧
      (dispatchRow env webhook attempt d).goesOn = false := by
  have hspec := dispatchRow_spec env webhook attempt d
  generalize dispatchRow env webhook attempt d = effect at hspec ⊢
  cases hspec with
  | raised => exact ⟨rfl, rfl⟩
  | delivered _ hraises => exact absurd h hraises
  | deadLettered _ hraises => exact absurd h hraises
  | scheduled _ hraises => exact absurd h hraises

/-! ## The delivery in hand -/

def WebhookStage.delivery : WebhookStage → Option UUID
  | .idle => none
  | .pending _ deliveryId _ => some deliveryId
  | .begun deliveryId _ => some deliveryId

/-- What the last commit has left of the delivery in hand. -/
def WebhookStage.Fits (s : WebhookStore) : WebhookStage → Prop
  | .idle => True
  | .pending _ deliveryId _ => ∃ d, s.row deliveryId = some d ∧ d.status = .pending
  | .begun deliveryId attempt =>
    ∃ d, s.row deliveryId = some (beginDispatch attempt.started d) ∧ d.id = deliveryId

structure WebhookProcess.Consistent (p : WebhookProcess) : Prop where
  wellFormed : p.store.WellFormed
  stage : p.stage.Fits p.store

/-- Every delivery but the one in hand is finished or scheduled. -/
def WebhookProcess.OthersNotLost (p : WebhookProcess) : Prop :=
  ∀ id d, p.store.row id = some d → p.stage.delivery ≠ some id → d.NotLost

/-- The interruption loses no delivery: there is no delivery in hand, or one that a retry is still
scheduled for. A commit interrupts a dispatch if its attempt raises. -/
def WebhookStage.Survives (s : WebhookStore) : WebhookStage → ProcessEvent → Prop
  | .pending _ _ _, .crash => False
  | .begun deliveryId attempt, .commit =>
    ∀ d ∈ s.row deliveryId, Raises (s.webhook d.webhookId) attempt d → d.StillScheduled
  | .begun deliveryId _, .crash => ∀ d ∈ s.row deliveryId, d.StillScheduled
  | _, _ => True

def Survives (p : WebhookProcess) (e : ProcessEvent) : Prop := p.stage.Survives p.store e

instance decidableSurvives (s : WebhookStore) :
    (stage : WebhookStage) → (e : ProcessEvent) → Decidable (stage.Survives s e)
  | .pending _ _ _, .crash => inferInstanceAs (Decidable False)
  | .begun deliveryId attempt, .commit =>
    inferInstanceAs (Decidable (∀ d ∈ s.row deliveryId,
      Raises (s.webhook d.webhookId) attempt d → d.StillScheduled))
  | .begun deliveryId _, .crash =>
    inferInstanceAs (Decidable (∀ d ∈ s.row deliveryId, d.StillScheduled))
  | .idle, _ | .pending _ _ _, .call _ | .pending _ _ _, .commit | .begun _ _, .call _ =>
    inferInstanceAs (Decidable True)

instance (p : WebhookProcess) (e : ProcessEvent) : Decidable (Survives p e) :=
  decidableSurvives p.store p.stage e

/-! ## One commit -/

/-- The commits of a process, one case for each. -/
inductive Commits (env : WebhookEnv) (p : WebhookProcess) : WebhookProcess → Prop where
  | nothing (hstage : p.stage = .idle) : Commits env p p
  /-- an item that comes to nothing, or an exception before its first commit -/
  | skipped {todo : List WebhookWork} (hstage : p.stage = .idle) :
      Commits env p { store := p.store, todo }
  | created {d : WebhookDelivery} {reason : Option String} {attempt : Attempt}
      {todo : List WebhookWork} (hstage : p.stage = .idle)
      (hfree : TriggerCall.conflicts d p.store = false) (hstatus : d.status = .pending) :
      Commits env p
        { store := { p.store with deliveries := p.store.deliveries ++ [d] }
          stage := .pending reason d.id attempt
          todo }
  | reset {d d' : WebhookDelivery} {attempt : Attempt} {todo : List WebhookWork}
      (hstage : p.stage = .idle) (hd : p.store.row d.id = some d) (hid : d'.id = d.id)
      (hstatus : d'.status = .pending) :
      Commits env p
        { store := p.store.put d', stage := .pending none d.id attempt, todo }
  | began {d : WebhookDelivery} {attempt : Attempt} {todo : List WebhookWork}
      (hstage : p.stage = .idle ∨ p.stage = .pending none d.id attempt)
      (hd : p.store.row d.id = some d) :
      Commits env p
        { store := p.store.put (beginDispatch attempt.started d)
          stage := .begun d.id attempt
          todo }
  | refused {d d' : WebhookDelivery} {reason : String} {attempt : Attempt}
      {todo : List WebhookWork} (hstage : p.stage = .pending (some reason) d.id attempt)
      (hd : p.store.row d.id = some d) (hid : d'.id = d.id) (hstatus : d'.status = .deadLetter) :
      Commits env p { store := p.store.put d', todo }
  | settled {d : WebhookDelivery} {attempt : Attempt} {sent : List Post} {todo : List WebhookWork}
      (hstage : p.stage = .begun d.id attempt)
      (hd : p.store.row d.id = some d) :
      Commits env p
        { store :=
            { p.store.put (settleDispatch env (p.store.webhook d.webhookId) attempt d).row with
              sent }
          todo }

theorem WebhookStage.Fits.row {stage : WebhookStage} (h : stage.Fits s)
    (hid : stage.delivery = some id) : ∃ d, s.row id = some d ∧ d.id = id := by
  have hrow : ∃ d, s.row id = some d := by
    cases stage with
    | idle => cases hid
    | pending reason deliveryId attempt =>
      obtain ⟨d, hd, -⟩ := h
      exact ⟨d, Option.some.inj hid ▸ hd⟩
    | begun deliveryId attempt =>
      obtain ⟨d, hd, -⟩ := h
      exact ⟨_, Option.some.inj hid ▸ hd⟩
  obtain ⟨d, hd⟩ := hrow
  exact ⟨d, hd, (WebhookStore.mem_of_row hd).2⟩

theorem commits_start (hstage : p.stage = .idle) (item : WebhookWork) (todo : List WebhookWork) :
    ∀ store stage, item.start env p.store = some (store, stage) →
      Commits env p { store, stage, todo } := by
  intro store stage hstart
  cases WebhookWork.starts_of_start hstart with
  | skipped => exact .skipped hstage
  | created hfree hstatus => exact .created hstage hfree hstatus
  | reset hd hid hstatus => exact .reset hstage hd hid hstatus
  | began hd => exact .began (.inl hstage) hd

/-- **What a commit comes to.** -/
theorem commits_commit (env : WebhookEnv) (h : p.Consistent) : Commits env p (p.commit env) := by
  have hfits := h.stage
  unfold WebhookProcess.commit
  cases hstage : p.stage with
  | idle =>
    cases htodo : p.todo with
    | nil => exact .nothing hstage
    | cons item todo =>
      dsimp only
      cases hstart : item.start env p.store with
      | none => exact .skipped hstage
      | some result => exact commits_start hstage item todo result.1 result.2 hstart
  | pending reason deliveryId attempt =>
    obtain ⟨d, hd, hid⟩ := hfits.row (by rw [hstage]; rfl)
    subst hid
    dsimp only
    rw [hd]
    cases reason with
    | some reason => exact .refused hstage hd rfl rfl
    | none => exact .began (.inr hstage) hd
  | begun deliveryId attempt =>
    obtain ⟨d, hd, hid⟩ := hfits.row (by rw [hstage]; rfl)
    subst hid
    dsimp only
    rw [hd]
    dsimp only
    split
    · exact .settled hstage hd
    · exact .settled hstage hd

theorem settleDispatch_id (env : WebhookEnv) (webhook : Option Webhook) (attempt : Attempt)
    (d : WebhookDelivery) :
    (settleDispatch env webhook attempt (beginDispatch attempt.started d)).row.id = d.id := by
  rw [← dispatchRow_eq_settle]
  exact dispatchRow_id env webhook attempt d

theorem WebhookProcess.Consistent.begun (h : p.Consistent) {deliveryId : UUID} {attempt : Attempt}
    (hstage : p.stage = .begun deliveryId attempt) (hd : p.store.row deliveryId = some d) :
    ∃ d₀, d = beginDispatch attempt.started d₀ ∧ d₀.id = deliveryId := by
  have hfits := h.stage
  rw [hstage] at hfits
  obtain ⟨d₀, hd₀, hid⟩ := hfits
  exact ⟨d₀, Option.some.inj (hd.symm.trans hd₀), hid⟩

theorem WebhookProcess.Consistent.commit (h : p.Consistent) (hcommits : Commits env p q) :
    q.Consistent := by
  cases hcommits with
  | nothing => exact h
  | skipped => exact ⟨h.wellFormed, trivial⟩
  | @created d reason attempt todo hstage hfree hstatus =>
    have hwf := insert_wellFormed h.wellFormed hfree
    refine ⟨hwf, d, ?_, hstatus⟩
    exact WebhookStore.row_of_mem hwf (List.mem_append_right _ (List.mem_singleton_self d))
  | reset hstage hd hid hstatus =>
    exact ⟨WebhookStore.put_wellFormed h.wellFormed _, _, WebhookStore.row_put_self hd hid, hstatus⟩
  | @began d attempt todo hstage hd =>
    exact ⟨WebhookStore.put_wellFormed h.wellFormed _, d, WebhookStore.row_put_self hd rfl, rfl⟩
  | refused => exact ⟨WebhookStore.put_wellFormed h.wellFormed _, trivial⟩
  | settled => exact ⟨WebhookStore.put_wellFormed h.wellFormed _, trivial⟩

theorem WebhookProcess.Consistent.step (h : p.Consistent) (e : ProcessEvent) :
    (p.step env e).Consistent := by
  cases e with
  | call op =>
    unfold WebhookProcess.step
    dsimp only
    split
    · exact ⟨h.wellFormed, h.stage⟩
    · exact h
  | commit => exact h.commit (commits_commit env h)
  | crash => exact ⟨h.wellFormed, trivial⟩

theorem othersNotLost_put {stage : WebhookStage} {todo : List WebhookWork} {sent : List Post}
    (hbefore : ∀ id r, s.row id = some r → id ≠ d.id → r.NotLost)
    (hown : stage.delivery = some d.id ∨ d.NotLost) :
    WebhookProcess.OthersNotLost ⟨{ s.put d with sent }, stage, todo⟩ := by
  intro id r hr hother
  have hrow : (s.put d).row id = some r := hr
  by_cases hid : id = d.id
  · rcases hown with hdelivery | hkept
    · exact absurd (hid ▸ hdelivery) hother
    · rw [WebhookStore.row_put, if_pos hid] at hrow
      obtain ⟨_, -, rfl⟩ := Option.map_eq_some_iff.mp hrow
      exact hkept
  · rw [WebhookStore.row_put_other hid] at hrow
    exact hbefore id r hrow hid

/-- No delivery is lost if no delivery is in hand. -/
def WebhookProcess.LosesNone (p : WebhookProcess) : Prop :=
  p.stage = .idle → ∀ d ∈ p.store.deliveries, d.NotLost

theorem losesNone_iff_others (hwf : p.store.WellFormed) (hstage : p.stage = .idle) :
    p.LosesNone ↔ p.OthersNotLost := by
  unfold WebhookProcess.LosesNone WebhookProcess.OthersNotLost
  rw [hstage, forall_row_iff hwf, forall_prop_of_true rfl]
  constructor
  · intro h id d hd _
    exact h id d hd
  · intro h id d hd
    exact h id d hd nofun

/-- The row of a dispatch that has ended is not lost exactly if the attempt has not raised, or a
retry is still scheduled. -/
theorem notLost_settle_iff (env : WebhookEnv) (webhook : Option Webhook) (attempt : Attempt)
    (d : WebhookDelivery) :
    (settleDispatch env webhook attempt (beginDispatch attempt.started d)).row.NotLost ↔
      (Raises webhook attempt (beginDispatch attempt.started d) →
        (beginDispatch attempt.started d).StillScheduled) := by
  have hsame : Raises webhook attempt (beginDispatch attempt.started d) ↔
      Raises webhook attempt d := Iff.rfl
  rw [hsame, ← dispatchRow_eq_settle]
  by_cases hraises : Raises webhook attempt d
  · rw [(dispatchRow_of_raises hraises).1, notLost_begun_iff]
    exact ⟨fun h _ => h, fun h => h hraises⟩
  · exact iff_of_true (notLost_dispatchRow hraises) fun h => absurd h hraises

theorem others_commit (h : p.Consistent) (hothers : p.OthersNotLost) (hcommits : Commits env p q)
    (hsurvives : Survives p .commit) : q.OthersNotLost := by
  cases hcommits with
  | nothing => exact hothers
  | skipped hstage =>
    intro id d hd _
    exact hothers id d hd (by rw [hstage]; exact nofun)
  | @created d reason attempt todo hstage hfree hstatus =>
    intro id r hr hother
    have hne : id ≠ d.id := fun hid => hother (hid ▸ rfl)
    have hrow := (untouched_insert hne p.store).row.symm.trans hr
    exact hothers id r hrow (by rw [hstage]; exact nofun)
  | @reset d d' attempt todo hstage hd hid hstatus =>
    refine othersNotLost_put (fun id r hr _ => ?_) (.inl (congrArg some hid.symm))
    exact hothers id r hr (by rw [hstage]; exact nofun)
  | @began d attempt todo hstage hd =>
    refine othersNotLost_put (fun id r hr hne => ?_) (.inl rfl)
    rcases hstage with hidle | hpending
    · exact hothers id r hr (by rw [hidle]; exact nofun)
    · exact hothers id r hr (by rw [hpending]; exact fun heq => hne (Option.some.inj heq).symm)
  | @refused d d' reason attempt todo hstage hd hid hstatus =>
    refine othersNotLost_put (fun id r hr hne => ?_) (.inr fun _ hdead => absurd hstatus hdead)
    rw [hid] at hne
    exact hothers id r hr (by rw [hstage]; exact fun heq => hne (Option.some.inj heq).symm)
  | @settled d attempt sent todo hstage hd =>
    obtain ⟨d₀, hbegun, hid⟩ := h.begun hstage hd
    have hkept : (settleDispatch env (p.store.webhook d.webhookId) attempt d).row.NotLost := by
      have hreturns : Raises (p.store.webhook d.webhookId) attempt d → d.StillScheduled := by
        unfold Survives at hsurvives
        rw [hstage] at hsurvives
        exact hsurvives d hd
      rw [hbegun] at hreturns ⊢
      exact (notLost_settle_iff env _ attempt d₀).mpr hreturns
    refine othersNotLost_put (fun id r hr hne => ?_) (.inr hkept)
    have hkey : (settleDispatch env (p.store.webhook d.webhookId) attempt d).row.id = d.id := by
      rw [hbegun]
      exact settleDispatch_id env _ attempt d₀
    rw [hkey] at hne
    exact hothers id r hr (by rw [hstage]; exact fun heq => hne (Option.some.inj heq).symm)

theorem survives_commit_of_not_begun
    (h : ∀ deliveryId attempt, p.stage ≠ .begun deliveryId attempt) : Survives p .commit := by
  unfold Survives
  cases hstage : p.stage with
  | idle => trivial
  | pending => trivial
  | begun deliveryId attempt => exact absurd hstage (h deliveryId attempt)

theorem survives_commit (h : p.Consistent) (hcommits : Commits env p q) (hq : q.LosesNone) :
    Survives p .commit := by
  have hstages : ∀ {stage}, p.stage = stage →
      (∀ deliveryId attempt, stage ≠ .begun deliveryId attempt) → Survives p .commit := by
    intro stage hstage hnot
    exact survives_commit_of_not_begun (hstage ▸ hnot)
  cases hcommits with
  | nothing hstage => exact hstages hstage nofun
  | skipped hstage => exact hstages hstage nofun
  | created hstage => exact hstages hstage nofun
  | reset hstage => exact hstages hstage nofun
  | began hstage =>
    rcases hstage with hidle | hpending
    · exact hstages hidle nofun
    · exact hstages hpending nofun
  | refused hstage => exact hstages hstage nofun
  | @settled d attempt sent todo hstage hd =>
    unfold Survives
    rw [hstage]
    intro d' hd'
    obtain rfl := Option.some.inj (hd.symm.trans hd')
    obtain ⟨d₀, hbegun, hid⟩ := h.begun hstage hd
    have hkey : (settleDispatch env (p.store.webhook d.webhookId) attempt d).row.id = d.id := by
      rw [hbegun]
      exact settleDispatch_id env _ attempt d₀
    have hkept := hq rfl _ (WebhookStore.mem_of_row (WebhookStore.row_put_self hd hkey)).1
    rw [hbegun] at hkept ⊢
    exact (notLost_settle_iff env _ attempt d₀).mp hkept

theorem losesNone_crash_iff (h : p.Consistent) (hothers : p.OthersNotLost) :
    (p.step env .crash).LosesNone ↔ Survives p .crash := by
  have hcrash : (p.step env .crash).LosesNone ↔ ∀ id d, p.store.row id = some d → d.NotLost := by
    rw [← forall_row_iff h.wellFormed]
    exact ⟨fun hnone => hnone rfl, fun hall _ => hall⟩
  have hfits := h.stage
  unfold WebhookProcess.OthersNotLost at hothers
  rw [hcrash]
  unfold Survives
  cases hstage : p.stage with
  | idle =>
    rw [hstage] at hothers
    exact iff_of_true (fun id d hd => hothers id d hd nofun) trivial
  | pending reason deliveryId attempt =>
    rw [hstage] at hfits
    obtain ⟨d, hd, hpending⟩ := hfits
    refine iff_of_false (fun hall => ?_) not_false
    have hkept := hall deliveryId d hd
    unfold WebhookDelivery.NotLost at hkept
    rw [hpending] at hkept
    exact absurd (hkept nofun nofun).1 nofun
  | begun deliveryId attempt =>
    rw [hstage] at hfits hothers
    obtain ⟨d₀, hd, -⟩ := hfits
    have hsurvives : WebhookStage.Survives p.store (.begun deliveryId attempt) .crash ↔
        (beginDispatch attempt.started d₀).StillScheduled := by
      constructor
      · intro hall
        exact hall _ hd
      · intro hscheduled d hd'
        rw [← Option.some.inj (hd.symm.trans hd')]
        exact hscheduled
    rw [hsurvives, ← notLost_begun_iff]
    constructor
    · intro hall
      exact hall deliveryId _ hd
    · intro hkept id d hd'
      by_cases hid : id = deliveryId
      · rw [hid, hd] at hd'
        rw [← Option.some.inj hd']
        exact hkept
      · exact hothers id d hd' fun heq => hid (Option.some.inj heq).symm

/-- **A step loses no delivery** exactly if it is no interruption that one is lost in. -/
theorem losesNone_step_iff (h : p.Consistent) (hnone : p.LosesNone) (hothers : p.OthersNotLost)
    (e : ProcessEvent) : (p.step env e).LosesNone ↔ Survives p e := by
  cases e with
  | call op =>
    have hsurvives : Survives p (.call op) := by
      unfold Survives
      cases p.stage <;> trivial
    refine iff_of_true ?_ hsurvives
    unfold WebhookProcess.step
    dsimp only
    split
    · exact hnone
    · exact hnone
  | commit =>
    have hcommits := commits_commit env h
    refine ⟨survives_commit h hcommits, ?_⟩
    intro hsurvives hidle
    have hwf := (h.commit hcommits).wellFormed
    exact (losesNone_iff_others hwf hidle).mpr (others_commit h hothers hcommits hsurvives) hidle
  | crash => exact losesNone_crash_iff h hothers

theorem others_step (h : p.Consistent) (hothers : p.OthersNotLost) (e : ProcessEvent)
    (hnone : (p.step env e).LosesNone) : (p.step env e).OthersNotLost := by
  cases e with
  | call op =>
    unfold WebhookProcess.step
    dsimp only
    split
    · exact hothers
    · exact hothers
  | commit =>
    have hcommits := commits_commit env h
    exact others_commit h hothers hcommits (survives_commit h hcommits hnone)
  | crash => exact (losesNone_iff_others (h.step .crash).wellFormed rfl).mp hnone

/-- **Deliveries over a run with crashes.** In a run that starts without deliveries, no delivery is
lost in a state without a dispatch exactly if every interruption of the run leaves a retry
scheduled. -/
theorem losesNone_iff {p₀ : WebhookProcess} (hempty : p₀.store.deliveries = [])
    (hidle : p₀.stage = .idle) {steps : List (WebhookProcess × ProcessEvent)}
    (hrun : ProcessRun env p₀ steps q) :
    (∀ u ∈ Runs.visited steps q, u.stage = .idle → ∀ d ∈ u.store.deliveries, d.NotLost) ↔
      ∀ x ∈ steps, Survives x.1 x.2 := by
  have hconsistent : p₀.Consistent := by
    refine ⟨?_, by rw [hidle]; trivial⟩
    unfold WebhookStore.WellFormed
    rw [hempty]
    exact List.nodup_nil
  have hnone : p₀.LosesNone := by
    intro _ d hd
    rw [hempty] at hd
    cases hd
  have hothers := (losesNone_iff_others hconsistent.wellFormed hidle).mp hnone
  have hforall := hrun.forall_iff_with (I := WebhookProcess.Consistent)
    (P := WebhookProcess.LosesNone) (Q := WebhookProcess.OthersNotLost) (C := Survives)
    hconsistent hnone hothers ?_ ?_ ?_
  · rw [← hforall]
    exact Runs.forall_mem_visited (P := WebhookProcess.LosesNone)
  · intro p e q hp hstep
    rw [← hstep]
    exact hp.step e
  · intro p e q hp hlost hrest hstep
    rw [← hstep]
    exact losesNone_step_iff hp hlost hrest e
  · intro p e q hp hrest hstep hlost
    rw [← hstep] at hlost ⊢
    exact others_step hp hrest e hlost

/-! ### A delivery that is never dispatched -/

/-- The process dies after `create_delivery` has committed the delivery of a violation: the row
stays PENDING, and no retry will select it. -/
theorem crash_after_create_loses_delivery :
    ¬ ∀ (env : WebhookEnv) (p₀ : WebhookProcess) (steps : List (WebhookProcess × ProcessEvent))
        (q : WebhookProcess),
      p₀.store.deliveries = [] → p₀.stage = .idle → ProcessRun env p₀ steps q →
        ∀ u ∈ Runs.visited steps q, u.stage = .idle → ∀ d ∈ u.store.deliveries, d.NotLost := by
  intro hall
  let events : List ProcessEvent := [.call (violation (answered 200)), .commit, .crash]
  let q := events.foldl (WebhookProcess.step unsignedEnv) { store := oneWebhook }
  have hrun := Runs.replay_run (WebhookProcess.step unsignedEnv) { store := oneWebhook } events
  have hkept := hall _ _ _ q rfl rfl hrun q (by simp [Runs.visited]) rfl
  have hstatus : (q.store.row 7).map WebhookDelivery.status = some .pending := by decide +kernel
  obtain ⟨d, hd, hpending⟩ := Option.map_eq_some_iff.mp hstatus
  have hlost := hkept d (WebhookStore.mem_of_row hd).1
  unfold WebhookDelivery.NotLost at hlost
  rw [hpending] at hlost
  have hclaimed := hlost (fun h => by cases h) fun h => by cases h
  cases hclaimed.1

/-- A crash in the retry of a delivery that has failed once. -/
theorem notLost_crashedRetry :
    let events : List ProcessEvent := [.call (violation (answered 503)), .commit, .commit, .commit,
      .call (.retryPending 1000000000 fun _ => answered 200), .commit, .crash]
    let steps := Runs.replay (WebhookProcess.step unsignedEnv) { store := oneWebhook } events
    ∀ u ∈ Runs.visited steps
        (events.foldl (WebhookProcess.step unsignedEnv) { store := oneWebhook }),
      u.stage = .idle → ∀ d ∈ u.store.deliveries, d.NotLost := by
  intro events steps
  have hrun := Runs.replay_run (WebhookProcess.step unsignedEnv) { store := oneWebhook } events
  have hsurvives : ∀ x ∈ steps, Survives x.1 x.2 := by decide +kernel
  exact (losesNone_iff rfl rfl hrun).mpr hsurvives

end NocIq
