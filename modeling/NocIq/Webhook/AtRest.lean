import NocIq.Webhook.Absorption

/-!
# NocIq — deliveries at rest

The columns that go with the status of a delivery, between two operations. A dispatch writes the
columns of the status it comes to and leaves the others to its caller. `replay_dead_letter_delivery`
and `recover_deliveries_in_window` clear `dead_lettered_at` before they dispatch; the dispatch tasks
and `retry_delivery` do not.

* **`atRest_dispatchRow_iff`** — when a dispatch leaves its delivery at rest.
* **`atRest_serve_iff`** — when an operation leaves all deliveries at rest.
* **`atRest_iff`** — and when a run does.
-/

namespace NocIq

variable {env : WebhookEnv} {s s' : WebhookStore} {id : UUID} {d d' : WebhookDelivery}
  {webhook : Option Webhook} {attempt : Attempt}

/-- The columns of a delivery agree with its status. -/
structure WebhookDelivery.AtRest (d : WebhookDelivery) : Prop where
  success : d.status = .success →
    d.deliveredAt.isSome ∧ d.nextRetryAt = none ∧ d.deadLetteredAt = none
  deadLetter : d.status = .deadLetter ↔ d.deadLetteredAt.isSome
  retrying : d.status = .retrying → d.nextRetryAt.isSome
  notPending : d.status ≠ .pending

def WebhookStore.AtRest (s : WebhookStore) : Prop := ∀ d ∈ s.deliveries, d.AtRest

/-! ## One dispatch -/

theorem atRest_begun (now : Time) (d : WebhookDelivery) :
    (beginDispatch now d).AtRest ↔
      1 ≤ d.attemptCount ∧ d.nextRetryAt.isSome ∧ d.deadLetteredAt = none := by
  have hstatus : (beginDispatch now d).status =
      if d.attemptCount + 1 > 1 then .retrying else .pending := rfl
  have hnext : (beginDispatch now d).nextRetryAt = d.nextRetryAt := rfl
  have hdead : (beginDispatch now d).deadLetteredAt = d.deadLetteredAt := rfl
  constructor
  · intro hrest
    have hcount : 1 ≤ d.attemptCount := by
      by_contra hzero
      rw [if_neg (by omega)] at hstatus
      exact hrest.notPending hstatus
    rw [if_pos (by omega)] at hstatus
    refine ⟨hcount, hnext ▸ hrest.retrying hstatus, ?_⟩
    have hnot : ¬ d.deadLetteredAt.isSome := by
      rw [← hdead, ← hrest.deadLetter, hstatus]
      exact nofun
    simpa using hnot
  · rintro ⟨hcount, hsome, hnone⟩
    rw [if_pos (by omega)] at hstatus
    constructor
    · simp [hstatus]
    · simp [hstatus, hdead, hnone]
    · simp [hnext, hsome]
    · simp [hstatus]

theorem atRest_delivered (now : Time) (d : WebhookDelivery) :
    (delivered now d).AtRest ↔ d.deadLetteredAt = none := by
  constructor
  · intro hrest
    exact (hrest.success rfl).2.2
  · intro hnone
    constructor
    · exact fun _ => ⟨rfl, rfl, hnone⟩
    · simp [delivered, hnone]
    · exact nofun
    · exact nofun

theorem atRest_deadLettered (now : Time) (d : WebhookDelivery) : (deadLettered now d).AtRest where
  success := nofun
  deadLetter := iff_of_true rfl rfl
  retrying := nofun
  notPending := nofun

theorem atRest_scheduled (now : Time) (delay : Int) (d : WebhookDelivery) :
    (scheduled now delay d).AtRest ↔ d.deadLetteredAt = none := by
  constructor
  · intro hrest
    have hnot : ¬ d.deadLetteredAt.isSome := by
      intro hsome
      cases hrest.deadLetter.mpr hsome
    simpa using hnot
  · intro hnone
    constructor
    · exact nofun
    · simp [scheduled, hnone]
    · exact fun _ => rfl
    · exact nofun

theorem SameButResponse.deadLetteredAt (h : SameButResponse d d') :
    d'.deadLetteredAt = d.deadLetteredAt := by
  rw [h]

/-- The attempt returns, and it fails for good. -/
def DeadLettersAgain (settings : WebhookSettings) (webhook : Option Webhook) (attempt : Attempt)
    (d : WebhookDelivery) : Prop :=
  ¬ Raises webhook attempt d ∧ ∃ w ∈ webhook, DeadLetters settings w attempt d

instance (settings : WebhookSettings) (webhook : Option Webhook) (attempt : Attempt)
    (d : WebhookDelivery) : Decidable (DeadLettersAgain settings webhook attempt d) :=
  inferInstanceAs (Decidable (_ ∧ _))

/-- **A dispatch leaves its delivery at rest** if it raises in a retry that stays scheduled, if it
dead-letters, or if it is of a delivery that is not dead-lettered. -/
theorem atRest_dispatchRow_iff (env : WebhookEnv) (webhook : Option Webhook) (attempt : Attempt)
    (d : WebhookDelivery) :
    (dispatchRow env webhook attempt d).row.AtRest ↔
      if Raises webhook attempt d then
        1 ≤ d.attemptCount ∧ d.nextRetryAt.isSome ∧ d.deadLetteredAt = none
      else DeadLettersAgain env.settings webhook attempt d ∨ d.deadLetteredAt = none := by
  have hspec := dispatchRow_spec env webhook attempt d
  generalize dispatchRow env webhook attempt d = effect at hspec ⊢
  cases hspec with
  | raised hraises =>
    rw [if_pos hraises]
    exact atRest_begun _ d
  | delivered _ hraises hsame hfails =>
    have hnot : ¬ DeadLettersAgain env.settings webhook attempt d := by
      rintro ⟨-, w, -, hfailed, -⟩
      rw [hfails] at hfailed
      cases hfailed
    rw [if_neg hraises, or_iff_right hnot]
    exact (atRest_delivered _ _).trans (by rw [hsame.deadLetteredAt]; rfl)
  | deadLettered hw hraises _ hdead =>
    rw [if_neg hraises]
    exact iff_of_true (atRest_deadLettered _ _) (.inl ⟨hraises, _, hw, hdead⟩)
  | scheduled hw hraises hsame _ hterminal hleft =>
    have hnot : ¬ DeadLettersAgain env.settings webhook attempt d := by
      rintro ⟨-, w, hmem, -, hcode | hnone⟩
      · rw [hterminal] at hcode
        cases hcode
      · rw [hw] at hmem
        exact hnone (Option.some.inj hmem ▸ hleft)
    rw [if_neg hraises, or_iff_right hnot]
    exact (atRest_scheduled _ _ _).trans (by rw [hsame.deadLetteredAt]; rfl)

theorem dispatchRow_goesOn (env : WebhookEnv) (webhook : Option Webhook) (attempt : Attempt)
    (d : WebhookDelivery) :
    (dispatchRow env webhook attempt d).goesOn = true ↔ ¬ Raises webhook attempt d := by
  have hspec := dispatchRow_spec env webhook attempt d
  generalize dispatchRow env webhook attempt d = effect at hspec ⊢
  cases hspec with
  | raised hraises => exact iff_of_false nofun (not_not_intro hraises)
  | delivered _ hraises => exact iff_of_true rfl hraises
  | deadLettered _ hraises => exact iff_of_true rfl hraises
  | scheduled _ hraises => exact iff_of_true rfl hraises

/-- A delivery with nothing scheduled and not dead-lettered: a new one, or one that is reset. -/
theorem atRest_dispatch_fresh (env : WebhookEnv) (webhook : Option Webhook) (attempt : Attempt)
    (hnext : d.nextRetryAt = none) (hdead : d.deadLetteredAt = none) :
    (dispatchRow env webhook attempt d).row.AtRest ↔ ¬ Raises webhook attempt d := by
  rw [atRest_dispatchRow_iff]
  split
  · rename_i hraises
    rw [hnext]
    exact iff_of_false (fun h => absurd h.2.1 nofun) (not_not_intro hraises)
  · rename_i hraises
    exact iff_of_true (.inr hdead) hraises

/-! ## A dispatch of a delivery at rest -/

/-- What the states of a run keep: no delivery is FAILED, and a RETRYING one has been attempted. -/
structure WebhookDelivery.Attempted (d : WebhookDelivery) : Prop where
  notFailed : d.status ≠ .failed
  retrying : d.status = .retrying → 1 ≤ d.attemptCount

theorem attempted_dispatchRow (env : WebhookEnv) (webhook : Option Webhook) (attempt : Attempt)
    (d : WebhookDelivery) : (dispatchRow env webhook attempt d).row.Attempted := by
  have hcount := dispatchRow_attemptCount env webhook attempt d
  refine ⟨?_, fun _ => by omega⟩
  have hspec := dispatchRow_spec env webhook attempt d
  generalize dispatchRow env webhook attempt d = effect at hspec ⊢
  cases hspec with
  | raised =>
    show (if d.attemptCount + 1 > 1 then _ else _) ≠ WebhookDeliveryStatus.failed
    split <;> exact nofun
  | delivered => exact nofun
  | deadLettered => exact nofun
  | scheduled => exact nofun

/-- A dispatch without a reset: a SUCCESS delivery must not raise, and a DEAD_LETTER one has to be
dead-lettered again. -/
def RestsAfter (settings : WebhookSettings) (webhook : Option Webhook) (attempt : Attempt)
    (d : WebhookDelivery) : Prop :=
  (d.status = .success → ¬ Raises webhook attempt d) ∧
    (d.status = .deadLetter → DeadLettersAgain settings webhook attempt d)

instance (settings : WebhookSettings) (webhook : Option Webhook) (attempt : Attempt)
    (d : WebhookDelivery) : Decidable (RestsAfter settings webhook attempt d) :=
  inferInstanceAs (Decidable ((_ → _) ∧ (_ → _)))

theorem atRest_dispatch_iff (env : WebhookEnv) (webhook : Option Webhook) (attempt : Attempt)
    (hrest : d.AtRest) (hattempted : d.Attempted) :
    (dispatchRow env webhook attempt d).row.AtRest ↔ RestsAfter env.settings webhook attempt d := by
  cases hstatus : d.status with
  | pending => exact absurd hstatus hrest.notPending
  | failed => exact absurd hstatus hattempted.notFailed
  | success =>
    obtain ⟨-, hnext, hdead⟩ := hrest.success hstatus
    rw [atRest_dispatch_fresh env webhook attempt hnext hdead]
    simp [RestsAfter, hstatus]
  | retrying =>
    have hdead : d.deadLetteredAt = none := by
      have hnot := hrest.deadLetter.not.mp (by simp [hstatus])
      simpa using hnot
    rw [atRest_dispatchRow_iff]
    refine iff_of_true ?_ (by simp [RestsAfter, hstatus])
    split
    · exact ⟨hattempted.retrying hstatus, hrest.retrying hstatus, hdead⟩
    · exact .inr hdead
  | deadLetter =>
    have hdead : d.deadLetteredAt ≠ none := by
      rw [← Option.isSome_iff_ne_none]
      exact hrest.deadLetter.mp hstatus
    rw [atRest_dispatchRow_iff]
    split
    · rename_i hraises
      exact iff_of_false (fun h => hdead h.2.2) fun h => (h.2 hstatus).1 hraises
    · simp [RestsAfter, hstatus, hdead]

/-! ## Rows of a store -/

variable {P : WebhookDelivery → Prop}

theorem forall_row_iff (hwf : s.WellFormed) :
    (∀ d ∈ s.deliveries, P d) ↔ ∀ id d, s.row id = some d → P d := by
  constructor
  · intro hall id d hd
    exact hall d (WebhookStore.mem_of_row hd).1
  · intro hall d hd
    exact hall d.id d (WebhookStore.row_of_mem hwf hd)

theorem forall_dispatch (hbefore : ∀ id d, s.row id = some d → P d)
    (hdispatched : ∀ d, s.row id = some d →
      P (dispatchRow env (s.webhook d.webhookId) attempt d).row)
    :
    ∀ id' d, (dispatchDelivery env id attempt s).2.row id' = some d → P d := by
  refine Batch.forEach_forall (fun d => dispatchRow_id env _ attempt d) (List.nodup_singleton id)
    hbefore ?_
  intro k hk d hd
  rw [List.mem_singleton.mp hk] at hd
  exact hdispatched d hd

theorem forall_dispatch_iff (hbefore : ∀ id d, s.row id = some d → P d) :
    (∀ id' d, (dispatchDelivery env id attempt s).2.row id' = some d → P d) ↔
      ∀ d, s.row id = some d → P (dispatchRow env (s.webhook d.webhookId) attempt d).row := by
  refine ⟨?_, forall_dispatch hbefore⟩
  intro hafter d hd
  exact hafter id _ (row_dispatch env hd attempt)

theorem forall_dispatchNew_iff {c : TriggerCall} (hfree : TriggerCall.conflicts d s = false) :
    (∀ id r, (c.dispatchNew env d attempt s).2.row id = some r → P r) ↔
      (∀ id r, s.row id = some r → P r) ∧
        P (dispatchRow env (s.webhook d.webhookId) attempt d).row := by
  let inserted : WebhookStore := { s with deliveries := s.deliveries ++ [d] }
  have hother : ∀ id r, s.row id = some r → id ≠ d.id := by
    intro id r hr
    obtain ⟨hmem, hid⟩ := WebhookStore.mem_of_row hr
    exact hid ▸ (ne_of_not_conflicts hfree hmem).1
  have hnew : inserted.row d.id = some d := by
    show (s.deliveries ++ [d]).find? _ = some d
    rw [List.find?_append]
    have hnone : s.deliveries.find? (fun r => decide (r.id = d.id)) = none := by
      cases hfound : s.deliveries.find? (fun r => decide (r.id = d.id)) with
      | none => rfl
      | some r => exact absurd rfl (hother d.id r hfound)
    rw [hnone]
    simp
  constructor
  · intro hafter
    refine ⟨?_, ?_⟩
    · intro id r hr
      have hsame : Untouched s (c.dispatchNew env d attempt s).2 id :=
        untouched_dispatchNew (hother id r hr) attempt s
      exact hafter id r (hsame.row.trans hr)
    · refine hafter d.id _ ?_
      rw [dispatchNew_eq]
      exact row_dispatch env hnew attempt
  · rintro ⟨hbefore, hdispatched⟩ id r hr
    by_cases hid : id = d.id
    · rw [hid, dispatchNew_eq] at hr
      obtain rfl := Option.some.inj (hr.symm.trans (row_dispatch env hnew attempt))
      exact hdispatched
    · have hsame : Untouched s (c.dispatchNew env d attempt s).2 id :=
        untouched_dispatchNew hid attempt s
      exact hbefore id r (hsame.row.symm.trans hr)

/-! ## `trigger_sla_violation_webhooks` -/

namespace TriggerCall

/-- No attempt for a delivery that the call creates raises. -/
def AttemptsReturn (env : WebhookEnv) (c : TriggerCall) : List Webhook → WebhookStore → Prop
  | [], _ => True
  | webhook :: webhooks, s =>
    (∀ d ∈ c.created env webhook s,
        ¬ Raises (s.webhook d.webhookId) (c.fanOut webhook.id).attempt d) ∧
      ((c.deliverTo env webhook s).1 = .returned →
        AttemptsReturn env c webhooks (c.deliverTo env webhook s).2)

instance decidableAttemptsReturn (env : WebhookEnv) (c : TriggerCall) :
    ∀ webhooks s, Decidable (c.AttemptsReturn env webhooks s)
  | [], _ => inferInstanceAs (Decidable True)
  | webhook :: webhooks, s =>
    have := decidableAttemptsReturn env c webhooks (c.deliverTo env webhook s).2
    inferInstanceAs (Decidable ((∀ d ∈ c.created env webhook s,
        ¬ Raises (s.webhook d.webhookId) (c.fanOut webhook.id).attempt d) ∧
      ((c.deliverTo env webhook s).1 = .returned →
        AttemptsReturn env c webhooks (c.deliverTo env webhook s).2)))

end TriggerCall

theorem atRest_deliverTo_iff (env : WebhookEnv) (c : TriggerCall) (w : Webhook)
    (hrest : ∀ id d, s.row id = some d → d.AtRest) :
    (∀ id d, (c.deliverTo env w s).2.row id = some d → d.AtRest) ↔
      ∀ d ∈ c.created env w s, ¬ Raises (s.webhook d.webhookId) (c.fanOut w.id).attempt d := by
  rcases deliverTo_cases env c w s with ⟨hnone, hsame⟩ | ⟨payload, hcreated, hfree, hnew⟩
  · rw [hnone, hsame]
    exact iff_of_true hrest fun d hd => absurd hd (Option.not_mem_none d)
  · rw [hcreated, hnew, forall_dispatchNew_iff hfree, and_iff_right hrest,
      atRest_dispatch_fresh env _ _ rfl rfl]
    simp

/-- **A call leaves all deliveries at rest** exactly if no attempt of it raises. Induction on the
webhooks; what one of them has created stays as it is for the others. -/
theorem atRest_deliverToEach_iff (c : TriggerCall) (webhooks : List Webhook)
    (hrest : ∀ id d, s.row id = some d → d.AtRest) :
    (∀ id d, (c.deliverToEach env webhooks s).2.row id = some d → d.AtRest) ↔
      c.AttemptsReturn env webhooks s := by
  induction webhooks generalizing s with
  | nil => exact iff_of_true hrest trivial
  | cons w webhooks ih =>
    have hfirst := atRest_deliverTo_iff env c w hrest
    unfold TriggerCall.deliverToEach TriggerCall.AttemptsReturn
    rw [← hfirst]
    generalize c.deliverTo env w s = outcome
    obtain ⟨_ | _, s'⟩ := outcome
    · constructor
      · intro hafter
        have hrest' : ∀ id d, s'.row id = some d → d.AtRest := by
          intro id d hd
          have hsame : Untouched s' (c.deliverToEach env webhooks s').2 id :=
            untouched_deliverToEach hd c webhooks
          exact hafter id d (hsame.row.trans hd)
        exact ⟨hrest', fun _ => (ih hrest').mp hafter⟩
      · rintro ⟨hrest', hreturn⟩
        exact (ih hrest').mpr (hreturn rfl)
    · exact (and_iff_left fun hreturned => by cases hreturned).symm

/-! ## The other operations -/

theorem forall_retryPending (hwf : s.WellFormed) (hbefore : ∀ id d, s.row id = some d → P d)
    (now : Time) (attempts : UUID → Attempt)
    (hdispatched : ∀ id d, s.row id = some d → d.status = .retrying →
      P (dispatchRow env (s.webhook d.webhookId) (attempts d.id) d).row)
    :
    ∀ id d, (retryPendingDeliveries env now attempts s).2.row id = some d → P d := by
  refine Batch.forEach_forall (fun d => dispatchRow_id env _ _ d) (dueDeliveries_nodup hwf now)
    hbefore ?_
  intro k hk d hd
  exact hdispatched k d hd (retrying_of_due hwf hk hd)

theorem forall_replay (hbefore : ∀ id d, s.row id = some d → P d) {deliveryId : UUID} {now : Time}
    {attempt : Attempt}
    (hreplayed : ∀ d, s.row deliveryId = some d → d.status = .deadLetter →
      P (replayRow env (s.webhook d.webhookId) now attempt d).row)
    :
    ∀ id d, (serveWebhooks env s (.replay deliveryId now attempt)).row id = some d → P d := by
  rcases replay_cases env deliveryId now attempt s with ⟨-, hsame⟩ | ⟨⟨d', hd', hstatus⟩, hreplay⟩
  · rw [hsame]
    exact hbefore
  · rw [hreplay]
    refine Batch.forEach_forall (ownRow_replay env _ now attempt).id
      (List.nodup_singleton deliveryId) hbefore ?_
    intro k hk d hd
    rw [List.mem_singleton.mp hk] at hd
    obtain rfl := Option.some.inj (hd'.symm.trans hd)
    exact hreplayed d' hd' hstatus

theorem atRest_recoverRow_iff (env : WebhookEnv) (webhook : Option Webhook) (now : Time)
    (attempt : Attempt) (hrest : d.AtRest) :
    (recoverRow env webhook now attempt d).row.AtRest ↔
      (d.status ≠ .success → ¬ Raises webhook attempt d) := by
  unfold recoverRow
  split
  · rename_i hstatus
    exact iff_of_true hrest fun h => absurd hstatus h
  · rename_i hstatus
    have hfresh := atRest_dispatch_fresh (d := resetForReplay now d) env webhook attempt rfl rfl
    refine hfresh.trans ?_
    simp [hstatus, Raises, Unsignable, resetForReplay]
  · rename_i hsuccess _
    have hfresh := atRest_dispatch_fresh (d := resetForRecovery now d) env webhook attempt rfl rfl
    refine hfresh.trans ?_
    rw [forall_prop_of_true hsuccess]
    exact Iff.rfl

theorem recoverRow_goesOn (env : WebhookEnv) (webhook : Option Webhook) (now : Time)
    (attempt : Attempt) (d : WebhookDelivery) :
    (recoverRow env webhook now attempt d).goesOn = true ↔
      (d.status ≠ .success → ¬ Raises webhook attempt d) := by
  unfold recoverRow
  split
  · rename_i hstatus
    exact iff_of_true rfl fun h => absurd hstatus h
  · rename_i hstatus
    refine (dispatchRow_goesOn env webhook attempt (resetForReplay now d)).trans ?_
    simp [hstatus, Raises, Unsignable, resetForReplay]
  · rename_i hsuccess _
    refine (dispatchRow_goesOn env webhook attempt (resetForRecovery now d)).trans ?_
    rw [forall_prop_of_true hsuccess]
    exact Iff.rfl

/-- **A recovery leaves all deliveries at rest** exactly if no attempt in its window raises: the
first that does ends the recovery and leaves its delivery reset. -/
theorem atRest_recover_iff (hwf : s.WellFormed) (hrest : ∀ id d, s.row id = some d → d.AtRest)
    (startTime endTime now : Time) (attempts : UUID → Attempt) :
    (∀ id d, (recoverDeliveriesInWindow env startTime endTime now attempts s).2.row id = some d →
        d.AtRest) ↔
      ∀ d ∈ s.deliveries, startTime ≤ d.eventTimestamp ∧ d.eventTimestamp ≤ endTime →
        d.status ≠ .success → ¬ Raises (s.webhook d.webhookId) (attempts d.id) d := by
  unfold recoverDeliveriesInWindow
  split
  · rename_i hempty
    refine iff_of_true hrest ?_
    intro d _ hwindow
    exact absurd (hwindow.1.trans hwindow.2) (not_le.mpr hempty)
  · let work : WebhookDelivery → Batch.Effect WebhookDelivery (Post ⊕ Bool) :=
      fun d => recoverRow env (s.webhook d.webhookId) now (attempts d.id) d
    have hkey : ∀ d, (work d).row.id = d.id := fun d => recoverRow_id env _ now _ d
    have hrow : ∀ {id d}, s.row id = some d → ((work d).row.AtRest ↔
        (d.status ≠ .success → ¬ Raises (s.webhook d.webhookId) (attempts d.id) d)) :=
      fun hd => atRest_recoverRow_iff env _ now _ (hrest _ _ hd)
    refine (Batch.forEach_forall_iff hkey (deliveriesInWindow_nodup hwf startTime endTime) hrest
      ?_).trans ?_
    · intro k _ d hd hafter
      exact (recoverRow_goesOn env _ now _ d).mpr ((hrow hd).mp hafter)
    · constructor
      · intro hall d hd hwindow
        have hstored := WebhookStore.row_of_mem hwf hd
        exact (hrow hstored).mp (hall d.id ((mem_window_ids hwf hstored).mpr hwindow) d hstored)
      · intro hall k hk d hd
        have hwindow := (mem_window_ids hwf hd).mp hk
        exact (hrow hd).mpr (hall d (WebhookStore.mem_of_row hd).1 hwindow)

/-! ## One operation -/

/-- The operation dispatches no DEAD_LETTER delivery without a reset, unless the attempt
dead-letters it again, and no attempt for a SUCCESS, a new or a reset delivery raises. -/
def KeepsRest (env : WebhookEnv) (s : WebhookStore) : WebhookOperation → Prop
  | .trigger call =>
    call.AttemptsReturn env (call.webhooks env s) s
  | .dispatchTask deliveryId attempt =>
    ∀ d ∈ s.row deliveryId, RestsAfter env.settings (s.webhook d.webhookId) attempt d
  | .partitionedTask deliveryId partitionId backpressured attempt =>
    passesBackpressure env.settings partitionId backpressured = true →
      ∀ d ∈ s.row deliveryId, RestsAfter env.settings (s.webhook d.webhookId) attempt d
  | .retryPending _ _ => True
  | .retry webhookId deliveryId attempt =>
    (s.webhook webhookId).isSome = true → ∀ d ∈ s.row deliveryId, d.webhookId = webhookId →
      d.status ≠ .success → RestsAfter env.settings (s.webhook d.webhookId) attempt d
  | .replay deliveryId _ attempt =>
    ∀ d ∈ s.row deliveryId, d.status = .deadLetter → ¬ Raises (s.webhook d.webhookId) attempt d
  | .recover startTime endTime _ attempts =>
    ∀ d ∈ s.deliveries, startTime ≤ d.eventTimestamp ∧ d.eventTimestamp ≤ endTime →
      d.status ≠ .success → ¬ Raises (s.webhook d.webhookId) (attempts d.id) d

instance (env : WebhookEnv) (s : WebhookStore) :
    (op : WebhookOperation) → Decidable (KeepsRest env s op)
  | .trigger call =>
    inferInstanceAs (Decidable (call.AttemptsReturn env (call.webhooks env s) s))
  | .dispatchTask deliveryId _ => inferInstanceAs (Decidable (∀ d ∈ s.row deliveryId, _))
  | .partitionedTask deliveryId _ _ _ =>
    inferInstanceAs (Decidable (_ → ∀ d ∈ s.row deliveryId, _))
  | .retryPending _ _ => inferInstanceAs (Decidable True)
  | .retry _ deliveryId _ =>
    inferInstanceAs (Decidable (_ → ∀ d ∈ s.row deliveryId, _ → _ → RestsAfter _ _ _ d))
  | .replay deliveryId _ _ =>
    inferInstanceAs (Decidable (∀ d ∈ s.row deliveryId, _ → ¬ Raises _ _ d))
  | .recover _ _ _ _ =>
    inferInstanceAs (Decidable (∀ d ∈ s.deliveries, _ → _ → ¬ Raises _ _ d))

/-- **An operation leaves all deliveries at rest** exactly if it meets its condition. -/
theorem atRest_serve_iff (hwf : s.WellFormed) (hattempted : ∀ d ∈ s.deliveries, d.Attempted)
    (hrest : s.AtRest) (op : WebhookOperation) :
    (serveWebhooks env s op).AtRest ↔ KeepsRest env s op := by
  have hrows : ∀ id d, s.row id = some d → d.AtRest := (forall_row_iff hwf).mp hrest
  have hdispatched : ∀ {id d attempt}, s.row id = some d →
      ((dispatchRow env (s.webhook d.webhookId) attempt d).row.AtRest ↔
        RestsAfter env.settings (s.webhook d.webhookId) attempt d) := by
    intro id d attempt hd
    exact atRest_dispatch_iff env _ attempt (hrows id d hd)
      (hattempted d (WebhookStore.mem_of_row hd).1)
  have hdispatch : ∀ id attempt,
      (∀ id' d, (dispatchDelivery env id attempt s).2.row id' = some d → d.AtRest) ↔
        ∀ d ∈ s.row id, RestsAfter env.settings (s.webhook d.webhookId) attempt d := by
    intro id attempt
    rw [forall_dispatch_iff hrows]
    exact forall₂_congr fun d hd => hdispatched hd
  refine (forall_row_iff (serveWebhooks_wellFormed hwf op)).trans ?_
  cases op with
  | trigger call =>
    unfold serveWebhooks
    dsimp only
    rw [triggerSlaViolationWebhooks_snd]
    exact atRest_deliverToEach_iff call _ hrows
  | dispatchTask deliveryId attempt => exact hdispatch deliveryId attempt
  | partitionedTask deliveryId partitionId backpressured attempt =>
    rcases partitionedTask_cases env deliveryId partitionId backpressured attempt s with
      ⟨hnot, hsame⟩ | ⟨hpasses, hserve⟩
    · rw [hsame]
      exact iff_of_true hrows fun hpasses => absurd hpasses hnot
    · rw [hserve]
      exact (hdispatch deliveryId attempt).trans ⟨fun h _ => h, fun h => h hpasses⟩
  | retryPending now attempts =>
    refine iff_of_true ?_ trivial
    refine forall_retryPending hwf hrows now attempts ?_
    intro id d hd hstatus
    refine (hdispatched hd).mpr ⟨?_, ?_⟩
    -- only deliveries that are to be retried are taken
    · exact fun h => absurd (hstatus.symm.trans h) nofun
    · exact fun h => absurd (hstatus.symm.trans h) nofun
  | retry webhookId deliveryId attempt =>
    rcases retryDelivery_cases env webhookId deliveryId attempt s with
      ⟨hnot, hsame⟩ | ⟨⟨d, hwebhook, hd, hof, hstatus⟩, hserve⟩
    · rw [hsame]
      refine iff_of_true hrows ?_
      intro hwebhook d hd hof hstatus
      exact absurd ⟨d, hwebhook, hd, hof, hstatus⟩ hnot
    · rw [hserve]
      refine (hdispatch deliveryId attempt).trans ?_
      constructor
      · intro hall _ d' hd' _ _
        exact hall d' hd'
      · intro hall d' hd'
        obtain rfl := Option.some.inj (hd.symm.trans hd')
        exact hall hwebhook d hd hof hstatus
  | replay deliveryId now attempt =>
    -- a replay resets the row first, so that its dispatch is a first attempt
    have hfresh : ∀ d, (replayRow env (s.webhook d.webhookId) now attempt d).row.AtRest ↔
        ¬ Raises (s.webhook d.webhookId) attempt d :=
      fun d => atRest_dispatch_fresh (d := resetForReplay now d) env _ attempt rfl rfl
    constructor
    · intro hafter d hd hstatus
      rcases replay_cases env deliveryId now attempt s with ⟨hnot, -⟩ | ⟨-, hserve⟩
      · exact absurd ⟨d, hd, hstatus⟩ hnot
      · rw [hserve] at hafter
        refine (hfresh d).mp (hafter deliveryId _ ?_)
        exact WebhookStore.row_forEach_singleton (ownRow_replay env _ now attempt).id hd
    · intro hreturns
      exact forall_replay hrows fun d hd hstatus => (hfresh d).mpr (hreturns d hd hstatus)
  | recover startTime endTime now attempts =>
    exact atRest_recover_iff hwf hrows startTime endTime now attempts

/-! ## Runs -/

theorem attempted_deliverToEach (c : TriggerCall) (webhooks : List Webhook)
    (hbefore : ∀ id d, s.row id = some d → d.Attempted) :
    ∀ id d, (c.deliverToEach env webhooks s).2.row id = some d → d.Attempted := by
  induction webhooks generalizing s with
  | nil => exact hbefore
  | cons w webhooks ih =>
    have hfirst : ∀ id d, (c.deliverTo env w s).2.row id = some d → d.Attempted := by
      rcases deliverTo_cases env c w s with ⟨-, hsame⟩ | ⟨payload, -, hfree, hnew⟩
      · rw [hsame]
        exact hbefore
      · rw [hnew]
        exact (forall_dispatchNew_iff hfree).mpr ⟨hbefore, attempted_dispatchRow env _ _ _⟩
    unfold TriggerCall.deliverToEach
    generalize c.deliverTo env w s = outcome at hfirst ⊢
    obtain ⟨_ | _, s'⟩ := outcome
    · exact ih hfirst
    · exact hfirst

theorem attempted_recoverRow (env : WebhookEnv) (webhook : Option Webhook) (now : Time)
    (attempt : Attempt) (h : d.Attempted) :
    (recoverRow env webhook now attempt d).row.Attempted := by
  unfold recoverRow
  split
  · exact h
  · exact attempted_dispatchRow env webhook attempt (resetForReplay now d)
  · exact attempted_dispatchRow env webhook attempt (resetForRecovery now d)

theorem serveWebhooks_attempted (hwf : s.WellFormed) (h : ∀ d ∈ s.deliveries, d.Attempted)
    (op : WebhookOperation) : ∀ d ∈ (serveWebhooks env s op).deliveries, d.Attempted := by
  have hrows : ∀ id d, s.row id = some d → d.Attempted := (forall_row_iff hwf).mp h
  have hdispatch : ∀ id attempt id' d,
      (dispatchDelivery env id attempt s).2.row id' = some d → d.Attempted := by
    intro id attempt
    exact forall_dispatch hrows fun d _ => attempted_dispatchRow env _ attempt d
  refine (forall_row_iff (serveWebhooks_wellFormed hwf op)).mpr ?_
  cases op with
  | trigger call =>
    unfold serveWebhooks
    dsimp only
    rw [triggerSlaViolationWebhooks_snd]
    exact attempted_deliverToEach call _ hrows
  | dispatchTask deliveryId attempt => exact hdispatch deliveryId attempt
  | partitionedTask deliveryId partitionId backpressured attempt =>
    rcases partitionedTask_cases env deliveryId partitionId backpressured attempt s with
      ⟨-, hsame⟩ | ⟨-, hserve⟩
    · rw [hsame]
      exact hrows
    · rw [hserve]
      exact hdispatch deliveryId attempt
  | retryPending now attempts =>
    exact forall_retryPending hwf hrows now attempts fun _ d _ _ =>
      attempted_dispatchRow env _ _ d
  | retry webhookId deliveryId attempt =>
    rcases retryDelivery_cases env webhookId deliveryId attempt s with
      ⟨-, hsame⟩ | ⟨-, hserve⟩
    · rw [hsame]
      exact hrows
    · rw [hserve]
      exact hdispatch deliveryId attempt
  | replay deliveryId now attempt =>
    exact forall_replay hrows fun d _ _ =>
      attempted_dispatchRow env _ attempt (resetForReplay now d)
  | recover startTime endTime now attempts =>
    show ∀ id d,
      (recoverDeliveriesInWindow env startTime endTime now attempts s).2.row id = some d → _
    unfold recoverDeliveriesInWindow
    split
    · exact hrows
    · exact Batch.forEach_forall (fun d => recoverRow_id env _ now _ d)
        (deliveriesInWindow_nodup hwf startTime endTime) hrows fun k _ d hd =>
          attempted_recoverRow env _ now _ (hrows k d hd)

/-- **Deliveries at rest.** Every state of a run that starts without deliveries has all of its
deliveries at rest exactly if every operation of the run meets its condition. -/
theorem atRest_iff {s₀ : WebhookStore} (hempty : s₀.deliveries = [])
    {steps : List (WebhookStore × WebhookOperation)} {t : WebhookStore}
    (hrun : WebhookRun env s₀ steps t) :
    (∀ u ∈ Runs.visited steps t, u.AtRest) ↔ ∀ x ∈ steps, KeepsRest env x.1 x.2 := by
  have hinit : s₀.WellFormed ∧ ∀ d ∈ s₀.deliveries, d.Attempted := by
    unfold WebhookStore.WellFormed
    rw [hempty]
    exact ⟨List.nodup_nil, fun _ hd => absurd hd List.not_mem_nil⟩
  have hrest : s₀.AtRest := by
    unfold WebhookStore.AtRest
    rw [hempty]
    exact fun _ hd => absurd hd List.not_mem_nil
  have hforall := Runs.Run.forall_iff (P := WebhookStore.AtRest) (C := KeepsRest env)
    (I := fun s => s.WellFormed ∧ ∀ d ∈ s.deliveries, d.Attempted) hinit hrest ?_ ?_ hrun
  · rw [← hforall, Runs.forall_mem_visited]
  · rintro s op s' ⟨hwf, hattempted⟩ hstep
    rw [← hstep]
    exact ⟨serveWebhooks_wellFormed hwf op, serveWebhooks_attempted hwf hattempted op⟩
  · rintro s op s' ⟨hwf, hattempted⟩ hrest hstep
    rw [← hstep]
    exact atRest_serve_iff hwf hattempted hrest op

/-! ### A dead-lettered delivery that is retried -/

/-- The receiver refuses a violation with a 400, and an operator retries the delivery: it is SUCCESS
and still dead-lettered. -/
theorem retry_keeps_deadLetteredAt :
    ¬ ∀ (env : WebhookEnv) (s₀ : WebhookStore)
        (steps : List (WebhookStore × WebhookOperation)) (t : WebhookStore),
      s₀.deliveries = [] → WebhookRun env s₀ steps t →
        ∀ u ∈ Runs.visited steps t, u.AtRest := by
  intro hall
  let operations := [violation (answered 400), .retry 1 7 (answered 200)]
  let t := operations.foldl (serveWebhooks unsignedEnv) oneWebhook
  have hrun := Runs.replay_run (serveWebhooks unsignedEnv) oneWebhook operations
  have hrest : t.AtRest := hall _ _ _ _ rfl hrun t (by simp [Runs.visited, t])
  have hcolumns : (t.row 7).map (fun d => (d.status, d.deadLetteredAt)) =
      some (.success, some 11) := by decide +kernel
  obtain ⟨d, hd, heq⟩ := Option.map_eq_some_iff.mp hcolumns
  obtain ⟨hstatus, hdead⟩ := Prod.mk.inj heq
  have hnone := ((hrest d (WebhookStore.mem_of_row hd).1).success hstatus).2.2
  rw [hdead] at hnone
  cases hnone

/-- A delivery that is refused, refused again in a late task, replayed, and delivered by a retry. -/
theorem atRest_replayedDelivery :
    let operations := [violation (answered 400), .dispatchTask 7 (answered 404),
      .replay 7 20 (answered 503), .retryPending 1000000000 fun _ => answered 200]
    let steps := Runs.replay (serveWebhooks unsignedEnv) oneWebhook operations
    ∀ u ∈ Runs.visited steps (operations.foldl (serveWebhooks unsignedEnv) oneWebhook),
      u.AtRest := by
  intro operations steps
  have hrun := Runs.replay_run (serveWebhooks unsignedEnv) oneWebhook operations
  have hkeeps : ∀ x ∈ steps, KeepsRest unsignedEnv x.1 x.2 := by decide +kernel
  exact (atRest_iff rfl hrun).mpr hkeeps

end NocIq
