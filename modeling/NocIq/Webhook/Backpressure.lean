import NocIq.Webhook.Commits
import NocIq.Webhook.Metrics

/-!
# NocIq — pending work and backpressure

`is_backpressured` compares a count with its threshold. The count of a partition goes up with each
attempt that fails for now, and nothing brings it down again, neither the success of the delivery
nor its dead-lettering.

* **`awaiting_dispatch`** — what a dispatch does to the deliveries that are awaited.
* **`bounded_step_iff`** — the steps that keep the count within them.
* **`measuresPending_iff`** — hence the runs in which the count is one of pending work.
-/

namespace NocIq

variable {env : WebhookEnv} {settings : WebhookMetricsSettings} {p : MeteredProcess}
  {s : WebhookStore} {id : UUID} {d : WebhookDelivery} {w : Webhook} {attempt : Attempt}

/-! ## The deliveries of a partition -/

instance (d : WebhookDelivery) : Decidable (Finished d) := inferInstanceAs (Decidable (_ ∨ _))

/-- The delivery is one of the partition, and not finished. -/
def isAwaited (env : WebhookEnv) (s : WebhookStore) (partitionId : Nat) (d : WebhookDelivery) :
    Bool :=
  (s.webhook d.webhookId).any (fun w => getPartitionForWebhook env.settings w = partitionId) &&
    !decide (Finished d)

def awaiting (env : WebhookEnv) (s : WebhookStore) (partitionId : Nat) : Nat :=
  s.deliveries.countP (isAwaited env s partitionId)

/-- The count of each partition is at most the number of its deliveries that are awaited, so that a
partition without any is not backpressured. -/
structure MeasuresPending (env : WebhookEnv) (settings : WebhookMetricsSettings)
    (p : MeteredProcess) : Prop where
  bounded : ∀ k, getPartitionPendingCount p.partitions k ≤ awaiting env p.store k
  free : ∀ k, awaiting env p.store k = 0 → 0 < settings.partitionBackpressureThreshold →
    isBackpressured settings p.partitions k = false

theorem measuresPending_of_bounded
    (h : ∀ k, getPartitionPendingCount p.partitions k ≤ awaiting env p.store k) :
    MeasuresPending env settings p := by
  refine ⟨h, ?_⟩
  intro k hnone hpositive
  have hk := h k
  unfold isBackpressured
  rw [decide_eq_false_iff_not]
  omega

/-! ## What a dispatch does to them -/

/-- The attempt ends the delivery: it succeeds, or dead-letters it. -/
def Ends (settings : WebhookSettings) (webhook : Webhook) (attempt : Attempt)
    (d : WebhookDelivery) : Prop :=
  attempt.outcome.fails = false ∨ DeadLetters settings webhook attempt d

instance (settings : WebhookSettings) (webhook : Webhook) (attempt : Attempt)
    (d : WebhookDelivery) : Decidable (Ends settings webhook attempt d) :=
  inferInstanceAs (Decidable (_ ∨ _))

theorem not_finished_raised (env : WebhookEnv) {webhook : Option Webhook}
    (h : Raises webhook attempt d) :
    ¬ Finished (dispatchRow env webhook attempt d).row := by
  have hbegun : ¬ Finished (beginDispatch attempt.started d) := by
    unfold Finished beginDispatch
    dsimp only
    split <;> simp
  have hspec := dispatchRow_spec env webhook attempt d
  generalize dispatchRow env webhook attempt d = effect at hspec ⊢
  cases hspec with
  | raised => exact hbegun
  | delivered _ hraises => exact absurd h hraises
  | deadLettered _ hraises => exact absurd h hraises
  | scheduled _ hraises => exact absurd h hraises

theorem finished_dispatchRow_iff (h : ¬ Raises (some w) attempt d) :
    Finished (dispatchRow env (some w) attempt d).row ↔ Ends env.settings w attempt d := by
  have hspec := dispatchRow_spec env (some w) attempt d
  generalize dispatchRow env (some w) attempt d = effect at hspec ⊢
  cases hspec with
  | raised hraises => exact absurd hraises h
  | delivered _ _ _ hfails => exact iff_of_true (.inl rfl) (.inl hfails)
  | deadLettered hw _ _ hdead =>
    cases hw
    exact iff_of_true (.inr rfl) (.inr hdead)
  | scheduled hw _ _ hfails hterminal hleft =>
    cases hw
    refine iff_of_false (fun hdone => hdone.elim nofun nofun) ?_
    rintro (hsucceeds | ⟨-, hdead | hdead⟩)
    · rw [hfails] at hsucceeds
      cases hsucceeds
    · rw [hterminal] at hdead
      cases hdead
    · exact hdead hleft

/-- **A dispatch and the deliveries that are awaited**: its delivery counts as the row it leaves. -/
theorem awaiting_dispatch (env : WebhookEnv) (attempt : Attempt) (hwf : s.WellFormed)
    (hd : s.row id = some d) (k : Nat) :
    awaiting env (dispatchDelivery env id attempt s).2 k +
        (if isAwaited env s k d then 1 else 0) =
      awaiting env s k +
        (if isAwaited env s k (dispatchRow env (s.webhook d.webhookId) attempt d).row
          then 1 else 0) := by
  obtain ⟨hmem, hid⟩ := WebhookStore.mem_of_row hd
  unfold dispatchDelivery
  rw [WebhookStore.forEach_singleton hd]
  exact Batch.countP_put hwf hmem (dispatchRow_id env _ attempt d) (isAwaited env s k)

theorem awaited_of_row (hw : s.webhook d.webhookId = some w) (k : Nat) :
    isAwaited env s k d =
      (decide (getPartitionForWebhook env.settings w = k) && !decide (Finished d)) := by
  unfold isAwaited
  rw [hw]
  rfl

/-! ## The steps -/

/-- A completed attempt counts one more if it fails for now, and takes one away from what is awaited
if it ends a delivery that was not finished before. Before it, the partition has room for that. -/
def RoomLeft (env : WebhookEnv) (p : MeteredProcess) : MeteredEvent → Prop
  | .create _ => True
  | .dispatch id attempt =>
    ∀ d ∈ p.store.row id, ∀ w ∈ p.store.webhook d.webhookId, ¬ Raises (some w) attempt d →
      let k := getPartitionForWebhook env.settings w
      getPartitionPendingCount p.partitions k + (if FailsForNow attempt d then 1 else 0) +
          (if Ends env.settings w attempt d then 1 else 0) ≤
        awaiting env p.store k + if Finished d then 1 else 0

instance (env : WebhookEnv) (p : MeteredProcess) (e : MeteredEvent) :
    Decidable (RoomLeft env p e) :=
  match e with
  | .create _ => inferInstanceAs (Decidable True)
  | .dispatch id attempt =>
    inferInstanceAs (Decidable (∀ d ∈ p.store.row id, ∀ w ∈ p.store.webhook d.webhookId,
      ¬ Raises (some w) attempt d → _ ≤ _))

theorem pendingCount_record (k : Nat) (success : Bool) (now : Time) (m : PartitionMetrics)
    (partitionId : Nat) :
    getPartitionPendingCount (recordPartitionMetrics partitionId success now m) k =
      getPartitionPendingCount m k + if k = partitionId ∧ success = false then 1 else 0 := by
  unfold getPartitionPendingCount recordPartitionMetrics
  dsimp only
  by_cases hk : k = partitionId
  · subst hk
    rw [Function.update_self]
    cases success <;> simp
  · rw [Function.update_of_ne hk]
    simp [hk]

theorem awaiting_insert (k : Nat) (d : WebhookDelivery) (s : WebhookStore) :
    awaiting env s k ≤ awaiting env { s with deliveries := s.deliveries ++ [d] } k := by
  show s.deliveries.countP (isAwaited env s k) ≤
    (s.deliveries ++ [d]).countP (isAwaited env s k)
  rw [List.countP_append]
  omega

theorem awaiting_dispatch_incomplete (hwf : s.WellFormed)
    (h : ∀ d w, ¬ Completes s id attempt d w) (k : Nat) :
    awaiting env s k ≤ awaiting env (dispatchDelivery env id attempt s).2 k := by
  cases hrow : s.row id with
  | none =>
    unfold dispatchDelivery
    rw [WebhookStore.forEach_absent hrow]
  | some d =>
    have hraises : Raises (s.webhook d.webhookId) attempt d := by
      intro w hw
      by_contra hanswered
      refine h d w ⟨hrow, hw, ?_⟩
      intro hsome
      exact hanswered (hsome w rfl)
    have hcount := awaiting_dispatch env attempt hwf hrow k
    have hwebhook : (dispatchRow env (s.webhook d.webhookId) attempt d).row.webhookId =
        d.webhookId := (identity_dispatchRow env _ attempt d).webhookId
    -- the row it leaves is not finished
    have hkept : isAwaited env s k d = true →
        isAwaited env s k (dispatchRow env (s.webhook d.webhookId) attempt d).row = true := by
      have hopen := not_finished_raised env hraises
      intro hawaited
      obtain ⟨hk, -⟩ := Bool.and_eq_true_iff.mp hawaited
      unfold isAwaited
      rw [hwebhook, hk]
      simpa using hopen
    split at hcount
    · rename_i hawaited
      rw [if_pos (hkept hawaited)] at hcount
      omega
    · omega

theorem room_iff (count : Nat) (fails : Prop) [Decidable fails] {before after : Nat}
    {ends done : Prop} [Decidable ends] [Decidable done]
    (h : after + (if done then 0 else 1) = before + if ends then 0 else 1) :
    count + (if fails then 1 else 0) ≤ after ↔
      count + (if fails then 1 else 0) + (if ends then 1 else 0) ≤
        before + if done then 1 else 0 := by
  by_cases hends : ends
  · by_cases hdone : done
    · simp only [hends, hdone, if_true] at h ⊢
      omega
    · simp only [hends, hdone, if_true, if_false] at h ⊢
      omega
  · by_cases hdone : done
    · simp only [hends, hdone, if_true, if_false] at h ⊢
      omega
    · simp only [hends, hdone, if_false] at h ⊢
      omega

/-- **The steps that keep the counts bounded.** -/
theorem bounded_step_iff (hwf : p.store.WellFormed)
    (hbounded : ∀ k, getPartitionPendingCount p.partitions k ≤ awaiting env p.store k)
    (e : MeteredEvent) :
    (∀ k, getPartitionPendingCount (p.step env settings e).partitions k ≤
        awaiting env (p.step env settings e).store k) ↔ RoomLeft env p e := by
  cases e with
  | create d =>
    refine iff_of_true ?_ trivial
    intro k
    unfold MeteredProcess.step
    dsimp only
    split
    · exact hbounded k
    · exact (hbounded k).trans (awaiting_insert k _ p.store)
  | dispatch id attempt =>
    rcases dispatch_cases env settings id attempt p with
      ⟨d, w, hcompletes, hdispatch⟩ | ⟨hnone, hdispatch⟩
    · have hcount := awaiting_dispatch env attempt hwf hcompletes.row
      have hwebhook : (dispatchRow env (some w) attempt d).row.webhookId = d.webhookId :=
        (identity_dispatchRow env _ attempt d).webhookId
      have hrow : ∀ k, isAwaited env p.store k (dispatchRow env (some w) attempt d).row =
          (decide (getPartitionForWebhook env.settings w = k) &&
            !decide (Ends env.settings w attempt d)) := by
        intro k
        rw [awaited_of_row (hwebhook ▸ hcompletes.webhook)]
        simp only [finished_dispatchRow_iff hcompletes.answered]
      -- the row and the webhook of a dispatch that completes are determined
      have hroom : RoomLeft env p (.dispatch id attempt) ↔
          (let k := getPartitionForWebhook env.settings w
          getPartitionPendingCount p.partitions k + (if FailsForNow attempt d then 1 else 0) +
              (if Ends env.settings w attempt d then 1 else 0) ≤
            awaiting env p.store k + if Finished d then 1 else 0) := by
        constructor
        · intro h
          exact h d hcompletes.row w hcompletes.webhook hcompletes.answered
        · intro h d' hd' w' hw' _
          obtain rfl := Option.some.inj (hcompletes.row.symm.trans hd')
          obtain rfl := Option.some.inj (hcompletes.webhook.symm.trans hw')
          exact h
      rw [hroom]
      show (∀ k, getPartitionPendingCount (p.dispatch env settings id attempt).partitions k ≤
        awaiting env (p.dispatch env settings id attempt).store k) ↔ _
      rw [hdispatch]
      generalize hj : getPartitionForWebhook env.settings w = j at hrow ⊢
      -- only the partition of the webhook is counted up
      have hpending : ∀ k, getPartitionPendingCount (MeteredProcess.record env settings w attempt d
          (decide (¬ FailsForNow attempt d))
          { p with store := (dispatchDelivery env id attempt p.store).2 }).partitions k =
          getPartitionPendingCount p.partitions k +
            if k = j ∧ decide (¬ FailsForNow attempt d) = false then 1 else 0 := by
        intro k
        rw [← hj]
        exact pendingCount_record k _ _ _ _
      rw [hcompletes.webhook] at hcount
      simp only [hrow, awaited_of_row hcompletes.webhook, hj] at hcount
      have hroom := room_iff (getPartitionPendingCount p.partitions j) (FailsForNow attempt d)
        (by simpa using hcount j)
      constructor
      · intro hall
        have hleft := hall j
        rw [hpending] at hleft
        refine hroom.mp ?_
        simpa using hleft
      · intro hleft k
        rw [hpending]
        by_cases hk : k = j
        · subst hk
          have hbound := hroom.mpr hleft
          simpa using hbound
        -- another partition: its count stays, and so does what waits in it
        · have hsame := hcount k
          have hbefore := hbounded k
          simp only [Ne.symm hk, hk, decide_false, Bool.false_and, false_and, if_false,
            Bool.false_eq_true] at hsame ⊢
          show _ ≤ awaiting env (dispatchDelivery env id attempt p.store).2 k
          omega
    · refine iff_of_true ?_ fun d hd w hw h => absurd ⟨hd, hw, h⟩ (hnone d w)
      intro k
      show getPartitionPendingCount (p.dispatch env settings id attempt).partitions k ≤
        awaiting env (p.dispatch env settings id attempt).store k
      rw [hdispatch]
      exact (hbounded k).trans (awaiting_dispatch_incomplete hwf hnone k)

/-! ## Runs -/

theorem metered_wellFormed (hwf : p.store.WellFormed) (e : MeteredEvent) :
    (p.step env settings e).store.WellFormed := by
  cases e with
  | create d =>
    unfold MeteredProcess.step
    dsimp only
    split
    · exact hwf
    · rename_i hfree
      exact insert_wellFormed (d := { d with status := .pending }) hwf (eq_false_of_ne_true hfree)
  | dispatch id attempt =>
    have hdispatch : (dispatchDelivery env id attempt p.store).2.WellFormed :=
      WebhookStore.forEach_wellFormed hwf _ _
    show (p.dispatch env settings id attempt).store.WellFormed
    rcases dispatch_cases env settings id attempt p with ⟨d, w, -, hserve⟩ | ⟨-, hserve⟩
    · rw [hserve]
      exact hdispatch
    · rw [hserve]
      exact hdispatch

/-- **The counts over a run** of a process that starts with none: they measure pending work in every
state exactly if each attempt that completes finds the room that it takes. -/
theorem measuresPending_iff {p₀ : MeteredProcess} (hwf : p₀.store.WellFormed)
    (hfresh : ∀ k, getPartitionPendingCount p₀.partitions k = 0)
    {steps : List (MeteredProcess × MeteredEvent)} (hrun : MeteredRun env settings p₀ steps p) :
    (∀ q ∈ Runs.visited steps p, MeasuresPending env settings q) ↔
      ∀ x ∈ steps, RoomLeft env x.1 x.2 := by
  let P : MeteredProcess → Prop :=
    fun q => ∀ k, getPartitionPendingCount q.partitions k ≤ awaiting env q.store k
  have hinit : P p₀ := by
    intro k
    rw [hfresh k]
    exact Nat.zero_le _
  have hinv : ∀ q e q', q.store.WellFormed → MeteredProcess.step env settings q e = q' →
      q'.store.WellFormed := by
    intro q e q' hq hstep
    rw [← hstep]
    exact metered_wellFormed hq e
  have hiff : ∀ q e q', q.store.WellFormed → P q → MeteredProcess.step env settings q e = q' →
      (P q' ↔ RoomLeft env q e) := by
    intro q e q' hq hle hstep
    rw [← hstep]
    exact bounded_step_iff hq hle e
  have hbounded := hrun.forall_iff (P := P) (C := RoomLeft env) hwf hinit hinv hiff
  refine Iff.trans (forall₂_congr ?_) ((Runs.forall_mem_visited (P := P)).trans hbounded)
  intro q _
  exact ⟨fun h => h.bounded, fun h => measuresPending_of_bounded h⟩

/-! ### A delivery that gets through -/

/-- The first attempt fails for now, the second one succeeds: the count stays at 1, and nothing is
awaited. -/
theorem retried_success_stays_counted :
    ¬ ∀ (env : WebhookEnv) (settings : WebhookMetricsSettings) (p₀ p : MeteredProcess)
        (steps : List (MeteredProcess × MeteredEvent)),
      p₀.store.WellFormed → (∀ k, getPartitionPendingCount p₀.partitions k = 0) →
        MeteredRun env settings p₀ steps p →
          ∀ q ∈ Runs.visited steps p, MeasuresPending env settings q := by
  intro hall
  let events : List MeteredEvent :=
    [.create queued, .dispatch 7 (answered 503), .dispatch 7 (answered 200)]
  have hrun := Runs.replay_run (MeteredProcess.step unsignedEnv {}) { store := oneWebhook } events
  have hlast := hall _ _ _ _ _ oneWebhook_wellFormed (fun _ => rfl) hrun _
    (List.mem_append_right _ (List.mem_singleton_self _))
  have hbounded := hlast.bounded 0
  revert hbounded
  decide +kernel

/-- A delivery that succeeds at once, and one that waits for its second attempt. -/
theorem measuresPending_waiting :
    let events : List MeteredEvent :=
      [.create queued, .dispatch 7 (answered 200), .create { queued with id := 8 },
        .dispatch 8 (answered 503)]
    let steps := Runs.replay (MeteredProcess.step unsignedEnv {}) { store := oneWebhook } events
    ∀ q ∈ Runs.visited steps (events.foldl (MeteredProcess.step unsignedEnv {})
        { store := oneWebhook }),
      MeasuresPending unsignedEnv {} q := by
  intro events steps
  have hrun := Runs.replay_run (MeteredProcess.step unsignedEnv {}) { store := oneWebhook } events
  refine (measuresPending_iff oneWebhook_wellFormed (fun _ => rfl) hrun).mpr ?_
  decide +kernel

end NocIq
