import NocIq.Webhook.Operations

/-!
# NocIq — deliveries that are done

SUCCESS and DEAD_LETTER over whole runs. `dispatch_delivery` looks at no status, so what keeps a
finished delivery from being sent again is the check of its caller: `retry_pending_deliveries`
selects RETRYING rows, `recover_deliveries_in_window` skips SUCCESS and `retry_delivery` refuses it,
but the dispatch tasks check nothing.

* **`untouched_of_checked`** — an operation that checks leaves a finished delivery alone.
* **`dispatch_touches`** — and a dispatch never does.
* **`finishedStay_iff`** — hence the runs in which finished deliveries stay as they are.
-/

namespace NocIq

variable {env : WebhookEnv} {s s' s'' : WebhookStore} {id : UUID} {d : WebhookDelivery}

/-! ## Deliveries that an operation does not touch -/

def WebhookStore.timesSent (s : WebhookStore) (id : UUID) : Nat :=
  s.sent.countP fun p => decide (p.deliveryId = id)

structure Untouched (s s' : WebhookStore) (id : UUID) : Prop where
  row : s'.row id = s.row id
  sent : s'.timesSent id = s.timesSent id

theorem Untouched.refl (s : WebhookStore) (id : UUID) : Untouched s s id := ⟨rfl, rfl⟩

theorem Untouched.trans (h : Untouched s s' id) (h' : Untouched s' s'' id) : Untouched s s'' id :=
  ⟨h'.row.trans h.row, h'.sent.trans h.sent⟩

theorem countP_append_others {posts others : List Post} (h : ∀ p ∈ others, p.deliveryId ≠ id) :
    (posts ++ others).countP (fun p => decide (p.deliveryId = id)) =
      posts.countP fun p => decide (p.deliveryId = id) := by
  rw [List.countP_append]
  have hzero : others.countP (fun p => decide (p.deliveryId = id)) = 0 := by
    rw [List.countP_eq_zero]
    intro p hp
    simpa using h p hp
  omega

/-- Work that keeps the id of its row and sends nothing of another one. -/
structure OwnRow (work : WebhookDelivery → Batch.Effect WebhookDelivery Post) : Prop where
  id : ∀ d, (work d).row.id = d.id
  output : ∀ d, ∀ p ∈ (work d).output, p.deliveryId = d.id

theorem untouched_forEach {work : WebhookDelivery → Batch.Effect WebhookDelivery Post}
    (hwork : OwnRow work) {ids : List UUID} (hnodup : ids.Nodup) (hid : id ∉ ids)
    (s : WebhookStore) : Untouched s (s.forEach ids work).2 id := by
  refine ⟨Batch.lookup_forEach_of_notMem hwork.id hid, ?_⟩
  refine countP_append_others ?_
  intro p hp
  obtain ⟨k, hk, d, hd, hpost⟩ := Batch.exists_of_mem_output hwork.id hnodup hp
  rw [hwork.output d p hpost, (Batch.lookup_eq_some hd).2]
  intro heq
  exact hid (heq ▸ hk)

theorem ownRow_dispatch (env : WebhookEnv) (webhook : WebhookDelivery → Option Webhook)
    (attempt : WebhookDelivery → Attempt) :
    OwnRow fun d => dispatchRow env (webhook d) (attempt d) d where
  id d := dispatchRow_id env (webhook d) (attempt d) d
  output _ _ h := dispatchRow_output h

theorem ownRow_replay (env : WebhookEnv) (webhook : WebhookDelivery → Option Webhook)
    (now : Time) (attempt : Attempt) :
    OwnRow fun d => replayRow env (webhook d) now attempt d where
  id d := dispatchRow_id env (webhook d) attempt (resetForReplay now d)
  output d _ h := dispatchRow_output (d := resetForReplay now d) h

theorem untouched_dispatch {other : UUID} (hne : id ≠ other) (attempt : Attempt)
    (s : WebhookStore) : Untouched s (dispatchDelivery env other attempt s).2 id :=
  untouched_forEach (ownRow_dispatch env _ fun _ => attempt) (List.nodup_singleton other)
    (by simpa using hne) s

/-! ## A new delivery -/

theorem untouched_insert (hne : id ≠ d.id) (s : WebhookStore) :
    Untouched s { s with deliveries := s.deliveries ++ [d] } id := by
  refine ⟨?_, rfl⟩
  show (s.deliveries ++ [d]).find? _ = s.deliveries.find? _
  rw [List.find?_append]
  have hnone : [d].find? (fun r => decide (r.id = id)) = none := by
    rw [List.find?_singleton]
    simpa using fun heq => hne heq.symm
  rw [hnone, Option.or_none]

theorem dispatchNew_eq (env : WebhookEnv) (c : TriggerCall) (d : WebhookDelivery)
    (attempt : Attempt) (s : WebhookStore) :
    c.dispatchNew env d attempt s =
      dispatchDelivery env d.id attempt { s with deliveries := s.deliveries ++ [d] } := by
  have hsupported : validatePayloadSchemaVersion webhookSchemaVersion c.event = none := by
    cases c.event <;> decide
  unfold TriggerCall.dispatchNew
  rw [hsupported]

theorem ne_of_not_conflicts (hfree : TriggerCall.conflicts d s = false) {d' : WebhookDelivery}
    (hd' : d' ∈ s.deliveries) : d'.id ≠ d.id ∧ d'.idempotencyKey ≠ d.idempotencyKey := by
  have hnot := List.any_eq_false.mp hfree d' hd'
  simpa [not_or] using hnot

/-- The delivery that the body of the loop inserts, if it does. -/
def TriggerCall.created (env : WebhookEnv) (c : TriggerCall) (webhook : Webhook)
    (s : WebhookStore) : Option WebhookDelivery :=
  if (c.fanOut webhook.id).url = .valid ∧ c.throttled env webhook = false then
    ((c.payload env).map (c.newDelivery env webhook)).filter fun d => !TriggerCall.conflicts d s
  else none

theorem deliverTo_cases (env : WebhookEnv) (c : TriggerCall) (webhook : Webhook)
    (s : WebhookStore) :
    c.created env webhook s = none ∧ (c.deliverTo env webhook s).2 = s ∨
      ∃ payload, c.created env webhook s = some (c.newDelivery env webhook payload) ∧
        TriggerCall.conflicts (c.newDelivery env webhook payload) s = false ∧
        c.deliverTo env webhook s =
          c.dispatchNew env (c.newDelivery env webhook payload)
            (c.fanOut webhook.id).attempt s := by
  unfold TriggerCall.deliverTo TriggerCall.created
  dsimp only
  cases hurl : (c.fanOut webhook.id).url with
  | raises => exact .inl ⟨if_neg nofun, rfl⟩
  | invalid => exact .inl ⟨if_neg nofun, rfl⟩
  | valid =>
    dsimp only
    cases hthrottled : c.throttled env webhook with
    | true => exact .inl ⟨if_neg nofun, rfl⟩
    | false =>
      rw [if_pos ⟨rfl, rfl⟩, if_neg Bool.false_ne_true]
      cases hpayload : c.payload env with
      | none => exact .inl ⟨rfl, rfl⟩
      | some payload =>
        dsimp only [Option.map_some]
        cases hconflicts : TriggerCall.conflicts (c.newDelivery env webhook payload) s with
        | true => exact .inl ⟨by simp [hconflicts], rfl⟩
        | false => exact .inr ⟨payload, by simp [hconflicts], hconflicts, rfl⟩

theorem untouched_dispatchNew {c : TriggerCall} (hne : id ≠ d.id) (attempt : Attempt)
    (s : WebhookStore) : Untouched s (c.dispatchNew env d attempt s).2 id := by
  rw [dispatchNew_eq]
  exact (untouched_insert hne s).trans (untouched_dispatch hne attempt _)

theorem untouched_deliverTo (hd : s.row id = some d) (c : TriggerCall) (webhook : Webhook) :
    Untouched s (c.deliverTo env webhook s).2 id := by
  obtain ⟨hmem, hid⟩ := WebhookStore.mem_of_row hd
  rcases deliverTo_cases env c webhook s with ⟨-, hsame⟩ | ⟨payload, -, hfree, hnew⟩
  · rw [hsame]
    exact .refl s id
  · rw [hnew]
    exact untouched_dispatchNew (hid ▸ (ne_of_not_conflicts hfree hmem).1) _ s

/-- A call to the webhooks touches no stored delivery. Induction on the webhooks. -/
theorem untouched_deliverToEach (hd : s.row id = some d) (c : TriggerCall)
    (webhooks : List Webhook) : Untouched s (c.deliverToEach env webhooks s).2 id := by
  induction webhooks generalizing s with
  | nil => exact .refl s id
  | cons webhook webhooks ih =>
    have hfirst : Untouched s (c.deliverTo env webhook s).2 id := untouched_deliverTo hd c webhook
    unfold TriggerCall.deliverToEach
    generalize c.deliverTo env webhook s = outcome at hfirst ⊢
    obtain ⟨_ | _, s'⟩ := outcome
    · exact hfirst.trans (ih (hfirst.row.trans hd))
    · exact hfirst

/-! ## Retries and recovery -/

theorem dueDeliveries_nodup (h : s.WellFormed) (now : Time) : (dueDeliveries now s).Nodup :=
  h.sublist (List.filter_sublist.map _)

theorem retrying_of_due (hwf : s.WellFormed) {now : Time} (hdue : id ∈ dueDeliveries now s)
    (hd : s.row id = some d) : d.status = .retrying := by
  obtain ⟨d', hd', hid⟩ := List.mem_map.mp hdue
  obtain ⟨hmem, hselected⟩ := List.mem_filter.mp hd'
  -- the row of the id is the one that is selected
  have hrow := WebhookStore.row_of_mem hwf hmem
  rw [hid, hd] at hrow
  rw [Bool.and_eq_true, ← Option.some.inj hrow] at hselected
  exact of_decide_eq_true hselected.1

theorem untouched_retryPending (hwf : s.WellFormed) (hd : s.row id = some d)
    (hstatus : d.status ≠ .retrying) (now : Time) (attempts : UUID → Attempt) :
    Untouched s (retryPendingDeliveries env now attempts s).2 id := by
  refine untouched_forEach (ownRow_dispatch env _ fun d => attempts d.id)
    (dueDeliveries_nodup hwf now) ?_ s
  intro hdue
  exact hstatus (retrying_of_due hwf hdue hd)

theorem recoverRow_id (env : WebhookEnv) (webhook : Option Webhook) (now : Time)
    (attempt : Attempt) (d : WebhookDelivery) :
    (recoverRow env webhook now attempt d).row.id = d.id := by
  unfold recoverRow
  split
  · rfl
  · exact dispatchRow_id env webhook attempt (resetForReplay now d)
  · exact dispatchRow_id env webhook attempt (resetForRecovery now d)

variable {attempt : Attempt} {webhook : Option Webhook}

theorem recoverRow_output {now : Time} {p : Post}
    (h : .inl p ∈ (recoverRow env webhook now attempt d).output) :
    p.deliveryId = d.id ∧ d.status ≠ .success := by
  have hcounted : ∀ {effect : Batch.Effect WebhookDelivery Post},
      (.inl p : Post ⊕ Bool) ∈
          effect.output.map Sum.inl ++ (if effect.goesOn then [Sum.inr true] else []) →
        p ∈ effect.output := by
    intro effect hp
    rcases List.mem_append.mp hp with hp | hp
    · obtain ⟨p', hp', heq⟩ := List.mem_map.mp hp
      rwa [← Sum.inl.inj heq]
    · split at hp
      · exact absurd (List.mem_singleton.mp hp) nofun
      · cases hp
  unfold recoverRow at h
  split at h
  · exact absurd (List.mem_singleton.mp h) nofun
  · rename_i hstatus
    refine ⟨dispatchRow_output (d := resetForReplay now d) (hcounted h), ?_⟩
    rw [hstatus]
    exact nofun
  · rename_i hsuccess _
    exact ⟨dispatchRow_output (d := resetForRecovery now d) (hcounted h), hsuccess⟩

theorem recoverRow_success {now : Time} (h : d.status = .success) :
    (recoverRow env webhook now attempt d).row = d := by
  unfold recoverRow
  rw [h]

theorem mem_deliveriesInWindow {startTime endTime : Time} :
    d ∈ deliveriesInWindow startTime endTime s ↔
      d ∈ s.deliveries ∧ startTime ≤ d.eventTimestamp ∧ d.eventTimestamp ≤ endTime := by
  unfold deliveriesInWindow
  rw [List.mem_mergeSort, List.mem_filter, decide_eq_true_eq]

theorem deliveriesInWindow_nodup (h : s.WellFormed) (startTime endTime : Time) :
    ((deliveriesInWindow startTime endTime s).map WebhookDelivery.id).Nodup := by
  have hperm := (List.mergeSort_perm (s.deliveries.filter fun d =>
    decide (startTime ≤ d.eventTimestamp ∧ d.eventTimestamp ≤ endTime))
    fun a b => decide (a.eventTimestamp ≤ b.eventTimestamp)).map WebhookDelivery.id
  rw [deliveriesInWindow, hperm.nodup_iff]
  exact h.sublist (List.filter_sublist.map _)

theorem mem_window_ids (hwf : s.WellFormed) (hd : s.row id = some d) {startTime endTime : Time} :
    id ∈ (deliveriesInWindow startTime endTime s).map WebhookDelivery.id ↔
      startTime ≤ d.eventTimestamp ∧ d.eventTimestamp ≤ endTime := by
  constructor
  · intro hmem
    obtain ⟨d', hd', hid⟩ := List.mem_map.mp hmem
    obtain ⟨hstored, hwindow⟩ := mem_deliveriesInWindow.mp hd'
    have hrow := WebhookStore.row_of_mem hwf hstored
    rw [hid, hd] at hrow
    rw [Option.some.inj hrow]
    exact hwindow
  · intro hwindow
    obtain ⟨hmem, hid⟩ := WebhookStore.mem_of_row hd
    exact List.mem_map.mpr ⟨d, mem_deliveriesInWindow.mpr ⟨hmem, hwindow⟩, hid⟩

theorem untouched_recover (hwf : s.WellFormed) (hd : s.row id = some d)
    {startTime endTime : Time}
    (hskip : d.status = .success ∨ ¬ (startTime ≤ d.eventTimestamp ∧ d.eventTimestamp ≤ endTime))
    (now : Time) (attempts : UUID → Attempt) :
    Untouched s (recoverDeliveriesInWindow env startTime endTime now attempts s).2 id := by
  unfold recoverDeliveriesInWindow
  split
  · exact .refl s id
  · let work : WebhookDelivery → Batch.Effect WebhookDelivery (Post ⊕ Bool) :=
      fun d => recoverRow env (s.webhook d.webhookId) now (attempts d.id) d
    have hkey : ∀ d, (work d).row.id = d.id := fun d => recoverRow_id env _ now _ d
    have hnodup := deliveriesInWindow_nodup hwf startTime endTime
    refine ⟨?_, ?_⟩
    · rcases @Batch.lookup_forEach_cases _ _ _ _ _ work _ s.deliveries hkey hnodup id with
        hsame | ⟨hmem, d', hd', hwork⟩
      · exact hsame
      · -- its own turn is that of a SUCCESS row
        obtain rfl := Option.some.inj (hd'.symm.trans hd)
        rcases hskip with hsuccess | houtside
        · rw [recoverRow_success hsuccess] at hwork
          exact hwork.trans hd'.symm
        · exact absurd ((mem_window_ids hwf hd).mp hmem) houtside
    · refine countP_append_others ?_
      intro p hp
      obtain ⟨o, ho, hleft⟩ := List.mem_filterMap.mp hp
      obtain ⟨k, hk, d', hd', hout⟩ := Batch.exists_of_mem_output hkey hnodup ho
      have hinl : o = .inl p := by
        cases o with
        | inl p' => rw [Option.some.inj hleft]
        | inr flag => cases hleft
      rw [hinl] at hout
      obtain ⟨hsent, hstatus⟩ := recoverRow_output hout
      rw [hsent, (Batch.lookup_eq_some hd').2]
      intro heq
      rw [heq] at hd' hk
      obtain rfl := Option.some.inj (hd'.symm.trans hd)
      rcases hskip with hsuccess | houtside
      · exact hstatus hsuccess
      · exact houtside ((mem_window_ids hwf hd).mp hk)

/-! ## Finished deliveries -/

def ReplaysExplicitly (d : WebhookDelivery) : WebhookOperation → Prop
  | .replay deliveryId _ _ => deliveryId = d.id
  | .recover startTime endTime _ _ => startTime ≤ d.eventTimestamp ∧ d.eventTimestamp ≤ endTime
  | _ => False

/-- A SUCCESS delivery is still one, and has not been sent again. -/
def SuccessStays (s s' : WebhookStore) : Prop :=
  ∀ id d, s.row id = some d → d.status = .success →
    (∃ d', s'.row id = some d' ∧ d'.status = .success) ∧ s'.timesSent id = s.timesSent id

theorem SuccessStays.trans (h : SuccessStays s s') (h' : SuccessStays s' s'') :
    SuccessStays s s'' := by
  intro id d hd hstatus
  obtain ⟨⟨d', hd', hstatus'⟩, hsent⟩ := h id d hd hstatus
  obtain ⟨hlast, hsent'⟩ := h' id d' hd' hstatus'
  exact ⟨hlast, hsent'.trans hsent⟩

/-- The operation changes no DEAD_LETTER delivery that it does not replay or recover. -/
def DeadLettersStay (env : WebhookEnv) (s : WebhookStore) (op : WebhookOperation) : Prop :=
  ∀ id d, s.row id = some d → d.status = .deadLetter → ¬ ReplaysExplicitly d op →
    (serveWebhooks env s op).row id = some d

def Finished (d : WebhookDelivery) : Prop := d.status = .success ∨ d.status = .deadLetter

/-- A dispatch task that gets to its dispatch is for a delivery that is not finished, and
`retry_delivery` for one that is not dead-lettered. -/
def DispatchesUnfinished (env : WebhookEnv) (s : WebhookStore) : WebhookOperation → Prop
  | .dispatchTask deliveryId _ => ∀ d, s.row deliveryId = some d → ¬ Finished d
  | .partitionedTask deliveryId partitionId backpressured _ =>
    passesBackpressure env.settings partitionId backpressured = true →
      ∀ d, s.row deliveryId = some d → ¬ Finished d
  | .retry webhookId deliveryId _ =>
    (s.webhook webhookId).isSome → ∀ d, s.row deliveryId = some d → d.webhookId = webhookId →
      d.status ≠ .deadLetter
  | _ => True

theorem partitionedTask_cases (env : WebhookEnv) (deliveryId : UUID) (partitionId : Nat)
    (backpressured : Bool) (attempt : Attempt) (s : WebhookStore) :
    passesBackpressure env.settings partitionId backpressured ≠ true ∧
        serveWebhooks env s (.partitionedTask deliveryId partitionId backpressured attempt) = s ∨
      passesBackpressure env.settings partitionId backpressured = true ∧
        serveWebhooks env s (.partitionedTask deliveryId partitionId backpressured attempt) =
          (dispatchDelivery env deliveryId attempt s).2 := by
  by_cases hpasses : passesBackpressure env.settings partitionId backpressured = true
  · exact .inr ⟨hpasses, if_pos hpasses⟩
  · exact .inl ⟨hpasses, if_neg hpasses⟩

/-- `retry_delivery` accepts a delivery of the webhook that has not succeeded. -/
def RetryAccepted (s : WebhookStore) (webhookId deliveryId : UUID) (d : WebhookDelivery) : Prop :=
  (s.webhook webhookId).isSome ∧ s.row deliveryId = some d ∧ d.webhookId = webhookId ∧
    d.status ≠ .success

theorem retryDelivery_cases (env : WebhookEnv) (webhookId deliveryId : UUID) (attempt : Attempt)
    (s : WebhookStore) :
    (¬ ∃ d, RetryAccepted s webhookId deliveryId d) ∧
        serveWebhooks env s (.retry webhookId deliveryId attempt) = s ∨
      (∃ d, RetryAccepted s webhookId deliveryId d) ∧
        serveWebhooks env s (.retry webhookId deliveryId attempt) =
          (dispatchDelivery env deliveryId attempt s).2 := by
  show _ ∧ (retryDelivery env webhookId deliveryId attempt s).2 = s ∨
    _ ∧ (retryDelivery env webhookId deliveryId attempt s).2 = _
  unfold retryDelivery RetryAccepted
  cases hwebhook : s.webhook webhookId with
  | none => exact .inl ⟨by simp, rfl⟩
  | some w =>
    dsimp only
    cases hfilter : (s.row deliveryId).filter fun d => decide (d.webhookId = webhookId) with
    | none =>
      refine .inl ⟨?_, rfl⟩
      rintro ⟨d, -, hd, hof, -⟩
      exact Option.filter_eq_none_iff.mp hfilter d hd (decide_eq_true hof)
    | some d =>
      obtain ⟨hd, hof⟩ := Option.filter_eq_some_iff.mp hfilter
      have hid : d.id = deliveryId := (WebhookStore.mem_of_row hd).2
      dsimp only
      by_cases hstatus : d.status = .success
      · refine .inl ⟨?_, by rw [if_pos hstatus]⟩
        rintro ⟨d', -, hd', -, hnot⟩
        obtain rfl := Option.some.inj (hd.symm.trans hd')
        exact hnot hstatus
      · refine .inr ⟨⟨d, rfl, hd, of_decide_eq_true hof, hstatus⟩, ?_⟩
        rw [if_neg hstatus, hid]

theorem replay_cases (env : WebhookEnv) (deliveryId : UUID) (now : Time) (attempt : Attempt)
    (s : WebhookStore) :
    (¬ ∃ d, s.row deliveryId = some d ∧ d.status = .deadLetter) ∧
        serveWebhooks env s (.replay deliveryId now attempt) = s ∨
      (∃ d, s.row deliveryId = some d ∧ d.status = .deadLetter) ∧
        serveWebhooks env s (.replay deliveryId now attempt) =
          (s.forEach [deliveryId] fun d =>
            replayRow env (s.webhook d.webhookId) now attempt d).2 := by
  show _ ∧ (replayDeadLetterDelivery env deliveryId now attempt s).2 = s ∨
    _ ∧ (replayDeadLetterDelivery env deliveryId now attempt s).2 = _
  unfold replayDeadLetterDelivery
  cases hrow : s.row deliveryId with
  | none => exact .inl ⟨by simp, rfl⟩
  | some d =>
    dsimp only
    by_cases hstatus : d.status = .deadLetter
    · refine .inr ⟨⟨d, rfl, hstatus⟩, ?_⟩
      rw [if_neg (not_not_intro hstatus)]
      generalize s.forEach [deliveryId] _ = outcome
      obtain ⟨_ | _, s'⟩ := outcome
      · rfl
      · rfl
    · refine .inl ⟨?_, by rw [if_pos hstatus]⟩
      rintro ⟨d', hd', hdead⟩
      exact hstatus (Option.some.inj hd' ▸ hdead)

/-- **An operation that checks leaves a finished delivery alone**, unless it replays or recovers
it. -/
theorem untouched_of_checked (hwf : s.WellFormed) {op : WebhookOperation}
    (hchecked : DispatchesUnfinished env s op) (hd : s.row id = some d)
    (hfinished : d.status = .success ∨ d.status = .deadLetter ∧ ¬ ReplaysExplicitly d op) :
    Untouched s (serveWebhooks env s op) id := by
  have hdone : Finished d := hfinished.imp_right And.left
  cases op with
  | trigger call =>
    unfold serveWebhooks
    dsimp only
    rw [triggerSlaViolationWebhooks_snd]
    exact untouched_deliverToEach hd call _
  | dispatchTask deliveryId attempt =>
    refine untouched_dispatch ?_ attempt s
    rintro rfl
    exact hchecked d hd hdone
  | partitionedTask deliveryId partitionId backpressured attempt =>
    rcases partitionedTask_cases env deliveryId partitionId backpressured attempt s with
      ⟨-, hsame⟩ | ⟨hpasses, hdispatch⟩
    · rw [hsame]
      exact .refl s id
    · rw [hdispatch]
      refine untouched_dispatch ?_ attempt s
      rintro rfl
      exact hchecked hpasses d hd hdone
  | retryPending now attempts =>
    refine untouched_retryPending hwf hd ?_ now attempts
    rcases hdone with hstatus | hstatus
    · rw [hstatus]
      exact nofun
    · rw [hstatus]
      exact nofun
  | retry webhookId deliveryId attempt =>
    rcases retryDelivery_cases env webhookId deliveryId attempt s with
      ⟨-, hsame⟩ | ⟨⟨d', hwebhook, hd', hof, hstatus⟩, hdispatch⟩
    · rw [hsame]
      exact .refl s id
    · rw [hdispatch]
      refine untouched_dispatch ?_ attempt s
      rintro rfl
      -- `retry_delivery` refuses a success, but not a dead letter
      obtain rfl := Option.some.inj (hd'.symm.trans hd)
      rcases hdone with hsuccess | hdead
      · exact hstatus hsuccess
      · exact hchecked hwebhook d' hd' hof hdead
  | replay deliveryId now attempt =>
    rcases replay_cases env deliveryId now attempt s with
      ⟨-, hsame⟩ | ⟨⟨d', hd', hstatus⟩, hreplay⟩
    · rw [hsame]
      exact .refl s id
    · rw [hreplay]
      refine untouched_forEach (ownRow_replay env _ now attempt) (List.nodup_singleton _) ?_ s
      rw [List.mem_singleton]
      rintro rfl
      obtain rfl := Option.some.inj (hd'.symm.trans hd)
      rcases hfinished with hsuccess | ⟨-, hexplicit⟩
      · rw [hstatus] at hsuccess
        cases hsuccess
      · exact hexplicit (WebhookStore.mem_of_row hd).2.symm
  | recover startTime endTime now attempts =>
    refine untouched_recover hwf hd ?_ now attempts
    exact hfinished.imp_right And.right

/-! ## A dispatch does not check -/

theorem row_dispatch (env : WebhookEnv) (hd : s.row id = some d) (attempt : Attempt) :
    (dispatchDelivery env id attempt s).2.row id =
      some (dispatchRow env (s.webhook d.webhookId) attempt d).row :=
  WebhookStore.row_forEach_singleton (fun d => dispatchRow_id env _ attempt d) hd

theorem sent_dispatch (env : WebhookEnv) (hd : s.row id = some d) (attempt : Attempt) :
    (dispatchDelivery env id attempt s).2.sent =
      s.sent ++ (dispatchRow env (s.webhook d.webhookId) attempt d).output := by
  let work : WebhookDelivery → Batch.Effect WebhookDelivery Post :=
    fun d => dispatchRow env (s.webhook d.webhookId) attempt d
  show s.sent ++ (Batch.forEach WebhookDelivery.id work [id] s.deliveries).output =
    s.sent ++ (work d).output
  rw [Batch.forEach_singleton hd]

theorem dispatchRow_sends (h : (dispatchRow env webhook attempt d).row.status = .success) :
    ∃ p, (dispatchRow env webhook attempt d).output = [p] ∧ p.deliveryId = d.id := by
  have hbegun : (beginDispatch attempt.started d).status ≠ .success := by
    show (if d.attemptCount + 1 > 1 then _ else _) ≠ _
    split <;> exact nofun
  unfold dispatchRow at h ⊢
  cases webhook with
  | none => exact absurd h hbegun
  | some w =>
    dsimp only at h ⊢
    split at h
    · exact absurd h hbegun
    · split at h
      · exact absurd h hbegun
      · exact ⟨_, rfl, rfl⟩

/-- **A dispatch never leaves a delivery alone**: it counts the attempt, and the delivery is SUCCESS
afterwards only if it has been sent. -/
theorem dispatch_touches (env : WebhookEnv) (hd : s.row id = some d) (attempt : Attempt) :
    ∃ d', (dispatchDelivery env id attempt s).2.row id = some d' ∧
      d'.attemptCount = d.attemptCount + 1 ∧
      (d'.status = .success →
        (dispatchDelivery env id attempt s).2.timesSent id = s.timesSent id + 1) := by
  refine ⟨_, row_dispatch env hd attempt, dispatchRow_attemptCount env _ attempt d, ?_⟩
  intro hsuccess
  obtain ⟨p, hsent, hid⟩ := dispatchRow_sends hsuccess
  unfold WebhookStore.timesSent
  rw [sent_dispatch env hd, hsent, List.countP_append]
  have hp : p.deliveryId = id := hid.trans (WebhookStore.mem_of_row hd).2
  simp [hp]

theorem unfinished_of_stays {op : WebhookOperation}
    (hop : serveWebhooks env s op = (dispatchDelivery env id attempt s).2)
    (hsuccess : SuccessStays s (serveWebhooks env s op)) (hdead : DeadLettersStay env s op)
    (hd : s.row id = some d) (hexplicit : ¬ ReplaysExplicitly d op) : ¬ Finished d := by
  obtain ⟨d', hd', hcount, hsends⟩ := dispatch_touches env hd attempt
  rw [← hop] at hd' hsends
  rintro (hstatus | hstatus)
  · obtain ⟨⟨d'', hd'', hstatus'⟩, hsame⟩ := hsuccess id d hd hstatus
    rw [hd''] at hd'
    have hsent := hsends (Option.some.inj hd' ▸ hstatus')
    omega
  · have hsame := hdead id d hd hstatus hexplicit
    rw [hsame] at hd'
    have heq := Option.some.inj hd'
    rw [heq] at hcount
    omega

/-! ## One operation -/

/-- **An operation leaves the finished deliveries as they are** exactly if it checks. -/
theorem stays_iff (hwf : s.WellFormed) (op : WebhookOperation) :
    (SuccessStays s (serveWebhooks env s op) ∧ DeadLettersStay env s op) ↔
      DispatchesUnfinished env s op := by
  constructor
  · rintro ⟨hsuccess, hdead⟩
    cases op with
    | trigger | retryPending | replay | recover => trivial
    | dispatchTask deliveryId attempt =>
      intro d hd
      exact unfinished_of_stays rfl hsuccess hdead hd not_false
    | partitionedTask deliveryId partitionId backpressured attempt =>
      intro hpasses d hd
      rcases partitionedTask_cases env deliveryId partitionId backpressured attempt s with
        ⟨hnot, -⟩ | ⟨-, hdispatch⟩
      · exact absurd hpasses hnot
      · exact unfinished_of_stays hdispatch hsuccess hdead hd not_false
    | retry webhookId deliveryId attempt =>
      intro hwebhook d hd hof hstatus
      have haccepted : RetryAccepted s webhookId deliveryId d := by
        refine ⟨hwebhook, hd, hof, ?_⟩
        rw [hstatus]
        exact nofun
      rcases retryDelivery_cases env webhookId deliveryId attempt s with
        ⟨hnot, -⟩ | ⟨-, hdispatch⟩
      · exact hnot ⟨d, haccepted⟩
      · exact unfinished_of_stays hdispatch hsuccess hdead hd not_false (.inr hstatus)
  · intro hchecked
    refine ⟨?_, ?_⟩
    · intro id d hd hstatus
      have hsame := untouched_of_checked hwf hchecked hd (.inl hstatus)
      exact ⟨⟨d, hsame.row.trans hd, hstatus⟩, hsame.sent⟩
    · intro id d hd hstatus hexplicit
      exact (untouched_of_checked hwf hchecked hd (.inr ⟨hstatus, hexplicit⟩)).row.trans hd

/-! ## Runs -/

theorem insert_wellFormed (hwf : s.WellFormed) (hfree : TriggerCall.conflicts d s = false) :
    ({ s with deliveries := s.deliveries ++ [d] } : WebhookStore).WellFormed := by
  show ((s.deliveries ++ [d]).map WebhookDelivery.id).Nodup
  rw [List.map_append, List.nodup_append]
  refine ⟨hwf, List.nodup_singleton _, ?_⟩
  intro i hi j hj
  obtain ⟨d', hd', rfl⟩ := List.mem_map.mp hi
  rw [List.mem_singleton.mp hj]
  exact (ne_of_not_conflicts hfree hd').1

theorem deliverTo_wellFormed (env : WebhookEnv) (hwf : s.WellFormed) (c : TriggerCall)
    (webhook : Webhook) :
    (c.deliverTo env webhook s).2.WellFormed := by
  rcases deliverTo_cases env c webhook s with ⟨-, hsame⟩ | ⟨payload, -, hfree, hnew⟩
  · rw [hsame]
    exact hwf
  · rw [hnew, dispatchNew_eq]
    exact WebhookStore.forEach_wellFormed (insert_wellFormed hwf hfree) _ _

theorem deliverToEach_wellFormed (hwf : s.WellFormed) (c : TriggerCall)
    (webhooks : List Webhook) : (c.deliverToEach env webhooks s).2.WellFormed := by
  induction webhooks generalizing s with
  | nil => exact hwf
  | cons webhook webhooks ih =>
    have hfirst := deliverTo_wellFormed env hwf c webhook
    unfold TriggerCall.deliverToEach
    generalize c.deliverTo env webhook s = outcome at hfirst ⊢
    obtain ⟨_ | _, s'⟩ := outcome
    · exact ih hfirst
    · exact hfirst

theorem serveWebhooks_wellFormed (hwf : s.WellFormed) (op : WebhookOperation) :
    (serveWebhooks env s op).WellFormed := by
  have hdispatch : ∀ (id : UUID) (attempt : Attempt),
      (dispatchDelivery env id attempt s).2.WellFormed :=
    fun _ _ => WebhookStore.forEach_wellFormed hwf _ _
  cases op with
  | trigger call =>
    unfold serveWebhooks
    dsimp only
    rw [triggerSlaViolationWebhooks_snd]
    exact deliverToEach_wellFormed hwf call _
  | dispatchTask deliveryId attempt => exact hdispatch deliveryId attempt
  | partitionedTask deliveryId partitionId backpressured attempt =>
    rcases partitionedTask_cases env deliveryId partitionId backpressured attempt s with
      ⟨-, hsame⟩ | ⟨-, hserve⟩
    · rw [hsame]
      exact hwf
    · rw [hserve]
      exact hdispatch deliveryId attempt
  | retryPending now attempts => exact WebhookStore.forEach_wellFormed hwf _ _
  | retry webhookId deliveryId attempt =>
    rcases retryDelivery_cases env webhookId deliveryId attempt s with
      ⟨-, hsame⟩ | ⟨-, hserve⟩
    · rw [hsame]
      exact hwf
    · rw [hserve]
      exact hdispatch deliveryId attempt
  | replay deliveryId now attempt =>
    rcases replay_cases env deliveryId now attempt s with ⟨-, hsame⟩ | ⟨-, hserve⟩
    · rw [hsame]
      exact hwf
    · rw [hserve]
      exact WebhookStore.forEach_wellFormed hwf _ _
  | recover startTime endTime now attempts =>
    show (recoverDeliveriesInWindow env startTime endTime now attempts s).2.WellFormed
    unfold recoverDeliveriesInWindow
    split
    · exact hwf
    · show ((Batch.forEach WebhookDelivery.id _ _ s.deliveries).rows.map WebhookDelivery.id).Nodup
      rw [Batch.keys_forEach]
      exact hwf

/-- **Finished deliveries over a run.** Every SUCCESS delivery of a run stays one and is not sent
again, and every DEAD_LETTER delivery changes only by a replay or a recovery, exactly if no dispatch
task and no `retry_delivery` of the run reaches a finished delivery. -/
theorem finishedStay_iff {s₀ : WebhookStore} (hwf : s₀.WellFormed)
    {steps : List (WebhookStore × WebhookOperation)} {t : WebhookStore}
    (hrun : WebhookRun env s₀ steps t) :
    ((Runs.visited steps t).Pairwise SuccessStays ∧ ∀ x ∈ steps, DeadLettersStay env x.1 x.2) ↔
      ∀ x ∈ steps, DispatchesUnfinished env x.1 x.2 := by
  have hwfs : ∀ x ∈ steps, x.1.WellFormed := by
    refine hrun.invariant_steps hwf ?_
    intro u op u' hu hstep
    rw [← hstep]
    exact serveWebhooks_wellFormed hu op
  rw [hrun.pairwise_iff (R := SuccessStays) fun _ _ _ => SuccessStays.trans, ← forall₂_and]
  refine forall₂_congr ?_
  intro x hx
  exact stays_iff (hwfs x hx) x.2

/-! ### A redelivered task -/

/-- An environment that signs nothing, as the one webhook has no secret, and whose database has the
operator of the query. -/
def unsignedEnv : WebhookEnv where
  containmentOnText := true
  hmacSha256 _ _ := ""
  sha256 text := text
  isoformat t := toString t
  uuidText id := toString id.toNat

def oneWebhook : WebhookStore where
  webhooks := [{ id := 1, url := "https://receiver.example/hook", events := ["sla.violation"] }]

theorem oneWebhook_wellFormed : oneWebhook.WellFormed := List.nodup_nil

def answered (statusCode : Nat) : Attempt where
  started := 10
  outcome := .response statusCode .empty
  finished := 11

/-- The call for an SLA violation whose delivery gets the id 7. -/
def violation (attempt : Attempt) : WebhookOperation :=
  .trigger
    { event := .slaViolation
      eventTimestamp := 5
      payloadTimestamp := 5
      data := some "\x7b\x7d"
      cachedEvents := fun _ => none
      fanOut := fun _ =>
        { deliveryId := 7, url := .valid, backpressured := false, createdAt := 6, attempt } }

theorem status_of_row {status : WebhookDeliveryStatus}
    (h : (s.row id).map WebhookDelivery.status = some status) (hd : s.row id = some d) :
    d.status = status := by
  rw [hd] at h
  exact Option.some.inj h

/-- The delivery of a violation succeeds, and its dispatch task is delivered late: it sends the
delivery once more. -/
theorem lateTask_sends_success_again :
    ¬ ∀ (env : WebhookEnv) (s₀ : WebhookStore)
        (steps : List (WebhookStore × WebhookOperation)) (t : WebhookStore),
      s₀.WellFormed → WebhookRun env s₀ steps t →
        (Runs.visited steps t).Pairwise SuccessStays ∧
          ∀ x ∈ steps, DeadLettersStay env x.1 x.2 := by
  intro hall
  let s := serveWebhooks unsignedEnv oneWebhook (violation (answered 200))
  have hrun := Runs.replay_run (serveWebhooks unsignedEnv) oneWebhook
    [violation (answered 200), .dispatchTask 7 (answered 200)]
  have hstays : SuccessStays s (serveWebhooks unsignedEnv s (.dispatchTask 7 (answered 200))) := by
    have hpairwise := (hall _ _ _ _ oneWebhook_wellFormed hrun).1
    rw [hrun.pairwise_iff (R := SuccessStays) fun _ _ _ => SuccessStays.trans] at hpairwise
    exact hpairwise (s, .dispatchTask 7 (answered 200)) (by simp [Runs.replay, s])
  have hstatus : (s.row 7).map WebhookDelivery.status = some .success := by decide +kernel
  obtain ⟨d, hd, hsuccess⟩ := Option.map_eq_some_iff.mp hstatus
  have hsent := (hstays 7 d hd hsuccess).2
  have htwice : (serveWebhooks unsignedEnv s (.dispatchTask 7 (answered 200))).timesSent 7 = 2 := by
    decide +kernel
  have honce : s.timesSent 7 = 1 := by decide +kernel
  omega

/-- A delivery that fails once and then gets through: a retry of it is refused and a recovery skips
it. -/
theorem finishedStay_secondAttempt :
    let operations := [violation (answered 503), .dispatchTask 7 (answered 200),
      .retry 1 7 (answered 200), .recover 0 100 50 fun _ => answered 200]
    let steps := Runs.replay (serveWebhooks unsignedEnv) oneWebhook operations
    (Runs.visited steps (operations.foldl (serveWebhooks unsignedEnv) oneWebhook)).Pairwise
        SuccessStays ∧
      ∀ x ∈ steps, DeadLettersStay unsignedEnv x.1 x.2 := by
  intro operations steps
  have hrun := Runs.replay_run (serveWebhooks unsignedEnv) oneWebhook operations
  refine (finishedStay_iff oneWebhook_wellFormed hrun).mpr ?_
  simp only [operations, Runs.replay, List.forall_mem_cons]
  refine ⟨trivial, ?_, ?_, trivial, nofun⟩
  · intro d hd
    have hstatus : d.status = .retrying := status_of_row (by decide +kernel) hd
    rintro (h | h)
    · exact absurd (hstatus.symm.trans h) nofun
    · exact absurd (hstatus.symm.trans h) nofun
  · intro _ d hd _ h
    have hstatus : d.status = .success := status_of_row (by decide +kernel) hd
    exact absurd (hstatus.symm.trans h) nofun

end NocIq
