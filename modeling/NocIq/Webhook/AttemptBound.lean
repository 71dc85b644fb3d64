import NocIq.Webhook.Absorption

/-!
# NocIq — how often a delivery is attempted

A delivery whose attempts all fail retryably, from its first dispatch on, when all further attempts
are those of `retry_pending_deliveries`. How many there are is decided by `webhook.max_retries or 3`
and by the number of configured delays.

* **`AtStage`** — the row of a delivery after some attempts.
* **`Polled.poll`** — what one call of `retry_pending_deliveries` makes of it.
* **`attempt_bound_iff`** — the delivery is attempted `min(n, len(d)) + 1` times, unless `n` is 0.
-/

namespace NocIq

/-! ## Attempts that fail retryably -/

/-- A 5xx, a timeout or a request error. -/
def HttpOutcome.RetryableFailure : HttpOutcome → Prop
  | .response statusCode _ => classifyHttpStatus statusCode = .retryable
  | .timeout _ => True
  | .requestError _ => True
  | .raised => False

instance : DecidablePred HttpOutcome.RetryableFailure := fun outcome => by
  unfold HttpOutcome.RetryableFailure
  split <;> infer_instance

theorem HttpOutcome.RetryableFailure.fails {outcome : HttpOutcome}
    (h : outcome.RetryableFailure) : outcome.fails = true := by
  cases outcome with
  | response statusCode text =>
    change classifyHttpStatus statusCode = .retryable at h
    show (!isSuccess statusCode) = true
    cases hsuccess : isSuccess statusCode with
    | false => rfl
    | true =>
      rw [classifyHttpStatus_success hsuccess] at h
      cases h
  | timeout message => rfl
  | requestError message => rfl
  | raised => cases h

variable {d : WebhookDelivery}

theorem HttpOutcome.RetryableFailure.codeAfter {outcome : HttpOutcome}
    (h : outcome.RetryableFailure) (hcode : isTerminal d.responseStatusCode = false) :
    isTerminal (outcome.codeAfter d) = false := by
  cases outcome with
  | response statusCode text =>
    change classifyHttpStatus statusCode = .retryable at h
    show (statusCode ≠ 0 && classifyHttpStatus statusCode = .terminal) = false
    rw [h]
    simp
  | timeout message => exact hcode
  | requestError message => exact hcode
  | raised => cases h

/-- `d'` with the delay before the next attempt, or dead-lettered if there is none. -/
def settledFailure (settings : WebhookSettings) (webhook : Webhook) (index : Nat) (now : Time)
    (d : WebhookDelivery) : WebhookDelivery :=
  match retryDelay settings webhook index with
  | some delay => scheduled now delay d
  | none => deadLettered now d

/-- A dispatch that fails retryably sends one request, and settles the row by the number of the
attempts before it. -/
theorem dispatchRow_of_retryable (env : WebhookEnv) {w : Webhook} {attempt : Attempt}
    (hsign : ¬ Unsignable w d) (h : attempt.outcome.RetryableFailure)
    (hcode : isTerminal d.responseStatusCode = false) :
    ∃ d' request, request.deliveryId = d.id ∧
      SameButResponse (beginDispatch attempt.started d) d' ∧
      isTerminal d'.responseStatusCode = false ∧
      dispatchRow env (some w) attempt d =
        { row := settledFailure env.settings w d.attemptCount attempt.finished d'
          output := [request] } := by
  have hraised : attempt.outcome ≠ .raised := by
    intro hraised
    rw [hraised] at h
    exact h
  cases hbuild : buildHeaders env attempt.started w (beginDispatch attempt.started d) with
  | none => exact absurd ((buildHeaders_eq_none_iff env _ w _).mp hbuild) hsign
  | some headers =>
    obtain ⟨d', hrecord, hsame, hcodeAfter⟩ :=
      attemptDelivery_eq hraised (beginDispatch attempt.started d)
    have hnotTerminal : isTerminal d'.responseStatusCode = false := by
      rw [hcodeAfter]
      exact h.codeAfter hcode
    have hindex : d'.attemptCount - 1 = d.attemptCount := by
      rw [hsame]
      rfl
    have hfinish : finishDispatch env.settings w attempt (beginDispatch attempt.started d) =
        some (settledFailure env.settings w d.attemptCount attempt.finished d') := by
      unfold finishDispatch
      rw [hrecord, h.fails, Option.map_some]
      show some (settleFailure env.settings w attempt.finished d') = _
      unfold settleFailure settledFailure
      rw [hnotTerminal, hindex]
      rfl
    refine ⟨d', post w (beginDispatch attempt.started d) headers, rfl, hsame, hnotTerminal, ?_⟩
    unfold dispatchRow
    dsimp only
    rw [hbuild]
    dsimp only
    rw [hfinish]

/-! ## The number of retries -/

/-- How often a failure is followed by a retry. -/
def retryLimit (settings : WebhookSettings) (webhook : Webhook) : Nat :=
  min (if webhook.maxRetries = 0 then 3 else webhook.maxRetries).toNat
    settings.retryBaseDelays.length

theorem retryLeft_iff (settings : WebhookSettings) (webhook : Webhook) (index : Nat) :
    RetryLeft settings webhook index ↔ index < retryLimit settings webhook := by
  unfold RetryLeft retryLimit
  generalize (if webhook.maxRetries = 0 then 3 else webhook.maxRetries) = maxRetries
  omega

theorem retryDelay_eq_some (settings : WebhookSettings) {webhook : Webhook} {index : Nat}
    (h : index < retryLimit settings webhook) :
    ∃ base, settings.retryBaseDelays[index]? = some base ∧
      retryDelay settings webhook index =
        some (min (base * 2 ^ index) settings.retryMaxDelaySeconds) := by
  obtain ⟨hleft, hlength⟩ := (retryLeft_iff settings webhook index).mpr h
  refine ⟨settings.retryBaseDelays[index], List.getElem?_eq_getElem hlength, ?_⟩
  unfold retryDelay
  dsimp only
  rw [if_pos hleft, List.getElem?_eq_getElem hlength]
  rfl

theorem retryDelay_eq_none {settings : WebhookSettings} {webhook : Webhook} {index : Nat}
    (h : retryLimit settings webhook ≤ index) : retryDelay settings webhook index = none := by
  rw [retryDelay_eq_none_iff, retryLeft_iff]
  omega

/-! ## A delivery and its attempts -/

/-- A delivery that has not been attempted yet, in tables where it has its webhook. -/
structure FreshDelivery where
  store : WebhookStore
  webhook : Webhook
  delivery : WebhookDelivery
  wellFormed : store.WellFormed
  row : store.row delivery.id = some delivery
  webhook_eq : store.webhook delivery.webhookId = some webhook
  maxRetries_nonneg : 0 ≤ webhook.maxRetries
  signable : ¬ Unsignable webhook delivery
  attemptCount : delivery.attemptCount = 0
  responseStatusCode : delivery.responseStatusCode = none
  unsent : ∀ request ∈ store.sent, request.deliveryId ≠ delivery.id

/-- The row of the delivery `d₀` after the attempts `earlier` and `last`. -/
structure AtStage (settings : WebhookSettings) (w : Webhook) (d₀ : WebhookDelivery)
    (earlier : List Attempt) (last : Attempt) (d : WebhookDelivery) : Prop where
  id : d.id = d₀.id
  webhookId : d.webhookId = d₀.webhookId
  signable : ¬ Unsignable w d
  notTerminal : isTerminal d.responseStatusCode = false
  attemptCount : d.attemptCount = earlier.length + 1
  retried : earlier.length ≤ retryLimit settings w
  retrying : ∀ delay, retryDelay settings w earlier.length = some delay →
    d.status = .retrying ∧ d.nextRetryAt = some (last.finished + delay * 1000000)
  dead : retryDelay settings w earlier.length = none →
    d.status = .deadLetter ∧ d.nextRetryAt = none

/-- The row a further attempt leaves, of a delivery that has been attempted `earlier.length` times
before. -/
theorem atStage_settled {settings : WebhookSettings} {w : Webhook} {d₀ d' : WebhookDelivery}
    {earlier : List Attempt} {attempt : Attempt} (hid : d.id = d₀.id)
    (hwebhook : d.webhookId = d₀.webhookId) (hsign : ¬ Unsignable w d)
    (hcount : d.attemptCount = earlier.length) (hlimit : earlier.length ≤ retryLimit settings w)
    (hsame : SameButResponse (beginDispatch attempt.started d) d')
    (hnotTerminal : isTerminal d'.responseStatusCode = false) :
    AtStage settings w d₀ earlier attempt
      (settledFailure settings w d.attemptCount attempt.finished d') := by
  have hversion : d'.signatureVersion = d.signatureVersion := by rw [hsame]; rfl
  have hwebhook' : d'.webhookId = d.webhookId := by rw [hsame]; rfl
  have hcount' : d'.attemptCount = d.attemptCount + 1 := by rw [hsame]; rfl
  have hsign' : ¬ Unsignable w d' := by
    unfold Unsignable at hsign ⊢
    rw [hversion]
    exact hsign
  unfold settledFailure
  rw [hcount]
  cases hdelay : retryDelay settings w earlier.length with
  | some delay =>
    refine ⟨hsame.id.trans hid, hwebhook'.trans hwebhook, hsign', hnotTerminal, ?_, hlimit, ?_, ?_⟩
    · rw [← hcount]
      exact hcount'
    · rintro _ hsome
      rw [hdelay] at hsome
      obtain rfl := Option.some.inj hsome
      exact ⟨rfl, rfl⟩
    · intro hnone
      rw [hdelay] at hnone
      cases hnone
  | none =>
    refine ⟨hsame.id.trans hid, hwebhook'.trans hwebhook, hsign', hnotTerminal, ?_, hlimit, ?_, ?_⟩
    · rw [← hcount]
      exact hcount'
    · rintro _ hsome
      rw [hdelay] at hsome
      cases hsome
    · intro _
      exact ⟨rfl, rfl⟩

/-! ## Calls of `retry_pending_deliveries` -/

structure Poll where
  now : Time
  attempts : UUID → Attempt

def pollOnce (env : WebhookEnv) (s : WebhookStore) (p : Poll) : WebhookStore :=
  (retryPendingDeliveries env p.now p.attempts s).2

def pollAll (env : WebhookEnv) (polls : List Poll) (s : WebhookStore) : WebhookStore :=
  polls.foldl (pollOnce env) s

/-- `P` holds of every poll and the tables it begins with. -/
def Throughout (env : WebhookEnv) (P : WebhookStore → Poll → Prop) :
    List Poll → WebhookStore → Prop
  | [], _ => True
  | p :: polls, s => P s p ∧ Throughout env P polls (pollOnce env s p)

/-- If the poll attempts the delivery, the attempt fails retryably. -/
def FailsRetryably (id : UUID) (s : WebhookStore) (p : Poll) : Prop :=
  id ∈ dueDeliveries p.now s → (p.attempts id).outcome.RetryableFailure

/-- The poll does not end with an exception, and comes no earlier than `next_retry_at`. -/
def Punctual (env : WebhookEnv) (id : UUID) (s : WebhookStore) (p : Poll) : Prop :=
  (retryPendingDeliveries env p.now p.attempts s).1 = .returned ∧
    ∀ d ∈ s.row id, ∀ t ∈ d.nextRetryAt, t ≤ p.now

variable {env : WebhookEnv} {f : FreshDelivery} {earlier : List Attempt} {last : Attempt}
  {s : WebhookStore}

/-- The tables after the attempts `earlier` and `last` of the delivery. -/
structure Polled (env : WebhookEnv) (f : FreshDelivery) (earlier : List Attempt) (last : Attempt)
    (s : WebhookStore) : Prop where
  wellFormed : s.WellFormed
  webhooks : s.webhooks = f.store.webhooks
  row : ∃ d, s.row f.delivery.id = some d ∧
    AtStage env.settings f.webhook f.delivery earlier last d
  timesSent : s.timesSent f.delivery.id = earlier.length + 1

theorem Polled.webhook_eq (h : Polled env f earlier last s)
    (hd : AtStage env.settings f.webhook f.delivery earlier last d) :
    s.webhook d.webhookId = some f.webhook := by
  unfold WebhookStore.webhook
  rw [h.webhooks, hd.webhookId]
  exact f.webhook_eq

theorem polled_first (env : WebhookEnv) (f : FreshDelivery) {first : Attempt}
    (hretry : first.outcome.RetryableFailure) :
    Polled env f [] first (dispatchDelivery env f.delivery.id first f.store).2 := by
  have hcode : isTerminal f.delivery.responseStatusCode = false := by
    rw [f.responseStatusCode]
    rfl
  obtain ⟨d', request, hrequest, hsame, hnotTerminal, hdispatch⟩ :=
    dispatchRow_of_retryable env f.signable hretry hcode
  have hwork : dispatchRow env (f.store.webhook f.delivery.webhookId) first f.delivery =
      { row := settledFailure env.settings f.webhook f.delivery.attemptCount first.finished d'
        output := [request] } := by
    rw [f.webhook_eq]
    exact hdispatch
  have hrow : (dispatchDelivery env f.delivery.id first f.store).2.row f.delivery.id =
      some (dispatchRow env (f.store.webhook f.delivery.webhookId) first f.delivery).row :=
    WebhookStore.row_forEach_singleton (fun d => dispatchRow_id env _ first d) f.row
  rw [hwork] at hrow
  have hsent : (dispatchDelivery env f.delivery.id first f.store).2.sent =
      f.store.sent ++ [request] := by
    show f.store.sent ++ (Batch.forEach WebhookDelivery.id _ [f.delivery.id]
      f.store.deliveries).output = _
    rw [Batch.forEach_singleton f.row, hwork]
  refine ⟨WebhookStore.forEach_wellFormed f.wellFormed _ _, rfl, ⟨_, hrow, ?_⟩, ?_⟩
  · exact atStage_settled rfl rfl f.signable f.attemptCount (Nat.zero_le _) hsame hnotTerminal
  · have hnone : f.store.sent.countP (fun request => decide (request.deliveryId = f.delivery.id)) =
        0 := by
      rw [List.countP_eq_zero]
      intro r hr
      simpa using f.unsent r hr
    unfold WebhookStore.timesSent
    rw [hsent, List.countP_append, hnone]
    simp [hrequest]

theorem Polled.poll (h : Polled env f earlier last s) {p : Poll}
    (hfails : FailsRetryably f.delivery.id s p) :
    (pollOnce env s p).row f.delivery.id = s.row f.delivery.id ∧
        Polled env f earlier last (pollOnce env s p) ∨
      earlier.length < retryLimit env.settings f.webhook ∧
        Polled env f (earlier ++ [last]) (p.attempts f.delivery.id) (pollOnce env s p) := by
  obtain ⟨d, hrow, hd⟩ := h.row
  have hkept : (pollOnce env s p).WellFormed := WebhookStore.forEach_wellFormed h.wellFormed _ _
  have hcount : (pollOnce env s p).timesSent f.delivery.id = s.timesSent f.delivery.id +
      ((Batch.forEach WebhookDelivery.id
        (fun d => dispatchRow env (s.webhook d.webhookId) (p.attempts d.id) d)
        (dueDeliveries p.now s) s.deliveries).output.filter
          fun request => decide (request.deliveryId = f.delivery.id)).length := by
    show List.countP _ (s.sent ++ _) = List.countP _ s.sent + _
    rw [List.countP_append, ← List.countP_eq_length_filter]
  rcases Batch.lookup_forEach_output (ω := Post)
      (fun d => dispatchRow_id env (s.webhook d.webhookId) (p.attempts d.id) d)
      (dueDeliveries_nodup h.wellFormed p.now) (fun d _ hp => dispatchRow_output hp)
      f.delivery.id with ⟨hsame, hnone⟩ | ⟨hdue, d', hd', hmade, houtput⟩
  · left
    refine ⟨hsame, hkept, h.webhooks, ⟨d, hsame.trans hrow, hd⟩, ?_⟩
    rw [hcount, hnone, h.timesSent]
    rfl
  · right
    obtain rfl : d = d' := Option.some.inj (hrow.symm.trans hd')
    have hretrying := retrying_of_due h.wellFormed hdue hrow
    -- a delivery that is retrying has a delay
    have hleft : earlier.length < retryLimit env.settings f.webhook := by
      by_contra hnot
      obtain ⟨hdead, -⟩ := hd.dead (retryDelay_eq_none (by omega))
      rw [hdead] at hretrying
      cases hretrying
    obtain ⟨d', request, hrequest, hsame, hnotTerminal, hdispatch⟩ :=
      dispatchRow_of_retryable env hd.signable (hfails hdue) hd.notTerminal
    rw [h.webhook_eq hd, hd.id, hdispatch] at hmade houtput
    refine ⟨hleft, hkept, h.webhooks, ⟨_, hmade, ?_⟩, ?_⟩
    · refine atStage_settled hd.id hd.webhookId hd.signable ?_ ?_ hsame hnotTerminal
      · rw [hd.attemptCount, List.length_append, List.length_singleton]
      · rw [List.length_append, List.length_singleton]
        omega
    · rw [hcount, houtput, h.timesSent, List.length_append]
      rfl

theorem Polled.punctual (h : Polled env f earlier last s) {p : Poll}
    (hleft : earlier.length < retryLimit env.settings f.webhook)
    (hpunctual : Punctual env f.delivery.id s p) :
    (pollOnce env s p).row f.delivery.id ≠ s.row f.delivery.id := by
  obtain ⟨d, hrow, hd⟩ := h.row
  obtain ⟨base, -, hdelay⟩ := retryDelay_eq_some _ hleft
  obtain ⟨hretrying, hnext⟩ := hd.retrying _ hdelay
  obtain ⟨hreturned, htime⟩ := hpunctual
  have hdue : f.delivery.id ∈ dueDeliveries p.now s := by
    obtain ⟨hmem, hid⟩ := WebhookStore.mem_of_row hrow
    refine List.mem_map.mpr ⟨d, List.mem_filter.mpr ⟨hmem, ?_⟩, hid⟩
    rw [hretrying, hnext]
    simpa using htime d hrow _ hnext
  have hgoes : (Batch.forEach WebhookDelivery.id
      (fun d => dispatchRow env (s.webhook d.webhookId) (p.attempts d.id) d)
      (dueDeliveries p.now s) s.deliveries).goesOn = true := by
    by_contra hstop
    have hraised : (retryPendingDeliveries env p.now p.attempts s).1 = .raised := if_neg hstop
    rw [hraised] at hreturned
    cases hreturned
  have hmade := Batch.lookup_forEach_of_goesOn
    (fun d => dispatchRow_id env (s.webhook d.webhookId) (p.attempts d.id) d)
    (dueDeliveries_nodup h.wellFormed p.now) hgoes hdue hrow
  intro hsame
  have hcounted := dispatchRow_attemptCount env (s.webhook d.webhookId) (p.attempts d.id) d
  -- the row afterwards has one attempt more
  have hrows : some (dispatchRow env (s.webhook d.webhookId) (p.attempts d.id) d).row = some d :=
    hmade.symm.trans (hsame.trans hrow)
  rw [Option.some.inj hrows] at hcounted
  omega

theorem Polled.run (h : Polled env f earlier last s) (polls : List Poll)
    (hfails : Throughout env (FailsRetryably f.delivery.id) polls s) :
    ∃ earlier' last', Polled env f earlier' last' (pollAll env polls s) ∧
      (earlier' ++ [last']).Sublist
        (earlier ++ [last] ++ polls.map fun p => p.attempts f.delivery.id) ∧
      (Throughout env (Punctual env f.delivery.id) polls s →
        earlier'.length =
          min (retryLimit env.settings f.webhook) (earlier.length + polls.length)) := by
  induction polls generalizing earlier last s with
  | nil =>
    obtain ⟨d, -, hd⟩ := h.row
    refine ⟨earlier, last, h, ?_, ?_⟩
    · rw [List.map_nil, List.append_nil]
    · intro _
      have hretried := hd.retried
      rw [List.length_nil]
      omega
  | cons p polls ih =>
    obtain ⟨hfirst, hrest⟩ := hfails
    rcases h.poll hfirst with ⟨hsame, hpolled⟩ | ⟨hleft, hpolled⟩
    · obtain ⟨earlier', last', hrun, hsublist, hlength⟩ := ih hpolled hrest
      refine ⟨earlier', last', hrun, ?_, ?_⟩
      · exact hsublist.trans (List.Sublist.append_left (List.sublist_cons_self _ _) _)
      · rintro ⟨hpunctual, hothers⟩
        have hspent : retryLimit env.settings f.webhook ≤ earlier.length := by
          by_contra hnot
          exact h.punctual (by omega) hpunctual hsame
        rw [hlength hothers, List.length_cons]
        omega
    · obtain ⟨earlier', last', hrun, hsublist, hlength⟩ := ih hpolled hrest
      refine ⟨earlier', last', hrun, ?_, ?_⟩
      · rwa [List.append_assoc (earlier ++ [last])] at hsublist
      · rintro ⟨-, hothers⟩
        rw [hlength hothers, List.length_cons, List.length_append, List.length_singleton]
        omega

/-! ## The bound -/

/-- `min(n, len(d)) + 1`. -/
def attemptBound (settings : WebhookSettings) (webhook : Webhook) : Nat :=
  min webhook.maxRetries.toNat settings.retryBaseDelays.length + 1

/-- The delivery after its first attempt and some polls: it has been attempted no more than
`attemptBound` times, it is dead-lettered with the last of these attempts and waits for the next one
before, and punctual polls lose no attempt. -/
def KeepsAttemptBound (env : WebhookEnv) (f : FreshDelivery) (first : Attempt)
    (polls : List Poll) : Prop :=
  let s := (dispatchDelivery env f.delivery.id first f.store).2
  let s' := pollAll env polls s
  let bound := attemptBound env.settings f.webhook
  ∃ earlier last d,
    (earlier ++ [last]).Sublist (first :: polls.map fun p => p.attempts f.delivery.id) ∧
    s'.row f.delivery.id = some d ∧
    d.attemptCount = earlier.length + 1 ∧
    s'.timesSent f.delivery.id = earlier.length + 1 ∧
    earlier.length + 1 ≤ bound ∧
    (earlier.length + 1 = bound → d.status = .deadLetter ∧ d.nextRetryAt = none) ∧
    (earlier.length + 1 < bound → d.status = .retrying ∧
      ∃ base, env.settings.retryBaseDelays[earlier.length]? = some base ∧
        d.nextRetryAt = some (last.finished +
          min (base * 2 ^ earlier.length) env.settings.retryMaxDelaySeconds * 1000000)) ∧
    (Throughout env (Punctual env f.delivery.id) polls s →
      earlier.length + 1 = min bound (polls.length + 1))

/-- The bound is kept whatever the receivers do, as long as the delivery fails retryably. -/
def AttemptsBounded (env : WebhookEnv) (f : FreshDelivery) : Prop :=
  ∀ first polls, first.outcome.RetryableFailure →
    Throughout env (FailsRetryably f.delivery.id) polls
      (dispatchDelivery env f.delivery.id first f.store).2 →
    KeepsAttemptBound env f first polls

theorem attemptBound_eq (env : WebhookEnv) (f : FreshDelivery)
    (h : f.webhook.maxRetries ≠ 0 ∨ env.settings.retryBaseDelays = []) :
    attemptBound env.settings f.webhook = retryLimit env.settings f.webhook + 1 := by
  unfold attemptBound retryLimit
  rcases h with hne | hempty
  · rw [if_neg hne]
  · rw [hempty]
    simp

theorem keepsAttemptBound (env : WebhookEnv) (f : FreshDelivery)
    (h : f.webhook.maxRetries ≠ 0 ∨ env.settings.retryBaseDelays = []) {first : Attempt}
    (hfirst : first.outcome.RetryableFailure) {polls : List Poll}
    (hfails : Throughout env (FailsRetryably f.delivery.id) polls
      (dispatchDelivery env f.delivery.id first f.store).2) :
    KeepsAttemptBound env f first polls := by
  have hbound := attemptBound_eq env f h
  obtain ⟨earlier, last, hrun, hsublist, hlength⟩ := (polled_first env f hfirst).run polls hfails
  obtain ⟨d, hrow, hd⟩ := hrun.row
  have hretried := hd.retried
  refine ⟨earlier, last, d, hsublist, hrow, hd.attemptCount, hrun.timesSent, by omega, ?_, ?_, ?_⟩
  · intro heq
    exact hd.dead (retryDelay_eq_none (by omega))
  · intro hlt
    obtain ⟨base, hbase, hdelay⟩ := retryDelay_eq_some env.settings
      (show earlier.length < retryLimit env.settings f.webhook by omega)
    obtain ⟨hretrying, hnext⟩ := hd.retrying _ hdelay
    exact ⟨hretrying, base, hbase, hnext⟩
  · intro hpunctual
    have hcount := hlength hpunctual
    rw [List.length_nil] at hcount
    omega

theorem zero_retries_retried (env : WebhookEnv) (f : FreshDelivery)
    (hzero : f.webhook.maxRetries = 0) (hdelays : env.settings.retryBaseDelays ≠ [])
    {first : Attempt} (hfirst : first.outcome.RetryableFailure) :
    ¬ KeepsAttemptBound env f first [] := by
  rintro ⟨earlier, last, d, -, hrow, -, hsent, hbound, hdead, -⟩
  have hpolled := polled_first env f hfirst
  obtain ⟨d', hrow', hd'⟩ := hpolled.row
  obtain rfl : d = d' := Option.some.inj (hrow.symm.trans hrow')
  have hone : attemptBound env.settings f.webhook = 1 := by
    unfold attemptBound
    rw [hzero]
    simp
  have hlimit : 0 < retryLimit env.settings f.webhook := by
    have hpositive := List.length_pos_iff.mpr hdelays
    unfold retryLimit
    rw [if_pos hzero]
    omega
  obtain ⟨base, -, hdelay⟩ := retryDelay_eq_some _ hlimit
  obtain ⟨hretrying, -⟩ := hd'.retrying _ hdelay
  obtain ⟨hdeadLetter, -⟩ := hdead (by omega)
  rw [hretrying] at hdeadLetter
  cases hdeadLetter

/-- **`webhook.max_retries or 3`**: the delivery is attempted `min(n, len(d)) + 1` times and waits
its delays, unless `n` is 0 and there are delays. -/
theorem attempt_bound_iff (env : WebhookEnv) (f : FreshDelivery) :
    AttemptsBounded env f ↔
      f.webhook.maxRetries ≠ 0 ∨ env.settings.retryBaseDelays = [] := by
  constructor
  · intro h
    by_contra hnot
    rw [not_or, not_not] at hnot
    have hfirst : (⟨0, .timeout .empty, 0⟩ : Attempt).outcome.RetryableFailure := trivial
    exact zero_retries_retried env f hnot.1 hnot.2 hfirst (h _ [] hfirst trivial)
  · intro h first polls hfirst hfails
    exact keepsAttemptBound env f h hfirst hfails

def withoutRetries : FreshDelivery where
  store :=
    { webhooks := [{ id := 1, url := "https://receiver.example/hook",
                     events := ["sla.violation"], maxRetries := 0 }]
      deliveries := [{ id := 7, webhookId := 1, event := .slaViolation, payload := "\x7b\x7d",
                       idempotencyKey := "key", eventTimestamp := 5, createdAt := 6,
                       updatedAt := 6 }] }
  webhook :=
    { id := 1, url := "https://receiver.example/hook", events := ["sla.violation"],
      maxRetries := 0 }
  delivery :=
    { id := 7, webhookId := 1, event := .slaViolation, payload := "\x7b\x7d",
      idempotencyKey := "key", eventTimestamp := 5, createdAt := 6, updatedAt := 6 }
  wellFormed := List.nodup_singleton _
  row := rfl
  webhook_eq := rfl
  maxRetries_nonneg := Int.le_refl 0
  signable := by decide
  attemptCount := rfl
  responseStatusCode := rfl
  unsent := nofun

/-- The delivery of a webhook without retries is answered with a 503, and retried after 30 seconds. -/
theorem delivery_retried_without_retries :
    ¬ ∀ (env : WebhookEnv) (f : FreshDelivery), AttemptsBounded env f := by
  intro hall
  have hfirst : (answered 503).outcome.RetryableFailure := by decide
  exact zero_retries_retried unsignedEnv withoutRetries rfl (List.cons_ne_nil _ _) hfirst
    (hall unsignedEnv withoutRetries _ [] hfirst trivial)

end NocIq
