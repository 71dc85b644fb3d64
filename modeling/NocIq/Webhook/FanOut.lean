import NocIq.Webhook.Payload
import NocIq.Webhook.Processes

/-!
# NocIq — what a call creates

`trigger_sla_violation_webhooks` goes through the webhooks one after another, and nothing in its loop
catches an exception: the webhooks after a failing one get no delivery. `resolve_outage` and
`recompute_sla` pass a payment with datetimes, so `json.dumps` raises at the first webhook that is
due, unless the redaction masks them. Before the loop stands the query of the subscriptions, with
`@>` on the column `events`: as the model and the migration declare it, a TEXT column, the query is
refused, and the call creates nothing.

* **`fanOut_refused`** — a call whose query is refused.
* **`deliverTo_returned`** — what one webhook adds to the deliveries.
* **`deliverToEach_returned_iff`** — when no exception leaves the loop, and what it adds then.
* **`fanOutComplete_iff`** — hence the calls that give each due webhook its delivery.
-/

namespace NocIq

variable {env : WebhookEnv} {s s' : WebhookStore} {c : TriggerCall} {id : UUID}
  {d d' : WebhookDelivery}

/-! ## The webhooks of a call -/

def subscribedWebhooks (event : WebhookEvent) (s : WebhookStore) : List Webhook :=
  s.webhooks.filter fun w => w.isActive && decide (event.value ∈ w.events)

namespace TriggerCall

variable (env : WebhookEnv) (c : TriggerCall)

/-- The URL passes, and the partition is not held back. -/
def accepts (webhook : Webhook) : Bool :=
  decide ((c.fanOut webhook.id).url = .valid) && !c.throttled env webhook

def dueWebhooks (s : WebhookStore) : List Webhook :=
  (subscribedWebhooks c.event s).filter (c.accepts env)

/-- What identifies the delivery for a webhook, given that there is a payload. -/
def identityFor (webhook : Webhook) : DeliveryIdentity :=
  (c.newDelivery env webhook ((c.payload env).getD "")).identity

/-- No exception leaves the work on the webhooks, given that there is a payload. -/
structure Undisturbed (s : WebhookStore) (webhooks : List Webhook) : Prop where
  resolved : ∀ w ∈ webhooks, (c.fanOut w.id).url ≠ .raises
  free : ∀ w ∈ webhooks.filter (c.accepts env), ∀ x ∈ s.identities,
    x.id ≠ (c.identityFor env w).id ∧ x.idempotencyKey ≠ (c.identityFor env w).idempotencyKey
  distinct : (webhooks.filter (c.accepts env)).Pairwise fun w w' =>
    (c.identityFor env w).id ≠ (c.identityFor env w').id ∧
      (c.identityFor env w).idempotencyKey ≠ (c.identityFor env w').idempotencyKey
  answered : ∀ w ∈ webhooks.filter (c.accepts env), ∀ payload ∈ c.payload env,
    ¬ Raises (s.webhook w.id) (c.fanOut w.id).attempt (c.newDelivery env w payload)

end TriggerCall

variable {w : Webhook}

theorem accepts_iff :
    c.accepts env w = true ↔ (c.fanOut w.id).url = .valid ∧ c.throttled env w = false := by
  unfold TriggerCall.accepts
  rw [Bool.and_eq_true, decide_eq_true_eq, Bool.not_eq_true']

theorem identityFor_eq {payload : String} (h : c.payload env = some payload) (w : Webhook) :
    c.identityFor env w = (c.newDelivery env w payload).identity := by
  unfold TriggerCall.identityFor
  rw [h]
  rfl

/-! ## One webhook -/

theorem identities_dispatch (env : WebhookEnv) (hwf : s.WellFormed) (id : UUID)
    (attempt : Attempt) : (dispatchDelivery env id attempt s).2.identities = s.identities := by
  unfold dispatchDelivery
  cases hd : s.row id with
  | none => rw [WebhookStore.forEach_absent hd]
  | some d =>
    rw [WebhookStore.forEach_singleton hd]
    refine identities_put _ hwf hd ?_
    exact (identity_dispatchRow env _ attempt d).identity_eq (dispatchRow_id env _ attempt d)

theorem dispatch_returned_iff (env : WebhookEnv) (hd : s.row id = some d) (attempt : Attempt) :
    (dispatchDelivery env id attempt s).1 = .returned ↔
      ¬ Raises (s.webhook d.webhookId) attempt d := by
  unfold dispatchDelivery
  rw [WebhookStore.forEach_singleton hd, ← dispatchRow_goesOn env]
  cases (dispatchRow env (s.webhook d.webhookId) attempt d).goesOn <;> simp

theorem deliverTo_skipped (h : c.accepts env w = false) :
    c.deliverTo env w s =
      (if (c.fanOut w.id).url = .raises then .raised else .returned, s) := by
  unfold TriggerCall.accepts at h
  unfold TriggerCall.deliverTo
  cases hurl : (c.fanOut w.id).url with
  | raises => simp [hurl]
  | invalid => simp [hurl]
  | valid =>
    rw [hurl] at h
    have hthrottled : c.throttled env w = true := by simpa using h
    simp [hurl, hthrottled]

theorem row_insert (hfree : TriggerCall.conflicts d s = false) :
    ({ s with deliveries := s.deliveries ++ [d] } : WebhookStore).row d.id = some d := by
  show (s.deliveries ++ [d]).find? _ = some d
  rw [List.find?_append]
  have hnone : s.deliveries.find? (fun r => decide (r.id = d.id)) = none := by
    rw [List.find?_eq_none]
    intro r hr
    simpa using (ne_of_not_conflicts hfree hr).1
  rw [hnone]
  simp

theorem deliverTo_accepted {payload : String} (h : c.accepts env w = true)
    (hpayload : c.payload env = some payload) :
    c.deliverTo env w s =
      let d := c.newDelivery env w payload
      if TriggerCall.conflicts d s then (.raised, s)
      else dispatchDelivery env d.id (c.fanOut w.id).attempt
        { s with deliveries := s.deliveries ++ [d] } := by
  obtain ⟨hurl, hthrottled⟩ := accepts_iff.mp h
  unfold TriggerCall.deliverTo
  simp only [hurl, hthrottled, hpayload, dispatchNew_eq]
  rfl

theorem conflicts_eq_false_iff (d : WebhookDelivery) (s : WebhookStore) :
    TriggerCall.conflicts d s = false ↔
      ∀ x ∈ s.identities, x.id ≠ d.id ∧ x.idempotencyKey ≠ d.idempotencyKey := by
  unfold WebhookStore.identities
  rw [List.forall_mem_map]
  constructor
  · intro hfree r hr
    exact ne_of_not_conflicts hfree hr
  · intro hne
    unfold TriggerCall.conflicts
    rw [List.any_eq_false]
    intro r hr hsame
    rcases of_decide_eq_true hsame with hid | hkey
    · exact (hne r hr).1 hid
    · exact (hne r hr).2 hkey

/-- The work on an accepted webhook returns exactly if there is a payload, its delivery is new and
its attempt does not raise. -/
theorem deliverTo_returned_iff (h : c.accepts env w = true) :
    (c.deliverTo env w s).1 = .returned ↔
      (c.payload env).isSome = true ∧
        (∀ x ∈ s.identities, x.id ≠ (c.identityFor env w).id ∧
          x.idempotencyKey ≠ (c.identityFor env w).idempotencyKey) ∧
        ∀ payload ∈ c.payload env,
          ¬ Raises (s.webhook w.id) (c.fanOut w.id).attempt (c.newDelivery env w payload) := by
  cases hpayload : c.payload env with
  | none =>
    refine iff_of_false ?_ fun hall => absurd hall.1 nofun
    obtain ⟨hurl, hthrottled⟩ := accepts_iff.mp h
    simp [TriggerCall.deliverTo, hurl, hthrottled, hpayload]
  | some payload =>
    have hfree := conflicts_eq_false_iff (c.newDelivery env w payload) s
    have hidentity := identityFor_eq hpayload w
    rw [deliverTo_accepted h hpayload, hidentity]
    dsimp only
    cases hconflicts : TriggerCall.conflicts (c.newDelivery env w payload) s with
    | true =>
      refine iff_of_false nofun ?_
      rintro ⟨-, hnew, -⟩
      rw [hfree.mpr hnew] at hconflicts
      cases hconflicts
    | false =>
      rw [if_neg Bool.false_ne_true, dispatch_returned_iff env (row_insert hconflicts)]
      constructor
      · intro hraises
        refine ⟨rfl, hfree.mp hconflicts, ?_⟩
        intro payload' hpayload'
        rw [← Option.some.inj hpayload']
        exact hraises
      · rintro ⟨-, -, hraises⟩
        exact hraises payload rfl

/-- **What one webhook adds**: its delivery if it is accepted, and nothing else. -/
theorem deliverTo_returned (env : WebhookEnv) (c : TriggerCall) (hwf : s.WellFormed) (w : Webhook)
    (h : (c.deliverTo env w s).1 = .returned) :
    (c.deliverTo env w s).2.webhooks = s.webhooks ∧
      (c.deliverTo env w s).2.identities =
        s.identities ++ ([w].filter (c.accepts env)).map (c.identityFor env) := by
  cases haccepts : c.accepts env w with
  | false =>
    rw [deliverTo_skipped haccepts]
    simp [haccepts]
  | true =>
    obtain ⟨hsome, hfree, -⟩ := (deliverTo_returned_iff haccepts).mp h
    obtain ⟨payload, hpayload⟩ := Option.isSome_iff_exists.mp hsome
    have hidentity := identityFor_eq hpayload w
    rw [hidentity] at hfree
    have hconflicts := (conflicts_eq_false_iff (c.newDelivery env w payload) s).mpr hfree
    rw [deliverTo_accepted haccepts hpayload]
    dsimp only
    rw [hconflicts, if_neg Bool.false_ne_true]
    refine ⟨rfl, ?_⟩
    rw [identities_dispatch env (insert_wellFormed hwf hconflicts)]
    simp [WebhookStore.identities, haccepts, hidentity]

/-! ## The loop -/

theorem TriggerCall.Undisturbed.sublist {webhooks webhooks' : List Webhook}
    (h : c.Undisturbed env s webhooks') (hsub : webhooks.Sublist webhooks') :
    c.Undisturbed env s webhooks := by
  have haccepted := hsub.filter (c.accepts env)
  constructor
  · exact fun w hw => h.resolved w (hsub.subset hw)
  · exact fun w hw => h.free w (haccepted.subset hw)
  · exact h.distinct.sublist haccepted
  · exact fun w hw => h.answered w (haccepted.subset hw)

theorem undisturbed_cons {webhooks : List Webhook} (hwebhooks : s'.webhooks = s.webhooks)
    (hidentities : s'.identities =
      s.identities ++ ([w].filter (c.accepts env)).map (c.identityFor env))
    :
    c.Undisturbed env s (w :: webhooks) ↔
      c.Undisturbed env s [w] ∧ c.Undisturbed env s' webhooks := by
  have hstored : ∀ id, s'.webhook id = s.webhook id := by
    intro id
    unfold WebhookStore.webhook
    rw [hwebhooks]
  have hsplit : (w :: webhooks).filter (c.accepts env) =
      [w].filter (c.accepts env) ++ webhooks.filter (c.accepts env) :=
    List.filter_append [w] webhooks
  constructor
  · intro h
    have hfree := h.free
    have hdistinct := h.distinct
    have hanswered := h.answered
    rw [hsplit] at hfree hdistinct hanswered
    rw [List.pairwise_append] at hdistinct
    obtain ⟨-, hrest, hcross⟩ := hdistinct
    constructor
    · exact h.sublist (List.cons_sublist_cons.mpr (List.nil_sublist _))
    · refine ⟨fun v hv => h.resolved v (List.mem_cons_of_mem w hv), ?_, hrest, ?_⟩
      · intro v hv x hx
        rw [hidentities] at hx
        -- what is there by now is what was there, or the first webhook's own delivery
        rcases List.mem_append.mp hx with hold | hnew
        · exact hfree v (List.mem_append_right _ hv) x hold
        · obtain ⟨u, hu, rfl⟩ := List.mem_map.mp hnew
          exact hcross u hu v hv
      · intro v hv
        rw [hstored]
        exact hanswered v (List.mem_append_right _ hv)
  · rintro ⟨hfirst, hrest⟩
    refine ⟨?_, ?_, ?_, ?_⟩
    · intro v hv
      rcases List.mem_cons.mp hv with rfl | hv
      · exact hfirst.resolved v List.mem_cons_self
      · exact hrest.resolved v hv
    · rw [hsplit]
      intro v hv x hx
      rcases List.mem_append.mp hv with hv | hv
      · exact hfirst.free v hv x hx
      · refine hrest.free v hv x ?_
        rw [hidentities]
        exact List.mem_append_left _ hx
    · rw [hsplit, List.pairwise_append]
      refine ⟨hfirst.distinct, hrest.distinct, ?_⟩
      intro u hu v hv
      refine hrest.free v hv _ ?_
      rw [hidentities]
      exact List.mem_append_right _ (List.mem_map_of_mem hu)
    · rw [hsplit]
      intro v hv
      rcases List.mem_append.mp hv with hv | hv
      · exact hfirst.answered v hv
      · rw [← hstored]
        exact hrest.answered v hv

theorem undisturbed_singleton_iff (env : WebhookEnv) (c : TriggerCall) (s : WebhookStore)
    (w : Webhook) :
    (([w].filter (c.accepts env) ≠ [] → (c.payload env).isSome = true) ∧
        c.Undisturbed env s [w]) ↔
      (c.deliverTo env w s).1 = .returned := by
  cases haccepts : c.accepts env w with
  | false =>
    -- a webhook that is passed over: only the check of its URL can raise
    have hnone : [w].filter (c.accepts env) = [] := by simp [haccepts]
    rw [deliverTo_skipped haccepts, hnone]
    constructor
    · rintro ⟨-, h⟩
      exact if_neg (h.resolved w List.mem_cons_self)
    · intro h
      have hurl : (c.fanOut w.id).url ≠ .raises := by
        intro hurl
        rw [if_pos hurl] at h
        cases h
      refine ⟨fun hne => absurd rfl hne, ?_⟩
      constructor
      · intro v hv
        rw [List.mem_singleton.mp hv]
        exact hurl
      · rw [hnone]
        exact fun _ hv => absurd hv List.not_mem_nil
      · rw [hnone]
        exact .nil
      · rw [hnone]
        exact fun _ hv => absurd hv List.not_mem_nil
  | true =>
    have hone : [w].filter (c.accepts env) = [w] := by simp [haccepts]
    have hw : w ∈ [w].filter (c.accepts env) := by
      rw [hone]
      exact List.mem_cons_self
    rw [deliverTo_returned_iff haccepts]
    constructor
    · rintro ⟨hpayload, h⟩
      exact ⟨hpayload (List.ne_nil_of_mem hw), h.free w hw, h.answered w hw⟩
    · rintro ⟨hpayload, hfree, hanswered⟩
      refine ⟨fun _ => hpayload, ?_⟩
      constructor
      · intro v hv
        rw [List.mem_singleton.mp hv, (accepts_iff.mp haccepts).1]
        exact nofun
      · rw [hone]
        intro v hv
        rw [List.mem_singleton.mp hv]
        exact hfree
      · rw [hone]
        exact List.pairwise_singleton _ _
      · rw [hone]
        intro v hv
        rw [List.mem_singleton.mp hv]
        exact hanswered

/-- **The loop over the webhooks** returns exactly if nothing disturbs it. Induction on them. -/
theorem deliverToEach_returned_iff (env : WebhookEnv) (c : TriggerCall) (hwf : s.WellFormed)
    (webhooks : List Webhook) :
    (c.deliverToEach env webhooks s).1 = .returned ↔
      (webhooks.filter (c.accepts env) ≠ [] → (c.payload env).isSome = true) ∧
        c.Undisturbed env s webhooks := by
  induction webhooks generalizing s with
  | nil =>
    refine iff_of_true rfl ⟨fun hne => absurd rfl hne, ?_⟩
    exact ⟨nofun, nofun, .nil, nofun⟩
  | cons w webhooks ih =>
    have hfirst := undisturbed_singleton_iff env c s w
    have hadds := deliverTo_returned env c hwf w
    have hwf' := deliverTo_wellFormed env hwf c w
    have hsplit : (w :: webhooks).filter (c.accepts env) =
        [w].filter (c.accepts env) ++ webhooks.filter (c.accepts env) :=
      List.filter_append [w] webhooks
    unfold TriggerCall.deliverToEach
    generalize c.deliverTo env w s = outcome at hfirst hadds hwf' ⊢
    obtain ⟨_ | _, s'⟩ := outcome
    · obtain ⟨hwebhooks, hidentities⟩ := hadds rfl
      obtain ⟨hpayload, hone⟩ := hfirst.mpr rfl
      dsimp only
      rw [ih hwf', undisturbed_cons hwebhooks hidentities, hsplit, and_iff_right hone]
      refine and_congr_left' ?_
      constructor
      · intro hrest hne
        by_cases hnone : [w].filter (c.accepts env) = []
        · rw [hnone, List.nil_append] at hne
          exact hrest hne
        · exact hpayload hnone
      · intro hall hne
        exact hall (List.append_ne_nil_of_right_ne_nil _ hne)
    · have hnot : ¬ (Completion.raised = Completion.returned) := fun h => by cases h
      refine iff_of_false hnot ?_
      rintro ⟨hpayload, h⟩
      refine hnot (hfirst.mp ⟨?_, ?_⟩)
      · intro hne
        rw [hsplit] at hpayload
        exact hpayload (List.append_ne_nil_of_left_ne_nil hne _)
      · exact h.sublist (List.cons_sublist_cons.mpr (List.nil_sublist _))

theorem deliverToEach_identities (env : WebhookEnv) (c : TriggerCall) (hwf : s.WellFormed)
    (webhooks : List Webhook)
    (h : (c.deliverToEach env webhooks s).1 = .returned) :
    (c.deliverToEach env webhooks s).2.identities =
      s.identities ++ (webhooks.filter (c.accepts env)).map (c.identityFor env) := by
  induction webhooks generalizing s with
  | nil => exact (List.append_nil _).symm
  | cons w webhooks ih =>
    have hadds := deliverTo_returned env c hwf w
    have hwf' := deliverTo_wellFormed env hwf c w
    have hsplit : (w :: webhooks).filter (c.accepts env) =
        [w].filter (c.accepts env) ++ webhooks.filter (c.accepts env) :=
      List.filter_append [w] webhooks
    unfold TriggerCall.deliverToEach at h ⊢
    generalize c.deliverTo env w s = outcome at h hadds hwf' ⊢
    obtain ⟨_ | _, s'⟩ := outcome
    · obtain ⟨-, hidentities⟩ := hadds rfl
      dsimp only at h ⊢
      rw [ih hwf' h, hidentities, hsplit, List.map_append, List.append_assoc]
    · cases h

/-! ## Calls that serve every webhook -/

def WebhookDelivery.addressed (d : WebhookDelivery) : UUID × UUID × WebhookEvent :=
  (d.id, d.webhookId, d.event)

/-- The call returns, and has created one delivery for each due webhook, in their order. -/
structure FanOutComplete (env : WebhookEnv) (c : TriggerCall) (s : WebhookStore) : Prop where
  returned : (triggerSlaViolationWebhooks env c s).1 = .returned
  created : (triggerSlaViolationWebhooks env c s).2.deliveries.map WebhookDelivery.addressed =
    s.deliveries.map WebhookDelivery.addressed ++
      (c.dueWebhooks env s).map fun w => ((c.fanOut w.id).deliveryId, w.id, c.event)

/-- The database evaluates the query, the cache hides no due webhook, the redaction masks the
datetimes of the payment if there is one, and nothing disturbs the work on the webhooks. -/
structure FanOutServed (env : WebhookEnv) (r : RedactionSettings) (payment : PaymentTransaction)
    (c : TriggerCall) (s : WebhookStore) : Prop where
  queried : env.containmentOnText = true
  cached : ∀ w ∈ c.dueWebhooks env s, c.event.value ∈ (c.cachedEvents w.id).getD w.events
  masked : c.dueWebhooks env s ≠ [] → Masked r payment
  undisturbed : c.Undisturbed env s (c.webhooks env s)

/-- **On a TEXT column** without the operator, every call raises before its loop. -/
theorem fanOut_refused (hrefused : env.containmentOnText = false) (c : TriggerCall)
    (s : WebhookStore) : triggerSlaViolationWebhooks env c s = (.raised, s) := by
  unfold triggerSlaViolationWebhooks getActiveWebhooksForEvent queryWebhooks
  rw [hrefused]
  rfl

theorem fanOut_queried (hqueried : env.containmentOnText = true) (c : TriggerCall)
    (s : WebhookStore) :
    triggerSlaViolationWebhooks env c s = c.deliverToEach env (c.webhooks env s) s := by
  unfold triggerSlaViolationWebhooks TriggerCall.webhooks getActiveWebhooksForEvent queryWebhooks
  rw [hqueried]
  rfl

theorem filter_accepts_webhooks (hqueried : env.containmentOnText = true) (c : TriggerCall)
    (s : WebhookStore) :
    (c.webhooks env s).filter (c.accepts env) =
      (c.dueWebhooks env s).filter fun w =>
        decide (c.event.value ∈ (c.cachedEvents w.id).getD w.events) := by
  unfold TriggerCall.webhooks getActiveWebhooksForEvent queryWebhooks
  rw [hqueried]
  exact List.filter_comm _ _ _

theorem addressed_eq (deliveries : List WebhookDelivery) :
    deliveries.map WebhookDelivery.addressed =
      (deliveries.map WebhookDelivery.identity).map fun x => (x.id, x.webhookId, x.event) := by
  rw [List.map_map]
  rfl

theorem fanOutComplete_iff_of_queried (hwf : s.WellFormed) {r : RedactionSettings}
    {t : Json.FloatText} {outageId : String} {sla : SLAResult} {payment : PaymentTransaction}
    (hdata : c.data = (redactPayload r (slaData outageId sla payment)).dumps t)
    (hqueried : env.containmentOnText = true) :
    FanOutComplete env c s ↔ FanOutServed env r payment c s := by
  have hpayload : (c.payload env).isSome = true ↔ Masked r payment := by
    unfold TriggerCall.payload
    rw [Option.isSome_map, hdata, PyValue.dumps, Option.isSome_map]
    exact toJson_slaData_isSome_iff r outageId sla payment
  have hcall := fanOut_queried hqueried c s
  have hloop := deliverToEach_returned_iff env c hwf (c.webhooks env s)
  rw [filter_accepts_webhooks hqueried, hpayload, ← hcall] at hloop
  have hadds := deliverToEach_identities env c hwf (c.webhooks env s)
  rw [filter_accepts_webhooks hqueried, ← hcall] at hadds
  have haddressed : ∀ webhooks : List Webhook,
      ((webhooks.map (c.identityFor env)).map fun x => (x.id, x.webhookId, x.event)) =
        webhooks.map fun w => ((c.fanOut w.id).deliveryId, w.id, c.event) := by
    intro webhooks
    rw [List.map_map]
    rfl
  constructor
  · rintro ⟨hreturned, hcreated⟩
    obtain ⟨hmasked, hundisturbed⟩ := hloop.mp hreturned
    have hrows := hadds hreturned
    rw [addressed_eq, addressed_eq] at hcreated
    change ((triggerSlaViolationWebhooks env c s).2.identities.map _) = _ at hcreated
    rw [hrows, List.map_append, haddressed] at hcreated
    -- as many webhooks as are due have been served
    have hlength := congrArg List.length (List.append_cancel_left hcreated)
    rw [List.length_map, List.length_map] at hlength
    have hall := List.length_filter_eq_length_iff.mp hlength
    have hcached : ∀ w ∈ c.dueWebhooks env s,
        c.event.value ∈ (c.cachedEvents w.id).getD w.events :=
      fun w hw => of_decide_eq_true (hall w hw)
    rw [List.filter_eq_self.mpr hall] at hmasked
    exact ⟨hqueried, hcached, hmasked, hundisturbed⟩
  · rintro ⟨-, hcached, hmasked, hundisturbed⟩
    have hall : (c.dueWebhooks env s).filter (fun w =>
        decide (c.event.value ∈ (c.cachedEvents w.id).getD w.events)) = c.dueWebhooks env s := by
      rw [List.filter_eq_self]
      exact fun w hw => decide_eq_true (hcached w hw)
    rw [hall] at hloop hadds
    have hreturned := hloop.mpr ⟨hmasked, hundisturbed⟩
    refine ⟨hreturned, ?_⟩
    have hrows := hadds hreturned
    rw [addressed_eq, addressed_eq]
    change (triggerSlaViolationWebhooks env c s).2.identities.map _ = _
    rw [hrows, List.map_append, haddressed]
    rfl

/-- **A call with the data of `resolve_outage` or `recompute_sla`** gives each due webhook its
delivery exactly if the database, the cache, the redaction and the answers let it. -/
theorem fanOutComplete_iff (hwf : s.WellFormed) {r : RedactionSettings} {t : Json.FloatText}
    {outageId : String} {sla : SLAResult} {payment : PaymentTransaction}
    (hdata : c.data = (redactPayload r (slaData outageId sla payment)).dumps t) :
    FanOutComplete env c s ↔ FanOutServed env r payment c s := by
  cases hqueried : env.containmentOnText with
  | true => exact fanOutComplete_iff_of_queried hwf hdata hqueried
  | false =>
    refine iff_of_false ?_ ?_
    · intro hcomplete
      have hreturned := hcomplete.returned
      rw [fanOut_refused hqueried] at hreturned
      cases hreturned
    · intro hserved
      have hanswer := hserved.queried
      rw [hqueried] at hanswer
      cases hanswer

/-! ### The payment of a violation -/

def violatedSla : SLAResult :=
  { SLACalculator.violatedResult ⟨30, 50, 750⟩ "outage-1" 45 "1.0" "config" with id := some 1 }

def penalty : PaymentTransaction :=
  PaymentRepository.paymentFor {} "0123456789abcdef" 0 "outage-1" violatedSla 1

def penaltyFloats : Json.FloatText where
  repr q := if q = 750 then "750.0" else "0.0"
  parse text := some (if text = "750.0" then 750 else 0)

/-- The call for the penalty, with the data that has a text: the name of the second host does not
resolve, and every receiver answers 200. -/
def penaltyCall (data : Option String) : TriggerCall where
  event := .slaViolation
  eventTimestamp := 5
  payloadTimestamp := 5
  data
  cachedEvents _ := none
  fanOut id :=
    { deliveryId := id + 10
      url := if id = 2 then .invalid else .valid
      backpressured := false
      createdAt := 6
      attempt := answered 200 }

def penaltyData (r : RedactionSettings) : Option String :=
  (redactPayload r (slaData "outage-1" violatedSla penalty)).dumps penaltyFloats

theorem penaltyData_isSome_iff (r : RedactionSettings) :
    (penaltyData r).isSome = true ↔ Masked r penalty := by
  unfold penaltyData PyValue.dumps
  rw [Option.isSome_map]
  exact toJson_slaData_isSome_iff r "outage-1" violatedSla penalty

/-- The environment with the column as it is declared: no database has the operator for it. -/
def declaredEnv : WebhookEnv := { unsignedEnv with containmentOnText := false }

/-- One webhook is due, and the call raises: on the TEXT column in the query, whatever the settings
mask; and where a database evaluates the query at the payload, as the default settings mask no
datetime. -/
theorem datetime_ends_fanOut :
    (¬ ∀ (s : WebhookStore) (r : RedactionSettings) (c : TriggerCall) (t : Json.FloatText)
        (outageId : String) (sla : SLAResult) (payment : PaymentTransaction),
      s.WellFormed → c.data = (redactPayload r (slaData outageId sla payment)).dumps t →
        FanOutComplete declaredEnv c s) ∧
      ¬ ∀ (s : WebhookStore) (r : RedactionSettings) (c : TriggerCall) (t : Json.FloatText)
          (outageId : String) (sla : SLAResult) (payment : PaymentTransaction),
        s.WellFormed → c.data = (redactPayload r (slaData outageId sla payment)).dumps t →
          FanOutComplete unsignedEnv c s := by
  have hnone : penaltyData {} = none := by
    rw [← Option.not_isSome_iff_eq_none, penaltyData_isSome_iff]
    decide
  constructor
  · intro hall
    have hcomplete := hall oneWebhook {} (penaltyCall (penaltyData {})) penaltyFloats
      "outage-1" violatedSla penalty oneWebhook_wellFormed rfl
    have hraised : (triggerSlaViolationWebhooks declaredEnv (penaltyCall (penaltyData {}))
        oneWebhook).1 = .raised := rfl
    have hreturned := hcomplete.returned
    rw [hraised] at hreturned
    cases hreturned
  · intro hall
    have hcomplete := hall oneWebhook {} (penaltyCall (penaltyData {})) penaltyFloats
      "outage-1" violatedSla penalty oneWebhook_wellFormed rfl
    rw [hnone] at hcomplete
    have hraised : (triggerSlaViolationWebhooks unsignedEnv (penaltyCall none) oneWebhook).1 =
        .raised := by decide
    have hreturned := hcomplete.returned
    rw [hraised] at hreturned
    cases hreturned

/-- The second webhook is skipped, the third one wants other events. -/
def fourWebhooks : WebhookStore where
  webhooks :=
    [{ id := 1, url := "https://one.example/hook", events := ["sla.violation"] },
      { id := 2, url := "https://two.invalid/hook", events := ["sla.violation"] },
      { id := 3, url := "https://three.example/hook", events := ["sla.resolved"] },
      { id := 4, url := "https://four.example/hook", events := ["sla.warning", "sla.violation"] }]

def paymentMasked : RedactionSettings := { fields := ["password", "payment"] }

theorem fanOutComplete_paymentMasked :
    FanOutComplete unsignedEnv (penaltyCall (penaltyData paymentMasked)) fourWebhooks := by
  have hwf : fourWebhooks.WellFormed := List.nodup_nil
  refine (fanOutComplete_iff hwf (r := paymentMasked) rfl).mpr ?_
  constructor
  · rfl
  · decide +kernel
  · intro _
    decide
  · constructor
    · decide +kernel
    · exact fun _ _ _ hx => absurd hx List.not_mem_nil
    · decide +kernel
    · have hstored : ∀ w ∈ fourWebhooks.webhooks, (fourWebhooks.webhook w.id).isSome := by decide
      intro w hw payload _ hraises
      have hactive := List.mem_of_mem_filter (List.mem_of_mem_filter (List.mem_of_mem_filter hw))
      obtain ⟨v, hv⟩ := Option.isSome_iff_exists.mp (hstored w hactive)
      -- the receivers answer, and the version is the one that is signed
      rcases hraises v hv with ⟨-, hversion⟩ | houtcome
      · exact hversion rfl
      · cases houtcome

end NocIq
