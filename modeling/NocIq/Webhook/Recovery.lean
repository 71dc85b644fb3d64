import NocIq.Webhook.AtRest

/-!
# NocIq — disaster recovery

What `recover_deliveries_in_window` does with the deliveries of its window: SUCCESS ones are
skipped, every other one is reset and dispatched, and none of them gets another identity. The
exception of an attempt, or of the commit of its outcome, is not caught: the deliveries after it are
not replayed.

* **`identity_dispatchRow`** — a dispatch keeps the payload, the idempotency key and the timestamp.
* **`exactRecovery_iff`** — with any answers to its requests, the recoveries that are exact.
-/

namespace NocIq

variable {env : WebhookEnv} {s s' : WebhookStore} {id : UUID} {d d' : WebhookDelivery}
  {webhook : Option Webhook} {attempt : Attempt}

/-! ## The identity of a delivery -/

/-- What receivers know a delivery by, and what is sent to them. -/
structure SameIdentity (d d' : WebhookDelivery) : Prop where
  webhookId : d'.webhookId = d.webhookId
  event : d'.event = d.event
  payload : d'.payload = d.payload
  idempotencyKey : d'.idempotencyKey = d.idempotencyKey
  eventTimestamp : d'.eventTimestamp = d.eventTimestamp

theorem SameIdentity.refl (d : WebhookDelivery) : SameIdentity d d := ⟨rfl, rfl, rfl, rfl, rfl⟩

theorem SameIdentity.trans {d'' : WebhookDelivery} (h : SameIdentity d d')
    (h' : SameIdentity d' d'') : SameIdentity d d'' where
  webhookId := h'.webhookId.trans h.webhookId
  event := h'.event.trans h.event
  payload := h'.payload.trans h.payload
  idempotencyKey := h'.idempotencyKey.trans h.idempotencyKey
  eventTimestamp := h'.eventTimestamp.trans h.eventTimestamp

theorem SameButResponse.identity (h : SameButResponse d d') : SameIdentity d d' := by
  rw [h]
  exact ⟨rfl, rfl, rfl, rfl, rfl⟩

/-- **A dispatch keeps the identity of its delivery.** -/
theorem identity_dispatchRow (env : WebhookEnv) (webhook : Option Webhook) (attempt : Attempt)
    (d : WebhookDelivery) : SameIdentity d (dispatchRow env webhook attempt d).row := by
  have hbegun : SameIdentity d (beginDispatch attempt.started d) := ⟨rfl, rfl, rfl, rfl, rfl⟩
  have hspec := dispatchRow_spec env webhook attempt d
  generalize dispatchRow env webhook attempt d = effect at hspec ⊢
  cases hspec with
  | raised => exact hbegun
  | delivered _ _ hsame =>
    exact (hbegun.trans hsame.identity).trans ⟨rfl, rfl, rfl, rfl, rfl⟩
  | deadLettered _ _ hsame =>
    exact (hbegun.trans hsame.identity).trans ⟨rfl, rfl, rfl, rfl, rfl⟩
  | scheduled _ _ hsame =>
    exact (hbegun.trans hsame.identity).trans ⟨rfl, rfl, rfl, rfl, rfl⟩

theorem identity_resetForReplay (now : Time) (d : WebhookDelivery) :
    SameIdentity d (resetForReplay now d) := ⟨rfl, rfl, rfl, rfl, rfl⟩

theorem identity_replayRow (env : WebhookEnv) (webhook : Option Webhook) (now : Time)
    (attempt : Attempt) (d : WebhookDelivery) :
    SameIdentity d (replayRow env webhook now attempt d).row :=
  (identity_resetForReplay now d).trans (identity_dispatchRow env webhook attempt _)

theorem identity_recoverRow (env : WebhookEnv) (webhook : Option Webhook) (now : Time)
    (attempt : Attempt) (d : WebhookDelivery) :
    SameIdentity d (recoverRow env webhook now attempt d).row := by
  unfold recoverRow
  split
  · exact .refl d
  · exact identity_replayRow env webhook now attempt d
  · have hreset : SameIdentity d (resetForRecovery now d) := ⟨rfl, rfl, rfl, rfl, rfl⟩
    exact hreset.trans (identity_dispatchRow env webhook attempt _)

/-! ## One row -/

theorem dispatchRow_posts (env : WebhookEnv) (h : ¬ Raises webhook attempt d) :
    ∃ p, (dispatchRow env webhook attempt d).output = [p] ∧ p.deliveryId = d.id := by
  unfold dispatchRow
  cases webhook with
  | none => exact absurd nofun h
  | some w =>
    dsimp only
    cases hbuild : buildHeaders env attempt.started w (beginDispatch attempt.started d) with
    | none =>
      refine absurd ?_ h
      intro w' hw'
      rw [← Option.some.inj hw']
      exact .inl ((buildHeaders_eq_none_iff env _ w _).mp hbuild)
    | some headers =>
      dsimp only
      split
      · exact ⟨_, rfl, rfl⟩
      · exact ⟨_, rfl, rfl⟩

/-- What a recovery puts out for a row that it gets to: whether it has been replayed, after the
request of its attempt. -/
theorem recoverRow_puts (env : WebhookEnv) (now : Time)
    (h : d.status ≠ .success → ¬ Raises webhook attempt d) :
    ∃ posts : List Post,
      (recoverRow env webhook now attempt d).output =
        posts.map Sum.inl ++ [Sum.inr (decide (d.status ≠ .success))] ∧
      posts.map Post.deliveryId = if d.status ≠ .success then [d.id] else [] := by
  have hcounted : ∀ reset : WebhookDelivery, reset.id = d.id →
      ¬ Raises webhook attempt reset → d.status ≠ .success →
      ∃ posts : List Post,
        (dispatchRow env webhook attempt reset).output.map (Sum.inl (β := Bool)) ++
            (if (dispatchRow env webhook attempt reset).goesOn then [Sum.inr true] else []) =
          posts.map Sum.inl ++ [Sum.inr (decide (d.status ≠ .success))] ∧
        posts.map Post.deliveryId = if d.status ≠ .success then [d.id] else [] := by
    intro reset hid hreturns hstatus
    obtain ⟨p, hp, hof⟩ := dispatchRow_posts env hreturns
    refine ⟨[p], ?_, ?_⟩
    · rw [hp, if_pos ((dispatchRow_goesOn env webhook attempt reset).mpr hreturns),
        decide_eq_true hstatus]
    · rw [if_pos hstatus, List.map_singleton, hof, hid]
  unfold recoverRow
  split
  · rename_i hstatus
    exact ⟨[], by simp [hstatus], by simp [hstatus]⟩
  · rename_i hstatus
    have hne : d.status ≠ .success := by simp [hstatus]
    exact hcounted (resetForReplay now d) rfl (h hne) hne
  · rename_i hsuccess _
    exact hcounted (resetForRecovery now d) rfl (h hsuccess) hsuccess

/-! ## The whole window -/

/-- The delivery's event is in the window. -/
def WebhookDelivery.Within (startTime endTime : Time) (d : WebhookDelivery) : Prop :=
  startTime ≤ d.eventTimestamp ∧ d.eventTimestamp ≤ endTime

instance (startTime endTime : Time) (d : WebhookDelivery) : Decidable (d.Within startTime endTime) :=
  inferInstanceAs (Decidable (_ ∧ _))

/-- What a recovery puts out, and whether it goes through its window. -/
def recovery (env : WebhookEnv) (startTime endTime now : Time) (attempts : UUID → Attempt)
    (s : WebhookStore) : Batch.Outcome WebhookDelivery (Post ⊕ Bool) :=
  Batch.forEach WebhookDelivery.id
    (fun d => recoverRow env (s.webhook d.webhookId) now (attempts d.id) d)
    ((deliveriesInWindow startTime endTime s).map WebhookDelivery.id) s.deliveries

variable {startTime endTime : Time}

theorem recoverDeliveriesInWindow_eq (h : startTime ≤ endTime) (env : WebhookEnv) (now : Time)
    (attempts : UUID → Attempt) (s : WebhookStore) :
    recoverDeliveriesInWindow env startTime endTime now attempts s =
      let outcome := recovery env startTime endTime now attempts s
      (.ok (if outcome.goesOn then
          some
            { total := (deliveriesInWindow startTime endTime s).length
              replayed := outcome.output.countP fun o => decide (o = .inr true)
              skipped := outcome.output.countP fun o => decide (o = .inr false) }
          else none),
        { s with
          deliveries := outcome.rows
          sent := s.sent ++ outcome.output.filterMap Sum.getLeft? }) := by
  unfold recoverDeliveriesInWindow
  rw [if_neg (not_lt.mpr h)]
  rfl

theorem recovery_goesOn_iff (hwf : s.WellFormed) (env : WebhookEnv) (startTime endTime now : Time)
    (attempts : UUID → Attempt) :
    (recovery env startTime endTime now attempts s).goesOn = true ↔
      ∀ d ∈ s.deliveries, d.Within startTime endTime → d.status ≠ .success →
        ¬ Raises (s.webhook d.webhookId) (attempts d.id) d := by
  unfold recovery
  rw [Batch.forEach_goesOn_iff (fun d => recoverRow_id env _ now _ d)
    (deliveriesInWindow_nodup hwf startTime endTime)]
  constructor
  · intro hgoes d hd hwithin
    have hstored := WebhookStore.row_of_mem hwf hd
    have hmem := (mem_window_ids hwf hstored).mpr hwithin
    exact (recoverRow_goesOn env _ now _ d).mp (hgoes d.id hmem d hstored)
  · intro hreturns k hk d hd
    have hwithin := (mem_window_ids hwf hd).mp hk
    refine (recoverRow_goesOn env _ now _ d).mpr ?_
    exact hreturns d (WebhookStore.mem_of_row hd).1 hwithin

variable {attempts : UUID → Attempt} {now : Time}

theorem recovery_output (hwf : s.WellFormed)
    (hgoes : (recovery env startTime endTime now attempts s).goesOn = true) :
    (recovery env startTime endTime now attempts s).output =
      (deliveriesInWindow startTime endTime s).flatMap fun d =>
        (recoverRow env (s.webhook d.webhookId) now (attempts d.id) d).output := by
  unfold recovery at hgoes ⊢
  rw [Batch.output_forEach (fun d => recoverRow_id env _ now _ d)
    (deliveriesInWindow_nodup hwf startTime endTime) hgoes, List.flatMap_map]
  apply List.flatMap_congr
  intro d hd
  have hstored : Batch.lookup WebhookDelivery.id s.deliveries d.id = some d :=
    WebhookStore.row_of_mem hwf (mem_deliveriesInWindow.mp hd).1
  rw [hstored]
  rfl

theorem countP_flatMap_ite {α β : Type} {l : List α} {f : α → List β} {p : β → Bool} {q : α → Bool}
    (h : ∀ a ∈ l, (f a).countP p = if q a then 1 else 0) : (l.flatMap f).countP p = l.countP q := by
  induction l with
  | nil => rfl
  | cons a l ih =>
    rw [List.flatMap_cons, List.countP_append, List.countP_cons, h a List.mem_cons_self,
      ih fun b hb => h b (List.mem_cons_of_mem a hb)]
    omega

theorem countP_deliveriesInWindow (startTime endTime : Time) (s : WebhookStore)
    (p : WebhookDelivery → Bool) :
    (deliveriesInWindow startTime endTime s).countP p =
      s.deliveries.countP fun d => decide (d.Within startTime endTime) && p d := by
  have hperm := List.mergeSort_perm (s.deliveries.filter fun d =>
    decide (startTime ≤ d.eventTimestamp ∧ d.eventTimestamp ≤ endTime))
    fun a b => decide (a.eventTimestamp ≤ b.eventTimestamp)
  unfold deliveriesInWindow
  rw [hperm.countP_eq, List.countP_filter]
  apply List.countP_congr
  intro d _
  show (p d && decide _) = true ↔ (decide _ && p d) = true
  rw [Bool.and_comm]
  exact Iff.rfl

theorem recovery_flags (hwf : s.WellFormed)
    (hgoes : (recovery env startTime endTime now attempts s).goesOn = true) (flag : Bool) :
    (recovery env startTime endTime now attempts s).output.countP
        (fun o => decide (o = .inr flag)) =
      (deliveriesInWindow startTime endTime s).countP fun d =>
        decide (decide (d.status ≠ .success) = flag) := by
  have hreturns := (recovery_goesOn_iff hwf env startTime endTime now attempts).mp hgoes
  rw [recovery_output hwf hgoes]
  apply countP_flatMap_ite
  intro d hd
  obtain ⟨hmem, hwithin⟩ := mem_deliveriesInWindow.mp hd
  obtain ⟨posts, hputs, -⟩ := recoverRow_puts env now (hreturns d hmem hwithin)
  have hzero : (posts.map (Sum.inl (β := Bool))).countP (fun o => decide (o = .inr flag)) = 0 := by
    rw [List.countP_eq_zero]
    intro o ho
    obtain ⟨p, -, rfl⟩ := List.mem_map.mp ho
    simp
  rw [hputs, List.countP_append, hzero]
  simp [List.countP_cons]

theorem recovery_posts (env : WebhookEnv) (hwf : s.WellFormed)
    (hgoes : (recovery env startTime endTime now attempts s).goesOn = true) :
    ((recovery env startTime endTime now attempts s).output.filterMap Sum.getLeft?).map
        Post.deliveryId =
      ((deliveriesInWindow startTime endTime s).filter fun d => decide (d.status ≠ .success)).map
        WebhookDelivery.id := by
  have hreturns := (recovery_goesOn_iff hwf env startTime endTime now attempts).mp hgoes
  have hrows : ∀ d ∈ deliveriesInWindow startTime endTime s, d ∈ s.deliveries ∧
      d.Within startTime endTime := fun d hd => mem_deliveriesInWindow.mp hd
  rw [recovery_output hwf hgoes]
  generalize deliveriesInWindow startTime endTime s = candidates at hrows
  induction candidates with
  | nil => rfl
  | cons d candidates ih =>
    obtain ⟨hmem, hwithin⟩ := hrows d List.mem_cons_self
    obtain ⟨posts, hputs, hids⟩ := recoverRow_puts env now (hreturns d hmem hwithin)
    have hleft : (recoverRow env (s.webhook d.webhookId) now (attempts d.id) d).output.filterMap
        Sum.getLeft? = posts := by
      rw [hputs, List.filterMap_append, List.filterMap_map]
      have hposts : posts.filterMap (Sum.getLeft? (α := Post) (β := Bool) ∘ Sum.inl) = posts :=
        List.filterMap_some
      rw [hposts]
      simp
    rw [List.flatMap_cons, List.filterMap_append, List.map_append, hleft, hids, List.filter_cons,
      ih fun d' hd' => hrows d' (List.mem_cons_of_mem d hd')]
    split
    · rename_i hstatus
      rw [if_pos (decide_eq_true hstatus)]
      rfl
    · rename_i hstatus
      rw [if_neg (by simpa using hstatus)]
      rfl

/-- An exact recovery: SUCCESS deliveries and those outside of the window stay as they are, every
other one is sent once, all keep their identity, and the counts are right. -/
structure ExactRecovery (env : WebhookEnv) (startTime endTime now : Time)
    (attempts : UUID → Attempt) (s : WebhookStore) : Prop where
  untouched : ∀ d ∈ s.deliveries, d.status = .success ∨ ¬ d.Within startTime endTime →
    Untouched s (recoverDeliveriesInWindow env startTime endTime now attempts s).2 d.id
  attempted : ∀ d ∈ s.deliveries, d.status ≠ .success → d.Within startTime endTime →
    (recoverDeliveriesInWindow env startTime endTime now attempts s).2.timesSent d.id =
      s.timesSent d.id + 1
  identity : ∀ d ∈ s.deliveries, ∃ d',
    (recoverDeliveriesInWindow env startTime endTime now attempts s).2.row d.id = some d' ∧
      SameIdentity d d'
  result : ∃ result,
    (recoverDeliveriesInWindow env startTime endTime now attempts s).1 = .ok (some result) ∧
      result.total = result.replayed + result.skipped ∧
      result.total = s.deliveries.countP (fun d => decide (d.Within startTime endTime)) ∧
      result.skipped =
        s.deliveries.countP fun d =>
          decide (d.Within startTime endTime) && decide (d.status = .success)

theorem identity_recover (hwf : s.WellFormed) (hd : s.row id = some d) (env : WebhookEnv)
    (startTime endTime now : Time) (attempts : UUID → Attempt) :
    ∃ d', (recoverDeliveriesInWindow env startTime endTime now attempts s).2.row id = some d' ∧
      SameIdentity d d' := by
  unfold recoverDeliveriesInWindow
  split
  · exact ⟨d, hd, .refl d⟩
  · let work : WebhookDelivery → Batch.Effect WebhookDelivery (Post ⊕ Bool) :=
      fun d => recoverRow env (s.webhook d.webhookId) now (attempts d.id) d
    have hkey : ∀ d, (work d).row.id = d.id := fun d => recoverRow_id env _ now _ d
    rcases @Batch.lookup_forEach_cases _ _ _ _ _ work _ s.deliveries hkey
        (deliveriesInWindow_nodup hwf startTime endTime) id with hsame | ⟨-, d', hd', hmade⟩
    · exact ⟨d, hsame.trans hd, .refl d⟩
    · obtain rfl := Option.some.inj (hd.symm.trans hd')
      exact ⟨_, hmade, identity_recoverRow env _ now _ d⟩

theorem timesSent_recover (hwf : s.WellFormed) (hwindow : startTime ≤ endTime)
    (hgoes : (recovery env startTime endTime now attempts s).goesOn = true) (hd : d ∈ s.deliveries)
    (hstatus : d.status ≠ .success) (hwithin : d.Within startTime endTime) :
    (recoverDeliveriesInWindow env startTime endTime now attempts s).2.timesSent d.id =
      s.timesSent d.id + 1 := by
  rw [recoverDeliveriesInWindow_eq hwindow]
  show (s.sent ++ _).countP _ = s.sent.countP _ + 1
  rw [List.countP_append]
  have hposts := recovery_posts env hwf hgoes
  generalize (recovery env startTime endTime now attempts s).output.filterMap Sum.getLeft? = posts
    at hposts
  have hcount : posts.countP (fun p => decide (p.deliveryId = d.id)) =
      (posts.map Post.deliveryId).count d.id := by
    rw [List.count, List.countP_map]
    rfl
  have hnodup := (deliveriesInWindow_nodup hwf startTime endTime).sublist
    (List.filter_sublist (p := fun d => decide (d.status ≠ .success)).map WebhookDelivery.id)
  have hmem : d.id ∈ ((deliveriesInWindow startTime endTime s).filter fun d =>
      decide (d.status ≠ .success)).map WebhookDelivery.id := by
    refine List.mem_map_of_mem (List.mem_filter.mpr ⟨?_, decide_eq_true hstatus⟩)
    exact mem_deliveriesInWindow.mpr ⟨hd, hwithin⟩
  rw [hcount, hposts, List.count_eq_one_of_mem hnodup hmem]

theorem exactRecovery_of_goesOn (hwf : s.WellFormed) (hwindow : startTime ≤ endTime)
    (hgoes : (recovery env startTime endTime now attempts s).goesOn = true) :
    ExactRecovery env startTime endTime now attempts s where
  untouched d hd hskip := untouched_recover hwf (WebhookStore.row_of_mem hwf hd) hskip now attempts
  attempted d hd hstatus hwithin := timesSent_recover hwf hwindow hgoes hd hstatus hwithin
  identity d hd :=
    identity_recover hwf (WebhookStore.row_of_mem hwf hd) env startTime endTime now attempts
  result := by
    refine ⟨_, by rw [recoverDeliveriesInWindow_eq hwindow]; dsimp only; rw [if_pos hgoes], ?_⟩
    dsimp only
    rw [recovery_flags hwf hgoes, recovery_flags hwf hgoes]
    refine ⟨?_, ?_, ?_⟩
    · rw [List.length_eq_countP_add_countP fun d : WebhookDelivery => decide (d.status ≠ .success)]
      simp
    · have hall := countP_deliveriesInWindow startTime endTime s fun _ => true
      simpa using hall
    · rw [countP_deliveriesInWindow]
      simp

theorem ExactRecovery.goesOn (h : ExactRecovery env startTime endTime now attempts s)
    (hwindow : startTime ≤ endTime) :
    (recovery env startTime endTime now attempts s).goesOn = true := by
  by_contra hstops
  obtain ⟨result, hresult, -⟩ := h.result
  rw [recoverDeliveriesInWindow_eq hwindow] at hresult
  dsimp only at hresult
  rw [if_neg hstops] at hresult
  cases hresult

def answeredAttempts (answers : UUID → HttpAnswer) (started finished : UUID → Time) (id : UUID) :
    Attempt where
  started := started id
  outcome := (answers id).outcome
  finished := finished id

/-- **Disaster recovery.** Whatever a response, a timeout or a request error each request gets, a
recovery is exact exactly if every delivery that it attempts can be signed, and the database takes
what is recorded of its answer. -/
theorem exactRecovery_iff (hwf : s.WellFormed)
    (hwebhooks : ∀ d ∈ s.deliveries, (s.webhook d.webhookId).isSome) {startTime endTime : Time}
    (hwindow : startTime ≤ endTime) (now : Time) (answers : UUID → HttpAnswer)
    (started finished : UUID → Time) :
    ExactRecovery env startTime endTime now (answeredAttempts answers started finished) s ↔
      ∀ d ∈ s.deliveries, d.Within startTime endTime → d.status ≠ .success →
        (answers d.id).Storable ∧ ∀ w ∈ s.webhook d.webhookId, ¬ Unsignable w d := by
  have hraises : ∀ d ∈ s.deliveries,
      (¬ Raises (s.webhook d.webhookId) (answeredAttempts answers started finished d.id) d ↔
        (answers d.id).Storable ∧ ∀ w ∈ s.webhook d.webhookId, ¬ Unsignable w d) := by
    intro d hd
    obtain ⟨w, hw⟩ := Option.isSome_iff_exists.mp (hwebhooks d hd)
    simp [Raises, hw, answeredAttempts, HttpAnswer.outcome_eq_raised_iff, and_comm]
  have hgoes : (recovery env startTime endTime now (answeredAttempts answers started finished)
      s).goesOn = true ↔
        ∀ d ∈ s.deliveries, d.Within startTime endTime → d.status ≠ .success →
          (answers d.id).Storable ∧ ∀ w ∈ s.webhook d.webhookId, ¬ Unsignable w d := by
    rw [recovery_goesOn_iff hwf]
    refine forall₂_congr ?_
    intro d hd
    rw [hraises d hd]
  rw [← hgoes]
  exact ⟨fun hexact => hexact.goesOn hwindow, exactRecovery_of_goesOn hwf hwindow⟩

/-! ### A response that cannot be stored -/

/-- A delivery of the webhook 1, with a timestamp and a status. -/
def storedDelivery (id : UUID) (eventTimestamp : Time) (status : WebhookDeliveryStatus) :
    WebhookDelivery where
  id
  webhookId := 1
  event := .slaViolation
  payload := "\x7b\x7d"
  status
  idempotencyKey := toString id.toNat
  eventTimestamp
  createdAt := eventTimestamp
  updatedAt := eventTimestamp

def signedWebhook : Webhook where
  id := 1
  url := "https://receiver.example/hook"
  secret := some "s3cret"
  events := ["sla.violation"]

/-- The receiver of the delivery 6 answers with a NUL, that of the others with an empty body. -/
def nulForSix (id : UUID) : HttpAnswer :=
  .response 200 (if id = 6 then String.singleton (Char.ofNat 0) else "")

/-- The commit of the first response is refused: the recovery ends there, before the second
dead-lettered delivery, and returns no counts. -/
theorem nul_in_response_ends_recovery :
    ¬ ∀ (env : WebhookEnv) (s : WebhookStore) (startTime endTime now : Time)
        (answers : UUID → HttpAnswer) (started finished : UUID → Time),
      s.WellFormed → (∀ d ∈ s.deliveries, (s.webhook d.webhookId).isSome) → startTime ≤ endTime →
        ExactRecovery env startTime endTime now (answeredAttempts answers started finished) s := by
  intro hall
  let s : WebhookStore :=
    { webhooks := [signedWebhook]
      deliveries := [storedDelivery 6 5 .deadLetter, storedDelivery 7 6 .deadLetter] }
  have hwf : s.WellFormed := by
    unfold WebhookStore.WellFormed
    decide
  have hwebhooks : ∀ d ∈ s.deliveries, (s.webhook d.webhookId).isSome := by decide
  have hwindow : (0 : Time) ≤ 10 := by decide
  have hexact := hall unsignedEnv s 0 10 20 nulForSix (fun _ => 10) (fun _ => 11) hwf hwebhooks
    hwindow
  have hreturns := (recovery_goesOn_iff hwf unsignedEnv 0 10 20
    (answeredAttempts nulForSix (fun _ => 10) (fun _ => 11))).mp (hexact.goesOn hwindow)
  exact absurd hreturns (by decide)

/-- A window with a dead-lettered and a delivered one, between two that it leaves alone: the answers
that would not be stored are not asked for. -/
theorem exactRecovery_mixedWindow :
    ExactRecovery unsignedEnv 10 30 50
      (answeredAttempts nulForSix (fun _ => 10) (fun _ => 11))
      { webhooks := [signedWebhook]
        deliveries := [storedDelivery 6 5 .deadLetter, storedDelivery 5 10 .success,
          storedDelivery 4 20 .deadLetter, storedDelivery 7 40 .retrying] } :=
  (exactRecovery_iff (by unfold WebhookStore.WellFormed; decide) (by decide) (by decide) 50
    nulForSix _ _).mpr (by decide)

end NocIq
