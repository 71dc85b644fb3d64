import NocIq.Webhook.AtRest

/-!
# NocIq — operations on deliveries, commit by commit

`create_delivery` commits a PENDING row, the first commit of `dispatch_delivery` counts the attempt
and the second one has its outcome; a replay and a recovery commit a reset first. A process has the
delivery of its last commit in hand, and the rest of its call still to do. It may die in between.

* **`commits_serve`** — a call that runs to its end leaves what the operation leaves.
-/

namespace NocIq

/-! ## Work, commit by commit -/

/-- What a call does for one webhook or one delivery. -/
inductive WebhookWork where
  | deliver (call : TriggerCall) (webhook : Webhook)
  | dispatch (deliveryId : UUID) (attempt : Attempt)
  | replay (deliveryId : UUID) (now : Time) (attempt : Attempt)
  | recover (deliveryId : UUID) (now : Time) (attempt : Attempt)

/-- The delivery in hand: committed as PENDING with its dispatch still to come, or past the first
commit of the dispatch. The reason is the one to dead-letter its payload, if there is one. -/
inductive WebhookStage where
  | idle
  | pending (reason : Option String) (deliveryId : UUID) (attempt : Attempt)
  | begun (deliveryId : UUID) (attempt : Attempt)

/-- The database, and where the process stands in its call. -/
structure WebhookProcess where
  store : WebhookStore
  stage : WebhookStage := .idle
  todo : List WebhookWork := []

def WebhookStore.put (d : WebhookDelivery) (s : WebhookStore) : WebhookStore :=
  { s with deliveries := Batch.put WebhookDelivery.id d s.deliveries }

/-- `dispatch_delivery` from its first commit on. -/
def settleDispatch (env : WebhookEnv) (webhook : Option Webhook) (attempt : Attempt)
    (begun : WebhookDelivery) : Batch.Effect WebhookDelivery Post :=
  match webhook with
  | none => { row := begun, goesOn := false }
  | some webhook =>
    match buildHeaders env attempt.started webhook begun with
    | none => { row := begun, goesOn := false }
    | some headers =>
      match finishDispatch env.settings webhook attempt begun with
      | none => { row := begun, output := [post webhook begun headers], goesOn := false }
      | some d => { row := d, output := [post webhook begun headers] }

/-- The first commit of an item; `none` if an exception comes before it. -/
def WebhookWork.start (env : WebhookEnv) (s : WebhookStore) :
    WebhookWork → Option (WebhookStore × WebhookStage)
  | .deliver c webhook =>
    let f := c.fanOut webhook.id
    match f.url with
    | .raises => none
    | .invalid => some (s, .idle)
    | .valid =>
      if c.throttled env webhook then some (s, .idle)
      else
        match c.payload env with
        | none => none
        | some payload =>
          let d := c.newDelivery env webhook payload
          if TriggerCall.conflicts d s then none
          else
            some ({ s with deliveries := s.deliveries ++ [d] },
              .pending (validatePayloadSchemaVersion webhookSchemaVersion c.event) d.id f.attempt)
  | .dispatch deliveryId attempt =>
    match s.row deliveryId with
    | none => some (s, .idle)
    | some d => some (s.put (beginDispatch attempt.started d), .begun deliveryId attempt)
  | .replay deliveryId now attempt =>
    match s.row deliveryId with
    | none => some (s, .idle)
    | some d =>
      if d.status ≠ .deadLetter then some (s, .idle)
      else some (s.put (resetForReplay now d), .pending none deliveryId attempt)
  | .recover deliveryId now attempt =>
    match s.row deliveryId with
    | none => some (s, .idle)
    | some d =>
      match d.status with
      | .success => some (s, .idle)
      | .deadLetter => some (s.put (resetForReplay now d), .pending none deliveryId attempt)
      | _ => some (s.put (resetForRecovery now d), .pending none deliveryId attempt)

/-- The first commits of items, one case for each. -/
inductive WebhookWork.Starts (s : WebhookStore) : WebhookStore → WebhookStage → Prop where
  /-- the item comes to nothing -/
  | skipped : Starts s s .idle
  | created {d : WebhookDelivery} {reason : Option String} {attempt : Attempt}
      (hfree : TriggerCall.conflicts d s = false) (hstatus : d.status = .pending) :
      Starts s { s with deliveries := s.deliveries ++ [d] } (.pending reason d.id attempt)
  | reset {d d' : WebhookDelivery} {attempt : Attempt} (hd : s.row d.id = some d)
      (hid : d'.id = d.id) (hstatus : d'.status = .pending) :
      Starts s (s.put d') (.pending none d.id attempt)
  | began {d : WebhookDelivery} {attempt : Attempt} (hd : s.row d.id = some d) :
      Starts s (s.put (beginDispatch attempt.started d)) (.begun d.id attempt)

/-- **What the first commit of an item does.** -/
theorem WebhookWork.starts_of_start {env : WebhookEnv} {s s' : WebhookStore}
    {stage : WebhookStage} {item : WebhookWork} (hstart : item.start env s = some (s', stage)) :
    Starts s s' stage := by
  cases item with
  | deliver c w =>
    dsimp only [start] at hstart
    split at hstart
    · cases hstart
    · cases hstart
      exact .skipped
    · split at hstart
      · cases hstart
        exact .skipped
      · split at hstart
        · cases hstart
        · rename_i payload hpayload
          split at hstart
          · cases hstart
          · rename_i hconflicts
            cases hstart
            exact .created (d := c.newDelivery env w payload) (Bool.eq_false_iff.mpr hconflicts) rfl
  | dispatch deliveryId attempt =>
    dsimp only [start] at hstart
    cases hrow : s.row deliveryId with
    | none =>
      rw [hrow] at hstart
      cases hstart
      exact .skipped
    | some d =>
      rw [hrow] at hstart
      cases hstart
      obtain rfl := (WebhookStore.mem_of_row hrow).2
      exact .began hrow
  | replay deliveryId now attempt =>
    dsimp only [start] at hstart
    cases hrow : s.row deliveryId with
    | none =>
      rw [hrow] at hstart
      cases hstart
      exact .skipped
    | some d =>
      rw [hrow] at hstart
      obtain rfl := (WebhookStore.mem_of_row hrow).2
      dsimp only at hstart
      split at hstart
      · cases hstart
        exact .skipped
      · cases hstart
        -- the reset is a commit of its own: a crash here leaves the row pending
        have hstatus : (resetForReplay now d).status = .pending := rfl
        exact .reset hrow rfl hstatus
  | recover deliveryId now attempt =>
    dsimp only [start] at hstart
    cases hrow : s.row deliveryId with
    | none =>
      rw [hrow] at hstart
      cases hstart
      exact .skipped
    | some d =>
      rw [hrow] at hstart
      obtain rfl := (WebhookStore.mem_of_row hrow).2
      dsimp only at hstart
      split at hstart
      · cases hstart
        exact .skipped
      · cases hstart
        have hstatus : (resetForReplay now d).status = .pending := rfl
        exact .reset hrow rfl hstatus
      · cases hstart
        have hstatus : (resetForRecovery now d).status = .pending := rfl
        exact .reset hrow rfl hstatus

/-- The next commit of the process. An exception ends the call. -/
def WebhookProcess.commit (env : WebhookEnv) (p : WebhookProcess) : WebhookProcess :=
  match p.stage with
  | .idle =>
    match p.todo with
    | [] => p
    | item :: todo =>
      match item.start env p.store with
      | none => { store := p.store }
      | some (store, stage) => { store, stage, todo }
  | .pending reason deliveryId attempt =>
    match p.store.row deliveryId with
    | none => { p with stage := .idle }
    | some d =>
      match reason with
      | some reason =>
        { p with
          store := p.store.put (TriggerCall.schemaDeadLettered attempt.started reason d)
          stage := .idle }
      | none =>
        { p with
          store := p.store.put (beginDispatch attempt.started d)
          stage := .begun deliveryId attempt }
  | .begun deliveryId attempt =>
    match p.store.row deliveryId with
    | none => { p with stage := .idle }
    | some d =>
      let effect := settleDispatch env (p.store.webhook d.webhookId) attempt d
      let store := { p.store.put effect.row with sent := p.store.sent ++ effect.output }
      if effect.goesOn then { p with store, stage := .idle } else { store }

def WebhookOperation.work (env : WebhookEnv) (s : WebhookStore) :
    WebhookOperation → List WebhookWork
  | .trigger call =>
    (call.webhooks env s).map (.deliver call)
  | .dispatchTask deliveryId attempt => [.dispatch deliveryId attempt]
  | .partitionedTask deliveryId partitionId backpressured attempt =>
    if passesBackpressure env.settings partitionId backpressured then [.dispatch deliveryId attempt]
    else []
  | .retryPending now attempts => (dueDeliveries now s).map fun id => .dispatch id (attempts id)
  | .retry webhookId deliveryId attempt =>
    match s.webhook webhookId, s.row deliveryId with
    | some _, some d =>
      if d.webhookId = webhookId ∧ d.status ≠ .success then [.dispatch deliveryId attempt] else []
    | _, _ => []
  | .replay deliveryId now attempt => [.replay deliveryId now attempt]
  | .recover startTime endTime now attempts =>
    if endTime < startTime then []
    else
      (deliveriesInWindow startTime endTime s).map fun d => .recover d.id now (attempts d.id)

/-- A process serves one call at a time. -/
inductive ProcessEvent where
  | call (op : WebhookOperation)
  | commit
  | crash

def WebhookProcess.step (env : WebhookEnv) (p : WebhookProcess) : ProcessEvent → WebhookProcess
  | .call op =>
    match p.stage, p.todo with
    | .idle, [] => { p with todo := op.work env p.store }
    | _, _ => p
  | .commit => p.commit env
  | .crash => { store := p.store }

abbrev ProcessRun (env : WebhookEnv) :=
  Runs.Run fun (p : WebhookProcess) e p' => p.step env e = p'

variable {env : WebhookEnv} {s s' : WebhookStore} {p q : WebhookProcess} {id : UUID}
  {d d' : WebhookDelivery} {webhook : Option Webhook} {attempt : Attempt}

theorem dispatchRow_eq_settle (env : WebhookEnv) (webhook : Option Webhook) (attempt : Attempt)
    (d : WebhookDelivery) :
    dispatchRow env webhook attempt d =
      settleDispatch env webhook attempt (beginDispatch attempt.started d) := rfl

theorem WebhookStore.row_put (s : WebhookStore) (d : WebhookDelivery) (id : UUID) :
    (s.put d).row id = if id = d.id then (s.row id).map fun _ => d else s.row id :=
  Batch.lookup_put d s.deliveries id

theorem WebhookStore.row_put_self (hd : s.row id = some d) (hid : d'.id = id) :
    (s.put d').row id = some d' := by
  rw [WebhookStore.row_put, if_pos hid.symm, hd]
  rfl

theorem WebhookStore.row_put_other (hne : id ≠ d.id) : (s.put d).row id = s.row id := by
  rw [WebhookStore.row_put, if_neg hne]

theorem WebhookStore.put_wellFormed (hwf : s.WellFormed) (d : WebhookDelivery) :
    (s.put d).WellFormed := by
  show ((Batch.put WebhookDelivery.id d s.deliveries).map WebhookDelivery.id).Nodup
  rw [Batch.keys_put]
  exact hwf

/-! ## A call that runs to its end -/

abbrev Reaches (env : WebhookEnv) :=
  Relation.ReflTransGen fun p q : WebhookProcess => p.commit env = q

/-- After an item: an exception has ended the call, or the rest is still to be done. -/
def WebhookProcess.after (todo : List WebhookWork) : Completion × WebhookStore → WebhookProcess
  | (.returned, s) => { store := s, todo }
  | (.raised, s) => { store := s }

theorem WebhookProcess.after_nil (outcome : Completion × WebhookStore) :
    WebhookProcess.after [] outcome = { store := outcome.2 } := by
  obtain ⟨_ | _, s⟩ := outcome
  · rfl
  · rfl

theorem WebhookStore.forEach_singleton (hd : s.row id = some d)
    (work : WebhookDelivery → Batch.Effect WebhookDelivery Post) :
    s.forEach [id] work =
      (if (work d).goesOn then .returned else .raised,
        { s.put (work d).row with sent := s.sent ++ (work d).output }) := by
  unfold WebhookStore.forEach
  rw [Batch.forEach_singleton hd]
  rfl

theorem WebhookStore.forEach_absent (hd : s.row id = none)
    (work : WebhookDelivery → Batch.Effect WebhookDelivery Post) :
    s.forEach [id] work = (.returned, s) := by
  have hnone : Batch.forEach WebhookDelivery.id work [id] s.deliveries = ⟨s.deliveries, [], true⟩ :=
    Batch.forEach_none hd
  unfold WebhookStore.forEach
  rw [hnone]
  simp

theorem WebhookStore.forEach_cons (s : WebhookStore) (id : UUID) (ids : List UUID)
    (work : WebhookDelivery → Batch.Effect WebhookDelivery Post) :
    s.forEach (id :: ids) work =
      match s.forEach [id] work with
      | (.returned, s') => s'.forEach ids work
      | (.raised, s') => (.raised, s') := by
  cases hd : s.row id with
  | none =>
    rw [WebhookStore.forEach_absent hd]
    unfold WebhookStore.forEach
    rw [Batch.forEach_none hd]
  | some d =>
    rw [WebhookStore.forEach_singleton hd]
    unfold WebhookStore.forEach
    cases hgo : (work d).goesOn with
    | true =>
      rw [Batch.forEach_goesOn hd hgo]
      simp [WebhookStore.put, List.append_assoc]
    | false =>
      rw [Batch.forEach_stops hd hgo]
      rfl

theorem WebhookStore.put_put (h : d.id = d'.id) (s : WebhookStore) :
    (s.put d).put d' = s.put d' := by
  unfold WebhookStore.put
  rw [Batch.put_put h]

theorem WebhookStore.put_self (hwf : s.WellFormed) (hd : s.row id = some d) : s.put d = s := by
  unfold WebhookStore.put
  rw [Batch.put_self hwf (WebhookStore.mem_of_row hd).1]

theorem commit_begun {s₁ : WebhookStore} (hd : s₁.row id = some (beginDispatch attempt.started d))
    (todo : List WebhookWork) :
    WebhookProcess.commit env ⟨s₁, .begun id attempt, todo⟩ =
      let effect := dispatchRow env (s₁.webhook d.webhookId) attempt d
      .after todo
        (if effect.goesOn then .returned else .raised,
          { s₁.put effect.row with sent := s₁.sent ++ effect.output }) := by
  rw [dispatchRow_eq_settle]
  unfold WebhookProcess.commit
  dsimp only
  rw [hd]
  dsimp only
  have hwebhook : (beginDispatch attempt.started d).webhookId = d.webhookId := rfl
  rw [hwebhook]
  split
  · rfl
  · rfl

theorem reaches_begun (env : WebhookEnv) (attempt : Attempt)
    (reset : WebhookDelivery → WebhookDelivery)
    (hreset : ∀ d, (reset d).id = d.id ∧ (reset d).webhookId = d.webhookId)
    (hd : s.row id = some d) (todo : List WebhookWork) :
    Reaches env
      ⟨s.put (beginDispatch attempt.started (reset d)), .begun id attempt, todo⟩
      (.after todo (s.forEach [id] fun d =>
        dispatchRow env (s.webhook d.webhookId) attempt (reset d))) := by
  obtain ⟨hid, hwebhook⟩ := hreset d
  have hown : d.id = id := (WebhookStore.mem_of_row hd).2
  refine .single ?_
  have hrow : (s.put (beginDispatch attempt.started (reset d))).row id =
      some (beginDispatch attempt.started (reset d)) :=
    WebhookStore.row_put_self hd (hid.trans hown)
  have hkey : (beginDispatch attempt.started (reset d)).id =
      (dispatchRow env (s.webhook (reset d).webhookId) attempt (reset d)).row.id :=
    (dispatchRow_id env _ attempt (reset d)).symm
  rw [commit_begun hrow, WebhookStore.forEach_singleton hd, ← hwebhook]
  show WebhookProcess.after todo (_, { WebhookStore.put _ (s.put _) with sent := _ }) = _
  rw [show (s.put (beginDispatch attempt.started (reset d))).webhook = s.webhook from rfl,
    WebhookStore.put_put hkey]
  rfl

theorem reaches_pending (env : WebhookEnv) (attempt : Attempt)
    (reset : WebhookDelivery → WebhookDelivery)
    (hreset : ∀ d, (reset d).id = d.id ∧ (reset d).webhookId = d.webhookId)
    (hd : s.row id = some d) (todo : List WebhookWork) :
    Reaches env ⟨s.put (reset d), .pending none id attempt, todo⟩
      (.after todo (s.forEach [id] fun d =>
        dispatchRow env (s.webhook d.webhookId) attempt (reset d))) := by
  refine .head ?_ (reaches_begun env attempt reset hreset hd todo)
  have hid : (reset d).id = id := (hreset d).1.trans (WebhookStore.mem_of_row hd).2
  have hkey : (reset d).id = (beginDispatch attempt.started (reset d)).id := rfl
  unfold WebhookProcess.commit
  dsimp only
  rw [WebhookStore.row_put_self hd hid]
  dsimp only
  rw [WebhookStore.put_put hkey]

theorem reaches_dispatch (env : WebhookEnv) (s : WebhookStore) (id : UUID) (attempt : Attempt)
    (todo : List WebhookWork) :
    Reaches env ⟨s, .idle, .dispatch id attempt :: todo⟩
      (.after todo (dispatchDelivery env id attempt s)) := by
  unfold dispatchDelivery
  cases hd : s.row id with
  | none =>
    rw [WebhookStore.forEach_absent hd]
    refine .single ?_
    simp [WebhookProcess.commit, WebhookWork.start, hd, WebhookProcess.after]
  | some d =>
    refine .head ?_ (reaches_begun env attempt (fun d => d) (fun _ => ⟨rfl, rfl⟩) hd todo)
    simp [WebhookProcess.commit, WebhookWork.start, hd]

theorem reaches_replay (env : WebhookEnv) (s : WebhookStore) (id : UUID) (now : Time)
    (attempt : Attempt) :
    Reaches env ⟨s, .idle, [.replay id now attempt]⟩
      ⟨serveWebhooks env s (.replay id now attempt), .idle, []⟩ := by
  rcases replay_cases env id now attempt s with ⟨hnot, hsame⟩ | ⟨⟨d, hd, hstatus⟩, hreplay⟩
  · rw [hsame]
    refine .single ?_
    cases hd : s.row id with
    | none => simp [WebhookProcess.commit, WebhookWork.start, hd]
    | some d =>
      have hstatus : d.status ≠ .deadLetter := fun hdead => hnot ⟨d, hd, hdead⟩
      simp [WebhookProcess.commit, WebhookWork.start, hd, hstatus]
  · have hreaches := reaches_pending env attempt (resetForReplay now) (fun _ => ⟨rfl, rfl⟩) hd []
    rw [WebhookProcess.after_nil] at hreaches
    rw [hreplay]
    refine .head ?_ hreaches
    simp [WebhookProcess.commit, WebhookWork.start, hd, hstatus]

/-- Of the output of the recovery, the requests. -/
def recoverPosts (env : WebhookEnv) (webhook : Option Webhook) (now : Time) (attempt : Attempt)
    (d : WebhookDelivery) : Batch.Effect WebhookDelivery Post :=
  let effect := recoverRow env webhook now attempt d
  ⟨effect.row, effect.output.filterMap Sum.getLeft?, effect.goesOn⟩

theorem filterMap_counted (effect : Batch.Effect WebhookDelivery Post) :
    (effect.output.map Sum.inl ++ if effect.goesOn then [Sum.inr true] else []).filterMap
        (Sum.getLeft? (α := Post) (β := Bool)) = effect.output := by
  rw [List.filterMap_append, List.filterMap_map]
  have hleft : effect.output.filterMap
      (Sum.getLeft? (α := Post) (β := Bool) ∘ Sum.inl) = effect.output := by
    exact List.filterMap_some
  rw [hleft]
  split
  · simp
  · simp

theorem recoverPosts_eq (env : WebhookEnv) (webhook : Option Webhook) (now : Time)
    (attempt : Attempt) (d : WebhookDelivery) :
    recoverPosts env webhook now attempt d =
      match d.status with
      | .success => { row := d }
      | .deadLetter => dispatchRow env webhook attempt (resetForReplay now d)
      | _ => dispatchRow env webhook attempt (resetForRecovery now d) := by
  unfold recoverPosts recoverRow replayRow
  cases d.status with
  | success => rfl
  | deadLetter => simp only [filterMap_counted]
  | pending => simp only [filterMap_counted]
  | failed => simp only [filterMap_counted]
  | retrying => simp only [filterMap_counted]

theorem WebhookStore.forEach_congr
    {work work' : WebhookDelivery → Batch.Effect WebhookDelivery Post}
    (h : ∀ d, s.row id = some d → work d = work' d) :
    s.forEach [id] work = s.forEach [id] work' := by
  cases hd : s.row id with
  | none => rw [WebhookStore.forEach_absent hd, WebhookStore.forEach_absent hd]
  | some d =>
    rw [WebhookStore.forEach_singleton hd, WebhookStore.forEach_singleton hd, h d hd]

theorem reaches_recover (env : WebhookEnv) (hwf : s.WellFormed) (id : UUID) (now : Time)
    (attempt : Attempt) (todo : List WebhookWork) :
    Reaches env ⟨s, .idle, .recover id now attempt :: todo⟩
      (.after todo (s.forEach [id] fun d =>
        recoverPosts env (s.webhook d.webhookId) now attempt d)) := by
  cases hd : s.row id with
  | none =>
    rw [WebhookStore.forEach_absent hd]
    refine .single ?_
    simp [WebhookProcess.commit, WebhookWork.start, hd, WebhookProcess.after]
  | some d =>
    have hposts := recoverPosts_eq env (s.webhook d.webhookId) now attempt d
    have hreset : ∀ reset : WebhookDelivery → WebhookDelivery,
        (∀ d, (reset d).id = d.id ∧ (reset d).webhookId = d.webhookId) →
        recoverPosts env (s.webhook d.webhookId) now attempt d =
          dispatchRow env (s.webhook d.webhookId) attempt (reset d) →
        Reaches env ⟨s.put (reset d), .pending none id attempt, todo⟩
          (.after todo (s.forEach [id] fun d =>
            recoverPosts env (s.webhook d.webhookId) now attempt d)) := by
      intro reset hkeeps heq
      have hsame : (s.forEach [id] fun d =>
          recoverPosts env (s.webhook d.webhookId) now attempt d) =
          s.forEach [id] fun d => dispatchRow env (s.webhook d.webhookId) attempt (reset d) := by
        refine WebhookStore.forEach_congr ?_
        intro d' hd'
        obtain rfl := Option.some.inj (hd.symm.trans hd')
        exact heq
      rw [hsame]
      exact reaches_pending env attempt reset hkeeps hd todo
    cases hstatus : d.status with
    | success =>
      rw [hstatus] at hposts
      rw [WebhookStore.forEach_singleton hd, hposts, WebhookStore.put_self hwf hd]
      refine .single ?_
      simp [WebhookProcess.commit, WebhookWork.start, hd, hstatus, WebhookProcess.after]
    | deadLetter =>
      rw [hstatus] at hposts
      refine .head ?_ (hreset (resetForReplay now) (fun _ => ⟨rfl, rfl⟩) hposts)
      simp [WebhookProcess.commit, WebhookWork.start, hd, hstatus]
    | pending | failed | retrying =>
      rw [hstatus] at hposts
      refine .head ?_ (hreset (resetForRecovery now) (fun _ => ⟨rfl, rfl⟩) hposts)
      simp [WebhookProcess.commit, WebhookWork.start, hd, hstatus]

theorem reaches_deliver (env : WebhookEnv) (hwf : s.WellFormed) (c : TriggerCall) (w : Webhook)
    (todo : List WebhookWork) :
    Reaches env ⟨s, .idle, .deliver c w :: todo⟩ (.after todo (c.deliverTo env w s)) := by
  unfold TriggerCall.deliverTo
  dsimp only
  cases hurl : (c.fanOut w.id).url with
  | raises =>
    refine .single ?_
    simp [WebhookProcess.commit, WebhookWork.start, hurl, WebhookProcess.after]
  | invalid =>
    refine .single ?_
    simp [WebhookProcess.commit, WebhookWork.start, hurl, WebhookProcess.after]
  | valid =>
    cases hthrottled : c.throttled env w with
    | true =>
      refine .single ?_
      simp [WebhookProcess.commit, WebhookWork.start, hurl, hthrottled, WebhookProcess.after]
    | false =>
      cases hpayload : c.payload env with
      | none =>
        refine .single ?_
        simp [WebhookProcess.commit, WebhookWork.start, hurl, hthrottled, hpayload,
          WebhookProcess.after]
      | some payload =>
        let d := c.newDelivery env w payload
        cases hconflicts : TriggerCall.conflicts (c.newDelivery env w payload) s with
        | true =>
          refine .single ?_
          simp [WebhookProcess.commit, WebhookWork.start, hurl, hthrottled, hpayload, hconflicts,
            WebhookProcess.after]
        | false =>
          have hsupported : validatePayloadSchemaVersion webhookSchemaVersion c.event = none := by
            cases c.event <;> decide
          let inserted : WebhookStore := { s with deliveries := s.deliveries ++ [d] }
          have hwf' : inserted.WellFormed := insert_wellFormed hwf hconflicts
          have hd : inserted.row d.id = some d :=
            WebhookStore.row_of_mem hwf' (List.mem_append_right _ (List.mem_singleton_self d))
          have hreaches := reaches_pending env (c.fanOut w.id).attempt (fun d => d)
            (fun _ => ⟨rfl, rfl⟩) hd todo
          rw [WebhookStore.put_self hwf' hd] at hreaches
          dsimp only
          rw [if_neg Bool.false_ne_true, if_neg (Bool.eq_false_iff.mp hconflicts), dispatchNew_eq]
          refine .head ?_ hreaches
          simp [WebhookProcess.commit, WebhookWork.start, hurl, hthrottled, hpayload, hconflicts,
            hsupported, inserted, d]

theorem reaches_forEach {ids : List UUID} {item : UUID → WebhookWork}
    {work : WebhookDelivery → Batch.Effect WebhookDelivery Post} {webhooks : List Webhook}
    (hitem : ∀ (s : WebhookStore) (id : UUID) (todo : List WebhookWork),
      s.WellFormed → s.webhooks = webhooks →
        Reaches env ⟨s, .idle, item id :: todo⟩ (.after todo (s.forEach [id] work)))
    (hwf : s.WellFormed) (hwebhooks : s.webhooks = webhooks) :
    Reaches env ⟨s, .idle, ids.map item⟩ ⟨(s.forEach ids work).2, .idle, []⟩ := by
  induction ids generalizing s with
  | nil =>
    have hnothing : (s.forEach [] work).2 = s := by
      simp [WebhookStore.forEach, Batch.forEach]
    rw [hnothing]
    exact .refl
  | cons id ids ih =>
    have hfirst := hitem s id (ids.map item) hwf hwebhooks
    have hwf' := WebhookStore.forEach_wellFormed hwf [id] work
    have hkept : (s.forEach [id] work).2.webhooks = webhooks := hwebhooks
    rw [WebhookStore.forEach_cons]
    generalize s.forEach [id] work = outcome at hfirst hwf' hkept ⊢
    obtain ⟨_ | _, s'⟩ := outcome
    · exact hfirst.trans (ih hwf' hkept)
    · exact hfirst

theorem reaches_deliverToEach (c : TriggerCall) (webhooks : List Webhook) (hwf : s.WellFormed) :
    Reaches env ⟨s, .idle, webhooks.map (.deliver c)⟩
      ⟨(c.deliverToEach env webhooks s).2, .idle, []⟩ := by
  induction webhooks generalizing s with
  | nil => exact .refl
  | cons w webhooks ih =>
    have hfirst := reaches_deliver env hwf c w (webhooks.map (.deliver c))
    have hwf' := deliverTo_wellFormed env hwf c w
    unfold TriggerCall.deliverToEach
    generalize c.deliverTo env w s = outcome at hfirst hwf' ⊢
    obtain ⟨_ | _, s'⟩ := outcome
    · exact hfirst.trans (ih hwf')
    · exact hfirst

theorem reaches_dispatchOnly (env : WebhookEnv) (s : WebhookStore) (id : UUID) (attempt : Attempt) :
    Reaches env ⟨s, .idle, [.dispatch id attempt]⟩
      ⟨(dispatchDelivery env id attempt s).2, .idle, []⟩ := by
  have hreaches := reaches_dispatch env s id attempt []
  rwa [WebhookProcess.after_nil] at hreaches

/-- **A call that runs to its end** leaves what the operation leaves. -/
theorem commits_serve (hwf : s.WellFormed) (op : WebhookOperation) :
    Reaches env ⟨s, .idle, op.work env s⟩ ⟨serveWebhooks env s op, .idle, []⟩ := by
  cases op with
  | trigger call =>
    unfold serveWebhooks
    dsimp only
    rw [triggerSlaViolationWebhooks_snd]
    exact reaches_deliverToEach call _ hwf
  | dispatchTask deliveryId attempt => exact reaches_dispatchOnly env s deliveryId attempt
  | partitionedTask deliveryId partitionId backpressured attempt =>
    unfold WebhookOperation.work serveWebhooks
    dsimp only
    split
    · exact reaches_dispatchOnly env s deliveryId attempt
    · exact .refl
  | retryPending now attempts =>
    refine reaches_forEach (fun s' id todo _ hwebhooks => ?_) hwf rfl
    -- the loop looks a webhook up when it comes to its delivery; no commit changes webhooks
    have hsame : (s'.forEach [id] fun d =>
        dispatchRow env (s.webhook d.webhookId) (attempts d.id) d) =
        dispatchDelivery env id (attempts id) s' := by
      refine WebhookStore.forEach_congr ?_
      intro d hd
      unfold WebhookStore.webhook
      rw [(WebhookStore.mem_of_row hd).2, hwebhooks]
    rw [hsame]
    exact reaches_dispatch env s' id (attempts id) todo
  | retry webhookId deliveryId attempt =>
    rcases retryDelivery_cases env webhookId deliveryId attempt s with
      ⟨hnot, hsame⟩ | ⟨⟨d, hwebhook, hd, hof, hstatus⟩, hserve⟩
    · have hwork : (WebhookOperation.retry webhookId deliveryId attempt).work env s = [] := by
        unfold WebhookOperation.work
        dsimp only
        split
        · rename_i w d hwebhook hd
          rw [if_neg]
          rintro ⟨hof, hstatus⟩
          exact hnot ⟨d, by rw [hwebhook]; rfl, hd, hof, hstatus⟩
        · rfl
      rw [hsame, hwork]
    · have hwork : (WebhookOperation.retry webhookId deliveryId attempt).work env s =
          [.dispatch deliveryId attempt] := by
        obtain ⟨w, hw⟩ := Option.isSome_iff_exists.mp hwebhook
        simp [WebhookOperation.work, hw, hd, hof, hstatus]
      rw [hserve, hwork]
      exact reaches_dispatchOnly env s deliveryId attempt
  | replay deliveryId now attempt => exact reaches_replay env s deliveryId now attempt
  | recover startTime endTime now attempts =>
    unfold WebhookOperation.work serveWebhooks recoverDeliveriesInWindow
    dsimp only
    split
    · exact .refl
    -- the posts are what the loop puts out, without the marks of what it has replayed and skipped
    · have hposts : ∀ ids, (s.forEach ids fun d =>
          recoverPosts env (s.webhook d.webhookId) now (attempts d.id) d).2 =
            let outcome := Batch.forEach WebhookDelivery.id
              (fun d => recoverRow env (s.webhook d.webhookId) now (attempts d.id) d) ids
              s.deliveries
            { s with
              deliveries := outcome.rows
              sent := s.sent ++ outcome.output.filterMap Sum.getLeft? } := by
        intro ids
        unfold WebhookStore.forEach recoverPosts
        dsimp only
        rw [Batch.forEach_filterMap]
      have hitems : (deliveriesInWindow startTime endTime s).map
          (fun d => WebhookWork.recover d.id now (attempts d.id)) =
            ((deliveriesInWindow startTime endTime s).map WebhookDelivery.id).map
              fun id => .recover id now (attempts id) := by
        rw [List.map_map]
        rfl
      rw [← hposts, hitems]
      refine reaches_forEach (fun s' id todo hwf' hwebhooks => ?_) hwf rfl
      have hsame : (s'.forEach [id] fun d =>
          recoverPosts env (s.webhook d.webhookId) now (attempts d.id) d) =
            s'.forEach [id] fun d =>
              recoverPosts env (s'.webhook d.webhookId) now (attempts id) d := by
        refine WebhookStore.forEach_congr ?_
        intro d hd
        unfold WebhookStore.webhook
        rw [(WebhookStore.mem_of_row hd).2, hwebhooks]
      rw [hsame]
      exact reaches_recover env hwf' id now (attempts id) todo

end NocIq
