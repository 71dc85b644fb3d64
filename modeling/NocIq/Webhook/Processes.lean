import NocIq.Webhook.Commits
import NocIq.Webhook.Recovery

/-!
# NocIq — calls in several processes

Any number of calls on deliveries, each in a process of its own, interleaved commit by commit. What
identifies a delivery is written when it is created and never again, so the identities of the stored
deliveries are a list that commits append to.

* **`identities_commit`** — a commit appends what it creates to the identities, and nothing else.
* **`run_of_serve`** — a call that is served alone is a run of the system.
-/

namespace NocIq

variable {env : WebhookEnv} {s s' : WebhookStore} {p q : WebhookProcess} {id : UUID}
  {d d' : WebhookDelivery}

/-! ## Identities -/

/-- The columns that are written when a delivery is created. -/
structure DeliveryIdentity where
  id : UUID
  webhookId : UUID
  event : WebhookEvent
  payload : String
  idempotencyKey : String
  eventTimestamp : Time
  deriving DecidableEq, Repr

def WebhookDelivery.identity (d : WebhookDelivery) : DeliveryIdentity where
  id := d.id
  webhookId := d.webhookId
  event := d.event
  payload := d.payload
  idempotencyKey := d.idempotencyKey
  eventTimestamp := d.eventTimestamp

def WebhookStore.identities (s : WebhookStore) : List DeliveryIdentity :=
  s.deliveries.map WebhookDelivery.identity

theorem SameIdentity.identity_eq (h : SameIdentity d d') (hid : d'.id = d.id) :
    d'.identity = d.identity := by
  unfold WebhookDelivery.identity
  rw [hid, h.webhookId, h.event, h.payload, h.idempotencyKey, h.eventTimestamp]

theorem WebhookStore.wellFormed_iff (s : WebhookStore) :
    s.WellFormed ↔ (s.identities.map DeliveryIdentity.id).Nodup := by
  unfold WebhookStore.identities
  rw [List.map_map]
  exact Iff.rfl

theorem SameButResponse.identity_eq (h : SameButResponse d d') : d'.identity = d.identity :=
  h.identity.identity_eq h.id

theorem identity_settleFailure (settings : WebhookSettings) (webhook : Webhook) (now : Time)
    (d : WebhookDelivery) : (settleFailure settings webhook now d).identity = d.identity := by
  unfold settleFailure
  split
  · rfl
  · split
    · rfl
    · rfl

theorem identity_finishDispatch {settings : WebhookSettings} {webhook : Webhook}
    {attempt : Attempt} (h : finishDispatch settings webhook attempt d = some d') :
    d'.identity = d.identity := by
  obtain ⟨result, hresult, rfl⟩ := Option.map_eq_some_iff.mp h
  have houtcome : attempt.outcome ≠ .raised := by
    intro hraised
    rw [hraised] at hresult
    cases hresult
  obtain ⟨d₁, hrecord, hsame, -⟩ := attemptDelivery_eq houtcome d
  obtain rfl := Option.some.inj (hrecord.symm.trans hresult)
  split
  · exact hsame.identity_eq
  · exact (identity_settleFailure settings webhook _ d₁).trans hsame.identity_eq

theorem identity_settleDispatch (env : WebhookEnv) (webhook : Option Webhook) (attempt : Attempt)
    (d : WebhookDelivery) : (settleDispatch env webhook attempt d).row.identity = d.identity := by
  unfold settleDispatch
  split
  · rfl
  · split
    · rfl
    · split
      · rfl
      · rename_i hfinish
        exact identity_finishDispatch hfinish

theorem identities_put (d' : WebhookDelivery) (hwf : s.WellFormed) (hd : s.row id = some d)
    (h : d'.identity = d.identity) : (s.put d').identities = s.identities := by
  have hid : d'.id = d.id := congrArg DeliveryIdentity.id h
  unfold WebhookStore.identities WebhookStore.put Batch.put
  rw [List.map_map]
  apply List.map_congr_left
  intro r hr
  show WebhookDelivery.identity (if r.id = d'.id then d' else r) = r.identity
  split
  · rename_i heq
    -- the row of this id is `d`
    have hrow := WebhookStore.row_of_mem hwf hr
    rw [heq, hid, (WebhookStore.mem_of_row hd).2, hd] at hrow
    rw [← Option.some.inj hrow]
    exact h
  · rfl

/-! ## One commit -/

/-- The delivery that the first commit of an item creates. -/
def WebhookWork.created (env : WebhookEnv) (s : WebhookStore) : WebhookWork → Option WebhookDelivery
  | .deliver c webhook => c.created env webhook s
  | _ => none

def WebhookProcess.created (env : WebhookEnv) (p : WebhookProcess) : Option WebhookDelivery :=
  match p.stage, p.todo with
  | .idle, item :: _ => item.created env p.store
  | _, _ => none

theorem start_deliver (env : WebhookEnv) (c : TriggerCall) (webhook : Webhook) (s : WebhookStore) :
    match c.created env webhook s with
    | none =>
      (WebhookWork.deliver c webhook).start env s = none ∨
        (WebhookWork.deliver c webhook).start env s = some (s, .idle)
    | some d =>
      ∃ stage, (WebhookWork.deliver c webhook).start env s =
        some ({ s with deliveries := s.deliveries ++ [d] }, stage) := by
  unfold WebhookWork.start TriggerCall.created
  dsimp only
  cases hurl : (c.fanOut webhook.id).url with
  | raises => simp
  | invalid => simp
  | valid =>
    cases hthrottled : c.throttled env webhook with
    | true => simp
    | false =>
      cases hpayload : c.payload env with
      | none => simp
      | some payload =>
        cases hconflicts : TriggerCall.conflicts (c.newDelivery env webhook payload) s with
        | true => simp [Option.filter, hconflicts]
        | false => simp [Option.filter, hconflicts]

theorem identities_start (env : WebhookEnv) (hwf : s.WellFormed) (item : WebhookWork) :
    match item.start env s with
    | none => item.created env s = none
    | some (s', _) =>
      s'.identities = s.identities ++ (item.created env s).toList.map WebhookDelivery.identity := by
  cases item with
  | deliver c w =>
    have hstart := start_deliver env c w s
    show match (WebhookWork.deliver c w).start env s with
      | none => c.created env w s = none
      | some (s', _) =>
        s'.identities = s.identities ++ (c.created env w s).toList.map WebhookDelivery.identity
    cases hcreated : c.created env w s with
    | none =>
      rw [hcreated] at hstart
      rcases hstart with hnone | hsame
      · rw [hnone]
      · rw [hsame]
        simp
    | some d =>
      rw [hcreated] at hstart
      obtain ⟨stage, hnew⟩ := hstart
      rw [hnew]
      simp [WebhookStore.identities]
  | dispatch deliveryId attempt =>
    unfold WebhookWork.start WebhookWork.created
    dsimp only
    cases hd : s.row deliveryId with
    | none => simp
    | some d => simpa using identities_put (beginDispatch attempt.started d) hwf hd rfl
  | replay deliveryId now attempt =>
    unfold WebhookWork.start WebhookWork.created
    dsimp only
    cases hd : s.row deliveryId with
    | none => simp
    | some d =>
      by_cases hstatus : d.status = .deadLetter
      · simpa [hstatus] using identities_put (resetForReplay now d) hwf hd rfl
      · simp [hstatus]
  | recover deliveryId now attempt =>
    unfold WebhookWork.start WebhookWork.created
    dsimp only
    cases hd : s.row deliveryId with
    | none => simp
    | some d =>
      dsimp only
      cases d.status with
      | success => simp
      | deadLetter => simpa using identities_put (resetForReplay now d) hwf hd rfl
      | pending | failed | retrying =>
        simpa using identities_put (resetForRecovery now d) hwf hd rfl

/-- **A commit appends what it creates** to the identities, and changes none of them. -/
theorem identities_commit (env : WebhookEnv) (p : WebhookProcess) (hwf : p.store.WellFormed) :
    (p.commit env).store.identities =
      p.store.identities ++ (p.created env).toList.map WebhookDelivery.identity := by
  unfold WebhookProcess.commit WebhookProcess.created
  cases p.stage with
  | idle =>
    cases p.todo with
    | nil => simp
    | cons item todo =>
      have hstart := identities_start env hwf item
      dsimp only
      cases hitem : item.start env p.store with
      | none =>
        rw [hitem] at hstart
        simp [hstart]
      | some result =>
        rw [hitem] at hstart
        exact hstart
  | pending reason deliveryId attempt =>
    dsimp only
    cases hd : p.store.row deliveryId with
    | none => simp
    | some d =>
      cases reason with
      | some reason =>
        simpa using identities_put (TriggerCall.schemaDeadLettered attempt.started reason d) hwf hd
          rfl
      | none => simpa using identities_put (beginDispatch attempt.started d) hwf hd rfl
  | begun deliveryId attempt =>
    dsimp only
    cases hd : p.store.row deliveryId with
    | none => simp
    | some d =>
      have hput := identities_put _ hwf hd
        (identity_settleDispatch env (p.store.webhook d.webhookId) attempt d)
      dsimp only
      split
      · simpa [WebhookStore.identities] using hput
      · simpa [WebhookStore.identities] using hput

theorem todo_commit (env : WebhookEnv) (p : WebhookProcess) :
    (p.commit env).todo = p.todo ∨ (p.commit env).todo = p.todo.tail ∨ (p.commit env).todo = [] := by
  unfold WebhookProcess.commit
  cases p.stage with
  | idle =>
    cases htodo : p.todo with
    | nil => exact .inl htodo
    | cons item todo =>
      dsimp only
      cases item.start env p.store with
      | none => exact .inr (.inr rfl)
      | some result => exact .inr (.inl rfl)
  | pending reason deliveryId attempt =>
    dsimp only
    cases p.store.row deliveryId with
    | none => exact .inl rfl
    | some d =>
      cases reason with
      | some reason => exact .inl rfl
      | none => exact .inl rfl
  | begun deliveryId attempt =>
    dsimp only
    cases p.store.row deliveryId with
    | none => exact .inl rfl
    | some d =>
      dsimp only
      split
      · exact .inl rfl
      · exact .inr (.inr rfl)

theorem start_keeps {item : WebhookWork} {stage : WebhookStage}
    (h : item.start env s = some (s', stage)) : s'.webhooks = s.webhooks ∧ s'.sent = s.sent := by
  cases WebhookWork.starts_of_start h with
  | skipped => exact ⟨rfl, rfl⟩
  | created _ _ => exact ⟨rfl, rfl⟩
  | reset _ _ _ => exact ⟨rfl, rfl⟩
  | began _ => exact ⟨rfl, rfl⟩

theorem webhooks_commit (env : WebhookEnv) (p : WebhookProcess) :
    (p.commit env).store.webhooks = p.store.webhooks := by
  unfold WebhookProcess.commit
  cases p.stage with
  | idle =>
    cases p.todo with
    | nil => rfl
    | cons item todo =>
      dsimp only
      cases hitem : item.start env p.store with
      | none => rfl
      | some result => exact (start_keeps hitem).1
  | pending reason deliveryId attempt =>
    dsimp only
    cases p.store.row deliveryId with
    | none => rfl
    | some d => cases reason <;> rfl
  | begun deliveryId attempt =>
    dsimp only
    cases p.store.row deliveryId with
    | none => rfl
    | some d =>
      dsimp only
      split
      · rfl
      · rfl

/-! ## The system -/

/-- Where a call stands, and what it has still to do. -/
structure ServedCall where
  stage : WebhookStage := .idle
  todo : List WebhookWork

/-- The database, and the calls so far, each in a process of its own. `origin` is the call that has
created a delivery. -/
structure WebhookProcesses where
  store : WebhookStore
  calls : List ServedCall := []
  origin : UUID → Option Nat := fun _ => none

def WebhookProcesses.process (s : WebhookProcesses) (c : ServedCall) : WebhookProcess where
  store := s.store
  stage := c.stage
  todo := c.todo

inductive ProcessesEvent where
  | call (op : WebhookOperation)
  | commit (k : Nat)
  | crash (k : Nat)

def WebhookProcesses.step (env : WebhookEnv) (s : WebhookProcesses) :
    ProcessesEvent → WebhookProcesses
  | .call op => { s with calls := s.calls ++ [{ todo := op.work env s.store }] }
  | .commit k =>
    match s.calls[k]? with
    | none => s
    | some c =>
      let p := (s.process c).commit env
      { store := p.store
        calls := s.calls.set k { stage := p.stage, todo := p.todo }
        origin :=
          match (s.process c).created env with
          | none => s.origin
          | some d => Function.update s.origin d.id (some k) }
  | .crash k => { s with calls := s.calls.set k { todo := [] } }

abbrev ProcessesRun (env : WebhookEnv) :=
  Runs.Run fun (s : WebhookProcesses) e s' => s.step env e = s'

variable {t u : WebhookProcesses} {k : Nat}

theorem step_commit {c : ServedCall} (h : t.calls[k]? = some c) :
    t.step env (.commit k) =
      let p := (t.process c).commit env
      { store := p.store
        calls := t.calls.set k { stage := p.stage, todo := p.todo }
        origin :=
          match (t.process c).created env with
          | none => t.origin
          | some d => Function.update t.origin d.id (some k) } := by
  show (match t.calls[k]? with | none => t | some c => _) = _
  rw [h]

theorem run_of_reaches (hreaches : Reaches env p q) {c : ServedCall} (hcall : t.calls[k]? = some c)
    (hp : t.process c = p) :
    ∃ steps u, ProcessesRun env t steps u ∧ u.store = q.store ∧
      u.calls[k]? = some { stage := q.stage, todo := q.todo } := by
  induction hreaches with
  | refl =>
    rw [← hp]
    exact ⟨[], t, .nil, rfl, hcall⟩
  | @tail q r _ hcommit ih =>
    obtain ⟨steps, u, hrun, hstore, hu⟩ := ih
    have hprocess : u.process { stage := q.stage, todo := q.todo } = q := by
      unfold WebhookProcesses.process
      rw [hstore]
    refine ⟨steps ++ [(u, .commit k)], u.step env (.commit k), .snoc hrun rfl, ?_, ?_⟩
    · rw [step_commit hu, hprocess, hcommit]
    · rw [step_commit hu, hprocess, hcommit]
      show (u.calls.set k { stage := r.stage, todo := r.todo })[k]? = _
      obtain ⟨hlt, -⟩ := List.getElem?_eq_some_iff.mp hu
      rw [List.getElem?_set_self hlt]

/-- **A call that is served alone** is a run of the system. -/
theorem run_of_serve (hwf : t.store.WellFormed) (op : WebhookOperation) :
    ∃ steps u, ProcessesRun env t steps u ∧ u.store = serveWebhooks env t.store op := by
  let called := t.step env (.call op)
  have hcall : called.calls[t.calls.length]? = some { todo := op.work env t.store } := by
    show (t.calls ++ [_])[t.calls.length]? = _
    simp
  obtain ⟨steps, u, hrun, hstore, -⟩ := run_of_reaches (commits_serve hwf op) hcall rfl
  have hfirst : ProcessesRun env t [(t, .call op)] called := .snoc .nil rfl
  exact ⟨_, u, hfirst.trans hrun, hstore⟩

/-- Two deliveries to replay in the window from 10 to 30, a delivered one, and one outside of it. -/
def interruptedWindow : WebhookStore where
  webhooks := [signedWebhook]
  deliveries := [storedDelivery 4 5 .deadLetter, storedDelivery 5 10 .success,
    storedDelivery 6 20 .deadLetter, storedDelivery 7 30 .retrying]

theorem recovery_alone :
    let op : WebhookOperation := .recover 10 30 50 fun _ => answered 200
    ∃ steps u, ProcessesRun unsignedEnv { store := interruptedWindow } steps u ∧
      u.store = serveWebhooks unsignedEnv interruptedWindow op :=
  run_of_serve (t := { store := interruptedWindow })
    (by unfold WebhookStore.WellFormed; decide) _

end NocIq
