import NocIq.Lib.TtlCache
import NocIq.Webhook.Operations

/-!
# NocIq — the cache of the subscriptions

`get_active_webhooks_for_event` of `app/services/webhook_service.py` and `update_webhook` of
`app/api/v1/endpoints/webhooks.py`, step by step: a lookup queries the rows, and then reads the
cache for each of them, or parses the loaded row and stores what it has parsed; an update loads the
row, commits it, and then invalidates. The calls run in any number of processes, which share the
table and have a cache each. A lookup whose query is refused raises, and finds no webhook.
-/

namespace NocIq

/-! ## A lookup -/

abbrev EventsCache := TtlCache.Cache UUID (List String) Time

/-- `_webhook_events_cache = TTLCache(ttl_seconds=60)`. -/
def eventsTtl : Int := 60000000

/-- A call after its query. `todo` are the rows that the loop has not finished; if `missed`, the
cache has had nothing for the first of them. `completion` says whether the query has raised. -/
structure LookupCall where
  event : WebhookEvent
  completion : Completion := .returned
  todo : List Webhook
  missed : Bool := false
  result : List Webhook := []
  deriving DecidableEq, Repr

namespace LookupCall

def start (containmentOnText : Bool) (event : WebhookEvent) (webhooks : List Webhook) :
    LookupCall :=
  match queryWebhooks containmentOnText event webhooks with
  | none => { event, completion := .raised, todo := [] }
  | some rows => { event, todo := rows }

/-- The end of the loop body, with the events of the webhook. -/
def check (webhook : Webhook) (todo : List Webhook) (cachedEvents : List String)
    (call : LookupCall) : LookupCall :=
  { call with
    todo
    missed := false
    result := if call.event.value ∈ cachedEvents then call.result ++ [webhook] else call.result }

/-- One access to the cache. -/
def step (now : Time) (cache : EventsCache) (call : LookupCall) : EventsCache × LookupCall :=
  match call.todo with
  | [] => (cache, call)
  | webhook :: todo =>
    if call.missed then
      (TtlCache.set (now + eventsTtl) webhook.id webhook.events cache,
        call.check webhook todo webhook.events)
    else
      let entry := TtlCache.get now webhook.id cache
      match entry.1 with
      | some cachedEvents => (entry.2, call.check webhook todo cachedEvents)
      | none => (entry.2, { call with missed := true })

variable {now : Time} {cache : EventsCache} {call : LookupCall} {webhook : Webhook}
  {todo : List Webhook}

theorem step_hit (htodo : call.todo = webhook :: todo) (hmissed : call.missed = false)
    {events : List String} (hlive : TtlCache.live now cache webhook.id = some events) :
    call.step now cache =
      ((TtlCache.get now webhook.id cache).2, call.check webhook todo events) := by
  have hget : (TtlCache.get now webhook.id cache).1 = some events := TtlCache.get_fst.trans hlive
  simp only [step, htodo, hmissed, hget, Bool.false_eq_true, if_false]

theorem step_miss (htodo : call.todo = webhook :: todo) (hmissed : call.missed = false)
    (hlive : TtlCache.live now cache webhook.id = none) :
    call.step now cache =
      ((TtlCache.get now webhook.id cache).2, { call with missed := true }) := by
  have hget : (TtlCache.get now webhook.id cache).1 = none := TtlCache.get_fst.trans hlive
  simp only [step, htodo, hmissed, hget, Bool.false_eq_true, if_false]

theorem step_store (htodo : call.todo = webhook :: todo) (hmissed : call.missed = true) :
    call.step now cache =
      (TtlCache.set (now + eventsTtl) webhook.id webhook.events cache,
        call.check webhook todo webhook.events) := by
  simp only [step, htodo, hmissed, if_true]

theorem live_step {id : UUID} {events : List String}
    (h : TtlCache.live now (call.step now cache).1 id = some events) :
    TtlCache.live now cache id = some events ∨
      (call.missed = true ∧
        ∃ loaded ∈ call.todo.head?, id = loaded.id ∧ events = loaded.events) := by
  cases htodo : call.todo with
  | nil =>
    have hstep : call.step now cache = (cache, call) := by
      simp only [step, htodo]
    rw [hstep] at h
    exact .inl h
  | cons webhook todo =>
    cases hmissed : call.missed with
    | true =>
      rw [step_store htodo hmissed] at h
      rcases TtlCache.live_set h with ⟨hid, hevents⟩ | hold
      · exact .inr ⟨rfl, webhook, rfl, hid, hevents⟩
      · exact .inl hold
    | false =>
      left
      cases hlive : TtlCache.live now cache webhook.id with
      | none =>
        rw [step_miss htodo hmissed hlive] at h
        exact TtlCache.live_get.symm.trans h
      | some cachedEvents =>
        rw [step_hit htodo hmissed hlive] at h
        exact TtlCache.live_get.symm.trans h

end LookupCall

/-! ## An update -/

/-- The fields that are sent, the URL as text. -/
structure WebhookUpdate where
  url : Option String := none
  secret : Option String := none
  events : Option (List WebhookEvent) := none
  maxRetries : Option Int := none
  isActive : Option Bool := none
  deriving DecidableEq, Repr

namespace WebhookUpdate

/-- The attributes of the loaded row, as the endpoint sets them. -/
def assign (payload : WebhookUpdate) (webhook : Webhook) : Webhook :=
  { webhook with
    url := payload.url.getD webhook.url
    secret := payload.secret.or webhook.secret
    events := (payload.events.map (·.map WebhookEvent.value)).getD webhook.events
    maxRetries := payload.maxRetries.getD webhook.maxRetries
    isActive := payload.isActive.getD webhook.isActive }

/-- A column is written if the value that is assigned differs from the one that was loaded. -/
def column {α : Type} [DecidableEq α] (loaded assigned stored : α) : α :=
  if assigned = loaded then stored else assigned

/-- `db.commit()`, on the row as it is stored by then. -/
def write (payload : WebhookUpdate) (loaded stored : Webhook) : Webhook :=
  let assigned := payload.assign loaded
  { stored with
    url := column loaded.url assigned.url stored.url
    secret := column loaded.secret assigned.secret stored.secret
    events := column loaded.events assigned.events stored.events
    maxRetries := column loaded.maxRetries assigned.maxRetries stored.maxRetries
    isActive := column loaded.isActive assigned.isActive stored.isActive }

/-- `payload.events is not None or payload.is_active is not None`. -/
def invalidates (payload : WebhookUpdate) : Bool :=
  payload.events.isSome || payload.isActive.isSome

end WebhookUpdate

inductive UpdateStage where
  | loaded (row : Webhook)
  | committed
  | returned
  deriving DecidableEq, Repr

/-- A call that has found its webhook. -/
structure UpdateCall where
  webhookId : UUID
  payload : WebhookUpdate
  stage : UpdateStage
  deriving DecidableEq, Repr

/-- The call has committed, and is about to invalidate the entry of the webhook. -/
def UpdateCall.pends (id : UUID) (call : UpdateCall) : Bool :=
  decide (call.webhookId = id) && decide (call.stage = .committed) && call.payload.invalidates

def UpdateCall.returnedEvents (id : UUID) (call : UpdateCall) : Bool :=
  decide (call.webhookId = id) && decide (call.stage = .returned) && call.payload.events.isSome

/-! ## The system -/

/-- What is remembered of the start of a lookup, and read by no step: the table, and the webhooks of
which an update has returned by then while none is under way before the lookup ends. -/
structure LookupStart where
  webhooks : List Webhook
  settled : UUID → Bool

inductive CacheCall where
  | lookup (call : LookupCall) (start : LookupStart)
  | update (call : UpdateCall)

/-- The calls, each with its process. `containmentOnText`: the database evaluates the `@>` of the
query on the column. -/
structure CachingProcesses where
  containmentOnText : Bool
  webhooks : List Webhook
  caches : Nat → EventsCache := fun _ _ => none
  now : Time := 0
  calls : List (Nat × CacheCall) := []

inductive CacheEvent where
  | elapse (microseconds : Nat)
  | lookup (process : Nat) (event : WebhookEvent)
  | update (process : Nat) (webhookId : UUID) (payload : WebhookUpdate)
  | advance (k : Nat)

def CacheCall.pends (id : UUID) : CacheCall → Bool
  | .lookup _ _ => false
  | .update call => call.pends id

def CacheCall.returnedEvents (id : UUID) : CacheCall → Bool
  | .lookup _ _ => false
  | .update call => call.returnedEvents id

/-- An update of the webhook commits. -/
def CacheCall.overtake (id : UUID) : CacheCall → CacheCall
  | .lookup call start =>
    if call.todo = [] then .lookup call start
    else .lookup call { start with settled := Function.update start.settled id false }
  | .update call => .update call

namespace CachingProcesses

def settled (t : CachingProcesses) (id : UUID) : Bool :=
  (t.calls.any fun c => c.2.returnedEvents id) && !t.calls.any fun c => c.2.pends id

def stepLookup (t : CachingProcesses) (k process : Nat) (call : LookupCall) (start : LookupStart) :
    CachingProcesses :=
  let after := call.step t.now (t.caches process)
  { t with
    caches := Function.update t.caches process after.1
    calls := t.calls.set k (process, .lookup after.2 start) }

/-- The calls after a commit, which concerns the lookups if it may change a subscription. -/
def overtaken (t : CachingProcesses) (call : UpdateCall) : List (Nat × CacheCall) :=
  if call.payload.invalidates then t.calls.map fun c => (c.1, c.2.overtake call.webhookId)
  else t.calls

def stepUpdate (t : CachingProcesses) (k process : Nat) (call : UpdateCall) : CachingProcesses :=
  match call.stage with
  | .loaded row =>
    { t with
      webhooks := t.webhooks.map fun w =>
        if w.id = call.webhookId then call.payload.write row w else w
      calls := (t.overtaken call).set k (process, .update { call with stage := .committed }) }
  | .committed =>
    { t with
      caches :=
        if call.payload.invalidates then
          Function.update t.caches process
            (TtlCache.invalidate call.webhookId (t.caches process))
        else t.caches
      calls := t.calls.set k (process, .update { call with stage := .returned }) }
  | .returned => t

/-- An update whose webhook does not exist returns 404 at once. -/
def step (t : CachingProcesses) : CacheEvent → CachingProcesses
  | .elapse microseconds => { t with now := t.now + microseconds }
  | .lookup process event =>
    let call := LookupCall.start t.containmentOnText event t.webhooks
    { t with calls := t.calls ++ [(process, .lookup call ⟨t.webhooks, t.settled⟩)] }
  | .update process webhookId payload =>
    match t.webhooks.find? fun w => decide (w.id = webhookId) with
    | none => t
    | some row =>
      { t with calls := t.calls ++ [(process, .update ⟨webhookId, payload, .loaded row⟩)] }
  | .advance k =>
    match t.calls[k]? with
    | none => t
    | some (process, .lookup call start) => t.stepLookup k process call start
    | some (process, .update call) => t.stepUpdate k process call

abbrev Run := Runs.Run fun (t : CachingProcesses) e u => t.step e = u

/-- A lookup that has ended, and that started after an update had returned, has the webhook exactly
if it is active and subscribed in the row of that time. -/
def Coherent (t : CachingProcesses) : Prop :=
  ∀ process call start, (process, CacheCall.lookup call start) ∈ t.calls → call.todo = [] →
    ∀ id, start.settled id = true →
      (id ∈ call.result.map Webhook.id ↔
        ∃ w ∈ start.webhooks, w.id = id ∧ w.isActive = true ∧ call.event.value ∈ w.events)

/-- The events have all that an active row has. -/
def Covers (webhook : Webhook) (events : List String) : Prop :=
  webhook.isActive = true → webhook.events ⊆ events

instance (webhook : Webhook) (events : List String) : Decidable (Covers webhook events) :=
  inferInstanceAs (Decidable (_ → ∀ e ∈ webhook.events, e ∈ events))

/-- The process is about to invalidate its entry of the webhook. -/
def Pending (t : CachingProcesses) (process : Nat) (id : UUID) : Prop :=
  ∃ c ∈ t.calls, c.1 = process ∧ c.2.pends id = true

/-- The query of a lookup is evaluated, unless no updated webhook is active and subscribed; what is
stored covers the row by now, or is about to be invalidated; and what is committed is covered by the
entries of the other processes, or they are about to be invalidated. -/
def KeepsCovered (t : CachingProcesses) : CacheEvent → Prop
  | .lookup _ event =>
    t.containmentOnText = true ∨
      ∀ w ∈ t.webhooks, t.settled w.id = true → w.isActive = true → event.value ∉ w.events
  | .advance k =>
    match t.calls[k]? with
    | none => True
    | some (process, .lookup call _) =>
      call.missed = true → ∀ loaded ∈ call.todo.head?, ∀ w ∈ t.webhooks, w.id = loaded.id →
        t.Pending process w.id ∨ Covers w loaded.events
    | some (process, .update call) =>
      ∀ row, call.stage = .loaded row → ∀ w ∈ t.webhooks, w.id = call.webhookId →
        ∀ other, other ≠ process → ∀ events,
          TtlCache.live t.now (t.caches other) w.id = some events →
            t.Pending other w.id ∨ Covers (call.payload.write row w) events
  | _ => True

end CachingProcesses

end NocIq
