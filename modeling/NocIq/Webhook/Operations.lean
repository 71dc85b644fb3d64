import Mathlib.Data.List.Sort
import NocIq.Lib.Runs
import NocIq.Webhook.Dispatch

/-!
# NocIq — what dispatches deliveries

`trigger_sla_violation_webhooks`, `retry_pending_deliveries`, `replay_dead_letter_delivery` and
`recover_deliveries_in_window` of `app/services/webhook_service.py`, the two Celery tasks that
dispatch a delivery, the endpoint `retry_delivery`, and the system of all of them.

Name resolution, backpressure, the subscription cache and the receivers answer as they like: each
operation carries their answers. The query of the subscriptions applies `@>` to a TEXT column; a
database without that operator refuses it, and the call raises before its loop.
-/

namespace NocIq

/-! ## `trigger_sla_violation_webhooks` -/

def webhookSchemaVersion : String := "1"

def supportedSchemaVersions : List (String × List String) :=
  [("1", ["sla.violation", "sla.warning", "sla.resolved"])]

/-- The reason to dead-letter the payload, if there is one. -/
def validatePayloadSchemaVersion (schemaVersion : String) (event : WebhookEvent) : Option String :=
  match supportedSchemaVersions.lookup schemaVersion with
  | none => some "unknown_schema_version"
  | some compatibleEvents =>
    if event.value ∈ compatibleEvents then none else some "incompatible_event_type"

/-- What `validate_webhook_url` says of a URL; the name resolution may raise. -/
inductive UrlVerdict where
  | valid
  | invalid
  | raises
  deriving DecidableEq, Repr

/-- What happens at one webhook. -/
structure FanOut where
  deliveryId : UUID
  url : UrlVerdict
  backpressured : Bool
  createdAt : Time
  attempt : Attempt
  deriving DecidableEq, Repr

/-- A call. `data` is the JSON text of the redacted data, if it has one; `cachedEvents` is what the
subscription cache of the process holds. -/
structure TriggerCall where
  event : WebhookEvent
  signatureVersion : Int := 1
  eventTimestamp : Time
  payloadTimestamp : Time
  data : Option String
  cachedEvents : UUID → Option (List String)
  fanOut : UUID → FanOut

def slaEvents : List String := ["sla.violation", "sla.warning", "sla.resolved"]

def getPartitionForWebhook (settings : WebhookSettings) (webhook : Webhook) : Nat :=
  if webhook.events.any (· ∈ slaEvents) then settings.slaPriorityPartition
  else webhook.id.toNat % settings.partitionCount

def generateIdempotencyKey (env : WebhookEnv) (webhookId : UUID) (event : WebhookEvent)
    (eventTimestamp : Time) : String :=
  env.sha256 s!"{env.uuidText webhookId}:{event.value}:{env.isoformat eventTimestamp}"

/-- `webhooks.events @> :event_json` for the active webhooks; `none`: the database refuses it. -/
def queryWebhooks (containmentOnText : Bool) (event : WebhookEvent) (webhooks : List Webhook) :
    Option (List Webhook) :=
  if containmentOnText then
    some (webhooks.filter fun w => w.isActive && decide (event.value ∈ w.events))
  else none

/-- The rows of the query whose cached or parsed events have the event; `none`: the query raises. -/
def getActiveWebhooksForEvent (env : WebhookEnv) (event : WebhookEvent)
    (cachedEvents : UUID → Option (List String)) (s : WebhookStore) : Option (List Webhook) :=
  (queryWebhooks env.containmentOnText event s.webhooks).map fun webhooks =>
    webhooks.filter fun w => decide (event.value ∈ (cachedEvents w.id).getD w.events)

namespace TriggerCall

variable (env : WebhookEnv) (c : TriggerCall)

/-- `json.dumps(payload)`. -/
def payload : Option String :=
  c.data.map fun data =>
    "\x7b\"schema_version\": \"" ++ webhookSchemaVersion ++ "\", \"event\": \"" ++ c.event.value ++
      "\", \"timestamp\": \"" ++ env.isoformat c.payloadTimestamp ++ "\", \"data\": " ++ data ++
      "\x7d"

def newDelivery (webhook : Webhook) (payload : String) : WebhookDelivery :=
  let f := c.fanOut webhook.id
  { id := f.deliveryId
    webhookId := webhook.id
    event := c.event
    payload
    signatureVersion := c.signatureVersion
    idempotencyKey := generateIdempotencyKey env webhook.id c.event c.eventTimestamp
    eventTimestamp := c.eventTimestamp
    createdAt := f.createdAt
    updatedAt := f.createdAt }

/-- The id and the idempotency key are unique. -/
def conflicts (d : WebhookDelivery) (s : WebhookStore) : Bool :=
  s.deliveries.any fun d' => decide (d'.id = d.id ∨ d'.idempotencyKey = d.idempotencyKey)

def schemaDeadLettered (now : Time) (reason : String) (d : WebhookDelivery) : WebhookDelivery :=
  { d with
    status := .deadLetter
    deadLetteredAt := some now
    errorMessage := some s!"dead_lettered: {reason}"
    updatedAt := now }

/-- `is_backpressured(partition_id)`, for a partition that is not the priority one. -/
def throttled (webhook : Webhook) : Bool :=
  (c.fanOut webhook.id).backpressured &&
    decide (getPartitionForWebhook env.settings webhook ≠ env.settings.slaPriorityPartition)

/-- What follows `create_delivery`. -/
def dispatchNew (d : WebhookDelivery) (attempt : Attempt) (s : WebhookStore) :
    Completion × WebhookStore :=
  let s := { s with deliveries := s.deliveries ++ [d] }
  match validatePayloadSchemaVersion webhookSchemaVersion c.event with
  | some reason => s.forEach [d.id] fun d => { row := schemaDeadLettered attempt.started reason d }
  | none => dispatchDelivery env d.id attempt s

/-- The loop body for one webhook. -/
def deliverTo (webhook : Webhook) (s : WebhookStore) : Completion × WebhookStore :=
  let f := c.fanOut webhook.id
  match f.url with
  | .raises => (.raised, s)
  | .invalid => (.returned, s)
  | .valid =>
    if c.throttled env webhook then (.returned, s)
    else
      match c.payload env with
      | none => (.raised, s)
      | some payload =>
        let d := c.newDelivery env webhook payload
        if conflicts d s then (.raised, s) else c.dispatchNew env d f.attempt s

def deliverToEach : List Webhook → WebhookStore → Completion × WebhookStore
  | [], s => (.returned, s)
  | webhook :: webhooks, s =>
    match c.deliverTo env webhook s with
    | (.raised, s) => (.raised, s)
    | (.returned, s) => deliverToEach webhooks s

/-- The webhooks of the loop: none if the query raises. -/
def webhooks (s : WebhookStore) : List Webhook :=
  (getActiveWebhooksForEvent env c.event c.cachedEvents s).getD []

end TriggerCall

def triggerSlaViolationWebhooks (env : WebhookEnv) (c : TriggerCall) (s : WebhookStore) :
    Completion × WebhookStore :=
  match getActiveWebhooksForEvent env c.event c.cachedEvents s with
  | none => (.raised, s)
  | some webhooks => c.deliverToEach env webhooks s

theorem triggerSlaViolationWebhooks_snd (env : WebhookEnv) (c : TriggerCall) (s : WebhookStore) :
    (triggerSlaViolationWebhooks env c s).2 = (c.deliverToEach env (c.webhooks env s) s).2 := by
  unfold triggerSlaViolationWebhooks TriggerCall.webhooks
  cases getActiveWebhooksForEvent env c.event c.cachedEvents s with
  | none => rfl
  | some webhooks => rfl

/-! ## Retrying -/

def dueDeliveries (now : Time) (s : WebhookStore) : List UUID :=
  (s.deliveries.filter fun d =>
    decide (d.status = .retrying) && d.nextRetryAt.any fun t => decide (t ≤ now)).map
      WebhookDelivery.id

def retryPendingDeliveries (env : WebhookEnv) (now : Time) (attempts : UUID → Attempt)
    (s : WebhookStore) : Completion × WebhookStore :=
  s.forEach (dueDeliveries now s) fun d =>
    dispatchRow env (s.webhook d.webhookId) (attempts d.id) d

/-- `POST /webhooks/{webhook_id}/deliveries/{delivery_id}/retry`. -/
def retryDelivery (env : WebhookEnv) (webhookId deliveryId : UUID) (attempt : Attempt)
    (s : WebhookStore) : Except Exc Completion × WebhookStore :=
  match s.webhook webhookId with
  | none => (.error (.http 404 "Webhook not found."), s)
  | some _ =>
    match (s.row deliveryId).filter fun d => decide (d.webhookId = webhookId) with
    | none => (.error (.http 404 "Delivery not found."), s)
    | some d =>
      if d.status = .success then
        (.error (.http 400 "Delivery already succeeded; retry not needed."), s)
      else
        match dispatchDelivery env d.id attempt s with
        | (completion, s) => (.ok completion, s)

/-! ## Replaying -/

/-- Everything but the identity of the delivery. -/
def resetForReplay (now : Time) (d : WebhookDelivery) : WebhookDelivery :=
  { d with
    status := .pending
    attemptCount := 0
    nextRetryAt := none
    deadLetteredAt := none
    errorMessage := none
    responseStatusCode := none
    responseBody := none
    deliveredAt := none
    updatedAt := now }

def replayRow (env : WebhookEnv) (webhook : Option Webhook) (now : Time) (attempt : Attempt)
    (d : WebhookDelivery) : Batch.Effect WebhookDelivery Post :=
  dispatchRow env webhook attempt (resetForReplay now d)

/-- `none`: the dispatch has raised. -/
def replayDeadLetterDelivery (env : WebhookEnv) (deliveryId : UUID) (now : Time)
    (attempt : Attempt) (s : WebhookStore) : Option Bool × WebhookStore :=
  match s.row deliveryId with
  | none => (some false, s)
  | some d =>
    if d.status ≠ .deadLetter then (some false, s)
    else
      match s.forEach [deliveryId] fun d =>
          replayRow env (s.webhook d.webhookId) now attempt d with
      | (.returned, s) => (some true, s)
      | (.raised, s) => (none, s)

/-! ## Recovery -/

def resetForRecovery (now : Time) (d : WebhookDelivery) : WebhookDelivery :=
  { d with status := .pending, nextRetryAt := none, deadLetteredAt := none, updatedAt := now }

/-- The loop body: the output holds the requests, and whether the delivery has been replayed. -/
def recoverRow (env : WebhookEnv) (webhook : Option Webhook) (now : Time) (attempt : Attempt)
    (d : WebhookDelivery) : Batch.Effect WebhookDelivery (Post ⊕ Bool) :=
  let counted (effect : Batch.Effect WebhookDelivery Post) :=
    { row := effect.row
      output := effect.output.map .inl ++ if effect.goesOn then [.inr true] else []
      goesOn := effect.goesOn }
  match d.status with
  | .success => { row := d, output := [.inr false] }
  | .deadLetter => counted (replayRow env webhook now attempt d)
  | _ => counted (dispatchRow env webhook attempt (resetForRecovery now d))

structure RecoveryResult where
  total : Nat
  replayed : Nat
  skipped : Nat
  deriving DecidableEq, Repr

def deliveriesInWindow (startTime endTime : Time) (s : WebhookStore) : List WebhookDelivery :=
  (s.deliveries.filter fun d =>
    decide (startTime ≤ d.eventTimestamp ∧ d.eventTimestamp ≤ endTime)).mergeSort
      fun a b => decide (a.eventTimestamp ≤ b.eventTimestamp)

/-- The inner `none`: a dispatch has raised. -/
def recoverDeliveriesInWindow (env : WebhookEnv) (startTime endTime now : Time)
    (attempts : UUID → Attempt) (s : WebhookStore) :
    Except Exc (Option RecoveryResult) × WebhookStore :=
  if endTime < startTime then
    (.error (.valueError "end_time must be greater than or equal to start_time"), s)
  else
    let candidates := deliveriesInWindow startTime endTime s
    let outcome := Batch.forEach WebhookDelivery.id
      (fun d => recoverRow env (s.webhook d.webhookId) now (attempts d.id) d)
      (candidates.map WebhookDelivery.id) s.deliveries
    let result : RecoveryResult :=
      { total := candidates.length
        replayed := outcome.output.countP fun o => decide (o = .inr true)
        skipped := outcome.output.countP fun o => decide (o = .inr false) }
    (.ok (if outcome.goesOn then some result else none),
      { s with
        deliveries := outcome.rows
        sent := s.sent ++ outcome.output.filterMap Sum.getLeft? })

/-! ## The system -/

/-- An operation. A dispatch task may be delivered late and more than once; the partitioned one
gives up before the dispatch if its partition is backpressured. -/
inductive WebhookOperation where
  | trigger (call : TriggerCall)
  | dispatchTask (deliveryId : UUID) (attempt : Attempt)
  | partitionedTask (deliveryId : UUID) (partitionId : Nat) (backpressured : Bool)
      (attempt : Attempt)
  | retryPending (now : Time) (attempts : UUID → Attempt)
  | retry (webhookId deliveryId : UUID) (attempt : Attempt)
  | replay (deliveryId : UUID) (now : Time) (attempt : Attempt)
  | recover (startTime endTime now : Time) (attempts : UUID → Attempt)

/-- The partitioned task gets past its check. -/
def passesBackpressure (settings : WebhookSettings) (partitionId : Nat) (backpressured : Bool) :
    Bool :=
  decide (partitionId = settings.slaPriorityPartition) || !backpressured

def serveWebhooks (env : WebhookEnv) (s : WebhookStore) : WebhookOperation → WebhookStore
  | .trigger call => (triggerSlaViolationWebhooks env call s).2
  | .dispatchTask deliveryId attempt => (dispatchDelivery env deliveryId attempt s).2
  | .partitionedTask deliveryId partitionId backpressured attempt =>
    if passesBackpressure env.settings partitionId backpressured then
      (dispatchDelivery env deliveryId attempt s).2
    else s
  | .retryPending now attempts => (retryPendingDeliveries env now attempts s).2
  | .retry webhookId deliveryId attempt => (retryDelivery env webhookId deliveryId attempt s).2
  | .replay deliveryId now attempt => (replayDeadLetterDelivery env deliveryId now attempt s).2
  | .recover startTime endTime now attempts =>
    (recoverDeliveriesInWindow env startTime endTime now attempts s).2

abbrev WebhookRun (env : WebhookEnv) :=
  Runs.Run fun (s : WebhookStore) op s' => serveWebhooks env s op = s'

end NocIq
