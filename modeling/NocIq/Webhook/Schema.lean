import NocIq.Exceptions
import NocIq.Lib.Batch

/-!
# NocIq — webhooks and their deliveries

The tables of `app/models/webhook.py`, the settings of the delivery, and the log of the requests
that have left the system.
-/

namespace NocIq

abbrev UUID := BitVec 128

instance : LawfulBEq UUID := inferInstance

inductive WebhookEvent where
  | slaViolation
  | slaWarning
  | slaResolved
  deriving DecidableEq, Repr

def WebhookEvent.value : WebhookEvent → String
  | .slaViolation => "sla.violation"
  | .slaWarning => "sla.warning"
  | .slaResolved => "sla.resolved"

inductive WebhookDeliveryStatus where
  | pending
  | success
  | failed
  | retrying
  | deadLetter
  deriving DecidableEq, Repr

/-- A row of `webhooks`, as far as the delivery reads it. `events` is stored as a JSON list. -/
structure Webhook where
  id : UUID
  url : String
  secret : Option String := none
  isActive : Bool := true
  events : List String
  maxRetries : Int := 3
  deriving DecidableEq, Repr

/-- A row of `webhook_deliveries`. -/
structure WebhookDelivery where
  id : UUID
  webhookId : UUID
  event : WebhookEvent
  payload : String
  status : WebhookDeliveryStatus := .pending
  attemptCount : Nat := 0
  nextRetryAt : Option Time := none
  responseStatusCode : Option Nat := none
  responseBody : Option String := none
  errorMessage : Option String := none
  deliveredAt : Option Time := none
  deadLetteredAt : Option Time := none
  signatureVersion : Int := 1
  idempotencyKey : String
  eventTimestamp : Time
  createdAt : Time
  updatedAt : Time
  deriving DecidableEq, Repr

/-- `retryBaseDelays` is what `_get_retry_delays` reads from `WEBHOOK_RETRY_BASE_DELAYS`. -/
structure WebhookSettings where
  retryBaseDelays : List Int := [30, 120, 600]
  retryMaxDelaySeconds : Int := 3600
  partitionCount : Nat := 4
  slaPriorityPartition : Nat := 0
  deriving DecidableEq, Repr

/-- The settings, whether the database evaluates `@>` on the TEXT column `webhooks.events` (neither
PostgreSQL nor SQLite has the operator for it), and what the delivery takes from libraries:
HMAC-SHA256 of a secret and a text and SHA-256 of a text, in hex, `isoformat` and the text of a
UUID. -/
structure WebhookEnv where
  settings : WebhookSettings := {}
  containmentOnText : Bool := false
  hmacSha256 : String → String → String
  sha256 : String → String
  isoformat : Time → String
  uuidText : UUID → String

/-- A request to the receiver of a webhook. -/
structure Post where
  deliveryId : UUID
  url : String
  content : String
  headers : List (String × String)
  deriving DecidableEq, Repr

/-- The two tables, and the requests sent so far, the oldest first. -/
structure WebhookStore where
  webhooks : List Webhook := []
  deliveries : List WebhookDelivery := []
  sent : List Post := []

def WebhookStore.row (s : WebhookStore) (id : UUID) : Option WebhookDelivery :=
  Batch.lookup WebhookDelivery.id s.deliveries id

/-- How a call ends: it returns, or an exception leaves it. -/
inductive Completion where
  | returned
  | raised
  deriving DecidableEq, Repr

/-- The work on the deliveries of some ids, one after another; an exception ends it. -/
def WebhookStore.forEach (ids : List UUID)
    (work : WebhookDelivery → Batch.Effect WebhookDelivery Post) (s : WebhookStore) :
    Completion × WebhookStore :=
  let outcome := Batch.forEach WebhookDelivery.id work ids s.deliveries
  (if outcome.goesOn then .returned else .raised,
    { s with deliveries := outcome.rows, sent := s.sent ++ outcome.output })

/-- The primary key of `webhook_deliveries`. -/
def WebhookStore.WellFormed (s : WebhookStore) : Prop := (s.deliveries.map WebhookDelivery.id).Nodup

variable {s : WebhookStore} {d : WebhookDelivery}

theorem WebhookStore.row_of_mem (h : s.WellFormed) (hd : d ∈ s.deliveries) :
    s.row d.id = some d :=
  Batch.lookup_of_mem h hd

theorem WebhookStore.mem_of_row {id : UUID} (h : s.row id = some d) :
    d ∈ s.deliveries ∧ d.id = id :=
  Batch.lookup_eq_some h

theorem WebhookStore.forEach_wellFormed (h : s.WellFormed) (ids : List UUID)
    (work : WebhookDelivery → Batch.Effect WebhookDelivery Post) :
    (s.forEach ids work).2.WellFormed := by
  show ((Batch.forEach WebhookDelivery.id work ids s.deliveries).rows.map _).Nodup
  rw [Batch.keys_forEach]
  exact h

theorem WebhookStore.row_forEach_singleton {id : UUID}
    {work : WebhookDelivery → Batch.Effect WebhookDelivery Post} (hid : ∀ d, (work d).row.id = d.id)
    (hd : s.row id = some d) : (s.forEach [id] work).2.row id = some (work d).row := by
  show Batch.lookup WebhookDelivery.id
    (Batch.forEach WebhookDelivery.id work [id] s.deliveries).rows id = some (work d).row
  rw [Batch.forEach_singleton hd]
  exact Batch.lookup_put_work hid hd

end NocIq
