import Mathlib.Data.NNRat.Defs
import NocIq.Payment.Repository

/-!
# NocIq — the payment endpoints

`provider_callback`, `retry_payment`, `reconcile_payment` and the nonce map of
`app/api/v1/endpoints/payments.py`, on the state of the running service: the database, and of each
server process its nonce map and monotonic clock.

The service also has events of its own: time passes in a process, and a process restarts with an
empty map (`ServiceEvent`, `serve`).
-/

namespace NocIq

open Relational PaymentRepository

/-! ## The running service -/

/-- `_SEEN_NONCES` and `time.monotonic()` of one process. -/
structure Process where
  seenNonces : List (String × ℚ) := []
  monotonic : ℚ := 0
  deriving DecidableEq, Repr

structure Server where
  db : Db
  processes : Nat → Process := fun _ => {}

/-- What the deployment fixes: `PAYMENT_WEBHOOK_SECRET`, and the hex digest of HMAC-SHA256 as a
function of key and message. -/
structure Deployment where
  webhookSecret : String
  hmacSha256 : String → String → String

def Server.setProcess (s : Server) (worker : Nat) (p : Process) : Server :=
  { s with processes := Function.update s.processes worker p }

/-- `audit_log.log(…)`, which writes through a session of its own. -/
def Server.log (s : Server) (eventType : String) (details : List (String × DetailValue))
    (now : Time) : Server :=
  { s with
    db := { s.db with auditLogs := s.db.auditLogs ++ [{ eventType, details, createdAt := now }] } }

/-! ## The nonce map -/

def callbackNonceTtlSeconds : ℚ := 300

def evictStaleNonces (p : Process) : Process :=
  let cutoff := p.monotonic - callbackNonceTtlSeconds
  { p with seenNonces := p.seenNonces.filter fun kt => decide (¬ kt.2 < cutoff) }

/-- `pause` is what the clock advances by between its two readings. -/
def isReplay (nonce : String) (pause : ℚ≥0) (p : Process) : Bool × Process :=
  let p := evictStaleNonces p
  if (p.seenNonces.lookup nonce).isSome then (true, p)
  else
    -- the clock is read a second time
    let now := p.monotonic + pause
    (false, { seenNonces := p.seenNonces ++ [(nonce, now)], monotonic := now })

/-! ## `provider_callback` -/

structure ProviderCallbackRequest where
  transactionId : String
  status : String
  providerRef : Option String := none
  nonce : Option String := none
  deriving DecidableEq, Repr

/-- The body and the headers of a callback. -/
structure CallbackRequest where
  payload : ProviderCallbackRequest
  xWebhookSignature : Option String := none
  xCallbackNonce : Option String := none
  deriving DecidableEq, Repr

/-- Python's truth value of an optional string: the empty string counts as missing. -/
def given (value : Option String) : Option String := value.filter fun text => decide (text ≠ "")

def optionDetail (value : Option String) : DetailValue := value.elim .null .str

def isAscii (text : String) : Bool := text.toList.all fun c => decide (c.toNat < 128)

/-- `hmac.compare_digest` on strings. -/
def compareDigest (a b : String) : Except Exc Bool :=
  if isAscii a && isAscii b then .ok (decide (a = b))
  else .error (.typeError "comparing strings with non-ASCII characters is not supported")

def verifyCallbackSignature (d : Deployment) (transactionId status : String)
    (nonce : Option String) (signature : String) : Except Exc Bool :=
  let nonceText := nonce.getD ""
  let message := s!"{transactionId}:{status}:{nonceText}"
  compareDigest (d.hmacSha256 d.webhookSecret message) signature

/-- `x_callback_nonce or payload.nonce`. -/
def effectiveNonce (req : CallbackRequest) : Option String :=
  match given req.xCallbackNonce with
  | some nonce => some nonce
  | none => req.payload.nonce

def rejectionDetails (payload : ProviderCallbackRequest) : List (String × DetailValue) :=
  [("transaction_id", .str payload.transactionId),
    ("provider_ref", optionDetail payload.providerRef)]

/-- Step 2 of the callback: the exception it raises, and the audit event it writes first. -/
def rejectedSignature (d : Deployment) (req : CallbackRequest) : Option (Exc × Option String) :=
  -- without a configured secret every callback is let in
  if d.webhookSecret = "" then none
  else
    match given req.xWebhookSignature with
    | none =>
      some (.http 401 "Missing webhook signature", some "callback_rejected_missing_signature")
    | some signature =>
      match verifyCallbackSignature d req.payload.transactionId req.payload.status
          (effectiveNonce req) signature with
      | .error e => some (e, none)
      | .ok false =>
        some (.http 401 "Invalid webhook signature", some "callback_rejected_bad_signature")
      | .ok true => none

/-- The replay check; a callback without a nonce skips it. -/
def checkNonce (worker : Nat) (pause : ℚ≥0) (nonce : Option String) (s : Server) :
    Bool × Server :=
  match given nonce with
  | none => (false, s)
  | some nonce =>
    let result := isReplay nonce pause (s.processes worker)
    (result.1, s.setProcess worker result.2)

/-- The part of the callback after authentication and the replay check. -/
def applyCallback (req : CallbackRequest) (now : Time) (s : Server) :
    Except Exc (Option PaymentTransaction) × Server :=
  let payload := req.payload
  match get s.db payload.transactionId with
  | none =>
    (.error (.http 404 "Payment not found"),
      s.log "callback_rejected_unknown_payment" (rejectionDetails payload) now)
  | some existing =>
    -- a repeated status is answered without a write
    if existing.status = payload.status then (.ok (some existing), s)
    else
      match reconcile payload.transactionId payload.status now s.db with
      | (.error (.paymentTransitionError current nextStatus allowed), db) =>
        (.error (.httpException 422 (.transitionText current nextStatus allowed)),
          { s with db }.log "callback_rejected_invalid_transition"
            [("transaction_id", .str payload.transactionId),
              ("from_status", .str existing.status), ("to_status", .str payload.status),
              ("provider_ref", optionDetail payload.providerRef),
              ("error", .transitionText current nextStatus allowed)] now)
      | (.error e, db) => (.error e, { s with db })
      | (.ok updated, db) =>
        (.ok updated,
          { s with db }.log "payment_provider_callback"
            [("id", .str payload.transactionId), ("status", .str payload.status),
              ("provider_ref", optionDetail payload.providerRef),
              ("nonce", optionDetail (effectiveNonce req))] now)

def providerCallback (d : Deployment) (req : CallbackRequest) (worker : Nat) (pause : ℚ≥0)
    (now : Time) (s : Server) : Except Exc (Option PaymentTransaction) × Server :=
  match rejectedSignature d req with
  | some (e, none) => (.error e, s)
  | some (e, some eventType) => (.error e, s.log eventType (rejectionDetails req.payload) now)
  | none =>
    -- the nonce is used up here, whatever becomes of the callback
    let checked := checkNonce worker pause (effectiveNonce req) s
    if checked.1 then
      (.error (.http 409 "Duplicate callback nonce – possible replay attack"),
        checked.2.log "callback_rejected_replay"
          [("transaction_id", .str req.payload.transactionId),
            ("nonce", optionDetail (effectiveNonce req)),
            ("provider_ref", optionDetail req.payload.providerRef)] now)
    else applyCallback req now checked.2

/-! ## `reconcile_payment` and `retry_payment` -/

def reconcilePayment (transactionId status : String) (now : Time) (s : Server) :
    Except Exc (Option PaymentTransaction) × Server :=
  match get s.db transactionId with
  | none => (.error (.http 404 "Payment not found"), s)
  | some existing =>
    match reconcile transactionId status now s.db with
    | (.error (.paymentTransitionError current nextStatus allowed), db) =>
      (.error (.httpException 422 (.transition current nextStatus allowed)), { s with db })
    | (.error e, db) => (.error e, { s with db })
    | (.ok none, db) => (.error (.http 404 "Payment not found"), { s with db })
    | (.ok (some payment), db) =>
      (.ok (some payment),
        { s with db }.log "payment_reconciled"
          [("id", .str transactionId), ("previous_status", .str existing.status),
            ("status", .str status)] now)

def retryPayment (transactionId : String) (now : Time) (s : Server) :
    Except Exc (Option PaymentTransaction) × Server :=
  match get s.db transactionId with
  | none => (.error (.http 404 "Payment not found"), s)
  | some _ =>
    match retry transactionId now s.db with
    | (.error (.paymentTransitionError current nextStatus allowed), db) =>
      (.error (.httpException 422 (.transition current nextStatus allowed)), { s with db })
    | (.error e, db) => (.error e, { s with db })
    | (.ok none, db) => (.error (.http 409 "Max retries reached"), { s with db })
    -- the repository says no to a payment without retries left
    | (.ok (some payment), db) =>
      (.ok (some payment),
        { s with db }.log "payment_retried"
          [("id", .str transactionId), ("retry_count", .int payment.retryCount)] now)

/-! ## `create_payment_for_outage` -/

/-- A request whose idempotency key is already stored returns the cached response; any other one
creates the payment. -/
def createPaymentForOutage (outageId : String) (now : Time) (db : Db) :
    Except Exc PaymentTransaction × Db :=
  create
    { id := "pay_" ++ String.ofList (outageId.toList.take 12)
      transactionHash := s!"outage-{outageId}"
      type := "sla_settlement"
      amount := 0
      assetCode := "USDC"
      fromAddress := "SYSTEM_POOL"
      toAddress := "OUTAGE_SETTLEMENT"
      status := "pending"
      outageId := outageId
      slaResultId := none
      createdAt := now
      confirmedAt := none } db

/-! ## One event of the service -/

inductive ServiceEvent where
  | updateStatus (transactionId status : String) (now : Time)
  | reconcile (transactionId status : String) (now : Time)
  | retry (transactionId : String) (now : Time)
  | replayDeadLetter (transactionId : String) (now : Time)
  | providerCallback (req : CallbackRequest) (worker : Nat) (pause : ℚ≥0) (now : Time)
  | retryPayment (transactionId : String) (now : Time)
  | reconcilePayment (transactionId status : String) (now : Time)
  | wait (worker : Nat) (elapsed : ℚ≥0)
  | restart (worker : Nat) (monotonic : ℚ)

def Server.onDb (s : Server)
    (outcome : Except Exc (Option PaymentTransaction) × Db) :
    Except Exc (Option PaymentTransaction) × Server :=
  (outcome.1, { s with db := outcome.2 })

def serve (d : Deployment) (s : Server) :
    ServiceEvent → Except Exc (Option PaymentTransaction) × Server
  | .updateStatus i status now => s.onDb (updateStatus i status now s.db)
  | .reconcile i status now => s.onDb (reconcile i status now s.db)
  | .retry i now => s.onDb (retry i now s.db)
  | .replayDeadLetter i now => s.onDb (replayDeadLetter i now s.db)
  | .providerCallback req worker pause now => providerCallback d req worker pause now s
  | .retryPayment i now => retryPayment i now s
  | .reconcilePayment i status now => reconcilePayment i status now s
  | .wait worker elapsed =>
    let p := s.processes worker
    (.ok none, s.setProcess worker { p with monotonic := p.monotonic + elapsed })
  | .restart worker monotonic => (.ok none, s.setProcess worker { seenNonces := [], monotonic })

end NocIq
