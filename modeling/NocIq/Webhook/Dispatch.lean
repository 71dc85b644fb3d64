import Mathlib.Algebra.Group.Int.Defs
import NocIq.Webhook.Schema

/-!
# NocIq — dispatching a delivery

`classify_http_status`, `_build_headers`, `_attempt_delivery` and `dispatch_delivery` of
`app/services/webhook_service.py`, as work on the row of the delivery. A dispatch commits twice:
before the attempt, and with its outcome; an exception in between leaves the row of the first
commit.

* **`dispatchRow_spec`** — a dispatch raises, delivers, dead-letters or schedules a retry.
* **`dispatchRow_id`**, **`dispatchRow_output`** — and it works on this delivery alone.
* **`dispatchRow_attemptCount`** — it counts its attempt.
-/

namespace NocIq

/-! ## The response -/

inductive HttpClass where
  | terminal
  | retryable
  deriving DecidableEq, Repr

def retryableStatusCodes : List Nat := [500, 502, 503, 504]

def terminalStatusCodes : List Nat :=
  [200, 201, 202, 203, 204, 205, 206, 207, 208, 226, 300, 301, 302, 303, 304, 305, 306, 307, 308,
    400, 401, 402, 403, 404, 405, 406, 407, 408, 409, 410, 411, 412, 413, 414, 415, 416, 417, 418,
    421, 422, 423, 424, 425, 426, 428, 429, 431, 451]

def classifyHttpStatus (statusCode : Nat) : HttpClass :=
  if statusCode ∈ retryableStatusCodes then .retryable
  else if statusCode ∈ terminalStatusCodes then .terminal
  else if 500 ≤ statusCode ∧ statusCode < 600 then .retryable
  else .terminal

/-- `200 <= status_code < 300`. -/
def isSuccess (statusCode : Nat) : Bool := decide (200 ≤ statusCode ∧ statusCode < 300)

theorem classifyHttpStatus_success {statusCode : Nat} (h : isSuccess statusCode = true) :
    classifyHttpStatus statusCode = .terminal := by
  have hrange := of_decide_eq_true h
  have hretryable : statusCode ∉ retryableStatusCodes := by
    intro hmem
    simp only [retryableStatusCodes, List.mem_cons, List.not_mem_nil, or_false] at hmem
    omega
  unfold classifyHttpStatus
  rw [if_neg hretryable]
  split
  · rfl
  · rw [if_neg]
    omega

/-- A text that a TEXT column takes: without a NUL character. -/
structure StorableText where
  text : String
  storable : Char.ofNat 0 ∉ text.toList
  deriving DecidableEq, Repr

namespace StorableText

def empty : StorableText := ⟨"", List.not_mem_nil⟩

def ofString? (text : String) : Option StorableText :=
  if h : Char.ofNat 0 ∈ text.toList then none else some ⟨text, h⟩

end StorableText

/-- What comes of a request. `body` is the start of the response's text that is recorded. -/
inductive HttpOutcome where
  | response (statusCode : Nat) (body : StorableText)
  | timeout (message : StorableText)
  | requestError (message : StorableText)
  /-- an exception `_attempt_delivery` does not catch, or a refused commit of the outcome -/
  | raised
  deriving DecidableEq, Repr

/-- What `_attempt_delivery` gets for a request and handles. -/
inductive HttpAnswer where
  | response (statusCode : Nat) (text : String)
  | timeout (message : String)
  | requestError (message : String)
  deriving DecidableEq, Repr

namespace HttpAnswer

/-- The text of the answer that is recorded: `response.text[:4000]`, or the message. -/
def recorded : HttpAnswer → String
  | .response _ text => String.ofList (text.toList.take 4000)
  | .timeout message => message
  | .requestError message => message

/-- The commit that records the answer is refused if the text has a NUL character. -/
def outcome (answer : HttpAnswer) : HttpOutcome :=
  match StorableText.ofString? answer.recorded with
  | none => .raised
  | some text =>
    match answer with
    | .response statusCode _ => .response statusCode text
    | .timeout _ => .timeout text
    | .requestError _ => .requestError text

/-- The database takes what is recorded of the answer. -/
def Storable (answer : HttpAnswer) : Prop := Char.ofNat 0 ∉ answer.recorded.toList

instance (answer : HttpAnswer) : Decidable answer.Storable :=
  inferInstanceAs (Decidable (_ ∉ _))

theorem outcome_eq_raised_iff (answer : HttpAnswer) :
    answer.outcome = .raised ↔ ¬ answer.Storable := by
  unfold outcome StorableText.ofString? Storable
  by_cases hnul : Char.ofNat 0 ∈ answer.recorded.toList
  · rw [dif_pos hnul]
    exact iff_of_true rfl (not_not_intro hnul)
  · rw [dif_neg hnul]
    refine iff_of_false ?_ (not_not_intro hnul)
    cases answer <;> exact nofun

end HttpAnswer

/-- An attempt, with the readings of the clock before and after it. -/
structure Attempt where
  started : Time
  outcome : HttpOutcome
  finished : Time
  deriving DecidableEq, Repr

/-! ## The request -/

/-- `sign_payload`; other versions raise a `ValueError`. -/
def signPayload (env : WebhookEnv) (secret payload : String) (version : Int) : Option String :=
  if version = 1 then some (env.hmacSha256 secret payload) else none

def buildHeaders (env : WebhookEnv) (now : Time) (webhook : Webhook) (d : WebhookDelivery) :
    Option (List (String × String)) :=
  let headers :=
    [("Content-Type", "application/json"), ("X-Webhook-Event", d.event.value),
      ("X-Webhook-Timestamp", env.isoformat now)]
  let headers :=
    if d.idempotencyKey = "" then headers
    else headers ++ [("X-Webhook-Idempotency-Key", d.idempotencyKey)]
  match webhook.secret.filter fun secret => decide (secret ≠ "") with
  | none => some headers
  | some secret =>
    (signPayload env secret d.payload d.signatureVersion).map fun sigHex =>
      headers ++
        [("X-Webhook-Signature", s!"sha256={sigHex}"),
          ("X-Webhook-Signature-Version", toString d.signatureVersion)]

def post (webhook : Webhook) (d : WebhookDelivery) (headers : List (String × String)) : Post where
  deliveryId := d.id
  url := webhook.url
  content := d.payload
  headers

def recordResponse (statusCode : Nat) (body : StorableText) (d : WebhookDelivery) :
    WebhookDelivery :=
  { d with
    responseStatusCode := some statusCode
    responseBody := some body.text }

def recordError (message : String) (d : WebhookDelivery) : WebhookDelivery :=
  { d with errorMessage := some message }

/-- `_attempt_delivery` after the request: whether it has succeeded, and the delivery with what it
records; `none` if it raises, or if the commit of what it records is refused. -/
def attemptDelivery (outcome : HttpOutcome) (d : WebhookDelivery) :
    Option (Bool × WebhookDelivery) :=
  match outcome with
  | .response statusCode body =>
    let d := recordResponse statusCode body d
    match classifyHttpStatus statusCode with
    | .terminal =>
      if isSuccess statusCode then some (true, d)
      else some (false, recordError s!"Terminal failure: HTTP {statusCode}" d)
    | .retryable => some (false, recordError s!"Retryable failure: HTTP {statusCode}" d)
  | .timeout message => some (false, recordError s!"Request timed out: {message.text}" d)
  | .requestError message => some (false, recordError s!"Request error: {message.text}" d)
  | .raised => none

/-! ## `dispatch_delivery` -/

/-- The first commit. -/
def beginDispatch (now : Time) (d : WebhookDelivery) : WebhookDelivery :=
  { d with
    attemptCount := d.attemptCount + 1
    status := if d.attemptCount + 1 > 1 then .retrying else .pending
    updatedAt := now }

def delivered (now : Time) (d : WebhookDelivery) : WebhookDelivery :=
  { d with status := .success, deliveredAt := some now, nextRetryAt := none, updatedAt := now }

def deadLettered (now : Time) (d : WebhookDelivery) : WebhookDelivery :=
  { d with
    status := .deadLetter
    deadLetteredAt := some now
    nextRetryAt := none
    updatedAt := now }

def scheduled (now : Time) (delay : Int) (d : WebhookDelivery) : WebhookDelivery :=
  { d with nextRetryAt := some (now + delay * 1000000), status := .retrying, updatedAt := now }

/-- A status code is on the row, and it is terminal. -/
def isTerminal (statusCode : Option Nat) : Bool :=
  match statusCode with
  | some statusCode => statusCode ≠ 0 && classifyHttpStatus statusCode = .terminal
  | none => false

/-- The delay before the next attempt, in seconds, if there is one. -/
def retryDelay (settings : WebhookSettings) (webhook : Webhook) (retryIndex : Nat) : Option Int :=
  let maxRetries := if webhook.maxRetries = 0 then 3 else webhook.maxRetries
  if (retryIndex : Int) < maxRetries then
    settings.retryBaseDelays[retryIndex]?.map fun baseDelay =>
      min (baseDelay * 2 ^ retryIndex) settings.retryMaxDelaySeconds
  else none

/-- The status code may be that of an earlier attempt: a timeout leaves it as it was. -/
def settleFailure (settings : WebhookSettings) (webhook : Webhook) (now : Time)
    (d : WebhookDelivery) : WebhookDelivery :=
  if isTerminal d.responseStatusCode then deadLettered now d
  else
    match retryDelay settings webhook (d.attemptCount - 1) with
    | some delay => scheduled now delay d
    | none => deadLettered now d

/-- The second commit; `none` if the attempt raises. -/
def finishDispatch (settings : WebhookSettings) (webhook : Webhook) (attempt : Attempt)
    (d : WebhookDelivery) : Option WebhookDelivery :=
  (attemptDelivery attempt.outcome d).map fun result =>
    if result.1 then delivered attempt.finished result.2
    else settleFailure settings webhook attempt.finished result.2

def WebhookStore.webhook (s : WebhookStore) (id : UUID) : Option Webhook :=
  s.webhooks.find? fun w => decide (w.id = id)

/-- `dispatch_delivery` of a stored delivery. Without a webhook, or if the payload cannot be signed,
it raises before the request. -/
def dispatchRow (env : WebhookEnv) (webhook : Option Webhook) (attempt : Attempt)
    (d : WebhookDelivery) : Batch.Effect WebhookDelivery Post :=
  let begun := beginDispatch attempt.started d
  match webhook with
  | none => { row := begun, goesOn := false }
  | some webhook =>
    match buildHeaders env attempt.started webhook begun with
    | none => { row := begun, goesOn := false }
    | some headers =>
      match finishDispatch env.settings webhook attempt begun with
      | none => { row := begun, output := [post webhook begun headers], goesOn := false }
      | some d => { row := d, output := [post webhook begun headers] }

def dispatchDelivery (env : WebhookEnv) (deliveryId : UUID) (attempt : Attempt) (s : WebhookStore) :
    Completion × WebhookStore :=
  s.forEach [deliveryId] fun d => dispatchRow env (s.webhook d.webhookId) attempt d

/-! ## What a dispatch comes to -/

/-- There is a secret to sign with, and the version is not one of `sign_payload`. -/
def Unsignable (webhook : Webhook) (d : WebhookDelivery) : Prop :=
  (∃ secret ∈ webhook.secret, secret ≠ "") ∧ d.signatureVersion ≠ 1

instance (webhook : Webhook) (d : WebhookDelivery) : Decidable (Unsignable webhook d) :=
  inferInstanceAs (Decidable ((∃ secret ∈ webhook.secret, secret ≠ "") ∧ d.signatureVersion ≠ 1))

theorem buildHeaders_eq_none_iff (env : WebhookEnv) (now : Time) (webhook : Webhook)
    (d : WebhookDelivery) :
    buildHeaders env now webhook d = none ↔ Unsignable webhook d := by
  unfold buildHeaders Unsignable
  dsimp only
  cases hfilter : webhook.secret.filter fun secret => decide (secret ≠ "") with
  | none =>
    refine iff_of_false nofun ?_
    rintro ⟨⟨secret, hsecret, hne⟩, -⟩
    exact Option.filter_eq_none_iff.mp hfilter secret hsecret (decide_eq_true hne)
  | some secret =>
    obtain ⟨hsecret, hne⟩ := Option.filter_eq_some_iff.mp hfilter
    have hexists : ∃ secret ∈ webhook.secret, secret ≠ "" :=
      ⟨secret, hsecret, of_decide_eq_true hne⟩
    rw [and_iff_right hexists]
    dsimp only
    rw [Option.map_eq_none_iff]
    unfold signPayload
    split
    · rename_i hversion
      exact iff_of_false nofun (not_not_intro hversion)
    · rename_i hversion
      exact iff_of_true rfl hversion

/-- The attempt raises: the delivery has no webhook, its payload cannot be signed, or the exception
is none that `_attempt_delivery` catches. -/
def Raises (webhook : Option Webhook) (attempt : Attempt) (d : WebhookDelivery) : Prop :=
  ∀ w ∈ webhook, Unsignable w d ∨ attempt.outcome = .raised

instance (webhook : Option Webhook) (attempt : Attempt) (d : WebhookDelivery) :
    Decidable (Raises webhook attempt d) :=
  inferInstanceAs (Decidable (∀ w ∈ webhook, Unsignable w d ∨ attempt.outcome = .raised))

def HttpOutcome.fails : HttpOutcome → Bool
  | .response statusCode _ => !isSuccess statusCode
  | .timeout _ => true
  | .requestError _ => true
  | .raised => false

/-- The status code on the row after the attempt: that of the response, or the one of an earlier
attempt. -/
def HttpOutcome.codeAfter (outcome : HttpOutcome) (d : WebhookDelivery) : Option Nat :=
  match outcome with
  | .response statusCode _ => some statusCode
  | _ => d.responseStatusCode

/-- `retry_index < max_retries and retry_index < len(retry_delays)`. -/
def RetryLeft (settings : WebhookSettings) (webhook : Webhook) (retryIndex : Nat) : Prop :=
  (retryIndex : Int) < (if webhook.maxRetries = 0 then 3 else webhook.maxRetries) ∧
    retryIndex < settings.retryBaseDelays.length

instance (settings : WebhookSettings) (webhook : Webhook) (retryIndex : Nat) :
    Decidable (RetryLeft settings webhook retryIndex) :=
  inferInstanceAs (Decidable (_ ∧ _))

theorem retryDelay_eq_none_iff (settings : WebhookSettings) (webhook : Webhook) (retryIndex : Nat) :
    retryDelay settings webhook retryIndex = none ↔ ¬ RetryLeft settings webhook retryIndex := by
  unfold retryDelay RetryLeft
  generalize (if webhook.maxRetries = 0 then 3 else webhook.maxRetries) = maxRetries
  dsimp only
  split
  · rename_i hleft
    rw [Option.map_eq_none_iff, List.getElem?_eq_none_iff]
    constructor
    · intro hlength hboth
      omega
    · intro hnot
      by_contra hshort
      exact hnot ⟨hleft, by omega⟩
  · rename_i hnone
    exact iff_of_true rfl fun h => hnone h.1

/-- The attempt fails for good: by its status code, or because no retry is left. -/
def DeadLetters (settings : WebhookSettings) (webhook : Webhook) (attempt : Attempt)
    (d : WebhookDelivery) : Prop :=
  attempt.outcome.fails = true ∧
    (isTerminal (attempt.outcome.codeAfter d) = true ∨ ¬ RetryLeft settings webhook d.attemptCount)

instance (settings : WebhookSettings) (webhook : Webhook) (attempt : Attempt)
    (d : WebhookDelivery) : Decidable (DeadLetters settings webhook attempt d) :=
  inferInstanceAs (Decidable (_ ∧ (_ ∨ _)))

/-- `d'` is `d` with another response recorded. -/
def SameButResponse (d d' : WebhookDelivery) : Prop :=
  d' =
    { d with
      responseStatusCode := d'.responseStatusCode
      responseBody := d'.responseBody
      errorMessage := d'.errorMessage }

/-- The outcomes of a dispatch. -/
inductive Dispatched (env : WebhookEnv) (webhook : Option Webhook) (attempt : Attempt)
    (d : WebhookDelivery) : Batch.Effect WebhookDelivery Post → Prop where
  | raised {output : List Post} (hraises : Raises webhook attempt d) :
      Dispatched env webhook attempt d
        { row := beginDispatch attempt.started d, output, goesOn := false }
  | delivered {w : Webhook} {d' : WebhookDelivery} {output : List Post} (hw : webhook = some w)
      (hraises : ¬ Raises webhook attempt d)
      (hsame : SameButResponse (beginDispatch attempt.started d) d')
      (hfails : attempt.outcome.fails = false) :
      Dispatched env webhook attempt d { row := delivered attempt.finished d', output }
  | deadLettered {w : Webhook} {d' : WebhookDelivery} {output : List Post} (hw : webhook = some w)
      (hraises : ¬ Raises webhook attempt d)
      (hsame : SameButResponse (beginDispatch attempt.started d) d')
      (hdead : DeadLetters env.settings w attempt d) :
      Dispatched env webhook attempt d { row := deadLettered attempt.finished d', output }
  | scheduled {w : Webhook} {d' : WebhookDelivery} {output : List Post} {delay : Int}
      (hw : webhook = some w) (hraises : ¬ Raises webhook attempt d)
      (hsame : SameButResponse (beginDispatch attempt.started d) d')
      (hfails : attempt.outcome.fails = true)
      (hterminal : isTerminal (attempt.outcome.codeAfter d) = false)
      (hleft : RetryLeft env.settings w d.attemptCount) :
      Dispatched env webhook attempt d { row := scheduled attempt.finished delay d', output }

theorem attemptDelivery_eq {outcome : HttpOutcome} (h : outcome ≠ .raised) (d : WebhookDelivery) :
    ∃ d', attemptDelivery outcome d = some (!outcome.fails, d') ∧ SameButResponse d d' ∧
      d'.responseStatusCode = outcome.codeAfter d := by
  cases outcome with
  | response statusCode body =>
    cases hclass : classifyHttpStatus statusCode with
    | terminal =>
      cases hsuccess : isSuccess statusCode with
      | true =>
        refine ⟨recordResponse statusCode body d, ?_, rfl, rfl⟩
        simp [attemptDelivery, hclass, hsuccess, HttpOutcome.fails]
      | false =>
        refine ⟨recordError s!"Terminal failure: HTTP {statusCode}"
          (recordResponse statusCode body d), ?_, rfl, rfl⟩
        simp [attemptDelivery, hclass, hsuccess, HttpOutcome.fails]
    | retryable =>
      -- a success is terminal
      have hsuccess : isSuccess statusCode = false := by
        by_contra hnot
        rw [classifyHttpStatus_success (eq_true_of_ne_false hnot)] at hclass
        cases hclass
      refine ⟨recordError s!"Retryable failure: HTTP {statusCode}"
        (recordResponse statusCode body d), ?_, rfl, rfl⟩
      simp [attemptDelivery, hclass, hsuccess, HttpOutcome.fails]
  | timeout message =>
    exact ⟨recordError s!"Request timed out: {message.text}" d, rfl, rfl, rfl⟩
  | requestError message =>
    exact ⟨recordError s!"Request error: {message.text}" d, rfl, rfl, rfl⟩
  | raised => exact absurd rfl h

/-- **What a dispatch comes to.** -/
theorem dispatchRow_spec (env : WebhookEnv) (webhook : Option Webhook) (attempt : Attempt)
    (d : WebhookDelivery) :
    Dispatched env webhook attempt d (dispatchRow env webhook attempt d) := by
  unfold dispatchRow
  cases webhook with
  | none => exact .raised nofun
  | some w =>
    dsimp only
    have hheaders : buildHeaders env attempt.started w (beginDispatch attempt.started d) =
        buildHeaders env attempt.started w d := rfl
    rw [hheaders]
    cases hbuild : buildHeaders env attempt.started w d with
    | none =>
      refine .raised ?_
      intro w' hw'
      rw [← Option.some.inj hw']
      exact .inl ((buildHeaders_eq_none_iff env _ w d).mp hbuild)
    | some headers =>
      by_cases houtcome : attempt.outcome = .raised
      · have hnone : finishDispatch env.settings w attempt (beginDispatch attempt.started d) =
            none := by
          unfold finishDispatch
          rw [houtcome]
          rfl
        rw [hnone]
        exact .raised fun w' _ => .inr houtcome
      · have hraises : ¬ Raises (some w) attempt d := by
          intro h
          rcases h w rfl with hunsignable | hraised
          · rw [(buildHeaders_eq_none_iff env _ w d).mpr hunsignable] at hbuild
            cases hbuild
          · exact houtcome hraised
        obtain ⟨d', hrecord, hsame, hcode⟩ :=
          attemptDelivery_eq houtcome (beginDispatch attempt.started d)
        have hfinish : finishDispatch env.settings w attempt (beginDispatch attempt.started d) =
            some (if (!attempt.outcome.fails) = true then delivered attempt.finished d'
              else settleFailure env.settings w attempt.finished d') := by
          unfold finishDispatch
          rw [hrecord]
          rfl
        rw [hfinish]
        dsimp only
        cases hfails : attempt.outcome.fails with
        | false => exact .delivered rfl hraises hsame hfails
        | true =>
          -- the retry index is the number of attempts before this one
          have hindex : d'.attemptCount - 1 = d.attemptCount := by
            rw [hsame]
            rfl
          rw [if_neg (by simp)]
          unfold settleFailure
          rw [hcode, hindex]
          cases hterminal :
              isTerminal (attempt.outcome.codeAfter (beginDispatch attempt.started d)) with
          | true => exact .deadLettered rfl hraises hsame ⟨hfails, .inl hterminal⟩
          | false =>
            rw [if_neg (by simp)]
            cases hdelay : retryDelay env.settings w d.attemptCount with
            | none =>
              have hnone := (retryDelay_eq_none_iff env.settings w d.attemptCount).mp hdelay
              exact .deadLettered rfl hraises hsame ⟨hfails, .inr hnone⟩
            | some delay =>
              have hleft : RetryLeft env.settings w d.attemptCount := by
                by_contra hnot
                rw [(retryDelay_eq_none_iff _ _ _).mpr hnot] at hdelay
                cases hdelay
              exact .scheduled rfl hraises hsame hfails hterminal hleft

theorem SameButResponse.id {d d' : WebhookDelivery} (h : SameButResponse d d') : d'.id = d.id := by
  rw [h]

theorem SameButResponse.attemptCount {d d' : WebhookDelivery} (h : SameButResponse d d') :
    d'.attemptCount = d.attemptCount := by
  rw [h]

theorem dispatchRow_id (env : WebhookEnv) (webhook : Option Webhook) (attempt : Attempt)
    (d : WebhookDelivery) : (dispatchRow env webhook attempt d).row.id = d.id := by
  have hspec := dispatchRow_spec env webhook attempt d
  generalize dispatchRow env webhook attempt d = effect at hspec ⊢
  cases hspec with
  | raised => rfl
  | delivered _ _ hsame => exact hsame.id
  | deadLettered _ _ hsame => exact hsame.id
  | scheduled _ _ hsame => exact hsame.id

theorem dispatchRow_attemptCount (env : WebhookEnv) (webhook : Option Webhook) (attempt : Attempt)
    (d : WebhookDelivery) :
    (dispatchRow env webhook attempt d).row.attemptCount = d.attemptCount + 1 := by
  have hspec := dispatchRow_spec env webhook attempt d
  generalize dispatchRow env webhook attempt d = effect at hspec ⊢
  cases hspec with
  | raised => rfl
  | delivered _ _ hsame => exact hsame.attemptCount
  | deadLettered _ _ hsame => exact hsame.attemptCount
  | scheduled _ _ hsame => exact hsame.attemptCount

theorem dispatchRow_output {env : WebhookEnv} {webhook : Option Webhook} {attempt : Attempt}
    {d : WebhookDelivery} {p : Post} (h : p ∈ (dispatchRow env webhook attempt d).output) :
    p.deliveryId = d.id := by
  unfold dispatchRow at h
  cases webhook with
  | none => cases h
  | some w =>
    dsimp only at h
    split at h
    · cases h
    · split at h
      · rw [List.mem_singleton.mp h]
        rfl
      · rw [List.mem_singleton.mp h]
        rfl

end NocIq
