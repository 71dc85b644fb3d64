import NocIq.Contract.CircuitBreaker
import NocIq.Lib.TtlCache

/-!
# NocIq — the fallback chain of the contract bridge

`BridgeFallbackService` of `app/services/contracts/bridge_fallback.py`, for calls that run one after
the other. An upstream is any callable: it returns, raises, or is interrupted by what is not an
`Exception` and so not caught.

* **`tryUpstreams_spec`** — the breakers of the service are what the history of the attempts says.
* **`fallback_chain`** — in a run whose calls are faithful, every call does what its history says.
-/

namespace NocIq.Contract

/-! ## Params -/

/-- The values of params: their `repr` and their `==`, and the `repr` of a key. -/
structure Objects (π : Type) where
  reprKey : String → String
  repr : π → String
  eq : π → π → Bool

/-- A dictionary, in the order of insertion. -/
abbrev Params (π : Type) := List (String × π)

namespace Objects

variable {π : Type} (objects : Objects π)

/-- `str(params)`. -/
def text (params : Params π) : String :=
  "\x7b" ++ String.intercalate ", "
    (params.map fun m => objects.reprKey m.1 ++ ": " ++ objects.repr m.2) ++ "\x7d"

/-- `params == params'`, whatever the order. -/
def dictEq (params params' : Params π) : Bool :=
  decide (params.length = params'.length) &&
    params.all fun m => params'.any fun m' => decide (m.1 = m'.1) && objects.eq m.2 m'.2

/-- `f"{method}:{params}"`. -/
def cacheKey (method : String) (params : Params π) : String := s!"{method}:{objects.text params}"

end Objects

/-! ## The service -/

structure FallbackSettings where
  fallbackEnabled : Bool
  threshold : Int
  cooldownSeconds : Int
  cacheTtlSeconds : Int
  deriving DecidableEq

inductive Outcome (ν : Type) where
  | returns (result : ν)
  | raises
  | interrupted
  deriving DecidableEq

/-- An upstream, with the readings of the clock around its call. -/
structure Upstream (ν : Type) where
  checkedAt : ℚ
  startedAt : ℚ
  outcome : Outcome ν
  finishedAt : ℚ
  recordedAt : ℚ

structure FallbackResult (ν : Type) where
  data : ν
  source : String
  latencyMs : ℚ
  stale : Bool := false
  deriving DecidableEq

inductive FallbackError where
  | runtimeError (message : String)
  | interrupted
  deriving DecidableEq

structure BridgeFallbackService (ν : Type) where
  cache : TtlCache.Cache String ν ℚ
  breakers : String → Option CircuitBreaker

/-- An upstream that was called. -/
structure Attempt where
  name : String
  succeeded : Bool
  time : ℚ
  deriving DecidableEq

/-- How the loop over the upstreams ends. -/
inductive Ending (ν : Type) where
  | returned (result : FallbackResult ν)
  | interrupted
  | exhausted
  deriving DecidableEq

structure FallbackCall (π ν : Type) where
  method : String
  params : Params π
  upstreams : Option (List (Upstream ν))
  readAt : ℚ

def upstreamName (method : String) (idx : Nat) : String := s!"{method}:upstream_{idx}"

namespace BridgeFallbackService

variable {π ν : Type} (settings : FallbackSettings) (objects : Objects π)

def new : BridgeFallbackService ν where
  cache _ := none
  breakers _ := none

def getBreaker (name : String) (service : BridgeFallbackService ν) : CircuitBreaker :=
  (service.breakers name).getD
    { threshold := settings.threshold, cooldownSeconds := settings.cooldownSeconds }

def putBreaker (name : String) (breaker : CircuitBreaker) (service : BridgeFallbackService ν) :
    BridgeFallbackService ν :=
  { service with breakers := Function.update service.breakers name (some breaker) }

/-- The loop, from an index on: the upstreams that are called, how it ends, and the service. -/
def tryUpstreams (method key : String) :
    Nat → List (Upstream ν) → BridgeFallbackService ν →
      List Attempt × Ending ν × BridgeFallbackService ν
  | _, [], service => ([], .exhausted, service)
  | idx, upstream :: rest, service =>
    let name := upstreamName method idx
    let (allowed, breaker) := (service.getBreaker settings name).allowRequest upstream.checkedAt
    let service := service.putBreaker name breaker
    if allowed then
      match upstream.outcome with
      | .returns result =>
        let service := service.putBreaker name breaker.recordSuccess
        let cache := TtlCache.set (upstream.recordedAt + settings.cacheTtlSeconds) key result
          service.cache
        ([⟨name, true, upstream.recordedAt⟩],
          .returned
            { data := result
              source := name
              latencyMs := (upstream.finishedAt - upstream.startedAt) * 1000 },
          { service with cache })
      | .raises =>
        let service := service.putBreaker name (breaker.recordFailure upstream.recordedAt)
        let (attempts, ending, service) := tryUpstreams method key (idx + 1) rest service
        (⟨name, false, upstream.recordedAt⟩ :: attempts, ending, service)
      | .interrupted => ([⟨name, false, upstream.recordedAt⟩], .interrupted, service)
    else tryUpstreams method key (idx + 1) rest service

def executeWithFallback (call : FallbackCall π ν) (service : BridgeFallbackService ν) :
    List Attempt × Except FallbackError (FallbackResult ν) × BridgeFallbackService ν :=
  if settings.fallbackEnabled then
    let key := objects.cacheKey call.method call.params
    match tryUpstreams settings call.method key 0 (call.upstreams.getD []) service with
    | (attempts, .returned result, service) => (attempts, .ok result, service)
    | (attempts, .interrupted, service) => (attempts, .error .interrupted, service)
    | (attempts, .exhausted, service) =>
      match TtlCache.getWithMeta (settings.cacheTtlSeconds : ℚ) call.readAt key service.cache with
      | some cached =>
        (attempts,
          .ok { data := cached.value, source := "stale_cache", latencyMs := 0, stale := true },
          service)
      | none =>
        (attempts,
          .error (.runtimeError
            ("All fallback upstreams exhausted and no cached data available for "
              ++ call.method)), service)
  else ([], .error (.runtimeError "Bridge fallback is disabled"), service)

end BridgeFallbackService

/-! ## What a call should do -/

/-- A call that succeeded. -/
structure Answer (π ν : Type) where
  method : String
  params : Params π
  data : ν

/-- What has happened, newest first. -/
structure History (π ν : Type) where
  attempts : List Attempt
  answers : List (Answer π ν)

/-- The times of the last consecutive failures of a name, newest first. -/
def consecutiveFailures (name : String) : List Attempt → List ℚ
  | [] => []
  | a :: attempts =>
    if a.name = name then
      if a.succeeded then [] else a.time :: consecutiveFailures name attempts
    else consecutiveFailures name attempts

/-- At least `threshold` failures, the last one less than the cooldown ago. -/
def isBlocked (settings : FallbackSettings) (now : ℚ) : List ℚ → Bool
  | [] => false
  | last :: before =>
    decide (settings.threshold ≤ before.length + 1) && decide (now - last < settings.cooldownSeconds)

def blocked (settings : FallbackSettings) (name : String) (now : ℚ) (attempts : List Attempt) :
    Bool :=
  isBlocked settings now (consecutiveFailures name attempts)

/-- Upstreams in their order, without those that are blocked, up to the first that succeeds. -/
def chain {ν : Type} (settings : FallbackSettings) (method : String) :
    Nat → List (Upstream ν) → List Attempt → List Attempt × Option ν
  | _, [], _ => ([], none)
  | idx, upstream :: rest, attempts =>
    let name := upstreamName method idx
    if blocked settings name upstream.checkedAt attempts then
      chain settings method (idx + 1) rest attempts
    else
      match upstream.outcome with
      | .returns result => ([⟨name, true, upstream.recordedAt⟩], some result)
      | .raises | .interrupted =>
        let failure : Attempt := ⟨name, false, upstream.recordedAt⟩
        let (tried, result) := chain settings method (idx + 1) rest (failure :: attempts)
        (failure :: tried, result)

/-- What a caller is told. -/
inductive Reply (ν : Type) where
  | fresh (data : ν)
  | stale (data : ν)
  | runtimeError
  | interrupted
  deriving DecidableEq

def replyOf {ν : Type} : Except FallbackError (FallbackResult ν) → Reply ν
  | .ok result => if result.stale then .stale result.data else .fresh result.data
  | .error (.runtimeError _) => .runtimeError
  | .error .interrupted => .interrupted

/-- The service, and what has happened to it. -/
structure Bridge (π ν : Type) where
  service : BridgeFallbackService ν
  history : History π ν

namespace Bridge

variable {π ν : Type} (settings : FallbackSettings) (objects : Objects π)

def fresh : Bridge π ν where
  service := .new
  history := { attempts := [], answers := [] }

def run (bridge : Bridge π ν) (call : FallbackCall π ν) :
    List Attempt × Except FallbackError (FallbackResult ν) × BridgeFallbackService ν :=
  bridge.service.executeWithFallback settings objects call

def reply (bridge : Bridge π ν) (call : FallbackCall π ν) : Reply ν :=
  replyOf (bridge.run settings objects call).2.1

def next (bridge : Bridge π ν) (call : FallbackCall π ν) : Bridge π ν where
  service := (bridge.run settings objects call).2.2
  history :=
    { attempts := (bridge.run settings objects call).1.reverse ++ bridge.history.attempts
      answers :=
        match bridge.reply settings objects call with
        | .fresh data => ⟨call.method, call.params, data⟩ :: bridge.history.answers
        | _ => bridge.history.answers }

def chainOf (bridge : Bridge π ν) (call : FallbackCall π ν) : List Attempt × Option ν :=
  chain settings call.method 0 (call.upstreams.getD []) bridge.history.attempts

/-- The most recent successful call with the same method and equal params. -/
def sameRequest (bridge : Bridge π ν) (call : FallbackCall π ν) : Option (Answer π ν) :=
  bridge.history.answers.find? fun answer =>
    decide (answer.method = call.method) && objects.dictEq call.params answer.params

def promised (bridge : Bridge π ν) (call : FallbackCall π ν) : Reply ν :=
  match (bridge.chainOf settings call).2 with
  | some data => .fresh data
  | none =>
    match bridge.sameRequest objects call with
    | some answer => .stale answer.data
    | none => .runtimeError

/-- **What a call promises**: which upstreams it calls, and what it returns. -/
structure FollowsChain (bridge : Bridge π ν) (call : FallbackCall π ν) : Prop where
  attempts : (bridge.run settings objects call).1 = (bridge.chainOf settings call).1
  reply : bridge.reply settings objects call = bridge.promised settings objects call

/-- No callable is interrupted; and if none of the chain succeeds, the successful calls of the same
text are those of the same method and equal params. -/
def Faithful (bridge : Bridge π ν) (call : FallbackCall π ν) : Prop :=
  (∀ upstream ∈ call.upstreams.getD [], upstream.outcome ≠ .interrupted) ∧
    ((bridge.chainOf settings call).2 = none → ∀ answer ∈ bridge.history.answers,
      (objects.cacheKey answer.method answer.params = objects.cacheKey call.method call.params ↔
        answer.method = call.method ∧ objects.dictEq call.params answer.params = true))

end Bridge

/-! ## Breakers and the history -/

/-- The breaker is what the last consecutive failures say. -/
structure Tracks (settings : FallbackSettings) (breaker : CircuitBreaker) (failures : List ℚ) :
    Prop where
  threshold : breaker.threshold = settings.threshold
  cooldownSeconds : breaker.cooldownSeconds = settings.cooldownSeconds
  failureCount : breaker.failureCount = failures.length
  state : breaker.state =
    if failures ≠ [] ∧ settings.threshold ≤ (failures.length : Int) then .opened else .closed
  lastFailureTime : ∀ t ∈ failures.head?, breaker.lastFailureTime = t

section Breaker

variable {settings : FallbackSettings} {breaker : CircuitBreaker} {failures : List ℚ}

theorem tracks_new : Tracks settings
    { threshold := settings.threshold, cooldownSeconds := settings.cooldownSeconds } [] where
  threshold := rfl
  cooldownSeconds := rfl
  failureCount := rfl
  state := rfl
  lastFailureTime t ht := by cases ht

theorem Tracks.state_closed (h : Tracks settings breaker failures)
    (hfew : failures = [] ∨ (failures.length : Int) < settings.threshold) :
    breaker.state = .closed := by
  rw [h.state, if_neg]
  rintro ⟨hne, hle⟩
  obtain hnil | hlt := hfew
  · exact hne hnil
  · omega

theorem Tracks.state_opened {last : ℚ} {before : List ℚ}
    (h : Tracks settings breaker (last :: before))
    (hthreshold : settings.threshold ≤ before.length + 1) : breaker.state = .opened := by
  rw [h.state, if_pos]
  refine ⟨List.cons_ne_nil _ _, ?_⟩
  rw [List.length_cons]
  push_cast
  exact hthreshold

theorem allowRequest_of_closed (h : breaker.state = .closed) (now : ℚ) :
    breaker.allowRequest now = (true, breaker) := by
  unfold CircuitBreaker.allowRequest
  rw [h]

theorem allowRequest_of_halfOpen (h : breaker.state = .halfOpen) (now : ℚ) :
    breaker.allowRequest now = (true, breaker) := by
  unfold CircuitBreaker.allowRequest
  rw [h]

theorem allowRequest_of_opened (h : breaker.state = .opened) (now : ℚ) :
    breaker.allowRequest now =
      if (breaker.cooldownSeconds : ℚ) ≤ now - breaker.lastFailureTime then
        (true, { breaker with state := .halfOpen })
      else (false, breaker) := by
  unfold CircuitBreaker.allowRequest
  rw [h]

/-- **A breaker admits** a request unless the failures block it. -/
theorem allowRequest_fst (h : Tracks settings breaker failures) (now : ℚ) :
    (breaker.allowRequest now).1 = !isBlocked settings now failures := by
  cases failures with
  | nil =>
    rw [allowRequest_of_closed (h.state_closed (.inl rfl))]
    rfl
  | cons last before =>
    have hlast := h.lastFailureTime last rfl
    rw [isBlocked]
    by_cases hthreshold : settings.threshold ≤ before.length + 1
    · rw [allowRequest_of_opened (h.state_opened hthreshold), decide_eq_true hthreshold,
        Bool.true_and, h.cooldownSeconds, hlast]
      by_cases hcooled : (settings.cooldownSeconds : ℚ) ≤ now - last
      · rw [if_pos hcooled, decide_eq_false (not_lt.mpr hcooled)]
        rfl
      · rw [if_neg hcooled, decide_eq_true (not_le.mp hcooled)]
        rfl
    · have hclosed : breaker.state = .closed := by
        refine h.state_closed (.inr ?_)
        rw [List.length_cons]
        push_cast
        omega
      rw [allowRequest_of_closed hclosed, decide_eq_false hthreshold]
      rfl

theorem allowRequest_snd_of_refused {now : ℚ} (h : (breaker.allowRequest now).1 = false) :
    (breaker.allowRequest now).2 = breaker := by
  cases hstate : breaker.state with
  | closed => rw [allowRequest_of_closed hstate]
  | opened =>
    rw [allowRequest_of_opened hstate] at h ⊢
    split at h
    · cases h
    · next hcooled => rw [if_neg hcooled]
  | halfOpen => rw [allowRequest_of_halfOpen hstate]

theorem allowRequest_snd (breaker : CircuitBreaker) (now : ℚ) :
    ∃ state, (breaker.allowRequest now).2 = { breaker with state } := by
  cases hstate : breaker.state with
  | closed => exact ⟨breaker.state, by rw [allowRequest_of_closed hstate]⟩
  | opened =>
    rw [allowRequest_of_opened hstate]
    split
    · exact ⟨.halfOpen, rfl⟩
    · exact ⟨breaker.state, rfl⟩
  | halfOpen => exact ⟨breaker.state, by rw [allowRequest_of_halfOpen hstate]⟩

theorem tracks_recordSuccess (h : Tracks settings breaker failures) (now : ℚ) :
    Tracks settings (breaker.allowRequest now).2.recordSuccess [] := by
  obtain ⟨state, hbreaker⟩ := allowRequest_snd breaker now
  rw [hbreaker]
  exact ⟨h.threshold, h.cooldownSeconds, rfl, rfl, fun t ht => nomatch ht⟩

theorem tracks_recordFailure (h : Tracks settings breaker failures) (now recordedAt : ℚ) :
    Tracks settings ((breaker.allowRequest now).2.recordFailure recordedAt)
      (recordedAt :: failures) := by
  have hcount := h.failureCount
  have hthreshold := h.threshold
  by_cases hopens : settings.threshold ≤ failures.length + 1
  · -- the breaker opens, whatever its state was
    obtain ⟨state, hbreaker⟩ := allowRequest_snd breaker now
    have hfails : ((breaker.allowRequest now).2.recordFailure recordedAt) =
        { breaker with
          state := .opened
          failureCount := failures.length + 1
          lastFailureTime := recordedAt } := by
      rw [hbreaker]
      unfold CircuitBreaker.recordFailure
      simp only [hcount, hthreshold]
      rw [if_pos (by push_cast; exact hopens)]
    rw [hfails]
    refine ⟨hthreshold, h.cooldownSeconds, rfl, ?_, ?_⟩
    · rw [if_pos ⟨List.cons_ne_nil _ _, by rw [List.length_cons]; push_cast; exact hopens⟩]
    · intro t ht
      exact Option.some.inj ht
  · -- the breaker is closed, and stays so
    have hclosed := h.state_closed (.inr (by omega))
    have hfails : ((breaker.allowRequest now).2.recordFailure recordedAt) =
        { breaker with failureCount := failures.length + 1, lastFailureTime := recordedAt } := by
      rw [allowRequest_of_closed hclosed]
      unfold CircuitBreaker.recordFailure
      simp only [hcount, hthreshold]
      rw [if_neg (by push_cast; exact hopens)]
    rw [hfails]
    refine ⟨hthreshold, h.cooldownSeconds, rfl, ?_, ?_⟩
    · rw [if_neg]
      · exact hclosed
      · rintro ⟨-, hle⟩
        rw [List.length_cons] at hle
        push_cast at hle
        exact hopens hle
    · intro t ht
      exact Option.some.inj ht

end Breaker

/-! ## The loop -/

/-- Every breaker is what the attempts say. -/
def BreakersTrack {ν : Type} (settings : FallbackSettings) (service : BridgeFallbackService ν)
    (attempts : List Attempt) : Prop :=
  ∀ name, Tracks settings (service.getBreaker settings name) (consecutiveFailures name attempts)

section Loop

variable {π ν : Type} {settings : FallbackSettings} {service : BridgeFallbackService ν}
  {attempts : List Attempt}

open BridgeFallbackService

theorem getBreaker_putBreaker (name name' : String) (breaker : CircuitBreaker) :
    (service.putBreaker name breaker).getBreaker settings name' =
      if name' = name then breaker else service.getBreaker settings name' := by
  unfold getBreaker putBreaker
  by_cases h : name' = name
  · subst h
    rw [if_pos rfl]
    dsimp only
    rw [Function.update_self]
    rfl
  · rw [if_neg h]
    dsimp only
    rw [Function.update_of_ne h]

theorem breakersTrack_put (h : BreakersTrack settings service attempts) {name : String}
    {breaker : CircuitBreaker} {attempt : Attempt} (hname : attempt.name = name)
    (hbreaker : Tracks settings breaker
      (if attempt.succeeded then [] else attempt.time :: consecutiveFailures name attempts)) :
    BreakersTrack settings (service.putBreaker name breaker) (attempt :: attempts) := by
  intro name'
  rw [getBreaker_putBreaker, consecutiveFailures]
  by_cases hsame : name' = name
  · subst hsame
    rw [if_pos rfl, if_pos hname]
    exact hbreaker
  · rw [if_neg hsame, if_neg (by rw [hname]; exact fun heq => hsame heq.symm)]
    exact h name'

theorem breakersTrack_put_same (h : BreakersTrack settings service attempts) (name : String)
    {breaker : CircuitBreaker} (hbreaker : breaker = service.getBreaker settings name) :
    BreakersTrack settings (service.putBreaker name breaker) attempts := by
  intro name'
  rw [getBreaker_putBreaker]
  split
  · next hsame =>
    rw [hbreaker, ← hsame]
    exact h name'
  · exact h name'

theorem putBreaker_putBreaker (name : String) (breaker breaker' : CircuitBreaker) :
    (service.putBreaker name breaker).putBreaker name breaker' =
      service.putBreaker name breaker' := by
  unfold putBreaker
  dsimp only
  rw [Function.update_idem]

/-- How the loop ends, given the result of the chain. -/
structure LoopEnds (key : String) (service : BridgeFallbackService ν) (first : Option ν)
    (ending : Ending ν) (service' : BridgeFallbackService ν) : Prop where
  ending : match first with
    | some data => ∃ result, ending = .returned result ∧ result.data = data ∧ result.stale = false
    | none => ending = .exhausted
  cache : ∀ k, (service'.cache k).map TtlCache.Entry.value =
    match first with
    | some data => if k = key then some data else (service.cache k).map TtlCache.Entry.value
    | none => (service.cache k).map TtlCache.Entry.value

/-- **The loop** calls what the chain says, and leaves the breakers as the attempts say. Induction
on the upstreams. -/
theorem tryUpstreams_spec (method key : String) {upstreams : List (Upstream ν)}
    (hinterrupted : ∀ upstream ∈ upstreams, upstream.outcome ≠ .interrupted) (idx : Nat)
    (h : BreakersTrack settings service attempts) :
    (tryUpstreams settings method key idx upstreams service).1 =
        (chain settings method idx upstreams attempts).1 ∧
      LoopEnds key service (chain settings method idx upstreams attempts).2
        (tryUpstreams settings method key idx upstreams service).2.1
        (tryUpstreams settings method key idx upstreams service).2.2 ∧
      BreakersTrack settings (tryUpstreams settings method key idx upstreams service).2.2
        ((tryUpstreams settings method key idx upstreams service).1.reverse ++ attempts) := by
  induction upstreams generalizing idx service attempts with
  | nil => exact ⟨rfl, ⟨rfl, fun k => rfl⟩, h⟩
  | cons upstream rest ih =>
    have htracks := h (upstreamName method idx)
    have hallowed := allowRequest_fst htracks upstream.checkedAt
    have hrest : ∀ upstream ∈ rest, upstream.outcome ≠ .interrupted :=
      fun u hu => hinterrupted u (List.mem_cons_of_mem _ hu)
    rw [tryUpstreams, chain]
    dsimp only
    unfold blocked
    cases hblocked : isBlocked settings upstream.checkedAt
        (consecutiveFailures (upstreamName method idx) attempts) with
    | true =>
      -- the breaker refuses, and the loop goes on
      rw [hblocked] at hallowed
      rw [hallowed, if_pos rfl, if_neg (by decide)]
      have hsame := allowRequest_snd_of_refused hallowed
      obtain ⟨hattempts, hends, hbreakers⟩ :=
        ih hrest (idx + 1) (breakersTrack_put_same h _ hsame)
      exact ⟨hattempts, ⟨hends.ending, hends.cache⟩, hbreakers⟩
    | false =>
      rw [hblocked] at hallowed
      rw [hallowed, if_pos (by rfl), if_neg (by decide)]
      cases houtcome : upstream.outcome with
      | interrupted => exact absurd houtcome (hinterrupted upstream List.mem_cons_self)
      | returns result =>
        -- the first result ends the loop, and is cached
        dsimp only
        refine ⟨rfl, ⟨⟨_, rfl, rfl, rfl⟩, ?_⟩, ?_⟩
        · intro k
          dsimp only
          unfold TtlCache.set
          by_cases hk : k = key
          · subst hk
            rw [Function.update_self, if_pos rfl]
            rfl
          · rw [Function.update_of_ne hk, if_neg hk]
            rfl
        · rw [putBreaker_putBreaker]
          exact breakersTrack_put h rfl (tracks_recordSuccess htracks upstream.checkedAt)
      | raises =>
        dsimp only
        rw [putBreaker_putBreaker]
        let failed : Attempt := ⟨upstreamName method idx, false, upstream.recordedAt⟩
        have hname : failed.name = upstreamName method idx := rfl
        have hfailed := breakersTrack_put h hname
          (tracks_recordFailure htracks upstream.checkedAt upstream.recordedAt)
        obtain ⟨hattempts, hends, hbreakers⟩ := ih hrest (idx + 1) hfailed
        refine ⟨?_, ⟨hends.ending, hends.cache⟩, ?_⟩
        · rw [hattempts]
        · rw [List.reverse_cons, List.append_assoc]
          exact hbreakers

end Loop

/-! ## Calls -/

namespace Bridge

variable {π ν : Type} {settings : FallbackSettings} {objects : Objects π} {bridge : Bridge π ν}
  {call : FallbackCall π ν}

/-- The service is what has happened: its breakers count the attempts, and its cache has the last
answer for every text. -/
structure Consistent (settings : FallbackSettings) (objects : Objects π) (bridge : Bridge π ν) :
    Prop where
  breakers : BreakersTrack settings bridge.service bridge.history.attempts
  cache : ∀ key, (bridge.service.cache key).map TtlCache.Entry.value =
    (bridge.history.answers.find? fun answer =>
      decide (objects.cacheKey answer.method answer.params = key)).map Answer.data

theorem consistent_fresh : Consistent settings objects (fresh : Bridge π ν) where
  breakers _ := tracks_new
  cache _ := rfl

theorem run_of_some (henabled : settings.fallbackEnabled = true)
    (h : Consistent settings objects bridge) (hfaithful : Faithful settings objects bridge call)
    {data : ν} (hchain : (bridge.chainOf settings call).2 = some data) :
    (bridge.run settings objects call).1 = (bridge.chainOf settings call).1 ∧
      bridge.reply settings objects call = .fresh data ∧
      BreakersTrack settings (bridge.run settings objects call).2.2
        ((bridge.run settings objects call).1.reverse ++ bridge.history.attempts) ∧
      ∀ key, ((bridge.run settings objects call).2.2.cache key).map TtlCache.Entry.value =
        if key = objects.cacheKey call.method call.params then some data
        else (bridge.service.cache key).map TtlCache.Entry.value := by
  obtain ⟨hattempts, hends, hbreakers⟩ := tryUpstreams_spec call.method
    (objects.cacheKey call.method call.params) hfaithful.1 0 h.breakers
  unfold chainOf at hchain ⊢
  rw [hchain] at hends
  obtain ⟨result, hending, hdata, hstale⟩ := hends.ending
  unfold reply run BridgeFallbackService.executeWithFallback
  rw [if_pos henabled]
  dsimp only
  generalize BridgeFallbackService.tryUpstreams settings call.method _ 0 _ bridge.service = loop
    at hattempts hends hbreakers hending
  obtain ⟨attempts, ending, service⟩ := loop
  dsimp only at hending
  subst hending
  refine ⟨hattempts, ?_, hbreakers, hends.cache⟩
  show (if result.stale = true then Reply.stale result.data else .fresh result.data) = _
  rw [hstale, hdata]
  rfl

theorem run_of_none (henabled : settings.fallbackEnabled = true)
    (h : Consistent settings objects bridge) (hfaithful : Faithful settings objects bridge call)
    (hchain : (bridge.chainOf settings call).2 = none) :
    (bridge.run settings objects call).1 = (bridge.chainOf settings call).1 ∧
      bridge.reply settings objects call =
        (match (bridge.service.cache (objects.cacheKey call.method call.params)).map
            TtlCache.Entry.value with
          | some data => .stale data
          | none => .runtimeError) ∧
      BreakersTrack settings (bridge.run settings objects call).2.2
        ((bridge.run settings objects call).1.reverse ++ bridge.history.attempts) ∧
      ∀ key, ((bridge.run settings objects call).2.2.cache key).map TtlCache.Entry.value =
        (bridge.service.cache key).map TtlCache.Entry.value := by
  obtain ⟨hattempts, hends, hbreakers⟩ := tryUpstreams_spec call.method
    (objects.cacheKey call.method call.params) hfaithful.1 0 h.breakers
  unfold chainOf at hchain ⊢
  rw [hchain] at hends
  have hending := hends.ending
  have hcache := hends.cache
  dsimp only at hending hcache
  unfold reply run BridgeFallbackService.executeWithFallback
  rw [if_pos henabled]
  dsimp only
  rw [← hcache]
  generalize BridgeFallbackService.tryUpstreams settings call.method _ 0 _ bridge.service = loop
    at hattempts hbreakers hending hcache
  obtain ⟨attempts, ending, service⟩ := loop
  dsimp only at hending hcache hattempts hbreakers
  subst hending
  dsimp only
  rw [← TtlCache.getWithMeta_value (settings.cacheTtlSeconds : ℚ) call.readAt]
  cases TtlCache.getWithMeta (settings.cacheTtlSeconds : ℚ) call.readAt
      (objects.cacheKey call.method call.params) service.cache with
  | none => exact ⟨hattempts, rfl, hbreakers, hcache⟩
  | some cached => exact ⟨hattempts, rfl, hbreakers, hcache⟩

theorem sameText_eq_sameRequest (hfaithful : Faithful settings objects bridge call)
    (hchain : (bridge.chainOf settings call).2 = none) :
    (bridge.history.answers.find? fun answer =>
      decide (objects.cacheKey answer.method answer.params =
        objects.cacheKey call.method call.params)) = bridge.sameRequest objects call := by
  unfold sameRequest
  have hsame := hfaithful.2 hchain
  generalize bridge.history.answers = answers at hsame ⊢
  induction answers with
  | nil => rfl
  | cons answer answers ih =>
    have hanswer := hsame answer List.mem_cons_self
    have hbool : decide (objects.cacheKey answer.method answer.params =
        objects.cacheKey call.method call.params) =
        (decide (answer.method = call.method) && objects.dictEq call.params answer.params) := by
      rw [Bool.eq_iff_iff, decide_eq_true_iff, hanswer, Bool.and_eq_true, decide_eq_true_iff]
    rw [List.find?_cons, List.find?_cons, hbool,
      ih fun answer hmem => hsame answer (List.mem_cons_of_mem _ hmem)]

/-- **One call** follows the chain, and keeps the service consistent. -/
theorem followsChain_of_faithful (henabled : settings.fallbackEnabled = true)
    (h : Consistent settings objects bridge) (hfaithful : Faithful settings objects bridge call) :
    FollowsChain settings objects bridge call ∧
      Consistent settings objects (bridge.next settings objects call) := by
  cases hchain : (bridge.chainOf settings call).2 with
  | some data =>
    obtain ⟨hattempts, hreply, hbreakers, hcache⟩ := run_of_some henabled h hfaithful hchain
    refine ⟨⟨hattempts, by rw [promised, hchain, hreply]⟩, ⟨hbreakers, ?_⟩⟩
    intro key
    show ((bridge.run settings objects call).2.2.cache key).map TtlCache.Entry.value = _
    rw [hcache key, next, hreply]
    dsimp only
    rw [List.find?_cons]
    by_cases hkey : objects.cacheKey call.method call.params = key
    · rw [if_pos hkey.symm, decide_eq_true hkey]
      rfl
    · rw [if_neg fun heq => hkey heq.symm, decide_eq_false hkey]
      exact h.cache key
  | none =>
    obtain ⟨hattempts, hreply, hbreakers, hcache⟩ := run_of_none henabled h hfaithful hchain
    have hsame := sameText_eq_sameRequest hfaithful hchain
    rw [h.cache, hsame] at hreply
    refine ⟨⟨hattempts, ?_⟩, ⟨hbreakers, ?_⟩⟩
    · rw [promised, hchain, hreply]
      cases bridge.sameRequest objects call with
      | none => rfl
      | some answer => rfl
    · intro key
      show ((bridge.run settings objects call).2.2.cache key).map TtlCache.Entry.value = _
      rw [hcache key, next, hreply]
      cases bridge.sameRequest objects call with
      | none => exact h.cache key
      | some answer => exact h.cache key

end Bridge

open Bridge Runs

/-- **The fallback chain**: in a run whose calls are all faithful, every call follows the chain. -/
theorem fallback_chain {π ν : Type} {settings : FallbackSettings} {objects : Objects π}
    (henabled : settings.fallbackEnabled = true) {steps : List (Bridge π ν × FallbackCall π ν)}
    {bridge : Bridge π ν}
    (hrun : Run (fun b call b' => b' = b.next settings objects call) fresh steps bridge)
    (hfaithful : ∀ x ∈ steps, Faithful settings objects x.1 x.2) :
    ∀ x ∈ steps, FollowsChain settings objects x.1 x.2 := by
  have hrun' := hrun.restrict hfaithful
  have hconsistent := hrun'.invariant_steps (I := Consistent settings objects) consistent_fresh
    (by
      rintro b call _ h ⟨rfl, hcall⟩
      exact (followsChain_of_faithful henabled h hcall).2)
  intro x hx
  exact (followsChain_of_faithful henabled (hconsistent x hx) (hfaithful x hx)).1

/-! ## Balances -/

instance {π ν : Type} [DecidableEq ν] (settings : FallbackSettings) (objects : Objects π)
    (bridge : Bridge π ν) (call : FallbackCall π ν) :
    Decidable (Faithful settings objects bridge call) :=
  inferInstanceAs (Decidable (_ ∧ (_ → _)))

def intObjects : Objects Int where
  reprKey key := "'" ++ key ++ "'"
  repr n := toString n
  eq n n' := decide (n = n')

def chainSettings : FallbackSettings := ⟨true, 3, 30, 60⟩

def balanceCall (params : Params Int) (outcomes : List (Outcome String)) :
    FallbackCall Int String where
  method := "balance"
  params
  upstreams := some (outcomes.map fun outcome => ⟨1, 1, outcome, 2, 2⟩)
  readAt := 3

/-- The second upstream answers, and its answer is served when nothing else is there. -/
theorem fallback_chain_balance :
    let first := balanceCall [("a", 1)] [.raises, .returns "7"]
    let second := balanceCall [("a", 1)] [.raises]
    let bridge : Bridge Int String := Bridge.fresh.next chainSettings intObjects first
    bridge.reply chainSettings intObjects second = .stale "7" ∧
      FollowsChain chainSettings intObjects bridge second := by
  intro first second bridge
  have hfirst : Run (fun b call b' => b' = b.next chainSettings intObjects call) Bridge.fresh
      [(Bridge.fresh, first)] bridge := .snoc .nil rfl
  have hrun : Run (fun b call b' => b' = b.next chainSettings intObjects call) Bridge.fresh
      [(Bridge.fresh, first), (bridge, second)] (bridge.next chainSettings intObjects second) :=
    hfirst.snoc rfl
  refine ⟨by decide +kernel, ?_⟩
  refine fallback_chain rfl hrun ?_ (bridge, second) (by simp)
  intro x hx
  obtain rfl | hx := List.mem_cons.mp hx
  · decide +kernel
  · obtain rfl := List.mem_singleton.mp hx
    decide +kernel

/-- **The same params** in another order: the answer is there, and is not found. -/
theorem reordered_params_not_found :
    let first := balanceCall [("a", 1), ("b", 2)] [.returns "7"]
    let second := balanceCall [("b", 2), ("a", 1)] [.raises]
    let bridge : Bridge Int String := Bridge.fresh.next chainSettings intObjects first
    intObjects.dictEq second.params first.params = true ∧
      Bridge.fresh.reply chainSettings intObjects first = .fresh "7" ∧
      bridge.reply chainSettings intObjects second = .runtimeError ∧
      ¬ FollowsChain chainSettings intObjects bridge second := by
  intro first second bridge
  have hreply : bridge.reply chainSettings intObjects second = .runtimeError := by decide +kernel
  refine ⟨by decide +kernel, by decide +kernel, hreply, ?_⟩
  intro hfollows
  have hpromised : bridge.promised chainSettings intObjects second = .stale "7" := by
    decide +kernel
  rw [hfollows.reply, hpromised] at hreply
  cases hreply

end NocIq.Contract
