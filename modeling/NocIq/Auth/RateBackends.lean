import NocIq.Lib.ChangeTracking
import Mathlib.Tactic.NormNum

/-!
# NocIq — the backends of the rate limiter

`_MemoryBackend`, `_RedisBackend` and `RateLimiter` of `app/core/rate_limiter.py`. A call reads the
clock once, as the time in seconds, and Redis runs on the same clock. Redis refuses some of the
times that a key is to live for; which ones is a parameter.

* **`memory_results`** — the memory backend raises as soon as a key is used again.
* **`redis_results`** — Redis on keys that are used once.
* **`backends_agree_iff`** — the sequences of calls on which the backends agree.
-/

namespace NocIq

open ChangeTracking (setItem)

/-- The arguments of `sliding_window_check`, and the reading of the clock. -/
structure RateCall where
  key : String
  limit : Int
  windowSeconds : Int
  now : ℚ

structure RateSettings where
  rateLimitMaxKeys : Int
  rateLimitEvictBatchSize : Int

/-! ## Memory -/

/-- The windows of the keys. A window maps the text of an instant to the instant, in the order of
insertion. -/
abbrev MemoryWindows := String → List (String × ℚ)

/-- `text < number`. Python does not compare the two. -/
def strLtFloat (_text : String) (_number : ℚ) : Except String Bool :=
  .error "'<' not supported between instances of 'str' and 'float'"

/-- `while window and next(iter(window)) < cutoff: window.popitem(last=False)`. -/
def dropExpired (cutoff : ℚ) : List (String × ℚ) → Except String (List (String × ℚ))
  | [] => .ok []
  | item :: window =>
    match strLtFloat item.1 cutoff with
    | .error error => .error error
    | .ok true => dropExpired cutoff window
    | .ok false => .ok (item :: window)

/-- So many times `window.popitem(last=False)`. -/
def popItems : Nat → List (String × ℚ) → Except String (List (String × ℚ))
  | 0, window => .ok window
  | _ + 1, [] => .error "'dictionary is empty'"
  | n + 1, _ :: window => popItems n window

section Memory

variable (text : ℚ → String) (settings : RateSettings)

def evict (window : List (String × ℚ)) : Except String (List (String × ℚ)) :=
  if settings.rateLimitMaxKeys < window.length then
    popItems (min settings.rateLimitEvictBatchSize
      (window.length - settings.rateLimitMaxKeys / 2)).toNat window
  else .ok window

/-- `_MemoryBackend.sliding_window_check`. -/
def memoryCheck (windows : MemoryWindows) (call : RateCall) : Except String Bool × MemoryWindows :=
  let cutoff := call.now - call.windowSeconds
  match dropExpired cutoff (windows call.key) with
  | .error error => (.error error, windows)
  | .ok window =>
    match evict settings (setItem (text call.now) call.now window) with
    | .error error => (.error error, Function.update windows call.key [])
    | .ok window =>
      (.ok (decide ((window.length : Int) ≤ call.limit)), Function.update windows call.key window)

end Memory

/-! ## Redis -/

/-- A sorted set: its members with their scores, and when it expires. -/
structure SortedSet where
  members : List (String × ℚ) := []
  expireAt : Option ℚ := none

abbrev RedisDb := String → Option SortedSet

namespace RedisDb

variable (text : ℚ → String) (expires : Int → Bool)

/-- The set of a key, which is gone when it has expired. -/
def live (db : RedisDb) (now : ℚ) (key : String) : SortedSet :=
  match db key with
  | none => {}
  | some set => if set.expireAt.any (fun t => decide (t ≤ now)) then {} else set

/-- `ZREMRANGEBYSCORE`, of the scores from `low` to `high`. -/
def zremrangebyscore (low high : ℚ) (set : SortedSet) : SortedSet :=
  { set with members := set.members.filter fun m => !decide (low ≤ m.2 ∧ m.2 ≤ high) }

/-- `ZADD`. -/
def zadd (member : String) (score : ℚ) (set : SortedSet) : SortedSet :=
  { set with members := setItem member score set.members }

/-- `EXPIRE`: a key that is to live for no time is deleted. -/
def expire (now : ℚ) (seconds : Int) (set : SortedSet) : Option SortedSet :=
  if seconds ≤ 0 then none else some { set with expireAt := some (now + seconds) }

/-- `_RedisBackend.sliding_window_check`. All commands of the pipeline are run, and then the first
error is raised. -/
def check (db : RedisDb) (call : RateCall) : Except String Bool × RedisDb :=
  let set := zadd (text call.now) call.now
    (zremrangebyscore 0 (call.now - call.windowSeconds) (db.live call.now call.key))
  if expires call.windowSeconds then
    (.ok (decide ((set.members.length : Int) ≤ call.limit)),
      Function.update db call.key (expire call.now call.windowSeconds set))
  else (.error "invalid expire time in 'expire' command", Function.update db call.key (some set))

end RedisDb

/-! ## The limiter -/

inductive RateBackend where
  | redis
  | memory
  deriving DecidableEq, Repr

/-- `RateLimiter`, with both of its backends. `active` is `redis` only if it has a client. -/
structure RateLimiter where
  active : RateBackend
  memory : MemoryWindows := fun _ => []
  redis : RedisDb := fun _ => none
  hits : Nat := 0
  misses : Nat := 0
  fallbackCount : Nat := 0
  switchLogTime : Option ℚ := none

namespace RateLimiter

variable (text : ℚ → String) (settings : RateSettings) (expires : Int → Bool)

/-- `_maybe_fallback`. There is no way back to Redis. -/
def maybeFallback (available : Bool) (now : ℚ) (l : RateLimiter) : RateLimiter :=
  if l.active = .redis ∧ available = false then
    { l with active := .memory, fallbackCount := l.fallbackCount + 1, switchLogTime := some now }
  else l

/-- `_backend.sliding_window_check`. -/
def backendCheck (l : RateLimiter) (call : RateCall) : Except String Bool × RateLimiter :=
  match l.active with
  | .redis =>
    let result := l.redis.check text expires call
    (result.1, { l with redis := result.2 })
  | .memory =>
    let result := memoryCheck text settings l.memory call
    (result.1, { l with memory := result.2 })

/-- `check`. `available` is what a ping of Redis gives before the call. -/
def check (l : RateLimiter) (step : Bool × RateCall) : Except String Bool × RateLimiter :=
  let result := (l.maybeFallback step.1 step.2.now).backendCheck text settings expires step.2
  match result.1 with
  | .error error => (.error error, result.2)
  | .ok true => (.ok true, { result.2 with hits := result.2.hits + 1 })
  | .ok false => (.ok false, { result.2 with misses := result.2.misses + 1 })

end RateLimiter

/-! ## Runs -/

def rateResults {σ ε : Type} (step : σ → ε → Except String Bool × σ) :
    σ → List ε → List (Except String Bool)
  | _, [] => []
  | s, e :: es => (step s e).1 :: rateResults step (step s e).2 es

section Agreement

variable (text : ℚ → String) (settings : RateSettings) (expires : Int → Bool)

/-- What the backends are to do on a sequence of calls. -/
structure BackendsAgree (calls : List RateCall) : Prop where
  same : rateResults (memoryCheck text settings) (fun _ => []) calls =
    rateResults (RedisDb.check text expires) (fun _ => none) calls
  noRaise : ∀ result ∈ rateResults (memoryCheck text settings) (fun _ => []) calls,
    ∃ allowed, result = .ok allowed
  /-- Whichever backend the limiter has at the start, and whenever it falls back. -/
  fallback : ∀ active, ∀ steps : List (Bool × RateCall), steps.map Prod.snd = calls →
    rateResults (RateLimiter.check text settings expires) { active } steps =
      rateResults (memoryCheck text settings) (fun _ => []) calls

/-! ### Keys that have not been used -/

variable {settings} {windows : MemoryWindows} {call : RateCall}

theorem memoryCheck_fresh (hmax : 1 ≤ settings.rateLimitMaxKeys) (hfresh : windows call.key = []) :
    memoryCheck text settings windows call =
      (.ok (decide (1 ≤ call.limit)),
        Function.update windows call.key [(text call.now, call.now)]) := by
  have hroom : ¬ settings.rateLimitMaxKeys < (1 : Int) := by omega
  simp [memoryCheck, hfresh, dropExpired, setItem, evict, hroom]

/-- **Any further call.** The window has a text in front, which is compared with a number. -/
theorem memoryCheck_used (settings : RateSettings) (hused : windows call.key ≠ []) :
    ∃ error, memoryCheck text settings windows call = (.error error, windows) := by
  obtain ⟨item, window, hwindow⟩ := List.exists_cons_of_ne_nil hused
  refine ⟨"'<' not supported between instances of 'str' and 'float'", ?_⟩
  simp [memoryCheck, hwindow, dropExpired, strLtFloat]

theorem RedisDb.check_fresh {db : RedisDb} (hfresh : db call.key = none) :
    (db.check text expires call).1 =
        (if expires call.windowSeconds then .ok (decide (1 ≤ call.limit))
          else .error "invalid expire time in 'expire' command") ∧
      ∀ key, key ≠ call.key → (db.check text expires call).2 key = db key := by
  have hlive : db.live call.now call.key = {} := by
    simp [RedisDb.live, hfresh]
  unfold RedisDb.check
  rw [hlive]
  split
  · refine ⟨by simp [zadd, zremrangebyscore, setItem], ?_⟩
    intro key hkey
    exact Function.update_of_ne hkey _ _
  · refine ⟨rfl, ?_⟩
    intro key hkey
    exact Function.update_of_ne hkey _ _

/-! ### Runs of the backends -/

/-- The calls use different keys, none of which has been used in the windows. -/
structure FreshKeys (used : String → Prop) (calls : List RateCall) : Prop where
  nodup : (calls.map RateCall.key).Nodup
  unused : ∀ call ∈ calls, ¬ used call.key

variable {calls : List RateCall} {used : String → Prop}

theorem freshKeys_cons :
    FreshKeys used (call :: calls) ↔
      ¬ used call.key ∧ FreshKeys (fun key => key = call.key ∨ used key) calls := by
  constructor
  · intro h
    obtain ⟨hnew, hnodup⟩ := List.nodup_cons.mp h.nodup
    refine ⟨h.unused call List.mem_cons_self, hnodup, ?_⟩
    intro other hother husedother
    rcases husedother with hkey | hkey
    · exact hnew (hkey ▸ List.mem_map_of_mem hother)
    · exact h.unused other (List.mem_cons_of_mem _ hother) hkey
  · intro h
    refine ⟨List.nodup_cons.mpr ⟨?_, h.2.nodup⟩, ?_⟩
    · intro hmem
      obtain ⟨other, hother, hkey⟩ := List.mem_map.mp hmem
      exact h.2.unused other hother (Or.inl hkey)
    · intro other hother
      rcases List.mem_cons.mp hother with rfl | hother
      · exact h.1
      · exact fun hused => h.2.unused other hother (Or.inr hused)

theorem FreshKeys.mono {used' : String → Prop} (h : FreshKeys used calls)
    (hused : ∀ key, used' key → used key) : FreshKeys used' calls where
  nodup := h.nodup
  unused call hcall hkey := h.unused call hcall (hused call.key hkey)

/-- A key of the memory backend has been used if its window has items. -/
def MemoryWindows.Used (windows : MemoryWindows) (key : String) : Prop := windows key ≠ []

def RedisDb.Used (db : RedisDb) (key : String) : Prop := db key ≠ none

theorem used_update_iff {key other : String} {item : String × ℚ} :
    MemoryWindows.Used (Function.update windows key [item]) other ↔
      other = key ∨ windows.Used other := by
  unfold MemoryWindows.Used
  by_cases hkey : other = key
  · simp [hkey]
  · simp [hkey]

/-- **The memory backend** on keys that are used once. Induction on the calls. -/
theorem memory_results (hmax : 1 ≤ settings.rateLimitMaxKeys) (h : FreshKeys windows.Used calls) :
    rateResults (memoryCheck text settings) windows calls =
      calls.map fun call => .ok (decide (1 ≤ call.limit)) := by
  induction calls generalizing windows with
  | nil => rfl
  | cons call calls ih =>
    obtain ⟨hnew, hrest⟩ := freshKeys_cons.mp h
    have hstep := memoryCheck_fresh text hmax (not_not.mp hnew)
    rw [rateResults, hstep, List.map_cons]
    congr 1
    apply ih
    exact hrest.mono fun key hkey => used_update_iff.mp hkey

/-- If the memory backend raises for no call, then no key is used twice. Induction on the calls. -/
theorem freshKeys_of_noRaise (hmax : 1 ≤ settings.rateLimitMaxKeys)
    (h : ∀ result ∈ rateResults (memoryCheck text settings) windows calls,
      ∃ allowed, result = .ok allowed) :
    FreshKeys windows.Used calls := by
  induction calls generalizing windows with
  | nil => exact ⟨List.nodup_nil, List.forall_mem_nil _⟩
  | cons call calls ih =>
    rw [rateResults, List.forall_mem_cons] at h
    obtain ⟨⟨allowed, hallowed⟩, hrest⟩ := h
    have hnew : windows call.key = [] := by
      by_contra hused
      -- a second call for the key raises
      obtain ⟨error, herror⟩ := memoryCheck_used text settings hused
      rw [herror] at hallowed
      cases hallowed
    rw [memoryCheck_fresh text hmax hnew] at hrest
    exact freshKeys_cons.mpr
      ⟨not_not_intro hnew, (ih hrest).mono fun key hkey => used_update_iff.mpr hkey⟩

/-- **Redis** on keys that are used once. Induction on the calls. -/
theorem redis_results {db : RedisDb} (h : FreshKeys db.Used calls) :
    rateResults (RedisDb.check text expires) db calls =
      calls.map fun call =>
        if expires call.windowSeconds then .ok (decide (1 ≤ call.limit))
        else .error "invalid expire time in 'expire' command" := by
  induction calls generalizing db with
  | nil => rfl
  | cons call calls ih =>
    obtain ⟨hnew, hrest⟩ := freshKeys_cons.mp h
    obtain ⟨hresult, hothers⟩ := RedisDb.check_fresh text expires (not_not.mp hnew)
    rw [rateResults, hresult, List.map_cons]
    congr 1
    apply ih
    refine hrest.mono fun key hkey => ?_
    by_cases hown : key = call.key
    · exact Or.inl hown
    · unfold RedisDb.Used at hkey
      rw [hothers key hown] at hkey
      exact Or.inr hkey

/-! ### Runs of the limiter -/

theorem RateLimiter.check_fresh (hmax : 1 ≤ settings.rateLimitMaxKeys) {l : RateLimiter}
    {step : Bool × RateCall} (hmemory : l.memory step.2.key = [])
    (hredis : l.redis step.2.key = none) (hexpires : expires step.2.windowSeconds = true) :
    (l.check text settings expires step).1 = .ok (decide (1 ≤ step.2.limit)) ∧
      ∀ key, key ≠ step.2.key →
        (l.check text settings expires step).2.memory key = l.memory key ∧
        (l.check text settings expires step).2.redis key = l.redis key := by
  -- the answer does not depend on the backend that is active
  have hbackend (l' : RateLimiter) (hm : l'.memory = l.memory) (hr : l'.redis = l.redis) :
      (l'.backendCheck text settings expires step.2).1 = .ok (decide (1 ≤ step.2.limit)) ∧
        ∀ key, key ≠ step.2.key →
          (l'.backendCheck text settings expires step.2).2.memory key = l.memory key ∧
          (l'.backendCheck text settings expires step.2).2.redis key = l.redis key := by
    unfold backendCheck
    cases l'.active with
    | redis =>
      obtain ⟨hresult, hothers⟩ :=
        RedisDb.check_fresh text expires hredis
      rw [if_pos hexpires] at hresult
      dsimp only
      rw [hr, hm]
      exact ⟨hresult, fun key hkey => ⟨rfl, hothers key hkey⟩⟩
    | memory =>
      dsimp only
      rw [hm, hr, memoryCheck_fresh text hmax hmemory]
      exact ⟨rfl, fun key hkey => ⟨Function.update_of_ne hkey _ _, rfl⟩⟩
  have hfallback : (l.maybeFallback step.1 step.2.now).memory = l.memory ∧
      (l.maybeFallback step.1 step.2.now).redis = l.redis := by
    unfold maybeFallback
    split
    · exact ⟨rfl, rfl⟩
    · exact ⟨rfl, rfl⟩
  obtain ⟨hresult, hothers⟩ := hbackend _ hfallback.1 hfallback.2
  unfold check
  dsimp only
  rw [hresult]
  cases decide (1 ≤ step.2.limit) with
  | true => exact ⟨rfl, hothers⟩
  | false => exact ⟨rfl, hothers⟩

/-- **The limiter** on keys that are used once, whichever backend it asks. Induction on the
calls. -/
theorem limiter_results (hmax : 1 ≤ settings.rateLimitMaxKeys) {l : RateLimiter}
    {steps : List (Bool × RateCall)}
    (hexpires : ∀ step ∈ steps, expires step.2.windowSeconds = true)
    (h : FreshKeys (fun key => l.memory.Used key ∨ l.redis.Used key) (steps.map Prod.snd)) :
    rateResults (RateLimiter.check text settings expires) l steps =
      (steps.map Prod.snd).map fun call => .ok (decide (1 ≤ call.limit)) := by
  induction steps generalizing l with
  | nil => rfl
  | cons step steps ih =>
    obtain ⟨hfirst, hlater⟩ := List.forall_mem_cons.mp hexpires
    obtain ⟨hnew, hrest⟩ := freshKeys_cons.mp h
    rw [not_or] at hnew
    obtain ⟨hresult, hothers⟩ := RateLimiter.check_fresh text expires hmax
      (not_not.mp hnew.1) (not_not.mp hnew.2) hfirst
    rw [rateResults, hresult, List.map_cons, List.map_cons]
    congr 1
    apply ih hlater
    refine hrest.mono fun key hkey => ?_
    by_cases hown : key = step.2.key
    · exact Or.inl hown
    · unfold MemoryWindows.Used RedisDb.Used at hkey
      rw [(hothers key hown).1, (hothers key hown).2] at hkey
      exact Or.inr hkey

/-! ### Agreement -/

theorem freshKeys_iff (h : ∀ key, ¬ used key) :
    FreshKeys used calls ↔ (calls.map RateCall.key).Nodup :=
  ⟨fun hfresh => hfresh.nodup, fun hnodup => ⟨hnodup, fun call _ => h call.key⟩⟩

/-- **Backends that agree.** On calls with fewer than `RATE_LIMIT_MAX_KEYS` for each key: no key is
used twice, and Redis takes every window as a time to live. -/
theorem backends_agree_iff (text : ℚ → String) (settings : RateSettings) (expires : Int → Bool)
    (calls : List RateCall)
    (hfew : ∀ key, ((calls.countP fun call => decide (call.key = key) : Nat) : Int) <
      settings.rateLimitMaxKeys) :
    BackendsAgree text settings expires calls ↔
      (calls.map RateCall.key).Nodup ∧
        ∀ call ∈ calls, expires call.windowSeconds = true := by
  have hmax : 1 ≤ settings.rateLimitMaxKeys := by
    have := hfew ""
    omega
  have hmemory : ∀ key, ¬ MemoryWindows.Used (fun _ => []) key := fun _ h => h rfl
  have hredis : ∀ key, ¬ RedisDb.Used (fun _ => none) key := fun _ h => h rfl
  constructor
  · intro h
    have hfresh := freshKeys_of_noRaise text hmax h.noRaise
    refine ⟨hfresh.nodup, ?_⟩
    intro call hcall
    -- the answer of Redis is that of the memory backend, which does not raise
    have hsame := h.same
    rw [memory_results text hmax hfresh,
      redis_results text expires ((freshKeys_iff hredis).mpr hfresh.nodup)] at hsame
    have hanswer := List.map_inj_left.mp hsame call hcall
    by_contra hrefused
    rw [if_neg hrefused] at hanswer
    cases hanswer
  · intro h
    have hresults := memory_results text hmax ((freshKeys_iff hmemory).mpr h.1)
    refine ⟨?_, ?_, ?_⟩
    · rw [hresults, redis_results text expires ((freshKeys_iff hredis).mpr h.1)]
      refine List.map_congr_left fun call hcall => ?_
      rw [if_pos (h.2 call hcall)]
    · rw [hresults]
      intro result hresult
      obtain ⟨call, -, rfl⟩ := List.mem_map.mp hresult
      exact ⟨_, rfl⟩
    -- a fallback finds the other backend without any of the keys
    · rintro active steps rfl
      rw [hresults]
      apply limiter_results text expires hmax
      · exact fun step hstep => h.2 step.2 (List.mem_map_of_mem hstep)
      · exact (freshKeys_iff fun key => not_or.mpr ⟨hmemory key, hredis key⟩).mpr h.1

end Agreement

/-! ### Two keys, and one twice -/

def loginCall (now : ℚ) : RateCall where
  key := "login:203.0.113.7"
  limit := 10
  windowSeconds := 60
  now

def defaultRateSettings : RateSettings where
  rateLimitMaxKeys := 10000
  rateLimitEvictBatchSize := 100

/-- The text of these two instants. -/
def clockText (now : ℚ) : String := if now = 1700000000 then "1700000000.0" else "1700000001.0"

def otherCall (now : ℚ) : RateCall := { loginCall now with key := "login:203.0.113.8" }

/-- Two keys, in the order of the clock or not. -/
theorem backends_agree_once :
    BackendsAgree clockText defaultRateSettings (fun _ => true)
        [loginCall 1700000000, otherCall 1700000001] ∧
      BackendsAgree clockText defaultRateSettings (fun _ => true)
        [loginCall 1700000001, otherCall 1700000000] := by
  have hfew (calls : List RateCall) (hlength : calls.length = 2) (key : String) :
      (calls.countP fun call => decide (call.key = key) : Int) <
        defaultRateSettings.rateLimitMaxKeys := by
    have hle := List.countP_le_length (p := fun call => decide (call.key = key)) (l := calls)
    show _ < (10000 : Int)
    omega
  constructor
  · exact (backends_agree_iff _ _ _ _ (hfew _ rfl)).mpr ⟨by decide, fun _ _ => rfl⟩
  · exact (backends_agree_iff _ _ _ _ (hfew _ rfl)).mpr ⟨by decide, fun _ _ => rfl⟩

/-- **The second call for a key** raises in the memory backend, and Redis allows it. -/
theorem second_call_raises :
    let calls := [loginCall 1700000000, loginCall 1700000001]
    rateResults (memoryCheck clockText defaultRateSettings) (fun _ => []) calls =
        [.ok true, .error "'<' not supported between instances of 'str' and 'float'"] ∧
      rateResults (RedisDb.check clockText fun _ => true) (fun _ => none) calls =
        [.ok true, .ok true] ∧
      ¬ BackendsAgree clockText defaultRateSettings (fun _ => true) calls := by
  have hmemory : rateResults (memoryCheck clockText defaultRateSettings) (fun _ => [])
      [loginCall 1700000000, loginCall 1700000001] =
        [.ok true, .error "'<' not supported between instances of 'str' and 'float'"] := rfl
  refine ⟨hmemory, ?_, ?_⟩
  · have htexts : ("1700000000.0" : String) ≠ "1700000001.0" := by decide
    norm_num [rateResults, RedisDb.check, RedisDb.live, RedisDb.zadd, RedisDb.zremrangebyscore,
      RedisDb.expire, setItem, loginCall, clockText, htexts]
  · intro h
    have hsecond := h.noRaise
    rw [hmemory] at hsecond
    obtain ⟨allowed, hallowed⟩ := hsecond _ (List.mem_cons_of_mem _ List.mem_cons_self)
    cases hallowed

end NocIq
