import NocIq.Job.BulkResults
import NocIq.Lib.Binary64
import NocIq.Lib.SlidingWindow

/-!
# NocIq — the limits on calls

`ExecutionGuard` of `app/services/contracts/execution_guard.py` and `SimpleRateLimiter` of
`app/core/rate_limiter.py`. Both keep the instants of the calls they have let through, and drop
those that have left the window when the next call comes. A call reads the clock once. Readings are
doubles, and so are their differences: one that is less than the window may be rounded to it.

The values of the params that are compared or printed are JSON values; a user is whatever can be a
key of the tracker.

* **`guardStep_eq` / `authStep_eq`** — both are a limiter with a sliding window.
* **`two_within_sixty`** — with a limit of one, two calls less than a window apart pass.
* **`guard_inWindow` / `auth_inWindow`** — ordinary readings are compared as the numbers they are.
* **`call_limits`** — what both promise, over every sequence of calls.
-/

namespace NocIq.Contract

open Binary64 (Double nearest nearest_mono)
open SlidingWindow (Limiter passing after decisions)

/-! ## The guard -/

structure GuardSettings where
  contractExecutionMode : String
  allowedContractAddresses : List String
  stellarNetwork : String
  maxContractExecutionAmount : ℚ
  contractCallRateLimit : Int

/-- What Python does with the values of params. -/
structure GuardEnv (υ : Type) where
  str : Json.Value → String
  floatText : ℚ → String
  userText : υ → String
  /-- `float(amount) > max_amount`, or what `float` raises. -/
  exceeds : Json.Value → ℚ → Except String Bool
  anonymous : υ

structure GuardParams (υ : Type) where
  executionMode : Json.Value := .null
  contractAddress : Json.Value := .str ""
  network : Json.Value := .null
  amount : Json.Value := .null
  userId : Option υ := none

structure GuardCheckResult where
  passed : Bool
  check : String
  detail : String := ""
  deriving DecidableEq, Repr

/-- `value != text`. -/
def differs (text : String) : Json.Value → Bool
  | .str s => decide (s ≠ text)
  | _ => true

section Guard

variable {υ : Type} (env : GuardEnv υ) (settings : GuardSettings) (params : GuardParams υ)

def checkExecutionMode : GuardCheckResult :=
  let configured := settings.contractExecutionMode
  if params.executionMode.truthy && differs configured params.executionMode then
    { passed := false
      check := "execution_mode"
      detail :=
        s!"Intended mode '{env.str params.executionMode}' does not match "
          ++ s!"configured mode '{configured}'" }
  else { passed := true, check := "execution_mode" }

def checkContractAddress : GuardCheckResult :=
  let allowed := settings.allowedContractAddresses
  if !allowed.isEmpty && params.contractAddress.truthy &&
      allowed.all (fun address => differs address params.contractAddress) then
    { passed := false
      check := "contract_address"
      detail :=
        s!"Contract address '{env.str params.contractAddress}' is not in the allowed list" }
  else { passed := true, check := "contract_address" }

def checkNetwork : GuardCheckResult :=
  let configured := settings.stellarNetwork
  if params.network.truthy && differs configured params.network then
    { passed := false
      check := "network"
      detail :=
        s!"Target network '{env.str params.network}' does not match "
          ++ s!"configured network '{configured}'" }
  else { passed := true, check := "network" }

def checkAmount : Except String GuardCheckResult :=
  let maxAmount := settings.maxContractExecutionAmount
  match params.amount with
  | .null => .ok { passed := true, check := "amount" }
  | amount =>
    if 0 < maxAmount then
      match env.exceeds amount maxAmount with
      | .error error => .error error
      | .ok true =>
        .ok { passed := false
              check := "amount"
              detail :=
                s!"Amount {env.str amount} exceeds maximum allowed "
                  ++ s!"contract execution amount {env.floatText maxAmount}" }
      | .ok false => .ok { passed := true, check := "amount" }
    else .ok { passed := true, check := "amount" }

def guardUser : υ := params.userId.getD env.anonymous

variable [DecidableEq υ]

/-- `_check_rate_limit`, with the tracker that it leaves. -/
def checkRateLimit (now : Double) (tracker : υ → List Double) :
    GuardCheckResult × (υ → List Double) :=
  let userId := guardUser env params
  let window := Double.of 60
  let maxCalls := settings.contractCallRateLimit
  let timestamps := (tracker userId).filter fun t => decide (now - t < window)
  if maxCalls ≤ timestamps.length then
    ({ passed := false
       check := "rate_limit"
       detail :=
         s!"Rate limit exceeded: {timestamps.length}/{maxCalls} "
           ++ s!"calls in the last 60s for user '{env.userText userId}'" },
      Function.update tracker userId timestamps)
  else
    ({ passed := true, check := "rate_limit" },
      Function.update tracker userId (timestamps ++ [now]))

/-- `pre_check`, with the tracker that it leaves. -/
def preCheck (now : Double) (tracker : υ → List Double) :
    Except String GuardCheckResult × (υ → List Double) :=
  let mode := checkExecutionMode env settings params
  if !mode.passed then (.ok mode, tracker) else
  let address := checkContractAddress env settings params
  if !address.passed then (.ok address, tracker) else
  let network := checkNetwork env settings params
  if !network.passed then (.ok network, tracker) else
  match checkAmount env settings params with
  | .error error => (.error error, tracker)
  | .ok amount =>
    if !amount.passed then (.ok amount, tracker) else
    let rate := checkRateLimit env settings params now tracker
    if !rate.1.passed then (.ok rate.1, rate.2)
    else (.ok { passed := true, check := "all" }, rate.2)

end Guard

/-! ## The limiter of the auth endpoints -/

structure AuthLimitSettings where
  authRateLimitRequests : Int
  authRateLimitWindowSeconds : Int

/-- `SimpleRateLimiter.is_allowed`, with the requests that it leaves. -/
def isAllowed (settings : AuthLimitSettings) (key : String) (now : Double)
    (requests : String → List Double) : Bool × (String → List Double) :=
  let windowStart := now - Double.of settings.authRateLimitWindowSeconds
  let times := (requests key).filter fun t => decide (windowStart < t)
  if settings.authRateLimitRequests ≤ times.length then
    (false, Function.update requests key times)
  else (true, Function.update requests key (times ++ [now]))

/-! ## Both are limiters -/

structure GuardCall (υ : Type) where
  params : GuardParams υ
  now : Double

section Guard

variable {υ : Type} (env : GuardEnv υ) (settings : GuardSettings)

def GuardCheckResult.passes : Except String GuardCheckResult → Bool
  | .ok result => result.passed
  | .error _ => false

def GuardCall.checked (call : GuardCall υ) : Bool :=
  (checkExecutionMode env settings call.params).passed &&
    (checkContractAddress env settings call.params).passed &&
    (checkNetwork env settings call.params).passed &&
    GuardCheckResult.passes (checkAmount env settings call.params)

def guardLimiter : Limiter (GuardCall υ) υ Double where
  key call := guardUser env call.params
  now := GuardCall.now
  checked := GuardCall.checked env settings
  limit := settings.contractCallRateLimit
  inWindow now t := decide (now - t < Double.of 60)
  leaves {t now later} h hlater := by
    rw [decide_eq_true_eq] at hlater ⊢
    have hmono : now - t ≤ later - t := nearest_mono (sub_le_sub_right (Double.le_iff.mp h) t.val)
    exact hmono.trans_lt hlater

variable [DecidableEq υ]

/-- A call of `pre_check`: whether it passes, and the tracker it leaves. -/
def guardStep (tracker : υ → List Double) (call : GuardCall υ) : Bool × (υ → List Double) :=
  let result := preCheck env settings call.params call.now tracker
  (GuardCheckResult.passes result.1, result.2)

theorem checkRateLimit_eq (call : GuardCall υ) (tracker : υ → List Double) :
    let rate := checkRateLimit env settings call.params call.now tracker
    let times := (guardLimiter env settings).kept call.now (tracker (guardUser env call.params))
    (rate.1.passed, rate.2) =
      if settings.contractCallRateLimit ≤ times.length then
        (false, Function.update tracker (guardUser env call.params) times)
      else (true, Function.update tracker (guardUser env call.params) (times ++ [call.now])) := by
  unfold checkRateLimit
  dsimp only [Limiter.kept, guardLimiter]
  split
  · rfl
  · rfl

/-- A call that fails a check before the rate limit leaves the tracker as it is. The cases follow
the order of the checks. -/
theorem guardStep_of_not_checked {call : GuardCall υ} (h : call.checked env settings = false)
    (tracker : υ → List Double) : guardStep env settings tracker call = (false, tracker) := by
  unfold GuardCall.checked at h
  unfold guardStep preCheck
  dsimp only
  by_cases hmode : (checkExecutionMode env settings call.params).passed = true
  · by_cases haddress : (checkContractAddress env settings call.params).passed = true
    · by_cases hnetwork : (checkNetwork env settings call.params).passed = true
      · rw [hmode, haddress, hnetwork] at h
        rw [hmode, haddress, hnetwork]
        cases hamount : checkAmount env settings call.params with
        | error error => rfl
        | ok amount =>
          have hfailed : amount.passed = false := by
            simpa [hamount, GuardCheckResult.passes] using h
          simp [hfailed, GuardCheckResult.passes]
      · simp [hmode, haddress, hnetwork, GuardCheckResult.passes]
    · simp [hmode, haddress, GuardCheckResult.passes]
  · simp [hmode, GuardCheckResult.passes]

theorem guardStep_of_checked {call : GuardCall υ} (h : call.checked env settings = true)
    (tracker : υ → List Double) :
    guardStep env settings tracker call =
      ((checkRateLimit env settings call.params call.now tracker).1.passed,
        (checkRateLimit env settings call.params call.now tracker).2) := by
  unfold GuardCall.checked at h
  simp only [Bool.and_eq_true] at h
  obtain ⟨⟨⟨hmode, haddress⟩, hnetwork⟩, hamount⟩ := h
  unfold guardStep preCheck
  dsimp only
  rw [hmode, haddress, hnetwork]
  -- a call whose amount raises is not checked
  cases hresult : checkAmount env settings call.params with
  | error error =>
    rw [hresult] at hamount
    cases hamount
  | ok amount =>
    have hpassed : amount.passed = true := by rwa [hresult] at hamount
    dsimp only
    rw [hpassed]
    cases hrate : (checkRateLimit env settings call.params call.now tracker).1.passed with
    | false => simp [hrate, GuardCheckResult.passes]
    | true => simp [GuardCheckResult.passes]

theorem guardStep_eq : guardStep env settings = (guardLimiter env settings).step := by
  funext tracker call
  unfold Limiter.step
  cases hchecked : call.checked env settings with
  | false =>
    rw [guardStep_of_not_checked env settings hchecked, if_neg]
    exact Bool.eq_false_iff.mp hchecked
  | true =>
    have hlimiter : (guardLimiter env settings).checked call = true := hchecked
    rw [guardStep_of_checked env settings hchecked, if_pos hlimiter]
    exact checkRateLimit_eq env settings call tracker

end Guard

structure AuthCall where
  key : String
  now : Double

def authLimiter (settings : AuthLimitSettings) : Limiter AuthCall String Double where
  key := AuthCall.key
  now := AuthCall.now
  checked _ := true
  limit := settings.authRateLimitRequests
  inWindow now t := decide (now - Double.of settings.authRateLimitWindowSeconds < t)
  leaves {t now later} h hlater := by
    rw [decide_eq_true_eq] at hlater ⊢
    have hmono : now - Double.of settings.authRateLimitWindowSeconds ≤
        later - Double.of settings.authRateLimitWindowSeconds :=
      nearest_mono (sub_le_sub_right (Double.le_iff.mp h) _)
    exact hmono.trans_lt hlater

def authStep (settings : AuthLimitSettings) (requests : String → List Double) (call : AuthCall) :
    Bool × (String → List Double) :=
  isAllowed settings call.key call.now requests

theorem authStep_eq (settings : AuthLimitSettings) :
    authStep settings = (authLimiter settings).step := rfl

/-! ## Readings of the clock -/

/-- The readings in the half-open interval `(start, start + window]`. -/
def within (start window : ℚ) (t : Double) : Bool :=
  decide (start < t.val) && decide (t.val ≤ start + window)

section Readings

variable {υ : Type} (env : GuardEnv υ) (settings : GuardSettings) (auth : AuthLimitSettings)

theorem val_sixty : (Double.of 60).val = 60 := by
  have hexact := Double.val_of_int (by decide : |(60 : ℤ)| ≤ 2 ^ 53)
  exact_mod_cast hexact

theorem guard_inWindow_iff {now t : Double} :
    (guardLimiter env settings).inWindow now t = true ↔ nearest (now.val - t.val) < 60 := by
  unfold guardLimiter
  rw [decide_eq_true_eq, Double.lt_iff, Double.val_sub, val_sixty]

/-- **Readings from 32 s on** have no place below `2 ^ (-47)`, and a difference that is below 60 has
53 of these. -/
theorem guard_inWindow {now t : Double} (ht : 32 ≤ t.val) (hle : t ≤ now)
    (h : now.val - t.val < 60) : (guardLimiter env settings).inWindow now t = true := by
  have hplace (x : Double) (hx : 32 ≤ x.val) : (-47 : ℤ) ≤ Binary64.lastPlace x.val :=
    Binary64.le_lastPlace_of_le (le_of_eq_of_le (by norm_num) hx)
  obtain ⟨m, hm⟩ := Double.exists_multiple (hplace now (ht.trans hle))
  obtain ⟨n, hn⟩ := Double.exists_multiple (hplace t ht)
  have hexact : (now - t).val = now.val - t.val := by
    refine Double.val_sub_exact (by omega) hm hn ?_
    rw [abs_of_nonneg (sub_nonneg.mpr (Double.le_iff.mp hle))]
    exact h.le.trans (by norm_num)
  rw [guard_inWindow_iff, ← Double.val_sub, hexact]
  exact h

/-- **Readings from the window on**, below `2 ^ 53`, are multiples of a place of which the window is
one, too. -/
theorem auth_inWindow {now t : Double} (hwindow : 0 ≤ auth.authRateLimitWindowSeconds)
    (hnow : auth.authRateLimitWindowSeconds ≤ now.val) (hlarge : now.val < 2 ^ 53)
    (h : now.val - auth.authRateLimitWindowSeconds < t.val) :
    (authLimiter auth).inWindow now t = true := by
  have hpositive : (0 : ℚ) ≤ auth.authRateLimitWindowSeconds := by exact_mod_cast hwindow
  have hsize : |auth.authRateLimitWindowSeconds| ≤ 2 ^ 53 := by
    rw [abs_of_nonneg hwindow]
    exact_mod_cast hnow.trans hlarge.le
  have hval := Double.val_of_int hsize
  obtain ⟨k, hplace, hleast, hunit, hplaces⟩ : ∃ k, k ≤ Binary64.lastPlace now.val ∧ -1074 ≤ k ∧
      k ≤ 0 ∧ now.val ≤ 2 ^ (k + 53) := by
    rcases le_total (Binary64.lastPlace now.val) 0 with hlow | hhigh
    · have hlt := Binary64.abs_lt_places now.val
      rw [abs_of_nonneg (hpositive.trans hnow)] at hlt
      exact ⟨_, le_rfl, Binary64.le_lastPlace _, hlow, hlt.le⟩
    · exact ⟨0, hhigh, by omega, le_rfl, hlarge.le⟩
  obtain ⟨m, hm⟩ := Double.exists_multiple hplace
  obtain ⟨n, hn⟩ := Binary64.exists_units hunit auth.authRateLimitWindowSeconds
  rw [zpow_zero, mul_one, ← hval] at hn
  have hexact := Double.val_sub_exact hleast hm hn (by
    rw [hval, abs_of_nonneg (sub_nonneg.mpr hnow)]
    exact (sub_le_self _ hpositive).trans hplaces)
  refine decide_eq_true (Double.lt_iff.mpr ?_)
  rw [hexact, hval]
  exact h

end Readings

/-! ## The limits -/

/-- What is promised of the calls of a user or a key, in terms of the readings themselves. -/
structure KeepsLimits {ε κ σ : Type} [DecidableEq κ] (l : Limiter ε κ Double) (window : ℚ)
    (step : σ → ε → Bool × σ) (init : σ) : Prop where
  /-- At most `limit` calls of a key pass in an interval, if the comparison finds the readings in it
  in each other's window. -/
  bound : ∀ calls, l.Ordered calls → ∀ key (start : ℚ),
    l.Together key (within start window) calls →
    ((passing step init calls).countP fun call =>
      decide (l.key call = key) && within start window (l.now call)) ≤ l.limit.toNat
  /-- A call that fails changes no later answer. -/
  harmless : ∀ calls call later, l.Ordered (calls ++ call :: later) →
    (step (after step init calls) call).1 = false →
      decisions step (after step init (calls ++ [call])) later =
        decisions step (after step init calls) later
  /-- A key that has not passed in the last window passes. -/
  idle : ∀ calls call, l.Ordered (calls ++ [call]) → 0 < l.limit → l.checked call = true →
    (∀ call' ∈ passing step init calls, l.key call' = l.key call →
      (l.now call').val ≤ (l.now call).val - window) →
      (step (after step init calls) call).1 = true

theorem keepsLimits {ε κ : Type} [DecidableEq κ] {l : Limiter ε κ Double} {window : ℚ}
    (hout : ∀ {now t : Double}, t.val ≤ now.val - window → l.inWindow now t = false) :
    KeepsLimits l window l.step fun _ => [] where
  bound calls hordered key start := l.limits.bound calls hordered key (within start window)
  harmless := l.limits.harmless
  idle calls call hordered hlimit hchecked h :=
    l.limits.idle calls call hordered hlimit hchecked fun call' hcall' hkey =>
      hout (h call' hcall' hkey)

theorem guard_outside {υ : Type} (env : GuardEnv υ) (settings : GuardSettings) {now t : Double}
    (h : t.val ≤ now.val - 60) : (guardLimiter env settings).inWindow now t = false := by
  rw [Bool.eq_false_iff, Ne, guard_inWindow_iff, not_lt]
  have hle : Double.of 60 ≤ now - t := nearest_mono (le_sub_comm.mp h)
  rwa [Double.le_iff, Double.val_sub, val_sixty] at hle

theorem auth_outside (auth : AuthLimitSettings) {now t : Double}
    (h : t.val ≤ now.val - (Double.of auth.authRateLimitWindowSeconds).val) :
    (authLimiter auth).inWindow now t = false :=
  decide_eq_false (not_lt.mpr (Double.le_of_le h))

/-- **The limits on calls.** From its start on, each of the two lets at most `limit` calls of a
user or a key pass in every window of time in which rounding does not decide the comparison of two
readings of theirs; a call that fails, whatever the check, changes no later answer; and who has not
passed in the last window passes the rate check, if the limit is positive. Rounding does not decide
the comparison of readings from 32 s on, or from the window on and below `2 ^ 53`. -/
theorem call_limits {υ : Type} [DecidableEq υ] (env : GuardEnv υ) (settings : GuardSettings)
    (auth : AuthLimitSettings) :
    (KeepsLimits (guardLimiter env settings) 60 (guardStep env settings) (fun _ => []) ∧
      ∀ now t : Double, 32 ≤ t.val → t ≤ now → now.val - t.val < 60 →
        (guardLimiter env settings).inWindow now t = true) ∧
      KeepsLimits (authLimiter auth) (Double.of auth.authRateLimitWindowSeconds).val
        (authStep auth) (fun _ => []) ∧
      ∀ now t : Double, 0 ≤ auth.authRateLimitWindowSeconds →
        auth.authRateLimitWindowSeconds ≤ now.val → now.val < 2 ^ 53 →
          now.val - auth.authRateLimitWindowSeconds < t.val →
            (authLimiter auth).inWindow now t = true := by
  rw [guardStep_eq, authStep_eq]
  refine ⟨⟨?_, fun _ _ => guard_inWindow env settings⟩, ?_, fun _ _ => auth_inWindow auth⟩
  · exact keepsLimits (guard_outside env settings)
  · exact keepsLimits (auth_outside auth)

/-! ### Rounding -/

/-- Texts of values that are not printed in a call without params. -/
def bareEnv : GuardEnv String where
  str _ := ""
  floatText _ := ""
  userText := id
  exceeds _ _ := .ok false
  anonymous := "anonymous"

def oneCallAMinute : GuardSettings where
  contractExecutionMode := "local_adapter"
  allowedContractAddresses := []
  stellarNetwork := "testnet"
  maxContractExecutionAmount := 0
  contractCallRateLimit := 1

def bareCall (now : Double) : GuardCall String := { params := {}, now }

/-- **Less than a minute apart.** At 0.3 s and at 60.3 s one user passes twice where one call a
minute is allowed: the two readings are less than 60 s apart, but their difference is 60.0. -/
theorem two_within_sixty :
    ¬ ∀ (settings : GuardSettings) (calls : List (GuardCall String)),
      (guardLimiter bareEnv settings).Ordered calls → ∀ (user : String) (start : ℚ),
        ((passing (guardStep bareEnv settings) (fun _ => []) calls).countP fun call =>
          decide (guardUser bareEnv call.params = user) && within start 60 call.now) ≤
            settings.contractCallRateLimit.toNat := by
  intro h
  have hordered : (guardLimiter bareEnv oneCallAMinute).Ordered
      [bareCall (.of 0.3), bareCall (.of 60.3)] := by
    unfold Limiter.Ordered
    decide +kernel
  have hbound := h oneCallAMinute _ hordered "anonymous" ((Double.of 60.3).val - 60)
  revert hbound
  decide +kernel

end NocIq.Contract
