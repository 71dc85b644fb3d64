import Mathlib.Data.Rat.Floor
import NocIq.Lib.TokenBucket

/-!
# NocIq — the token buckets of the rate limiter

`_TokenBucket` and `RateLimiterMiddleware` of `app/core/rate_limiter.py`: each client has a bucket
of tokens, and a request that finds none in it is answered with 429.

* **`consume_eq`** — a bucket is one of `TokenBucket`.
* **`token_bucket_law`** — its bounds, what it admits in an interval, and after a pause.
* **`dispatch_bound`** — so each client is limited, whatever the others send.
-/

namespace NocIq

open SlidingWindow (after passing decisions)

/-! ## `_TokenBucket` -/

structure ClientBucket where
  capacity : ℚ
  tokens : ℚ
  refillRate : ℚ
  lastRefill : ℚ
  deriving DecidableEq, Repr

namespace ClientBucket

/-- `__init__`, with its reading of the monotonic clock. -/
def new (capacity refillRate now : ℚ) : ClientBucket where
  capacity := capacity
  tokens := capacity
  refillRate := refillRate
  lastRefill := now

def consume (b : ClientBucket) (now : ℚ) : Bool × ClientBucket :=
  let elapsed := now - b.lastRefill
  let b := { b with
    tokens := min b.capacity (b.tokens + elapsed * b.refillRate)
    lastRefill := now }
  if b.tokens ≥ 1 then (true, { b with tokens := b.tokens - 1 }) else (false, b)

/-- What is promised of a bucket that is made at `start` and called at the times. -/
structure Law (capacity refillRate start : ℚ) (times : List ℚ) : Prop where
  bounded : ∀ part, part <+: times →
    0 ≤ (after consume (new capacity refillRate start) part).tokens ∧
      (after consume (new capacity refillRate start) part).tokens ≤ capacity
  admitted : ∀ first length : ℚ, 0 ≤ length →
    ((passing consume (new capacity refillRate start) times).countP
      (fun t => decide (first ≤ t ∧ t ≤ first + length)) : ℚ) ≤ capacity + refillRate * length
  idle : 0 < refillRate → 1 ≤ capacity → ∀ before row, times = before ++ row →
    row.length = ⌊capacity⌋₊ →
    (∀ t ∈ row.head?, (after consume (new capacity refillRate start) before).lastRefill +
      capacity / refillRate ≤ t) →
    ∀ d ∈ decisions consume (after consume (new capacity refillRate start) before) row, d = true

/-! ## The bucket in the abstract -/

def toBucket (b : ClientBucket) : TokenBucket.Bucket ℚ := ⟨b.tokens, b.lastRefill⟩

/-- A bucket of the policy. -/
structure Follows (p : TokenBucket.Policy ℚ) (b : ClientBucket) : Prop where
  capacity : b.capacity = p.capacity
  refillRate : b.refillRate = p.rate

variable {p : TokenBucket.Policy ℚ} {b : ClientBucket} {times : List ℚ}

/-- **A call** is a step of the bucket. -/
theorem consume_eq (h : Follows p b) (now : ℚ) :
    (consume b now).1 = (TokenBucket.step p b.toBucket now).1 ∧
      (consume b now).2.toBucket = (TokenBucket.step p b.toBucket now).2 ∧
      Follows p (consume b now).2 := by
  have hrefilled : min b.capacity (b.tokens + (now - b.lastRefill) * b.refillRate) =
      TokenBucket.refilled p b.toBucket now := by
    rw [h.capacity, h.refillRate]
    rfl
  unfold consume TokenBucket.step
  simp only [hrefilled, ge_iff_le]
  split
  · exact ⟨rfl, rfl, h.capacity, h.refillRate⟩
  · exact ⟨rfl, rfl, h.capacity, h.refillRate⟩

theorem after_eq (h : Follows p b) :
    (after consume b times).toBucket = after (TokenBucket.step p) b.toBucket times := by
  induction times generalizing b with
  | nil => rfl
  | cons now times ih =>
    obtain ⟨-, hnext, hfollows⟩ := consume_eq h now
    have hstep : after (TokenBucket.step p) b.toBucket (now :: times) =
        after (TokenBucket.step p) (TokenBucket.step p b.toBucket now).2 times := rfl
    rw [hstep, ← hnext]
    exact ih hfollows

theorem follows_after (h : Follows p b) : Follows p (after consume b times) := by
  induction times generalizing b with
  | nil => exact h
  | cons now times ih => exact ih (consume_eq h now).2.2

theorem passing_eq (h : Follows p b) :
    passing consume b times = passing (TokenBucket.step p) b.toBucket times := by
  induction times generalizing b with
  | nil => rfl
  | cons now times ih =>
    obtain ⟨hadmits, hnext, hfollows⟩ := consume_eq h now
    show (if (consume b now).1 then _ else _) =
      if (TokenBucket.step p b.toBucket now).1 then _ else _
    rw [hadmits, ih hfollows, hnext]

theorem decisions_eq (h : Follows p b) :
    decisions consume b times = decisions (TokenBucket.step p) b.toBucket times := by
  induction times generalizing b with
  | nil => rfl
  | cons now times ih =>
    obtain ⟨hadmits, hnext, hfollows⟩ := consume_eq h now
    show (consume b now).1 :: _ = (TokenBucket.step p b.toBucket now).1 :: _
    rw [hadmits, ih hfollows, hnext]

theorem follows_new (p : TokenBucket.Policy ℚ) (start : ℚ) :
    Follows p (new p.capacity p.rate start) := ⟨rfl, rfl⟩

theorem bounded_new (p : TokenBucket.Policy ℚ) (start : ℚ) :
    TokenBucket.Bounded p (new p.capacity p.rate start).toBucket := ⟨p.capacity_nonneg, le_rfl⟩

theorem admitted_le (p : TokenBucket.Policy ℚ) {start : ℚ}
    (hordered : (start :: times).Pairwise (· ≤ ·)) {first length : ℚ} (hlength : 0 ≤ length) :
    ((passing consume (new p.capacity p.rate start) times).countP
      (fun t => decide (first ≤ t ∧ t ≤ first + length)) : ℚ) ≤ p.capacity + p.rate * length := by
  have hbound := TokenBucket.bound (bounded_new p start) hordered
    (le_add_of_nonneg_right (a := first) hlength)
  rw [add_sub_cancel_left] at hbound
  rw [passing_eq (follows_new p start)]
  exact hbound

/-- **The token bucket**, for any capacity, any rate, and any calls at instants that do not go
back. -/
theorem token_bucket_law {capacity refillRate start : ℚ} (hcapacity : 0 ≤ capacity)
    (hrate : 0 ≤ refillRate) (hordered : (start :: times).Pairwise (· ≤ ·)) :
    Law capacity refillRate start times := by
  let p : TokenBucket.Policy ℚ := ⟨capacity, refillRate, hcapacity, hrate⟩
  have hfollows : Follows p (new capacity refillRate start) := follows_new p start
  have hbounded : TokenBucket.Bounded p (new capacity refillRate start).toBucket :=
    bounded_new p start
  have hbefore : ∀ before row, times = before ++ row →
      TokenBucket.Bounded p (after consume (new capacity refillRate start) before).toBucket ∧
        TokenBucket.Ordered (after consume (new capacity refillRate start) before).toBucket
          row := by
    rintro before row rfl
    rw [after_eq hfollows]
    exact TokenBucket.bounded_ordered_after hbounded hordered
  constructor
  · rintro part ⟨row, hrow⟩
    obtain ⟨hpart, -⟩ := hbefore part row hrow.symm
    exact ⟨hpart.nonneg, hpart.le_capacity⟩
  · intro first length hlength
    exact admitted_le p hordered hlength
  · intro hpositive _ before row hrow hlength hidle
    obtain ⟨hpart, hrest⟩ := hbefore before row hrow
    rw [decisions_eq (follows_after hfollows)]
    refine TokenBucket.idle hpart hrest hpositive hidle ?_
    rw [hlength]
    exact Nat.floor_le hcapacity

/-- Two calls a second apart. -/
theorem token_bucket_law_twoCalls : Law 1 1 0 [0, 1] :=
  token_bucket_law zero_le_one zero_le_one (by norm_num)

end ClientBucket

/-! ## `RateLimiterMiddleware` -/

/-- A request, with what the clock shows when a bucket is made for its client, if it has none, and
when it is consumed. -/
structure LimitedRequest where
  client : Option String
  created : ℚ
  now : ℚ

namespace LimitedRequest

/-- `CacheGovernance.build_key(CacheKeyNamespace.RATE_LIMIT, client_ip)`. -/
def rateKey (r : LimitedRequest) : String :=
  let clientIp := r.client.getD "unknown"
  if clientIp = "" then "rate-limit" else "rate-limit:" ++ clientIp

def hasKey (key : String) (r : LimitedRequest) : Bool := decide (r.rateKey = key)

end LimitedRequest

/-- `_buckets`. -/
abbrev Buckets := String → Option ClientBucket

section Dispatch

variable (capacity refillRate : ℚ)

/-- `_get_bucket`. -/
def getBucket (r : LimitedRequest) (buckets : Buckets) : ClientBucket :=
  (buckets r.rateKey).getD (ClientBucket.new capacity refillRate r.created)

/-- `dispatch`: whether the request goes on to `call_next`; if not, it is answered with 429. -/
def dispatch (buckets : Buckets) (r : LimitedRequest) : Bool × Buckets :=
  let (admitted, bucket) := (getBucket capacity refillRate r buckets).consume r.now
  (admitted, Function.update buckets r.rateKey (some bucket))

def ClockOrdered (requests : List LimitedRequest) : Prop :=
  (∀ r ∈ requests, r.created ≤ r.now) ∧ requests.Pairwise fun r later => r.now ≤ later.created

variable {capacity refillRate}

theorem dispatch_snd (buckets : Buckets) (r : LimitedRequest) :
    (dispatch capacity refillRate buckets r).2 = Function.update buckets r.rateKey
      (some ((getBucket capacity refillRate r buckets).consume r.now).2) := rfl

open LimitedRequest (hasKey)

/-- **One client** is served as by its bucket alone: the bucket it has, or a new one. Induction on
the requests. -/
theorem passing_dispatch {key : String} {requests : List LimitedRequest} {buckets : Buckets}
    {b : ClientBucket} (hbucket : ∀ r ∈ (requests.filter (hasKey key)).head?,
      getBucket capacity refillRate r buckets = b) :
    ((passing (dispatch capacity refillRate) buckets requests).filter (hasKey key)).map (·.now) =
      passing ClientBucket.consume b ((requests.filter (hasKey key)).map (·.now)) := by
  induction requests generalizing buckets b with
  | nil => rfl
  | cons r requests ih =>
    have hcons : passing (dispatch capacity refillRate) buckets (r :: requests) =
        if ((getBucket capacity refillRate r buckets).consume r.now).1 then
          r :: passing (dispatch capacity refillRate)
            (dispatch capacity refillRate buckets r).2 requests
        else passing (dispatch capacity refillRate)
          (dispatch capacity refillRate buckets r).2 requests := rfl
    rw [hcons]
    cases hkey : hasKey key r with
    | true =>
      rw [List.filter_cons_of_pos hkey] at hbucket ⊢
      obtain rfl := hbucket r rfl
      -- from now on the client has a bucket
      have hnext : ∀ later ∈ (requests.filter (hasKey key)).head?,
          getBucket capacity refillRate later (dispatch capacity refillRate buckets r).2 =
            ((getBucket capacity refillRate r buckets).consume r.now).2 := by
        intro later hlater
        have hlater := (List.mem_filter.mp (List.mem_of_mem_head? hlater)).2
        have hsame : later.rateKey = r.rateKey :=
          (of_decide_eq_true hlater).trans (of_decide_eq_true hkey).symm
        rw [getBucket, dispatch_snd, hsame, Function.update_self]
        rfl
      have hconsume : passing ClientBucket.consume (getBucket capacity refillRate r buckets)
            ((r :: requests.filter (hasKey key)).map (·.now)) =
          if ((getBucket capacity refillRate r buckets).consume r.now).1 then
            r.now :: passing ClientBucket.consume
              ((getBucket capacity refillRate r buckets).consume r.now).2
              ((requests.filter (hasKey key)).map (·.now))
          else passing ClientBucket.consume
              ((getBucket capacity refillRate r buckets).consume r.now).2
              ((requests.filter (hasKey key)).map (·.now)) := rfl
      rw [hconsume, ← ih hnext]
      split
      · rw [List.filter_cons_of_pos hkey, List.map_cons]
      · rfl
    | false =>
      have hno : ¬ hasKey key r = true := by
        rw [hkey]
        exact Bool.false_ne_true
      rw [List.filter_cons_of_neg hno] at hbucket ⊢
      -- another client's bucket stays as it is
      have hnext : ∀ later ∈ (requests.filter (hasKey key)).head?,
          getBucket capacity refillRate later (dispatch capacity refillRate buckets r).2 = b := by
        intro later hlater
        rw [← hbucket later hlater]
        have hlater := (List.mem_filter.mp (List.mem_of_mem_head? hlater)).2
        have hother : later.rateKey ≠ r.rateKey := fun heq =>
          of_decide_eq_false hkey (heq.symm.trans (of_decide_eq_true hlater))
        rw [getBucket, dispatch_snd, Function.update_of_ne hother]
        rfl
      rw [← ih hnext]
      split
      · rw [List.filter_cons_of_neg hno]
      · rfl

theorem ClockOrdered.client {requests : List LimitedRequest} (h : ClockOrdered requests)
    {key : String} {r : LimitedRequest} {own : List LimitedRequest}
    (hown : requests.filter (hasKey key) = r :: own) :
    (r.created :: (r :: own).map (·.now)).Pairwise (· ≤ ·) := by
  have hmem : ∀ r' ∈ r :: own, r' ∈ requests := by
    intro r' hr'
    rw [← hown] at hr'
    exact (List.mem_filter.mp hr').1
  have hpairs : (r :: own).Pairwise fun r later => r.now ≤ later.created := by
    rw [← hown]
    exact h.2.filter _
  have hsorted : ((r :: own).map (·.now)).Pairwise (· ≤ ·) := by
    rw [List.pairwise_map]
    refine List.Pairwise.imp_of_mem ?_ hpairs
    intro _ later _ hlater hle
    exact hle.trans (h.1 later (hmem later hlater))
  refine List.pairwise_cons.mpr ⟨?_, hsorted⟩
  have hfirst := h.1 r (hmem r List.mem_cons_self)
  rw [List.map_cons] at hsorted ⊢
  refine List.forall_mem_cons.mpr ⟨hfirst, ?_⟩
  intro t ht
  exact hfirst.trans ((List.pairwise_cons.mp hsorted).1 t ht)

/-- **Each client is limited**: in any interval no more of its requests go on than the capacity and
what is filled in. -/
theorem dispatch_bound (hcapacity : 0 ≤ capacity) (hrate : 0 ≤ refillRate)
    {requests : List LimitedRequest} (hordered : ClockOrdered requests) (key : String)
    {first length : ℚ} (hlength : 0 ≤ length) :
    ((passing (dispatch capacity refillRate) (fun _ => none) requests).countP
        (fun r => hasKey key r && decide (first ≤ r.now ∧ r.now ≤ first + length)) : ℚ) ≤
      capacity + refillRate * length := by
  let p : TokenBucket.Policy ℚ := ⟨capacity, refillRate, hcapacity, hrate⟩
  have hcount : (passing (dispatch capacity refillRate) (fun _ => none) requests).countP
        (fun r => hasKey key r && decide (first ≤ r.now ∧ r.now ≤ first + length)) =
      (((passing (dispatch capacity refillRate) (fun _ => none) requests).filter
        (hasKey key)).map (·.now)).countP fun t => decide (first ≤ t ∧ t ≤ first + length) := by
    rw [List.countP_map, List.countP_filter]
    refine List.countP_congr ?_
    intro r _
    rw [Bool.and_comm]
    rfl
  rw [hcount]
  cases hown : requests.filter (hasKey key) with
  | nil =>
    have hnone : ∀ r ∈ (requests.filter (hasKey key)).head?,
        getBucket capacity refillRate r (fun _ => none) =
          ClientBucket.new capacity refillRate 0 := by
      rw [hown]
      exact nofun
    have hfilled := mul_nonneg hrate hlength
    rw [passing_dispatch hnone, hown]
    show ((0 : ℕ) : ℚ) ≤ _
    rw [Nat.cast_zero]
    linarith
  | cons r own =>
    have hnew : ∀ r' ∈ (requests.filter (hasKey key)).head?,
        getBucket capacity refillRate r' (fun _ => none) =
          ClientBucket.new capacity refillRate r.created := by
      intro r' hr'
      rw [hown] at hr'
      cases hr'
      rfl
    rw [passing_dispatch hnew, hown]
    exact ClientBucket.admitted_le p (hordered.client hown) hlength

def twoClients : List LimitedRequest := [⟨some "a", 0, 0⟩, ⟨some "b", 0, 0⟩, ⟨some "a", 1, 1⟩]

theorem two_clients_bounded :
    ((passing (dispatch 1 1) (fun _ => none) twoClients).countP
        (fun r => hasKey "rate-limit:a" r && decide (0 ≤ r.now ∧ r.now ≤ 0 + 1)) : ℚ) ≤ 1 + 1 * 1 :=
  dispatch_bound (by norm_num) (by norm_num) ⟨by simp [twoClients], by simp [twoClients]⟩ _
    (by norm_num)

end Dispatch

end NocIq
