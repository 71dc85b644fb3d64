import Mathlib.Data.Rat.Floor
import NocIq.Exceptions
import NocIq.Lib.Runs
import NocIq.Lib.TtlCache

/-!
# NocIq — balances with their freshness

`BalanceFetchAdapter` of `app/services/contracts/sla_adapter.py`. The live fetcher of a call is any
callable: it returns, raises, or is interrupted by what is not an `Exception`, and then the call has
no result.

* **`cache_spec`** — the cache has the last successful fetch of every address since it was
  invalidated, until the TTL after it was stored.
* **`balance_freshness`** — what every result of every run says.
-/

namespace NocIq.Contract

/-! ## Results -/

inductive BalanceErrorCode where
  | staleFallback
  | fetchFailed
  deriving DecidableEq, Repr

structure BalanceFetchError where
  code : BalanceErrorCode
  detail : String
  deriving DecidableEq, Repr

inductive BalanceSource where
  | live
  | cache
  | staleFallback
  deriving DecidableEq, Repr

/-- The balances by asset; `β` are their values. -/
abbrev Balances (β : Type) := List (String × β)

structure BalanceFetchResult (β : Type) where
  address : String
  balances : Balances β
  source : BalanceSource
  cachedAt : Option Time
  ttlRemaining : Option Int
  isDegraded : Bool := false
  error : Option BalanceFetchError := none
  deriving DecidableEq

/-- What is stored for an address. -/
structure CachedBalances (β : Type) where
  balances : Balances β
  cachedAt : Time
  deriving DecidableEq

inductive Fetched (β : Type) where
  | returns (balances : Balances β)
  | raises (message : String)
  | interrupted
  deriving DecidableEq

/-- A call of `fetch`: what its fetcher does if it is called, and the readings of the clocks. -/
structure FetchCall (β : Type) where
  address : String
  forceRefresh : Bool
  fetched : Fetched β
  readAt : ℚ
  now : Time
  storedAt : ℚ

/-! ## The adapter -/

structure BalanceFetchAdapter (β : Type) where
  ttl : Int
  cache : TtlCache.Cache String (CachedBalances β) ℚ

namespace BalanceFetchAdapter

variable {β : Type}

def new (ttl : Int) : BalanceFetchAdapter β where
  ttl
  cache _ := none

/-- The result of a fetcher that raised. -/
def degraded (address message : String) (stale : Option (CachedBalances β)) :
    BalanceFetchResult β :=
  match stale with
  | some stale =>
    { address
      balances := stale.balances
      source := .staleFallback
      cachedAt := some stale.cachedAt
      ttlRemaining := some 0
      isDegraded := true
      error := some ⟨.staleFallback, "Live fetch failed; serving stale data. Reason: " ++ message⟩ }
  | none =>
    { address
      balances := []
      source := .live
      cachedAt := none
      ttlRemaining := none
      isDegraded := true
      error := some ⟨.fetchFailed,
        "Balance fetch failed and no cached data is available. Reason: " ++ message⟩ }

/-- Past the check of the cache. -/
def fetchLive (call : FetchCall β) (stale : Option (CachedBalances β))
    (adapter : BalanceFetchAdapter β) :
    Option (BalanceFetchResult β) × BalanceFetchAdapter β :=
  match call.fetched with
  | .returns balances =>
    let cache := TtlCache.set (call.storedAt + adapter.ttl) call.address ⟨balances, call.now⟩
      adapter.cache
    (some
      { address := call.address
        balances
        source := .live
        cachedAt := some call.now
        ttlRemaining := some adapter.ttl },
      { adapter with cache })
  | .raises message => (some (degraded call.address message stale), adapter)
  | .interrupted => (none, adapter)

/-- Whether the fetcher is called, the result, and the adapter; there is no result if what is raised
is not caught. -/
def fetch (call : FetchCall β) (adapter : BalanceFetchAdapter β) :
    Bool × Option (BalanceFetchResult β) × BalanceFetchAdapter β :=
  match TtlCache.getWithMeta (adapter.ttl : ℚ) call.readAt call.address adapter.cache with
  | some cached =>
    if call.forceRefresh = false ∧ cached.isExpired = false then
      (false,
        some
          { address := call.address
            balances := cached.value.balances
            source := .cache
            cachedAt := some cached.value.cachedAt
            ttlRemaining := some ⌊cached.remaining⌋ },
        adapter)
    else (true, fetchLive call (some cached.value) adapter)
  | none => (true, fetchLive call none adapter)

def invalidate (address : String) (adapter : BalanceFetchAdapter β) : BalanceFetchAdapter β :=
  { adapter with cache := TtlCache.invalidate address adapter.cache }

end BalanceFetchAdapter

/-! ## What has happened -/

inductive BalanceEvent (β : Type) where
  /-- a live fetch returned, and was stored at the time -/
  | fetched (address : String) (balances : Balances β) (time : ℚ)
  | invalidated (address : String)
  deriving DecidableEq

/-- The last successful fetch of the address since it was last invalidated, newest event first. -/
def lastFetch {β : Type} (address : String) : List (BalanceEvent β) → Option (Balances β × ℚ)
  | [] => none
  | .fetched address' balances time :: events =>
    if address' = address then some (balances, time) else lastFetch address events
  | .invalidated address' :: events =>
    if address' = address then none else lastFetch address events

inductive BalanceCall (β : Type) where
  | fetch (call : FetchCall β)
  | invalidate (address : String)

/-- An adapter and what has happened to it. -/
structure Balance (β : Type) where
  adapter : BalanceFetchAdapter β
  events : List (BalanceEvent β)

namespace Balance

variable {β : Type}

def fresh (ttl : Int) : Balance β where
  adapter := .new ttl
  events := []

def next (b : Balance β) : BalanceCall β → Balance β
  | .fetch call =>
    let (called, _, adapter) := b.adapter.fetch call
    { adapter
      events :=
        match called, call.fetched with
        | true, .returns balances => .fetched call.address balances call.storedAt :: b.events
        | _, _ => b.events }
  | .invalidate address =>
    { adapter := b.adapter.invalidate address, events := .invalidated address :: b.events }

/-- The balances are those this call fetched live. -/
def FetchedNow (b : Balance β) (call : FetchCall β) (balances : Balances β) : Prop :=
  (b.adapter.fetch call).1 = true ∧ call.fetched = .returns balances

/-- The balances are those of the last successful fetch, less than the TTL ago. -/
def FetchedRecently (b : Balance β) (call : FetchCall β) (balances : Balances β) : Prop :=
  ∃ time, lastFetch call.address b.events = some (balances, time) ∧
    call.readAt - time < b.adapter.ttl

/-- **What a result promises.** -/
structure Honest (b : Balance β) (call : FetchCall β) (result : BalanceFetchResult β) : Prop where
  fresh : result.isDegraded = false → b.FetchedNow call result.balances ∨
    (call.forceRefresh = false ∧ b.FetchedRecently call result.balances)
  degraded_iff : result.isDegraded = true ↔
    (b.adapter.fetch call).1 = true ∧ ∃ message, call.fetched = .raises message
  stale : result.isDegraded = true →
    result.balances = ((lastFetch call.address b.events).map Prod.fst).getD []

/-! ## The cache -/

/-- The cache is what has happened. -/
def Cached (b : Balance β) : Prop :=
  ∀ address, (b.adapter.cache address).map (fun entry => (entry.value.balances, entry.expiresAt)) =
    (lastFetch address b.events).map fun fetch => (fetch.1, fetch.2 + (b.adapter.ttl : ℚ))

theorem cached_fresh (ttl : Int) : (fresh ttl : Balance β).Cached := fun _ => rfl

variable {b : Balance β} {call : FetchCall β}

theorem lastFetch_of_entry (h : b.Cached) {address : String}
    {entry : TtlCache.Entry (CachedBalances β) ℚ} (hentry : b.adapter.cache address = some entry) :
    ∃ time, lastFetch address b.events = some (entry.value.balances, time) ∧
      entry.expiresAt = time + b.adapter.ttl := by
  have haddress := h address
  rw [hentry, Option.map_some] at haddress
  obtain ⟨fetch, hfetch, heq⟩ := Option.map_eq_some_iff.mp haddress.symm
  obtain ⟨hbalances, hexpires⟩ := Prod.mk.inj heq
  exact ⟨fetch.2, by rw [hfetch, ← hbalances], hexpires.symm⟩

theorem lastFetch_of_none (h : b.Cached) {address : String}
    (hentry : b.adapter.cache address = none) : lastFetch address b.events = none := by
  have haddress := h address
  rw [hentry, Option.map_none] at haddress
  exact Option.map_eq_none_iff.mp haddress.symm

theorem fetch_cases (h : b.Cached) (call : FetchCall β) :
    (∃ result time, b.adapter.fetch call = (false, some result, b.adapter) ∧
      result.isDegraded = false ∧ call.forceRefresh = false ∧
      lastFetch call.address b.events = some (result.balances, time) ∧
      call.readAt - time < b.adapter.ttl) ∨
    ∃ stale, b.adapter.fetch call =
        (true, BalanceFetchAdapter.fetchLive call stale b.adapter) ∧
      stale.map CachedBalances.balances = (lastFetch call.address b.events).map Prod.fst := by
  unfold BalanceFetchAdapter.fetch
  cases hentry : b.adapter.cache call.address with
  | none =>
    have hmeta : TtlCache.getWithMeta (b.adapter.ttl : ℚ) call.readAt call.address b.adapter.cache =
        none := by
      unfold TtlCache.getWithMeta
      rw [hentry, Option.map_none]
    rw [hmeta, lastFetch_of_none h hentry]
    exact .inr ⟨none, rfl, rfl⟩
  | some entry =>
    obtain ⟨time, hlast, hexpires⟩ := lastFetch_of_entry h hentry
    obtain ⟨cached, hmeta⟩ : ∃ cached, TtlCache.getWithMeta (b.adapter.ttl : ℚ) call.readAt
        call.address b.adapter.cache = some cached := by
      unfold TtlCache.getWithMeta
      rw [hentry, Option.map_some]
      exact ⟨_, rfl⟩
    have hvalue : cached.value = entry.value := by
      have hmap : (TtlCache.getWithMeta (b.adapter.ttl : ℚ) call.readAt call.address
          b.adapter.cache).map TtlCache.Meta.value =
          (b.adapter.cache call.address).map TtlCache.Entry.value :=
        TtlCache.getWithMeta_value _ _
      rw [hmeta, hentry] at hmap
      exact Option.some.inj hmap
    have hexpired := TtlCache.Meta.isExpired_iff hentry hmeta
    rw [hmeta]
    dsimp only
    by_cases hfresh : call.forceRefresh = false ∧ cached.isExpired = false
    · left
      rw [if_pos hfresh]
      refine ⟨_, time, rfl, rfl, hfresh.1, ?_, ?_⟩
      · rw [hlast, hvalue]
      · have hnot : ¬ entry.expiresAt ≤ call.readAt := by
          rw [← hexpired, hfresh.2]
          decide
        rw [hexpires] at hnot
        linarith
    · -- what has expired is at hand all the same
      right
      rw [if_neg hfresh]
      refine ⟨some cached.value, rfl, ?_⟩
      rw [hlast, hvalue]
      rfl

/-- **Every result is honest** while the cache is what has happened. -/
theorem honest_of_cached (h : b.Cached) {result : BalanceFetchResult β}
    (hresult : (b.adapter.fetch call).2.1 = some result) : b.Honest call result := by
  obtain ⟨served, time, hfetch, hdegraded, hforce, hlast, hrecent⟩ | ⟨stale, hfetch, hstale⟩ :=
    fetch_cases h call
  · -- from the cache
    rw [hfetch] at hresult
    obtain rfl := Option.some.inj hresult
    refine ⟨fun _ => .inr ⟨hforce, time, hlast, hrecent⟩, ?_, ?_⟩
    · rw [hdegraded, hfetch]
      simp
    · intro hdegraded'
      rw [hdegraded] at hdegraded'
      cases hdegraded'
  · -- by a live fetch, that returns or raises
    have hcalled : (b.adapter.fetch call).1 = true := by rw [hfetch]
    rw [hfetch] at hresult
    unfold BalanceFetchAdapter.fetchLive at hresult
    cases hfetched : call.fetched with
    | returns balances =>
      rw [hfetched] at hresult
      obtain rfl := Option.some.inj hresult
      refine ⟨fun _ => .inl ⟨hcalled, hfetched⟩, ?_, fun hdegraded => nomatch hdegraded⟩
      rw [hfetched]
      simp
    | interrupted =>
      rw [hfetched] at hresult
      cases hresult
    | raises message =>
      rw [hfetched] at hresult
      obtain rfl := Option.some.inj hresult
      have hdegraded : (BalanceFetchAdapter.degraded call.address message stale).isDegraded =
          true := by
        cases stale with
        | none => rfl
        | some stale => rfl
      refine ⟨?_, ?_, ?_⟩
      · intro hfresh
        rw [hdegraded] at hfresh
        cases hfresh
      · rw [hdegraded, hcalled, hfetched]
        simp
      · intro _
        rw [← hstale]
        cases stale with
        | none => rfl
        | some stale => rfl

/-! ## Calls -/

/-- **One call** keeps the cache as what has happened. -/
theorem cache_spec (h : b.Cached) (c : BalanceCall β) : (b.next c).Cached := by
  cases c with
  | invalidate address =>
    intro address'
    show ((Function.update b.adapter.cache address none) address').map _ =
      (if address = address' then none else lastFetch address' b.events).map _
    by_cases hsame : address = address'
    · subst hsame
      rw [Function.update_self, if_pos rfl]
      rfl
    · rw [Function.update_of_ne (fun heq => hsame heq.symm), if_neg hsame]
      exact h address'
  | fetch call =>
    unfold next
    dsimp only
    obtain ⟨served, time, hfetch, -⟩ | ⟨stale, hfetch, -⟩ := fetch_cases h call
    · rw [hfetch]
      exact h
    · rw [hfetch]
      unfold BalanceFetchAdapter.fetchLive
      cases hfetched : call.fetched with
      | raises | interrupted => exact h
      | returns balances =>
        intro address'
        show ((Function.update b.adapter.cache call.address _) address').map _ =
          (if call.address = address' then some (balances, call.storedAt)
            else lastFetch address' b.events).map _
        by_cases hsame : call.address = address'
        · subst hsame
          rw [Function.update_self, if_pos rfl]
          rfl
        · rw [Function.update_of_ne (fun heq => hsame heq.symm), if_neg hsame]
          exact h address'

end Balance

open Balance Runs

/-- **Balance freshness**: in every run of fetches and invalidations, every result is honest. -/
theorem balance_freshness {β : Type} {ttl : Int} {steps : List (Balance β × BalanceCall β)}
    {b : Balance β} (hrun : Run (fun b c b' => b' = b.next c) (Balance.fresh ttl) steps b) :
    ∀ x ∈ steps, ∀ call result, x.2 = .fetch call →
      (x.1.adapter.fetch call).2.1 = some result → x.1.Honest call result := by
  have hcached := hrun.invariant_steps (I := Cached) (cached_fresh ttl)
    (by
      rintro b c _ h rfl
      exact cache_spec h c)
  intro x hx call result _ hresult
  exact honest_of_cached (hcached x hx) hresult

/-- A fetch at 0, one from the cache at 59, and one at 60 that fails and serves what is stale. -/
theorem balance_freshness_degraded :
    let first : FetchCall Int := ⟨"GABC", false, .returns [("XLM", 7)], 0, 0, 0⟩
    let second : FetchCall Int := ⟨"GABC", false, .raises "Horizon unavailable", 59, 59, 59⟩
    let third : FetchCall Int := ⟨"GABC", false, .raises "Horizon unavailable", 60, 60, 60⟩
    let b : Balance Int := ((Balance.fresh 60).next (.fetch first)).next (.fetch second)
    ∃ result, (b.adapter.fetch third).2.1 = some result ∧ result.isDegraded = true ∧
      result.balances = [("XLM", 7)] ∧ b.Honest third result := by
  intro first second third b
  have hfirst : Run (fun b c b' => b' = b.next c) (Balance.fresh 60)
      [(Balance.fresh 60, .fetch first)] ((Balance.fresh 60).next (.fetch first)) := .snoc .nil rfl
  have hsecond : Run (fun b c b' => b' = b.next c) (Balance.fresh 60)
      [(Balance.fresh 60, .fetch first), ((Balance.fresh 60).next (.fetch first), .fetch second)]
      b := hfirst.snoc rfl
  have hrun : Run (fun b c b' => b' = b.next c) (Balance.fresh 60)
      [(Balance.fresh 60, .fetch first), ((Balance.fresh 60).next (.fetch first), .fetch second),
        (b, .fetch third)] (b.next (.fetch third)) := hsecond.snoc rfl
  have hresult : (b.adapter.fetch third).2.1 = some (BalanceFetchAdapter.degraded "GABC"
      "Horizon unavailable" (some ⟨[("XLM", 7)], 0⟩)) := by decide +kernel
  refine ⟨_, hresult, rfl, rfl, ?_⟩
  exact balance_freshness hrun (b, .fetch third) (by simp) third _ rfl hresult

end NocIq.Contract
