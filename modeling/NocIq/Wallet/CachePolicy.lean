import NocIq.Lib.TtlCache
import Mathlib.Data.List.Induction
import Mathlib.Tactic.NormNum

/-!
# NocIq — the policy of the cache

`TTLCache` of `app/utils/cache.py`, over runs of all its operations. Each operation reads the
monotonic clock once, under the lock. A value is not `None`.

* **`cache_run`** — what the cache holds is determined by the history of each key.
* **`get_run`** — a `get` does what the policy says.
* **`ttl_policy_iff`** — the histories after which the whole policy is met.
-/

namespace NocIq

open TtlCache (Cache Entry Meta live)

/-! ## The operations -/

inductive CacheOp (ν : Type) where
  | set (key : String) (value : ν)
  | get (key : String)
  | getWithMeta (key : String)
  | invalidate (key : String)
  | invalidatePrefix (start : String)

/-- An operation at the reading of the clock that it makes. -/
structure TimedCacheOp (ν : Type) where
  op : CacheOp ν
  now : ℚ

variable {ν : Type}

/-- The operation is an invalidation of the key. -/
def CacheOp.cancels (key : String) : CacheOp ν → Bool
  | .invalidate key' => decide (key' = key)
  | .invalidatePrefix start => start.toList.isPrefixOf key.toList
  | _ => false

def TimedCacheOp.apply (ttl : ℚ) (cache : Cache String ν ℚ) (event : TimedCacheOp ν) :
    Cache String ν ℚ :=
  match event.op with
  | .set key value => TtlCache.set (event.now + ttl) key value cache
  | .get key => (TtlCache.get event.now key cache).2
  | .getWithMeta _ => cache
  | .invalidate key => TtlCache.invalidate key cache
  | .invalidatePrefix start =>
    TtlCache.invalidateWhere (fun key => start.toList.isPrefixOf key.toList) cache

def cacheAfter (ttl : ℚ) (events : List (TimedCacheOp ν)) : Cache String ν ℚ :=
  events.foldl (TimedCacheOp.apply ttl) fun _ => none

/-! ## The policy -/

/-- The last `set` of a key that has not been cancelled, and when `get` has been called since. -/
structure LastSet (ν : Type) where
  value : ν
  setAt : ℚ
  reads : List ℚ := []

def LastSet.next (key : String) (last : Option (LastSet ν)) (event : TimedCacheOp ν) :
    Option (LastSet ν) :=
  match event.op with
  | .set key' value => if key' = key then some { value, setAt := event.now } else last
  | .get key' =>
    if key' = key then last.map fun h => { h with reads := h.reads ++ [event.now] } else last
  | .getWithMeta _ => last
  | .invalidate _ | .invalidatePrefix _ => if event.op.cancels key then none else last

def lastSet (key : String) (events : List (TimedCacheOp ν)) : Option (LastSet ν) :=
  events.foldl (LastSet.next key) none

/-- What the policy says of a key at `now`, after some operations. -/
structure MeetsPolicy (ttl : ℚ) (events : List (TimedCacheOp ν)) (now : ℚ) (key : String) :
    Prop where
  /-- `get` returns the value that was set last, within its TTL. -/
  get : (TtlCache.get now key (cacheAfter ttl events)).1 =
    (lastSet key events).bind fun h => if now ≤ h.setAt + ttl then some h.value else none
  /-- `get` hits exactly if `get_with_meta` returns an entry that has not expired. -/
  hits : (TtlCache.get now key (cacheAfter ttl events)).1.isSome ↔
    ∃ m ∈ TtlCache.getWithMeta ttl now key (cacheAfter ttl events), m.isExpired = false
  /-- `get_with_meta` returns `None` only if the key was never set, or has been invalidated
  since. -/
  retained : TtlCache.getWithMeta ttl now key (cacheAfter ttl events) = none →
    lastSet key events = none

/-! ## What the cache holds -/

/-- The value has been looked up by `get` after it had expired. -/
def LastSet.Evicted (ttl : ℚ) (h : LastSet ν) : Prop := ∃ t ∈ h.reads, h.setAt + ttl < t

instance (ttl : ℚ) (h : LastSet ν) : Decidable (h.Evicted ttl) :=
  inferInstanceAs (Decidable (∃ t ∈ h.reads, h.setAt + ttl < t))

def LastSet.entry (ttl : ℚ) (h : LastSet ν) : Option (Entry ν ℚ) :=
  if h.Evicted ttl then none else some { value := h.value, expiresAt := h.setAt + ttl }

variable {ttl : ℚ} {cache : Cache String ν ℚ} {key : String} {last : Option (LastSet ν)}

theorem entry_read {h : LastSet ν} {now : ℚ} (hcache : cache key = h.entry ttl) :
    (TtlCache.get now key cache).2 key =
      LastSet.entry ttl { h with reads := h.reads ++ [now] } := by
  have hread : LastSet.Evicted ttl { h with reads := h.reads ++ [now] } ↔
      h.Evicted ttl ∨ h.setAt + ttl < now := by
    simp [LastSet.Evicted, or_and_right, exists_or]
  unfold LastSet.entry at hcache ⊢
  unfold TtlCache.get
  rw [hcache]
  by_cases hevicted : h.Evicted ttl
  · rw [if_pos hevicted, if_pos (hread.mpr (Or.inl hevicted))]
    dsimp only
    rw [hcache, if_pos hevicted]
  · rw [if_neg hevicted]
    dsimp only
    -- the entry is there: this lookup evicts it, or leaves it
    by_cases hexpired : h.setAt + ttl < now
    · rw [if_pos hexpired, if_pos (hread.mpr (Or.inr hexpired))]
      exact Function.update_self ..
    · have hkept : ¬ LastSet.Evicted ttl { h with reads := h.reads ++ [now] } := by
        rw [hread]
        exact not_or.mpr ⟨hevicted, hexpired⟩
      rw [if_neg hexpired, if_neg hkept]
      exact hcache.trans (if_neg hevicted)

theorem get_of_ne {key' : String} {now : ℚ} (h : key ≠ key') :
    (TtlCache.get now key' cache).2 key = cache key := by
  unfold TtlCache.get
  cases cache key' with
  | none => rfl
  | some entry =>
    dsimp only
    split
    · exact Function.update_of_ne h _ _
    · rfl

/-- **One operation.** The entry of a key stays what its history says. The cases are the
operations. -/
theorem entry_apply (event : TimedCacheOp ν) (hcache : cache key = last.bind (LastSet.entry ttl)) :
    event.apply ttl cache key = (LastSet.next key last event).bind (LastSet.entry ttl) := by
  unfold TimedCacheOp.apply LastSet.next
  cases event.op with
  | set key' value =>
    dsimp only
    by_cases hkey : key' = key
    · subst hkey
      rw [if_pos rfl]
      simp [TtlCache.set, LastSet.entry, LastSet.Evicted]
    · rw [if_neg hkey, ← hcache]
      exact Function.update_of_ne (Ne.symm hkey) _ _
  | get key' =>
    dsimp only
    by_cases hkey : key' = key
    · subst hkey
      rw [if_pos rfl]
      cases last with
      | none =>
        have hnone : cache key' = none := hcache
        simp [TtlCache.get, hnone]
      | some h => exact entry_read hcache
    · rw [if_neg hkey, ← hcache]
      exact get_of_ne (Ne.symm hkey)
  | getWithMeta key' => exact hcache
  | invalidate key' =>
    dsimp only
    by_cases hkey : key' = key
    · subst hkey
      have hcancels : CacheOp.cancels key' (.invalidate key' : CacheOp ν) = true := by
        simp [CacheOp.cancels]
      rw [if_pos hcancels]
      exact Function.update_self ..
    · have hcancels : ¬ CacheOp.cancels key (.invalidate key' : CacheOp ν) = true := by
        simp [CacheOp.cancels, hkey]
      rw [if_neg hcancels, ← hcache]
      exact Function.update_of_ne (Ne.symm hkey) _ _
  | invalidatePrefix start =>
    show (if CacheOp.cancels key (.invalidatePrefix start : CacheOp ν) then none else cache key) = _
    dsimp only
    split
    · rfl
    · exact hcache

/-- **The cache.** Induction on the operations. -/
theorem cache_run (ttl : ℚ) (events : List (TimedCacheOp ν)) (key : String) :
    cacheAfter ttl events key = (lastSet key events).bind (LastSet.entry ttl) := by
  unfold cacheAfter lastSet
  induction events using List.reverseRecOn with
  | nil => rfl
  | append_singleton events event ih =>
    rw [List.foldl_append, List.foldl_append]
    exact entry_apply event ih

/-! ## What is read -/

section Reads

variable {events : List (TimedCacheOp ν)} {now : ℚ}

theorem reads_le (hnow : ∀ event ∈ events, event.now ≤ now) {h : LastSet ν}
    (hlast : lastSet key events = some h) : ∀ t ∈ h.reads, t ≤ now := by
  unfold lastSet at hlast
  induction events using List.reverseRecOn generalizing h with
  | nil => cases hlast
  | append_singleton events event ih =>
    have hevent := hnow event (List.mem_append_right _ List.mem_cons_self)
    have hbefore := fun h hlast =>
      @ih (fun e he => hnow e (List.mem_append_left _ he)) h hlast
    rw [List.foldl_append, List.foldl_cons, List.foldl_nil, LastSet.next] at hlast
    split at hlast
    · split at hlast
      · obtain rfl := Option.some.inj hlast
        exact List.forall_mem_nil _
      · exact hbefore h hlast
    · split at hlast
      · obtain ⟨h', hlast', rfl⟩ := Option.map_eq_some_iff.mp hlast
        intro t ht
        rcases List.mem_append.mp ht with ht | ht
        · exact hbefore h' hlast' t ht
        · rw [List.mem_singleton.mp ht]
          exact hevent
      · exact hbefore h hlast
    · exact hbefore h hlast
    all_goals
      split at hlast
      · cases hlast
      · exact hbefore h hlast

/-- **A `get` does what the policy says**: what it has evicted before had expired, and stays so. -/
theorem get_run (ttl : ℚ) (hnow : ∀ event ∈ events, event.now ≤ now) (key : String) :
    (TtlCache.get now key (cacheAfter ttl events)).1 =
      (lastSet key events).bind fun h => if now ≤ h.setAt + ttl then some h.value else none := by
  rw [TtlCache.get_fst]
  unfold live
  rw [cache_run]
  cases hlast : lastSet key events with
  | none => rfl
  | some h =>
    simp only [Option.bind_some, LastSet.entry]
    by_cases hevicted : h.Evicted ttl
    · obtain ⟨t, ht, hexpired⟩ := hevicted
      -- the lookup that evicted the entry came before now, so it has expired for now too
      have hle := reads_le hnow hlast t ht
      rw [if_pos ⟨t, ht, hexpired⟩, if_neg (not_le.mpr (hexpired.trans_le hle))]
    · rw [if_neg hevicted]
      by_cases halive : now ≤ h.setAt + ttl
      · rw [if_pos halive]
        exact if_neg (not_lt.mpr halive)
      · rw [if_neg halive]
        exact if_pos (not_le.mp halive)

theorem getWithMeta_run (ttl : ℚ) (events : List (TimedCacheOp ν)) (now : ℚ) (key : String) :
    (TtlCache.getWithMeta ttl now key (cacheAfter ttl events)).isSome =
        ((lastSet key events).bind (LastSet.entry ttl)).isSome ∧
      ((∃ m ∈ TtlCache.getWithMeta ttl now key (cacheAfter ttl events), m.isExpired = false) ↔
        ∃ entry ∈ (lastSet key events).bind (LastSet.entry ttl), now < entry.expiresAt) := by
  constructor
  · rw [← cache_run, TtlCache.getWithMeta, Option.isSome_map]
  · rw [← cache_run]
    cases hentry : cacheAfter ttl events key with
    | none => simp [TtlCache.getWithMeta, hentry]
    | some entry =>
      have hmeta : TtlCache.getWithMeta ttl now key (cacheAfter ttl events) =
          some ⟨entry.value, now - (entry.expiresAt - ttl), max 0 (entry.expiresAt - now)⟩ := by
        rw [TtlCache.getWithMeta, hentry]
        rfl
      have hexpired := Meta.isExpired_iff hentry hmeta
      rw [hmeta]
      simp only [Option.mem_some_iff, exists_eq_left']
      rw [← Bool.not_eq_true, hexpired, not_le]

/-- The policy asks for two things beyond what `get` does: that the entry of a key is not read at
the very end of its life, and that `get` has not found it expired. -/
theorem meetsPolicy_iff (ttl : ℚ) (hnow : ∀ event ∈ events, event.now ≤ now) (key : String) :
    MeetsPolicy ttl events now key ↔
      ∀ h ∈ lastSet key events, now ≠ h.setAt + ttl ∧ ∀ t ∈ h.reads, t ≤ h.setAt + ttl := by
  have hget := get_run ttl hnow key
  obtain ⟨hsome, hmeta⟩ := getWithMeta_run ttl events now key
  cases hlast : lastSet key events with
  | none =>
    rw [hlast] at hget hsome hmeta
    refine iff_of_true ⟨?_, ?_, fun _ => hlast⟩ ?_
    · rw [hget, hlast]
    · rw [hget, hmeta]
      simp
    · intro h hh
      cases hh
  | some h =>
    rw [hlast, Option.bind_some] at hget hsome hmeta
    have hkept : (∀ t ∈ h.reads, t ≤ h.setAt + ttl) ↔ ¬ h.Evicted ttl := by
      simp [LastSet.Evicted]
    have hlooked : (∃ entry ∈ h.entry ttl, now < entry.expiresAt) ↔
        ¬ h.Evicted ttl ∧ now < h.setAt + ttl := by
      unfold LastSet.entry
      split <;> simp_all
    rw [hlooked] at hmeta
    simp only [Option.mem_some_iff, forall_eq', hkept]
    constructor
    · intro p
      -- an evicted entry is gone for the reader of stale values as well
      have hretained : ¬ h.Evicted ttl := by
        intro hevicted
        rw [LastSet.entry, if_pos hevicted, Option.isSome_none] at hsome
        have hnone := p.retained (Option.not_isSome_iff_eq_none.mp (by rw [hsome]; decide))
        rw [hlast] at hnone
        cases hnone
      refine ⟨?_, hretained⟩
      intro hend
      -- at its very end the entry is a hit, and expired
      have hhits := p.hits.mp (by rw [hget, if_pos hend.le]; rfl)
      exact (hmeta.mp hhits).2.ne hend
    · intro hcond
      refine ⟨?_, ?_, ?_⟩
      · rw [hget, hlast, Option.bind_some]
      · rw [hget, hmeta]
        by_cases halive : now ≤ h.setAt + ttl
        · rw [if_pos halive]
          exact iff_of_true rfl ⟨hcond.2, lt_of_le_of_ne halive hcond.1⟩
        · rw [if_neg halive]
          exact iff_of_false (by simp) fun hmeta => halive hmeta.2.le
      · intro hnone
        rw [LastSet.entry, if_neg hcond.2, hnone] at hsome
        cases hsome

/-- **The policy of the cache**, after any operations and at any later instant: no key is read
exactly when it ends, and none that is still to be read as stale has been looked up by `get` after
its end. -/
theorem ttl_policy_iff (ttl : ℚ) (events : List (TimedCacheOp ν)) (now : ℚ)
    (hnow : ∀ event ∈ events, event.now ≤ now) :
    (∀ key, MeetsPolicy ttl events now key) ↔
      ∀ key, ∀ h ∈ lastSet key events,
        now ≠ h.setAt + ttl ∧ ∀ t ∈ h.reads, t ≤ h.setAt + ttl :=
  forall_congr' fun key => meetsPolicy_iff ttl hnow key

end Reads

/-! ### A balance that has expired -/

def setBalance : TimedCacheOp String where
  op := .set "balance:GABC" "100.0"
  now := 0

/-- A balance is looked up while it is fresh, and again. -/
theorem policy_fresh : MeetsPolicy 30 [setBalance] 10 "balance:GABC" := by
  refine (ttl_policy_iff 30 [setBalance] 10 ?_).mpr ?_ "balance:GABC"
  · intro event hevent
    rw [List.mem_singleton.mp hevent]
    norm_num [setBalance]
  · intro key h hlast
    simp only [lastSet, List.foldl_cons, List.foldl_nil, LastSet.next, setBalance] at hlast
    split at hlast
    · obtain rfl := Option.some.inj hlast
      norm_num
    · cases hlast

/-- **A balance that `get` has found expired** is not there for the reader of stale balances; and at
the last instant of its life it is a hit for one reader and expired for the other. -/
theorem stale_balance_is_evicted :
    (¬ MeetsPolicy 30 [setBalance, ⟨.get "balance:GABC", 31⟩] 31 "balance:GABC") ∧
      ¬ MeetsPolicy 30 [setBalance] 30 "balance:GABC" := by
  constructor
  · intro h
    have hcond := (meetsPolicy_iff 30 ?_ _).mp h ⟨"100.0", 0, [31]⟩ rfl
    · have hread := hcond.2 31 List.mem_cons_self
      norm_num at hread
    · simp [setBalance]
  · intro h
    have hcond := (meetsPolicy_iff 30 ?_ _).mp h ⟨"100.0", 0, []⟩ rfl
    · norm_num at hcond
    · simp [setBalance]

end NocIq
