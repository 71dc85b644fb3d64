import NocIq.Lib.TtlCache

/-!
# ReadThrough — a cache in front of a computation

A request is answered from the cache as long as its key has a value that has not expired, and
otherwise computed and stored. Two requests can have one key, and what the computation reads can
change without the cache being told.

The record of a cache, newest event first, says what was stored, what was invalidated, and what has
changed since; `lastStored` reads off it what a key was last given.

* **`Agrees`** — the cache is the closed form of its record; every operation keeps it.
* **`Traces`** — what a key was last given is the result of the request that stored it, on the state
  before the changes recorded since.
* **`serve_cached`** — so an answer from the cache is the result of another request on an earlier
  state, and these two are all that can be wrong with it.
-/

namespace ReadThrough

variable {ρ κ ν δ τ ε σ : Type}

/-! ## Answers -/

inductive Served (ν τ : Type) where
  | cached (found : TtlCache.Meta ν τ)
  | computed (value : ν)

def Served.value : Served ν τ → ν
  | .cached found => found.value
  | .computed value => value

section Serve

variable [DecidableEq κ]

/-- Past the lookup: a result is stored, an error is not. -/
def compute [Add τ] (ttl storedAt : τ) (k : κ) (result : Except ε ν)
    (cache : TtlCache.Cache κ ν τ) : Except ε (Served ν τ) × TtlCache.Cache κ ν τ :=
  match result with
  | .error e => (.error e, cache)
  | .ok value => (.ok (.computed value), TtlCache.set (storedAt + ttl) k value cache)

/-- A request that looks its key up at `readAt`, and stores at `storedAt`. -/
def serve [LinearOrder τ] [AddCommGroup τ] (ttl readAt storedAt : τ) (k : κ)
    (result : Except ε ν) (cache : TtlCache.Cache κ ν τ) : Except ε (Served ν τ) × TtlCache.Cache κ ν τ :=
  match TtlCache.getWithMeta ttl readAt k cache with
  | some found =>
    if found.isExpired = false then (.ok (.cached found), cache)
    else compute ttl storedAt k result cache
  | none => compute ttl storedAt k result cache

end Serve

/-! ## The record -/

inductive Event (ρ κ ν δ τ : Type) where
  | stored (req : ρ) (value : ν) (time : τ)
  | invalidated (gone : κ → Bool)
  /-- what is computed from has changed, and the cache was not told -/
  | changed (change : δ)

/-- What a key was given, by which request and when, and the changes since, oldest first. -/
structure Stored (ρ ν δ τ : Type) where
  req : ρ
  value : ν
  time : τ
  changes : List δ

def Stored.append (stored : Stored ρ ν δ τ) (change : δ) : Stored ρ ν δ τ :=
  { stored with changes := stored.changes ++ [change] }

def lastStored [DecidableEq κ] (key : ρ → κ) (k : κ) :
    List (Event ρ κ ν δ τ) → Option (Stored ρ ν δ τ)
  | [] => none
  | .stored req value time :: events =>
    if key req = k then some { req, value, time, changes := [] } else lastStored key k events
  | .invalidated gone :: events => if gone k then none else lastStored key k events
  | .changed change :: events => (lastStored key k events).map (·.append change)

/-- What an answer adds to the record. -/
def note (req : ρ) (storedAt : τ) : Except ε (Served ν τ) → List (Event ρ κ ν δ τ)
  | .ok (.computed value) => [.stored req value storedAt]
  | .ok (.cached _) => []
  | .error _ => []

variable [DecidableEq κ] {key : ρ → κ} {k : κ} {events : List (Event ρ κ ν δ τ)}
  {stored : Stored ρ ν δ τ}

theorem key_of_lastStored (h : lastStored key k events = some stored) : key stored.req = k := by
  induction events generalizing stored with
  | nil => cases h
  | cons event events ih =>
    cases event with
    | stored req value time =>
      unfold lastStored at h
      split at h
      · rename_i hkey
        rw [← Option.some.inj h]
        exact hkey
      · exact ih h
    | invalidated gone =>
      unfold lastStored at h
      split at h
      · cases h
      · exact ih h
    | changed change =>
      obtain ⟨before, hbefore, rfl⟩ := Option.map_eq_some_iff.mp h
      show key before.req = k
      exact ih hbefore

/-! ## The cache and its record -/

section Agrees

variable [Add τ] {ttl : τ} {cache : TtlCache.Cache κ ν τ}

def Agrees (ttl : τ) (key : ρ → κ) (cache : TtlCache.Cache κ ν τ)
    (events : List (Event ρ κ ν δ τ)) : Prop :=
  ∀ k, cache k = (lastStored key k events).map fun stored =>
    { value := stored.value, expiresAt := stored.time + ttl }

theorem Agrees.changed (h : Agrees ttl key cache events) (change : δ) :
    Agrees ttl key cache (.changed change :: events) := by
  intro k
  rw [h k]
  show _ = ((lastStored key k events).map (·.append change)).map _
  rw [Option.map_map]
  rfl

theorem Agrees.invalidated (h : Agrees ttl key cache events) (gone : κ → Bool) :
    Agrees ttl key (TtlCache.invalidateWhere gone cache) (.invalidated gone :: events) := by
  intro k
  show (if gone k then none else cache k) = (if gone k then none else lastStored key k events).map _
  split
  · rfl
  · exact h k

theorem Agrees.set (h : Agrees ttl key cache events) (req : ρ) (value : ν) (time : τ) :
    Agrees ttl key (TtlCache.set (time + ttl) (key req) value cache)
      (.stored req value time :: events) := by
  intro k
  show Function.update cache (key req) _ k
    = (if key req = k then some _ else lastStored key k events).map _
  by_cases hk : key req = k
  · subst hk
    rw [Function.update_self, if_pos rfl]
    rfl
  · rw [Function.update_of_ne (Ne.symm hk), if_neg hk]
    exact h k

theorem Agrees.compute (h : Agrees ttl key cache events) (req : ρ) (storedAt : τ)
    (result : Except ε ν) :
    Agrees ttl key (compute ttl storedAt (key req) result cache).2
      (note req storedAt (compute ttl storedAt (key req) result cache).1 ++ events) := by
  cases result with
  | error e => exact h
  | ok value => exact h.set req value storedAt

end Agrees

/-! ## The record and the state -/

section Traces

variable {live : ρ → σ → Except ε ν} {grow : σ → δ → σ} {s : σ}

/-- What every key was last given is what its request computed before the changes since. -/
def Traces (live : ρ → σ → Except ε ν) (grow : σ → δ → σ) (key : ρ → κ) (s : σ)
    (events : List (Event ρ κ ν δ τ)) : Prop :=
  ∀ k stored, lastStored key k events = some stored →
    ∃ s₀, live stored.req s₀ = .ok stored.value ∧ s = stored.changes.foldl grow s₀

theorem Traces.nil : Traces live grow key s ([] : List (Event ρ κ ν δ τ)) := by
  intro k stored hstored
  cases hstored

theorem Traces.changed (h : Traces live grow key s events) (change : δ) :
    Traces live grow key (grow s change) (.changed change :: events) := by
  intro k stored hstored
  obtain ⟨before, hbefore, rfl⟩ := Option.map_eq_some_iff.mp hstored
  obtain ⟨s₀, hlive, hs⟩ := h k before hbefore
  refine ⟨s₀, hlive, ?_⟩
  show grow s change = (before.changes ++ [change]).foldl grow s₀
  rw [List.foldl_append, ← hs]
  rfl

theorem Traces.invalidated {gone : κ → Bool} (hgone : ∀ req, gone (key req) = true) (s : σ)
    (events : List (Event ρ κ ν δ τ)) : Traces live grow key s (.invalidated gone :: events) := by
  intro k stored hstored
  have hkey := key_of_lastStored hstored
  have hk : gone k = true := by
    rw [← hkey]
    exact hgone stored.req
  have hnone : lastStored key k (.invalidated gone :: events) = none := if_pos hk
  rw [hnone] at hstored
  cases hstored

theorem Traces.store (h : Traces live grow key s events) {req : ρ} {value : ν}
    (hvalue : live req s = .ok value) (time : τ) :
    Traces live grow key s (.stored req value time :: events) := by
  intro k stored hstored
  unfold lastStored at hstored
  split at hstored
  · rw [← Option.some.inj hstored]
    exact ⟨s, hvalue, rfl⟩
  · exact h k stored hstored

theorem Traces.note (h : Traces live grow key s events) {req : ρ} (storedAt : τ)
    {answer : Except ε (Served ν τ)}
    (hanswer : ∀ value, answer = .ok (.computed value) → live req s = .ok value) :
    Traces live grow key s (note req storedAt answer ++ events) := by
  cases answer with
  | error e => exact h
  | ok served =>
    cases served with
    | cached found => exact h
    | computed value => exact h.store (hanswer value rfl) storedAt

end Traces

/-! ## What is served -/

section Answer

variable [LinearOrder τ] [AddCommGroup τ] {ttl readAt storedAt : τ} {cache : TtlCache.Cache κ ν τ}
  {result : Except ε ν} {value : ν} {found : TtlCache.Meta ν τ}

/-- **A request** keeps the cache in step with its record. -/
theorem Agrees.serve (h : Agrees ttl key cache events) (req : ρ) (readAt storedAt : τ)
    (result : Except ε ν) :
    Agrees ttl key (serve ttl readAt storedAt (key req) result cache).2
      (note req storedAt (serve ttl readAt storedAt (key req) result cache).1 ++ events) := by
  unfold ReadThrough.serve
  split
  · split
    · exact h
    · exact h.compute req storedAt result
  · exact h.compute req storedAt result

theorem serve_computed
    (h : (serve ttl readAt storedAt k result cache).1 = .ok (.computed value)) :
    result = .ok value := by
  have hcompute : ∀ {v : ν}, (compute ttl storedAt k result cache).1 = .ok (.computed v) →
      result = .ok v := by
    intro v hv
    cases result with
    | error e => cases hv
    | ok w =>
      cases hv
      rfl
  unfold serve at h
  split at h
  · split at h
    · cases h
    · exact hcompute h
  · exact hcompute h

theorem found_iff [IsOrderedAddMonoid τ] (hagrees : Agrees ttl key cache events) :
    (TtlCache.getWithMeta ttl readAt k cache = some found ∧ found.isExpired = false) ↔
      ∃ stored, lastStored key k events = some stored ∧ readAt < stored.time + ttl ∧
        found = { value := stored.value, age := readAt - stored.time,
                  remaining := max 0 (stored.time + ttl - readAt) } := by
  have hentry := hagrees k
  have hget : TtlCache.getWithMeta ttl readAt k cache = (lastStored key k events).map fun stored =>
      { value := stored.value, age := readAt - stored.time,
        remaining := max 0 (stored.time + ttl - readAt) } := by
    unfold TtlCache.getWithMeta
    rw [hentry, Option.map_map]
    simp only [Function.comp_def, add_sub_cancel_right]
  -- expired is what is not read before its end
  have hexpired : ∀ stored, lastStored key k events = some stored →
      TtlCache.getWithMeta ttl readAt k cache = some found →
        (found.isExpired = false ↔ readAt < stored.time + ttl) := by
    intro stored hstored hfound
    rw [hstored] at hentry
    rw [← not_le, ← TtlCache.Meta.isExpired_iff hentry hfound, Bool.not_eq_true]
  constructor
  · rintro ⟨hfound, hlive⟩
    rw [hget, Option.map_eq_some_iff] at hfound
    obtain ⟨stored, hstored, rfl⟩ := hfound
    refine ⟨stored, hstored, ?_, rfl⟩
    apply (hexpired stored hstored ?_).mp hlive
    rw [hget, hstored]
    rfl
  · rintro ⟨stored, hstored, htime, rfl⟩
    have hfound : TtlCache.getWithMeta ttl readAt k cache = some
        { value := stored.value, age := readAt - stored.time,
          remaining := max 0 (stored.time + ttl - readAt) } := by
      rw [hget, hstored]
      rfl
    exact ⟨hfound, (hexpired stored hstored hfound).mpr htime⟩

/-- **An answer from the cache** is the value last stored under the key, within its time. -/
theorem serve_cached [IsOrderedAddMonoid τ] (hagrees : Agrees ttl key cache events) :
    (serve ttl readAt storedAt k result cache).1 = .ok (.cached found) ↔
      ∃ stored, lastStored key k events = some stored ∧ readAt < stored.time + ttl ∧
        found = { value := stored.value, age := readAt - stored.time,
                  remaining := max 0 (stored.time + ttl - readAt) } := by
  -- past the lookup no answer is a cached one
  have hcompute : (compute ttl storedAt k result cache).1 ≠ .ok (.cached found) := by
    cases result with
    | error e =>
      intro hv
      cases hv
    | ok w =>
      intro hv
      cases hv
  rw [← found_iff hagrees]
  unfold serve
  cases hget : TtlCache.getWithMeta ttl readAt k cache with
  | none =>
    constructor
    · intro h
      exact absurd h hcompute
    · rintro ⟨hnone, -⟩
      cases hnone
  | some m =>
    dsimp only
    by_cases hlive : m.isExpired = false
    · rw [if_pos hlive]
      constructor
      · intro h
        cases h
        exact ⟨rfl, hlive⟩
      · rintro ⟨hm, -⟩
        cases hm
        rfl
    · rw [if_neg hlive]
      constructor
      · intro h
        exact absurd h hcompute
      · rintro ⟨hm, hlive'⟩
        cases hm
        exact absurd hlive' hlive

end Answer

end ReadThrough
