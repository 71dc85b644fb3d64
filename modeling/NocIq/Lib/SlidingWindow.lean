import Mathlib.Data.List.Induction
import Mathlib.Order.Basic

/-!
# SlidingWindow — so many events of a key in a window of time

A limiter keeps, for each key, the instants of the events it has let through. At an event it drops
those that have left the window, lets the event through if fewer than `limit` are left, and then
keeps its instant. An event may fail a check of its own before; then nothing is looked at. Which
instants are in the window is up to the limiter, as long as those that have left it stay out.

* **`kept_after`** — what is kept is, seen from any later instant, all that has passed.
* **`step_iff`** — an event passes by what has passed in its window alone.
* **`Limiter.limits`** — of events that are in each other's window at most `limit` of a key pass, an
  event that fails changes nothing for later ones, and a key without recent events passes.
-/

namespace SlidingWindow

variable {ε κ τ : Type*}

/-- Events with their key, their instant, and whether they pass the checks before; and the instants
that are in the window that ends at `now`. -/
structure Limiter (ε κ τ : Type*) [LE τ] where
  key : ε → κ
  now : ε → τ
  checked : ε → Bool
  limit : Int
  inWindow : (now t : τ) → Bool
  leaves : ∀ {t now later : τ}, now ≤ later → inWindow later t = true → inWindow now t = true

/-! ## Runs -/

section Runs

variable {σ : Type*} (step : σ → ε → Bool × σ)

def after (s : σ) (events : List ε) : σ := events.foldl (fun s e => (step s e).2) s

/-- The events of a run that pass. -/
def passing : σ → List ε → List ε
  | _, [] => []
  | s, e :: events =>
    if (step s e).1 then e :: passing (step s e).2 events else passing (step s e).2 events

/-- Which events of a run pass. -/
def decisions : σ → List ε → List Bool
  | _, [] => []
  | s, e :: events => (step s e).1 :: decisions (step s e).2 events

variable {step} {s : σ}

theorem after_append (events more : List ε) :
    after step s (events ++ more) = after step (after step s events) more := List.foldl_append ..

theorem passing_append (events more : List ε) :
    passing step s (events ++ more) =
      passing step s events ++ passing step (after step s events) more := by
  induction events generalizing s with
  | nil => rfl
  | cons e events ih =>
    simp only [List.cons_append, passing, after, List.foldl_cons, ih]
    split
    · simp
    · rfl

theorem mem_of_mem_passing {events : List ε} {e : ε} (h : e ∈ passing step s events) :
    e ∈ events := by
  induction events generalizing s with
  | nil => cases h
  | cons e' events ih =>
    rw [passing] at h
    split at h
    · rcases List.mem_cons.mp h with rfl | h
      · exact List.mem_cons_self
      · exact List.mem_cons_of_mem _ (ih h)
    · exact List.mem_cons_of_mem _ (ih h)

end Runs

/-! ## The limiter -/

namespace Limiter

variable [Preorder τ]

/-- The instants that are left at `now`. -/
def kept (l : Limiter ε κ τ) (now : τ) (times : List τ) : List τ := times.filter (l.inWindow now)

section Definitions

variable [DecidableEq κ] (l : Limiter ε κ τ)

def step (s : κ → List τ) (e : ε) : Bool × (κ → List τ) :=
  if l.checked e then
    let times := l.kept (l.now e) (s (l.key e))
    if l.limit ≤ times.length then (false, Function.update s (l.key e) times)
    else (true, Function.update s (l.key e) (times ++ [l.now e]))
  else (false, s)

def times (key : κ) (events : List ε) : List τ :=
  (events.filter fun e => decide (l.key e = key)).map l.now

/-- How many of the events have the key and are in the window that ends at `now`. -/
def recent (key : κ) (now : τ) (events : List ε) : Nat :=
  events.countP fun e => decide (l.key e = key) && l.inWindow now (l.now e)

def Ordered (events : List ε) : Prop := events.Pairwise fun e later => l.now e ≤ l.now later

/-- Each of the events of a key that are meant is in the window of those that are no earlier. -/
def Together (key : κ) (meant : τ → Bool) (events : List ε) : Prop :=
  ∀ e ∈ events, ∀ later ∈ events, l.key e = key → l.key later = key →
    meant (l.now e) = true → meant (l.now later) = true →
      l.now e ≤ l.now later → l.inWindow (l.now later) (l.now e) = true

/-- What a limiter promises, of any step function on its events. -/
structure Limits {σ : Type*} (step : σ → ε → Bool × σ) (init : σ) : Prop where
  /-- Of events that are in each other's window at most `limit` of a key pass; none if the limit is
  negative. -/
  bound : ∀ events, l.Ordered events → ∀ key (meant : τ → Bool), l.Together key meant events →
    ((passing step init events).countP fun e => decide (l.key e = key) && meant (l.now e)) ≤
      l.limit.toNat
  /-- An event that fails changes no later decision. -/
  harmless : ∀ events e later, l.Ordered (events ++ e :: later) →
    (step (after step init events) e).1 = false →
      decisions step (after step init (events ++ [e])) later =
        decisions step (after step init events) later
  /-- A key none of whose events has passed in the window that ends now passes. -/
  idle : ∀ events e, l.Ordered (events ++ [e]) → 0 < l.limit → l.checked e = true →
    (∀ e' ∈ passing step init events, l.key e' = l.key e →
      l.inWindow (l.now e) (l.now e') = false) →
      (step (after step init events) e).1 = true

end Definitions

/-! ## Instants that are kept -/

theorem kept_append (l : Limiter ε κ τ) (now : τ) (times more : List τ) :
    l.kept now (times ++ more) = l.kept now times ++ l.kept now more :=
  List.filter_append ..

/-- Two states that cannot be told apart from the instant `t` on. -/
def Agree (l : Limiter ε κ τ) (t : τ) (s s' : κ → List τ) : Prop :=
  ∀ now, t ≤ now → ∀ key, l.kept now (s key) = l.kept now (s' key)

variable {l : Limiter ε κ τ}

theorem Agree.mono {t t' : τ} {s s' : κ → List τ} (h : l.Agree t s s') (ht : t ≤ t') :
    l.Agree t' s s' := fun now hnow key => h now (ht.trans hnow) key

theorem kept_kept {now later : τ} (h : now ≤ later) (times : List τ) :
    l.kept later (l.kept now times) = l.kept later times := by
  unfold kept
  rw [List.filter_filter]
  refine List.filter_congr fun t _ => ?_
  rw [Bool.and_eq_left_iff_imp]
  exact l.leaves h

variable [DecidableEq κ]

theorem Agree.update {t : τ} {s s' : κ → List τ} {key : κ} {times times' : List τ}
    (h : l.Agree t s s')
    (htimes : ∀ now, t ≤ now → l.kept now times = l.kept now times') :
    l.Agree t (Function.update s key times) (Function.update s' key times') := by
  intro now hnow other
  by_cases hkey : other = key
  · subst hkey
    rw [Function.update_self, Function.update_self]
    exact htimes now hnow
  · rw [Function.update_of_ne hkey, Function.update_of_ne hkey]
    exact h now hnow other

theorem length_kept_times (key : κ) (now : τ) (events : List ε) :
    (l.kept now (l.times key events)).length = l.recent key now events := by
  unfold kept times recent
  rw [← List.countP_eq_length_filter, List.countP_map, List.countP_filter]
  refine List.countP_congr fun e _ => ?_
  simp [and_comm]

/-! ## One step -/

theorem step_congr {s s' : κ → List τ} {e : ε} (h : l.Agree (l.now e) s s') :
    (l.step s e).1 = (l.step s' e).1 ∧ l.Agree (l.now e) (l.step s e).2 (l.step s' e).2 := by
  unfold step
  -- the decision looks at the state through the window only
  by_cases hchecked : l.checked e
  · rw [if_pos hchecked, if_pos hchecked, h (l.now e) le_rfl (l.key e)]
    dsimp only
    split
    · exact ⟨rfl, h.update fun _ _ => rfl⟩
    · exact ⟨rfl, h.update fun _ _ => rfl⟩
  · rw [if_neg hchecked, if_neg hchecked]
    exact ⟨rfl, h⟩

/-- Induction on the later events. -/
theorem decisions_congr {t : τ} {s s' : κ → List τ} (h : l.Agree t s s') {later : List ε}
    (hlater : ∀ e ∈ later, t ≤ l.now e) (hordered : l.Ordered later) :
    decisions l.step s later = decisions l.step s' later := by
  induction later generalizing t s s' with
  | nil => rfl
  | cons e later ih =>
    obtain ⟨hfirst, hrest⟩ := List.pairwise_cons.mp hordered
    obtain ⟨hdecision, hnext⟩ := step_congr (h.mono (hlater e List.mem_cons_self))
    rw [decisions, decisions, hdecision]
    congr 1
    exact ih hnext hfirst hrest

/-- **One step.** From then on, what is kept of a key is what was kept before, with the instant of
an event of the key that passes. -/
theorem kept_step (s : κ → List τ) (e : ε) {now : τ} (hnow : l.now e ≤ now) (key : κ) :
    l.kept now ((l.step s e).2 key) =
      l.kept now (s key ++ l.times key (if (l.step s e).1 then [e] else [])) := by
  unfold step
  split
  · dsimp only
    by_cases hfull : l.limit ≤ (l.kept (l.now e) (s (l.key e))).length
    · rw [if_pos hfull]
      by_cases hkey : key = l.key e
      · subst hkey
        simp [times, kept_kept hnow]
      · simp [times, hkey]
    · rw [if_neg hfull]
      by_cases hkey : key = l.key e
      · subst hkey
        simp [times, kept_append, kept_kept hnow]
      · have hne : l.key e ≠ key := fun h => hkey h.symm
        simp [times, hkey, hne]
  · simp [times]

theorem agree_of_fails {s : κ → List τ} {e : ε} (h : (l.step s e).1 = false) :
    l.Agree (l.now e) (l.step s e).2 s := by
  intro now hnow key
  rw [kept_step s e hnow key, h]
  simp [times]

/-! ## What is kept, and what has passed -/

/-- **The invariant.** From the last event on, what is kept cannot be told from all that has passed.
Induction on the run, from its end. -/
theorem kept_after (events : List ε) (hordered : l.Ordered events) {now : τ}
    (hnow : ∀ e ∈ events, l.now e ≤ now) (key : κ) :
    l.kept now (after l.step (fun _ => []) events key) =
      l.kept now (l.times key (passing l.step (fun _ => []) events)) := by
  induction events using List.reverseRecOn generalizing now key with
  | nil => rfl
  | append_singleton events e ih =>
    have hbefore := (List.pairwise_append.mp hordered).1
    have he : l.now e ≤ now := hnow e (List.mem_append_right _ List.mem_cons_self)
    have hold := ih hbefore (fun e' he' => hnow e' (List.mem_append_left _ he')) key
    have htimes (more : List ε) :
        l.times key (passing l.step (fun _ => []) events ++ more) =
          l.times key (passing l.step (fun _ => []) events) ++ l.times key more := by
      simp [times]
    -- the last event adds the same instant to what is kept and to what has passed
    rw [after_append, passing_append, htimes, kept_append, ← hold, ← kept_append]
    simp only [after, List.foldl_cons, List.foldl_nil, passing]
    exact kept_step _ e he key

/-- **What decides.** An event passes if it passes its checks and fewer than `limit` events of its
key have passed in the window that ends with it. -/
theorem step_iff {events : List ε} {e : ε} (hordered : l.Ordered (events ++ [e])) :
    (l.step (after l.step (fun _ => []) events) e).1 = true ↔
      l.checked e = true ∧
        (l.recent (l.key e) (l.now e) (passing l.step (fun _ => []) events) : Int) < l.limit := by
  obtain ⟨hbefore, -, hlast⟩ := List.pairwise_append.mp hordered
  have hkept := kept_after events hbefore (fun e' he' => hlast e' he' e List.mem_cons_self)
    (l.key e)
  rw [← length_kept_times, ← hkept]
  unfold step
  by_cases hchecked : l.checked e
  · rw [if_pos hchecked]
    dsimp only
    split
    · rename_i hfull
      simp [hfull, hchecked]
    · rename_i hroom
      simp [Int.not_le.mp hroom, hchecked]
  · rw [if_neg hchecked]
    simp [hchecked]

/-! ## The promises -/

theorem bound (events : List ε) (hordered : l.Ordered events) (key : κ) (meant : τ → Bool)
    (htogether : l.Together key meant events) :
    ((passing l.step (fun _ => []) events).countP fun e =>
      decide (l.key e = key) && meant (l.now e)) ≤ l.limit.toNat := by
  induction events using List.reverseRecOn with
  | nil => exact Nat.zero_le _
  | append_singleton events e ih =>
    obtain ⟨hevents, -, hlast⟩ := List.pairwise_append.mp hordered
    have hbefore := ih hevents fun e' he' later hlater =>
      htogether e' (List.mem_append_left _ he') later (List.mem_append_left _ hlater)
    rw [passing_append, List.countP_append]
    simp only [passing]
    split
    · rename_i hpasses
      obtain ⟨-, hroom⟩ := (step_iff hordered).mp hpasses
      rw [List.countP_singleton]
      split
      · rename_i hin
        rw [Bool.and_eq_true, decide_eq_true_eq] at hin
        obtain ⟨rfl, hmeant⟩ := hin
        -- the events before this one that are meant are in the window that ends with it
        have hcovered : ((passing l.step (fun _ => []) events).countP fun e' =>
              decide (l.key e' = l.key e) && meant (l.now e')) ≤
            l.recent (l.key e) (l.now e) (passing l.step (fun _ => []) events) := by
          refine List.countP_mono_left fun e' he' hmeant' => ?_
          have hmem := mem_of_mem_passing he'
          rw [Bool.and_eq_true, decide_eq_true_eq] at hmeant' ⊢
          exact ⟨hmeant'.1, htogether e' (List.mem_append_left _ hmem) e
            (List.mem_append_right _ List.mem_cons_self) hmeant'.1 rfl hmeant'.2 hmeant
            (hlast e' hmem e List.mem_cons_self)⟩
        omega
      · exact hbefore
    · simpa using hbefore

theorem harmless (events : List ε) (e : ε) (later : List ε)
    (hordered : l.Ordered (events ++ e :: later))
    (h : (l.step (after l.step (fun _ => []) events) e).1 = false) :
    decisions l.step (after l.step (fun _ => []) (events ++ [e])) later =
      decisions l.step (after l.step (fun _ => []) events) later := by
  obtain ⟨hfirst, hlater⟩ := List.pairwise_cons.mp (List.pairwise_append.mp hordered).2.1
  rw [after_append]
  exact decisions_congr (agree_of_fails h) hfirst hlater

theorem idle (events : List ε) (e : ε) (hordered : l.Ordered (events ++ [e]))
    (hlimit : 0 < l.limit) (hchecked : l.checked e = true)
    (h : ∀ e' ∈ passing l.step (fun _ => []) events, l.key e' = l.key e →
      l.inWindow (l.now e) (l.now e') = false) :
    (l.step (after l.step (fun _ => []) events) e).1 = true := by
  have hnone : l.recent (l.key e) (l.now e) (passing l.step (fun _ => []) events) = 0 := by
    refine List.countP_eq_zero.mpr fun e' he' hrecent => ?_
    rw [Bool.and_eq_true, decide_eq_true_eq] at hrecent
    exact Bool.false_ne_true ((h e' he' hrecent.1).symm.trans hrecent.2)
  rw [step_iff hordered, hnone]
  exact ⟨hchecked, by omega⟩

/-- **The promises of a limiter** that has not seen an event. -/
theorem limits (l : Limiter ε κ τ) : l.Limits l.step fun _ => [] :=
  ⟨bound, harmless, idle⟩

end Limiter

end SlidingWindow
