import Mathlib.Tactic.Linarith
import NocIq.Lib.Runs

/-!
# NocIq — the circuit breaker, and overlapping callers

`CircuitBreaker` of `app/services/contracts/bridge_fallback.py`. Its methods take no lock, so that
callers that overlap take turns statement by statement, with the time going on. A caller runs
`allow_request` and, if it is admitted, later one of `record_success` and `record_failure`.

* **`allowRequest_statements`**, **`recordFailure_statements`** — the statements of one caller that
  runs alone are the method.
* **`single_probe`** — a run in which no caller finds the breaker half-open, none acts on a cooldown
  that another caller has changed, and none closes an open breaker.
-/

namespace NocIq.Contract

/-! ## The breaker -/

/-- `CircuitState`. -/
inductive CircuitState where
  | closed
  | opened
  | halfOpen
  deriving DecidableEq, Repr

/-- `threshold` and `cooldown_seconds` are the settings; times are in seconds. -/
structure CircuitBreaker where
  state : CircuitState := .closed
  failureCount : Nat := 0
  lastFailureTime : ℚ := 0
  threshold : Int
  cooldownSeconds : Int
  deriving DecidableEq

namespace CircuitBreaker

def recordSuccess (breaker : CircuitBreaker) : CircuitBreaker :=
  { breaker with failureCount := 0, state := .closed }

def recordFailure (now : ℚ) (breaker : CircuitBreaker) : CircuitBreaker :=
  let breaker := { breaker with
    failureCount := breaker.failureCount + 1
    lastFailureTime := now }
  if breaker.threshold ≤ breaker.failureCount then { breaker with state := .opened } else breaker

def allowRequest (now : ℚ) (breaker : CircuitBreaker) : Bool × CircuitBreaker :=
  match breaker.state with
  | .closed => (true, breaker)
  | .opened =>
    let elapsed := now - breaker.lastFailureTime
    if breaker.cooldownSeconds ≤ elapsed then (true, { breaker with state := .halfOpen })
    else (false, breaker)
  | .halfOpen => (true, breaker)

end CircuitBreaker

/-! ## Its statements -/

/-- Where a caller is. -/
inductive Position where
  /-- before `self.state == CircuitState.CLOSED` -/
  | start
  /-- before `self.state == CircuitState.OPEN` -/
  | notClosed
  /-- before `time.monotonic()` -/
  | isOpen
  /-- before `self.last_failure_time` is read and `elapsed` compared -/
  | clocked (now : ℚ)
  /-- before `self.state = CircuitState.HALF_OPEN` -/
  | cooled (now lastFailureTime : ℚ)
  /-- the request is under way -/
  | admitted
  /-- `failure_count` is reset, and the state not yet -/
  | succeeded
  /-- before `self.failure_count = count + 1` -/
  | failing (count : Nat)
  /-- before `self.last_failure_time = time.monotonic()` -/
  | counted
  /-- before `self.failure_count >= self.threshold` -/
  | stamped
  /-- before `self.state = CircuitState.OPEN` -/
  | opening
  deriving DecidableEq

/-- The next statement of a caller. An admitted caller records whether its request succeeded. -/
def execute (now : ℚ) (succeeds : Bool) : Position × CircuitBreaker → Position × CircuitBreaker
  | (.start, b) => (if b.state = .closed then .admitted else .notClosed, b)
  | (.notClosed, b) => (if b.state = .opened then .isOpen else .admitted, b)
  | (.isOpen, b) => (.clocked now, b)
  | (.clocked t, b) =>
    (if b.cooldownSeconds ≤ t - b.lastFailureTime then .cooled t b.lastFailureTime else .start, b)
  | (.cooled _ _, b) => (.admitted, { b with state := .halfOpen })
  | (.admitted, b) =>
    if succeeds then (.succeeded, { b with failureCount := 0 }) else (.failing b.failureCount, b)
  | (.succeeded, b) => (.start, { b with state := .closed })
  | (.failing count, b) => (.counted, { b with failureCount := count + 1 })
  | (.counted, b) => (.stamped, { b with lastFailureTime := now })
  | (.stamped, b) => (if b.threshold ≤ b.failureCount then .opening else .start, b)
  | (.opening, b) => (.start, { b with state := .opened })

abbrev Executes (now : ℚ) (succeeds : Bool) :
    Position × CircuitBreaker → Position × CircuitBreaker → Prop :=
  Relation.ReflTransGen fun x y => execute now succeeds x = y

theorem Executes.next {now : ℚ} {succeeds : Bool} {x y : Position × CircuitBreaker}
    (h : Executes now succeeds (execute now succeeds x) y) : Executes now succeeds x y :=
  .head rfl h

/-- **`allow_request`**, of a caller that runs alone. -/
theorem allowRequest_statements (now : ℚ) (succeeds : Bool) (b : CircuitBreaker) :
    Executes now succeeds (.start, b)
      (if (b.allowRequest now).1 then .admitted else .start, (b.allowRequest now).2) := by
  unfold CircuitBreaker.allowRequest
  refine Executes.next ?_
  unfold execute
  dsimp only
  cases hstate : b.state with
  | closed => exact .refl
  | halfOpen =>
    refine Executes.next ?_
    unfold execute
    simp only [hstate, reduceCtorEq, if_false, if_true]
    exact .refl
  | opened =>
    rw [if_neg (by decide)]
    refine Executes.next ?_
    unfold execute
    dsimp only
    rw [hstate, if_pos rfl]
    refine Executes.next (Executes.next ?_)
    unfold execute
    dsimp only
    by_cases hcooled : (b.cooldownSeconds : ℚ) ≤ now - b.lastFailureTime
    · rw [if_pos hcooled, if_pos hcooled, if_pos rfl]
      exact Executes.next .refl
    · rw [if_neg hcooled, if_neg hcooled]
      exact .refl

theorem recordSuccess_statements (now : ℚ) (b : CircuitBreaker) :
    Executes now true (.admitted, b) (.start, b.recordSuccess) :=
  Executes.next (Executes.next .refl)

/-- **`record_failure`**, of a caller that runs alone. -/
theorem recordFailure_statements (now : ℚ) (b : CircuitBreaker) :
    Executes now false (.admitted, b) (.start, b.recordFailure now) := by
  refine Executes.next (Executes.next (Executes.next (Executes.next ?_)))
  unfold CircuitBreaker.recordFailure
  simp only [execute, Bool.false_eq_true, if_false]
  by_cases hthreshold : b.threshold ≤ ((b.failureCount + 1 : Nat) : Int)
  · rw [if_pos hthreshold, if_pos hthreshold]
    exact Executes.next .refl
  · rw [if_neg hthreshold, if_neg hthreshold]

/-! ## Callers that overlap -/

/-- A statement that was executed. -/
structure Entry where
  time : ℚ
  caller : Nat
  source : Position
  target : Position
  before : CircuitState
  after : CircuitState
  deriving DecidableEq

namespace Entry

/-- `allow_request` returns `True`. -/
def isAdmission (e : Entry) : Bool := decide (e.target = .admitted)

/-- The last statement of `record_success` or `record_failure`. -/
def isOutcome (e : Entry) : Bool :=
  match e.source with
  | .succeeded | .opening => true
  | .stamped => decide (e.target = .start)
  | _ => false

def isFailure (e : Entry) : Bool := decide (e.source = .counted)

def leavesOpen (e : Entry) : Bool := decide (e.before = .opened ∧ e.after ≠ .opened)

end Entry

/-- When the last failure was; the newest entry comes first. -/
def lastFailure : List Entry → Option ℚ
  | [] => none
  | e :: log => if e.isFailure then some e.time else lastFailure log

/-- How many requests were admitted since the breaker left `OPEN`; `none` if it never left it, or an
outcome was recorded since. -/
def admittedSinceOpen : List Entry → Option Nat
  | [] => none
  | e :: log =>
    if e.leavesOpen then some (if e.isAdmission then 1 else 0)
    else if e.isOutcome then none
    else (admittedSinceOpen log).map fun n => if e.isAdmission then n + 1 else n

/-- A breaker, its callers, the time, and what has happened. -/
structure Overlap where
  breaker : CircuitBreaker
  position : Nat → Position
  now : ℚ
  log : List Entry

/-- The turn of a caller. -/
structure Turn where
  time : ℚ
  caller : Nat
  succeeds : Bool

namespace Overlap

def fresh (threshold cooldownSeconds : Int) (now : ℚ) : Overlap where
  breaker := { threshold, cooldownSeconds }
  position _ := .start
  now
  log := []

/-- The next statement of the caller, from where it is. -/
def outcome (w : Overlap) (turn : Turn) : Position × CircuitBreaker :=
  execute turn.time turn.succeeds (w.position turn.caller, w.breaker)

def entry (w : Overlap) (turn : Turn) : Entry where
  time := turn.time
  caller := turn.caller
  source := w.position turn.caller
  target := (w.outcome turn).1
  before := w.breaker.state
  after := (w.outcome turn).2.state

def next (w : Overlap) (turn : Turn) : Overlap where
  breaker := (w.outcome turn).2
  position := Function.update w.position turn.caller (w.outcome turn).1
  now := turn.time
  log := w.entry turn :: w.log

/-- The clock is monotonic. -/
def Step (w : Overlap) (turn : Turn) (w' : Overlap) : Prop :=
  w.now ≤ turn.time ∧ w' = w.next turn

/-- **What admission promises**, of the last statement and of the requests since the breaker left
`OPEN`. -/
structure SingleProbe (w : Overlap) : Prop where
  cooling : ∀ e log, w.log = e :: log → e.isAdmission = true → e.before = .opened →
    ∀ t, lastFailure log = some t → (w.breaker.cooldownSeconds : ℚ) ≤ e.time - t
  probe : ∀ n, admittedSinceOpen w.log = some n → n ≤ 1

/-- Where the next statement is harmless. -/
def Undisturbed (breaker : CircuitBreaker) : Position → Prop
  | .notClosed => breaker.state ≠ .halfOpen
  | .cooled _ lastFailureTime =>
    breaker.state = .opened ∧ breaker.lastFailureTime = lastFailureTime
  | .succeeded => breaker.state ≠ .opened
  | _ => True

/-! ## What the statements keep -/

structure Invariant (w : Overlap) : Prop where
  /-- the time of the last failure is the one that is stored -/
  lastFailure : ∀ t, lastFailure w.log = some t → w.breaker.lastFailureTime = t
  /-- the breaker is half-open until an outcome is recorded -/
  probe : ∀ n, admittedSinceOpen w.log = some n → n = 1 ∧ w.breaker.state = .halfOpen
  clocked : ∀ caller t, w.position caller = .clocked t → t ≤ w.now
  cooled : ∀ caller t lastFailureTime, w.position caller = .cooled t lastFailureTime →
    t ≤ w.now ∧ (w.breaker.cooldownSeconds : ℚ) ≤ t - lastFailureTime

theorem invariant_fresh (threshold cooldownSeconds : Int) (now : ℚ) :
    Invariant (fresh threshold cooldownSeconds now) where
  lastFailure t h := by cases h
  probe n h := by cases h
  clocked caller t h := by cases h
  cooled caller t lastFailureTime h := by cases h

variable {w : Overlap} {turn : Turn}

theorem execute_cooldownSeconds (now : ℚ) (succeeds : Bool) (x : Position × CircuitBreaker) :
    (execute now succeeds x).2.cooldownSeconds = x.2.cooldownSeconds := by
  obtain ⟨source, b⟩ := x
  cases source with
  | admitted => cases succeeds <;> rfl
  | _ => rfl

theorem execute_lastFailureTime (now : ℚ) (succeeds : Bool) (x : Position × CircuitBreaker) :
    (execute now succeeds x).2.lastFailureTime =
      if x.1 = .counted then now else x.2.lastFailureTime := by
  obtain ⟨source, b⟩ := x
  cases source with
  | admitted => cases succeeds <;> rfl
  | _ => rfl

theorem cooldownSeconds_next :
    (w.next turn).breaker.cooldownSeconds = w.breaker.cooldownSeconds :=
  execute_cooldownSeconds turn.time turn.succeeds (w.position turn.caller, w.breaker)

theorem position_next_self : (w.next turn).position turn.caller = (w.outcome turn).1 :=
  Function.update_self _ _ _

theorem position_next_of_ne {caller : Nat} (h : caller ≠ turn.caller) :
    (w.next turn).position caller = w.position caller :=
  Function.update_of_ne h _ _

theorem outcome_of_position {source : Position} (h : w.position turn.caller = source) :
    w.outcome turn = execute turn.time turn.succeeds (source, w.breaker) := by
  unfold outcome
  rw [h]

theorem lastFailure_next (h : Invariant w) (t : ℚ)
    (ht : NocIq.Contract.lastFailure (w.next turn).log = some t) :
    (w.next turn).breaker.lastFailureTime = t := by
  show (execute turn.time turn.succeeds (w.position turn.caller, w.breaker)).2.lastFailureTime = t
  rw [execute_lastFailureTime]
  change (if decide (w.position turn.caller = .counted) = true then some turn.time
    else NocIq.Contract.lastFailure w.log) = some t at ht
  by_cases hcounted : w.position turn.caller = .counted
  · rw [if_pos (decide_eq_true hcounted)] at ht
    rw [if_pos hcounted]
    exact Option.some.inj ht
  · rw [if_neg (by simpa using hcounted)] at ht
    rw [if_neg hcounted]
    exact h.lastFailure t ht

theorem clocked_next (h : Invariant w) (hle : w.now ≤ turn.time) (caller : Nat) (t : ℚ)
    (ht : (w.next turn).position caller = .clocked t) : t ≤ turn.time := by
  by_cases hcaller : caller = turn.caller
  · subst hcaller
    rw [position_next_self] at ht
    cases hsource : w.position turn.caller with
    | isOpen =>
      rw [outcome_of_position hsource] at ht
      cases ht
      exact le_refl _
    | start | notClosed | clocked | stamped | admitted =>
      rw [outcome_of_position hsource, execute] at ht
      split at ht <;> cases ht
    | cooled | succeeded | failing | counted | opening =>
      rw [outcome_of_position hsource] at ht
      cases ht
  · rw [position_next_of_ne hcaller] at ht
    exact (h.clocked caller t ht).trans hle

theorem cooled_next (h : Invariant w) (hle : w.now ≤ turn.time) (caller : Nat)
    (t lastFailureTime : ℚ) (ht : (w.next turn).position caller = .cooled t lastFailureTime) :
    t ≤ turn.time ∧ ((w.next turn).breaker.cooldownSeconds : ℚ) ≤ t - lastFailureTime := by
  rw [cooldownSeconds_next]
  by_cases hcaller : caller = turn.caller
  · subst hcaller
    rw [position_next_self] at ht
    cases hsource : w.position turn.caller with
    | clocked t' =>
      rw [outcome_of_position hsource, execute] at ht
      split at ht
      · next hcooled =>
        cases ht
        exact ⟨(h.clocked turn.caller t hsource).trans hle, hcooled⟩
      · cases ht
    | start | notClosed | stamped | admitted =>
      rw [outcome_of_position hsource, execute] at ht
      split at ht <;> cases ht
    | isOpen | cooled | succeeded | failing | counted | opening =>
      rw [outcome_of_position hsource] at ht
      cases ht
  · rw [position_next_of_ne hcaller] at ht
    obtain ⟨hnow, hcooled⟩ := h.cooled caller t lastFailureTime ht
    exact ⟨hnow.trans hle, hcooled⟩

/-! ## What is counted -/

section Count

variable {e : Entry} {log : List Entry}

theorem admittedSinceOpen_other (hleaves : e.leavesOpen = false) (houtcome : e.isOutcome = false)
    (hadmission : e.isAdmission = false) :
    admittedSinceOpen (e :: log) = admittedSinceOpen log := by
  rw [admittedSinceOpen, if_neg (by simp [hleaves]), if_neg (by simp [houtcome])]
  simp [hadmission]

theorem admittedSinceOpen_outcome (hleaves : e.leavesOpen = false) (houtcome : e.isOutcome = true) :
    admittedSinceOpen (e :: log) = none := by
  rw [admittedSinceOpen, if_neg (by simp [hleaves]), if_pos houtcome]

theorem admittedSinceOpen_admission (hleaves : e.leavesOpen = false)
    (houtcome : e.isOutcome = false) (hnone : admittedSinceOpen log = none) :
    admittedSinceOpen (e :: log) = none := by
  rw [admittedSinceOpen, if_neg (by simp [hleaves]), if_neg (by simp [houtcome]), hnone]
  rfl

theorem admittedSinceOpen_leaves (hleaves : e.leavesOpen = true) (hadmission : e.isAdmission = true) :
    admittedSinceOpen (e :: log) = some 1 := by
  rw [admittedSinceOpen, if_pos hleaves, if_pos hadmission]

end Count

theorem admittedSinceOpen_eq_none (h : Invariant w) (hstate : w.breaker.state ≠ .halfOpen) :
    admittedSinceOpen w.log = none := by
  cases hn : admittedSinceOpen w.log with
  | none => rfl
  | some n => exact absurd (h.probe n hn).2 hstate

theorem probe_next_other (h : Invariant w) (hstate : (w.outcome turn).2.state = w.breaker.state)
    (houtcome : (w.entry turn).isOutcome = false) (hadmission : (w.outcome turn).1 ≠ .admitted)
    (n : Nat) (hn : admittedSinceOpen (w.next turn).log = some n) :
    n = 1 ∧ (w.next turn).breaker.state = .halfOpen := by
  have hleaves : (w.entry turn).leavesOpen = false := by
    simp [Entry.leavesOpen, entry, hstate]
  have hnotAdmission : (w.entry turn).isAdmission = false := decide_eq_false hadmission
  have hlog : (w.next turn).log = w.entry turn :: w.log := rfl
  rw [hlog, admittedSinceOpen_other hleaves houtcome hnotAdmission] at hn
  obtain ⟨hone, hhalf⟩ := h.probe n hn
  exact ⟨hone, hstate.trans hhalf⟩

theorem probe_next_closed (h : Invariant w) (hstate : w.breaker.state = .closed)
    (hbreaker : (w.outcome turn).2 = w.breaker) (houtcome : (w.entry turn).isOutcome = false) :
    admittedSinceOpen (w.next turn).log = none := by
  have hleaves : (w.entry turn).leavesOpen = false := by
    simp [Entry.leavesOpen, entry, hbreaker]
  apply admittedSinceOpen_admission hleaves houtcome
  apply admittedSinceOpen_eq_none h
  rw [hstate]
  decide

/-- **What is counted** after a statement: the admission that leaves `OPEN`, and no other one. One
case for each statement. -/
theorem probe_next (h : Invariant w)
    (hundisturbed : Undisturbed w.breaker (w.position turn.caller)) (n : Nat)
    (hn : admittedSinceOpen (w.next turn).log = some n) :
    n = 1 ∧ (w.next turn).breaker.state = .halfOpen := by
  have hlog : (w.next turn).log = w.entry turn :: w.log := rfl
  have hnotCounted : admittedSinceOpen (w.next turn).log = none → False := by
    intro hnone
    rw [hnone] at hn
    cases hn
  cases hsource : w.position turn.caller with
  | start =>
    have houtcome := outcome_of_position hsource
    have hisOutcome : (w.entry turn).isOutcome = false := by simp [Entry.isOutcome, entry, hsource]
    by_cases hclosed : w.breaker.state = .closed
    · -- a closed breaker admits, and nothing is counted
      exact (hnotCounted (probe_next_closed h hclosed (by rw [houtcome]; rfl) hisOutcome)).elim
    · refine probe_next_other h (by rw [houtcome]; rfl) hisOutcome ?_ n hn
      rw [houtcome, execute, if_neg hclosed]
      exact fun h => nomatch h
  | notClosed =>
    have houtcome := outcome_of_position hsource
    have hisOutcome : (w.entry turn).isOutcome = false := by simp [Entry.isOutcome, entry, hsource]
    rw [hsource] at hundisturbed
    by_cases hopened : w.breaker.state = .opened
    · refine probe_next_other h (by rw [houtcome]; rfl) hisOutcome ?_ n hn
      rw [houtcome, execute, if_pos hopened]
      exact fun h => nomatch h
    · have hclosed : w.breaker.state = .closed := by
        cases hstate : w.breaker.state with
        | closed => rfl
        | opened => exact absurd hstate hopened
        | halfOpen => exact absurd hstate hundisturbed
      exact (hnotCounted (probe_next_closed h hclosed (by rw [houtcome]; rfl) hisOutcome)).elim
  | cooled t lastFailureTime =>
    -- the cooldown is over: the admission that leaves `OPEN`
    have houtcome := outcome_of_position hsource
    rw [hsource] at hundisturbed
    have hleaves : (w.entry turn).leavesOpen = true := by
      simp [Entry.leavesOpen, entry, houtcome, execute, hundisturbed.1]
    have hadmission : (w.entry turn).isAdmission = true := by
      simp [Entry.isAdmission, entry, houtcome, execute]
    rw [hlog, admittedSinceOpen_leaves hleaves hadmission] at hn
    refine ⟨(Option.some.inj hn).symm, ?_⟩
    show (w.outcome turn).2.state = _
    rw [houtcome]
    rfl
  | succeeded =>
    have houtcome := outcome_of_position hsource
    rw [hsource] at hundisturbed
    have hnotOpened : w.breaker.state ≠ .opened := hundisturbed
    refine (hnotCounted (admittedSinceOpen_outcome ?_ ?_)).elim
    · simp [Entry.leavesOpen, entry, hnotOpened]
    · simp [Entry.isOutcome, entry, hsource]
  | stamped =>
    have houtcome := outcome_of_position hsource
    by_cases hthreshold : w.breaker.threshold ≤ (w.breaker.failureCount : Int)
    · -- the breaker is opened by the next statement, and the failure recorded there
      refine probe_next_other h (by rw [houtcome]; rfl) ?_ ?_ n hn
      · simp [Entry.isOutcome, entry, hsource, houtcome, execute, hthreshold]
      · rw [houtcome, execute, if_pos hthreshold]
        exact fun h => nomatch h
    · refine (hnotCounted (admittedSinceOpen_outcome ?_ ?_)).elim
      · simp [Entry.leavesOpen, entry, houtcome, execute]
      · simp [Entry.isOutcome, entry, hsource, houtcome, execute, hthreshold]
  | opening =>
    have houtcome := outcome_of_position hsource
    refine (hnotCounted (admittedSinceOpen_outcome ?_ ?_)).elim
    · simp [Entry.leavesOpen, entry, houtcome, execute]
    · simp [Entry.isOutcome, entry, hsource]
  | admitted =>
    have houtcome := outcome_of_position hsource
    have hisOutcome : (w.entry turn).isOutcome = false := by simp [Entry.isOutcome, entry, hsource]
    rw [execute] at houtcome
    refine probe_next_other h ?_ hisOutcome ?_ n hn
    · rw [houtcome]
      split <;> rfl
    · rw [houtcome]
      split
      · exact fun h => nomatch h
      · exact fun h => nomatch h
  | isOpen | clocked | failing | counted =>
    have houtcome := outcome_of_position hsource
    have hisOutcome : (w.entry turn).isOutcome = false := by simp [Entry.isOutcome, entry, hsource]
    refine probe_next_other h (by rw [houtcome]; rfl) hisOutcome ?_ n hn
    rw [houtcome, execute]
    try split
    all_goals exact fun h => nomatch h

/-- **One statement** keeps the invariant. -/
theorem invariant_next (h : Invariant w) (hle : w.now ≤ turn.time)
    (hundisturbed : Undisturbed w.breaker (w.position turn.caller)) : Invariant (w.next turn) where
  lastFailure := lastFailure_next h
  probe := probe_next h hundisturbed
  clocked := clocked_next h hle
  cooled := cooled_next h hle

theorem cooling_next (h : Invariant w) (hle : w.now ≤ turn.time)
    (hundisturbed : Undisturbed w.breaker (w.position turn.caller))
    (hadmission : (w.entry turn).isAdmission = true) (hopened : w.breaker.state = .opened) (t : ℚ)
    (ht : NocIq.Contract.lastFailure w.log = some t) :
    (w.breaker.cooldownSeconds : ℚ) ≤ turn.time - t := by
  have htarget : (w.outcome turn).1 = .admitted := of_decide_eq_true hadmission
  cases hsource : w.position turn.caller with
  | cooled t' lastFailureTime =>
    rw [hsource] at hundisturbed
    obtain ⟨hnow, hcooled⟩ := h.cooled turn.caller t' lastFailureTime hsource
    have hlast := h.lastFailure t ht
    rw [← hundisturbed.2, hlast] at hcooled
    linarith
  | start =>
    rw [outcome_of_position hsource, execute, if_neg (by rw [hopened]; decide)] at htarget
    cases htarget
  | notClosed =>
    rw [outcome_of_position hsource, execute, if_pos hopened] at htarget
    cases htarget
  | clocked | stamped | admitted =>
    rw [outcome_of_position hsource, execute] at htarget
    split at htarget <;> cases htarget
  | isOpen | succeeded | failing | counted | opening =>
    rw [outcome_of_position hsource] at htarget
    cases htarget

theorem singleProbe_next (h : Invariant w) (hle : w.now ≤ turn.time)
    (hundisturbed : Undisturbed w.breaker (w.position turn.caller)) :
    SingleProbe (w.next turn) where
  cooling e log hlog hadmission hopened t ht := by
    obtain ⟨rfl, rfl⟩ := List.cons.inj hlog
    rw [cooldownSeconds_next]
    exact cooling_next h hle hundisturbed hadmission hopened t ht
  probe n hn := (probe_next h hundisturbed n hn).1.le

theorem singleProbe_fresh (threshold cooldownSeconds : Int) (now : ℚ) :
    SingleProbe (fresh threshold cooldownSeconds now) where
  cooling e log hlog := by cases hlog
  probe n hn := by cases hn

end Overlap

open Overlap Runs

/-- **Overlapping callers**: in a run whose statements are all undisturbed, an open breaker admits
no request before the cooldown is over, and at most one before the next outcome. -/
theorem single_probe {threshold cooldownSeconds : Int} {now : ℚ} {steps : List (Overlap × Turn)}
    {w : Overlap} (hrun : Run Step (fresh threshold cooldownSeconds now) steps w)
    (hundisturbed : ∀ x ∈ steps, Undisturbed x.1.breaker (x.1.position x.2.caller)) :
    ∀ w' ∈ visited steps w, SingleProbe w' := by
  have hrun' := hrun.restrict (A := fun w turn => Undisturbed w.breaker (w.position turn.caller))
    hundisturbed
  have hall := hrun'.invariant_visited (I := fun w => Invariant w ∧ SingleProbe w)
    ⟨invariant_fresh threshold cooldownSeconds now, singleProbe_fresh threshold cooldownSeconds now⟩
    (by
      rintro w turn _ ⟨hinvariant, -⟩ ⟨⟨hle, rfl⟩, hturn⟩
      exact ⟨invariant_next hinvariant hle hturn, singleProbe_next hinvariant hle hturn⟩)
  exact fun w' hw' => (hall w' hw').2

/-! ## Runs of given turns -/

instance (breaker : CircuitBreaker) : (position : Position) →
    Decidable (Undisturbed breaker position)
  | .notClosed => inferInstanceAs (Decidable (breaker.state ≠ .halfOpen))
  | .cooled _ lastFailureTime =>
    inferInstanceAs
      (Decidable (breaker.state = .opened ∧ breaker.lastFailureTime = lastFailureTime))
  | .succeeded => inferInstanceAs (Decidable (breaker.state ≠ .opened))
  | .start | .isOpen | .clocked _ | .admitted | .failing _ | .counted | .stamped | .opening =>
    isTrue trivial

/-- Turns at times that do not go back are a run. Induction on the turns. -/
theorem run_of_turns {w : Overlap} {turns : List Turn}
    (h : List.IsChain (· ≤ ·) (w.now :: turns.map Turn.time)) :
    Run Step w (replay Overlap.next w turns) (turns.foldl Overlap.next w) := by
  induction turns generalizing w with
  | nil => exact .nil
  | cons turn turns ih =>
    obtain ⟨hle, hrest⟩ := List.isChain_cons_cons.mp h
    have hfirst : Run Step w [(w, turn)] (w.next turn) := .snoc .nil ⟨hle, rfl⟩
    exact hfirst.trans (ih hrest)

/-- A request that fails opens the breaker, and another one finds the cooldown over. -/
def probeTurns : List Turn :=
  (List.replicate 6 ⟨0, 0, false⟩) ++ List.replicate 5 ⟨30, 1, false⟩

/-- The second request is admitted, alone. -/
theorem single_probe_after_cooldown :
    let w := probeTurns.foldl Overlap.next (fresh 1 30 0)
    (w.breaker.state = .halfOpen ∧ w.position 1 = .admitted) ∧ SingleProbe w := by
  intro w
  refine ⟨⟨by decide +kernel, by decide +kernel⟩, ?_⟩
  have hrun : Run Step (fresh 1 30 0) (replay Overlap.next (fresh 1 30 0) probeTurns) w :=
    run_of_turns (by decide +kernel)
  refine single_probe hrun (by decide +kernel) w ?_
  exact List.mem_append_right _ (List.mem_singleton_self _)

/-- **Two requests** are admitted after the cooldown: the second one finds the breaker half-open. -/
theorem half_open_admits_two :
    let turns := probeTurns ++ List.replicate 2 ⟨30, 2, false⟩
    Run Step (fresh 1 30 0) (replay Overlap.next (fresh 1 30 0) turns)
        (turns.foldl Overlap.next (fresh 1 30 0)) ∧
      admittedSinceOpen (turns.foldl Overlap.next (fresh 1 30 0)).log = some 2 ∧
      ¬ SingleProbe (turns.foldl Overlap.next (fresh 1 30 0)) := by
  intro turns
  have htwo : admittedSinceOpen (turns.foldl Overlap.next (fresh 1 30 0)).log = some 2 := by
    decide +kernel
  refine ⟨run_of_turns (by decide +kernel), htwo, ?_⟩
  intro hsingle
  exact absurd (hsingle.probe 2 htwo) (by decide)

end NocIq.Contract
