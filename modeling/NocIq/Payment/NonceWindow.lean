import NocIq.Payment.CallbackReplay

/-!
# NocIq — the nonce window

`_SEEN_NONCES` against the history of one process: which calls of `_is_replay` accepted their
nonce, and when. The history is read off a run of the service, with other events, other processes
and rejected replays among the calls; the map is evicted lazily, only inside the check.

* **`serve_process_of_check`** — what one call leaves in the map.
* **`WindowInvariant.serve`** — from the clock's reading on, map and history agree on every window.
* **`nonce_window_of_run`** — the answer of a call, and the map it leaves, in terms of the history.
-/

namespace NocIq

/-! ## The calls of `_is_replay` -/

/-- The nonce with which an event calls `_is_replay` in the process, and the advance of the clock
between the two readings of that call. -/
def replayCheck (d : Deployment) (worker : Nat) : ServiceEvent → Option (String × ℚ≥0)
  | .providerCallback req other pause _ =>
    if other = worker ∧ (rejectedSignature d req).isNone then
      (given (effectiveNonce req)).map fun nonce => (nonce, pause)
    else none
  | _ => none

/-- What an event accepts in the process: the nonce, with the clock at its acceptance. -/
def acceptance (d : Deployment) (worker : Nat) (x : Server × ServiceEvent) : Option (String × ℚ) :=
  (replayCheck d worker x.2).bind fun check =>
    let result := isReplay check.1 check.2 (x.1.processes worker)
    if result.1 then none else some (check.1, result.2.monotonic)

/-- The nonces the process accepted over a run, oldest first. -/
def acceptances (d : Deployment) (worker : Nat) (steps : List (Server × ServiceEvent)) :
    List (String × ℚ) :=
  steps.filterMap (acceptance d worker)

/-- Accepted at a time `≥ now - CALLBACK_NONCE_TTL_SECONDS`. -/
def inWindow (now : ℚ) (accepted : String × ℚ) : Bool :=
  decide (now - callbackNonceTtlSeconds ≤ accepted.2)

theorem inWindow_mono {now later : ℚ} {accepted : String × ℚ} (hle : now ≤ later)
    (h : inWindow later accepted = true) : inWindow now accepted = true := by
  have hlater : later - callbackNonceTtlSeconds ≤ accepted.2 := of_decide_eq_true h
  exact decide_eq_true (by linarith)

theorem filter_inWindow {now later : ℚ} (hle : now ≤ later) (l : List (String × ℚ)) :
    (l.filter (inWindow now)).filter (inWindow later) = l.filter (inWindow later) := by
  rw [List.filter_filter]
  apply List.filter_congr
  intro a _
  cases hlater : inWindow later a with
  | false => rfl
  | true => rw [inWindow_mono hle hlater]; rfl

/-! ## One call -/

theorem evictStaleNonces_eq (p : Process) :
    evictStaleNonces p = { p with seenNonces := p.seenNonces.filter (inWindow p.monotonic) } := by
  unfold evictStaleNonces inWindow
  simp only [not_lt]

/-- A call answers `True` for the nonces of the window, which it keeps; any other nonce it adds,
stamped with its second reading of the clock. -/
theorem isReplay_eq (nonce : String) (pause : ℚ≥0) (p : Process) :
    isReplay nonce pause p =
      let window := p.seenNonces.filter (inWindow p.monotonic)
      if nonce ∈ window.map Prod.fst then (true, { p with seenNonces := window })
      else (false, ⟨window ++ [(nonce, p.monotonic + pause)], p.monotonic + pause⟩) := by
  unfold isReplay
  rw [evictStaleNonces_eq]
  have hlookup : ((p.seenNonces.filter (inWindow p.monotonic)).lookup nonce).isSome = true ↔
      nonce ∈ (p.seenNonces.filter (inWindow p.monotonic)).map Prod.fst := by
    rw [List.lookup_isSome_iff, List.mem_map]
    constructor
    · rintro ⟨kt, hmem, heq⟩
      exact ⟨kt, hmem, (beq_iff_eq.mp heq).symm⟩
    · rintro ⟨kt, hmem, heq⟩
      exact ⟨kt, hmem, beq_iff_eq.mpr heq.symm⟩
  dsimp only
  simp only [hlookup]

variable {d : Deployment} {worker : Nat}

theorem serve_process_of_no_check {s : Server} {e : ServiceEvent}
    (hcheck : replayCheck d worker e = none) (hrestart : ∀ clock, e ≠ .restart worker clock) :
    ((serve d s e).2.processes worker).seenNonces = (s.processes worker).seenNonces ∧
      (s.processes worker).monotonic ≤ ((serve d s e).2.processes worker).monotonic := by
  have hsame : ∀ {s' : Server}, s'.processes worker = s.processes worker →
      (s'.processes worker).seenNonces = (s.processes worker).seenNonces ∧
        (s.processes worker).monotonic ≤ (s'.processes worker).monotonic := by
    intro s' h
    rw [h]
    exact ⟨rfl, le_refl _⟩
  cases e with
  | updateStatus i status now => exact hsame rfl
  | reconcile i status now => exact hsame rfl
  | retry i now => exact hsame rfl
  | replayDeadLetter i now => exact hsame rfl
  | retryPayment i now => exact hsame (congrFun (retryPayment_processes i now s) worker)
  | reconcilePayment i status now =>
    exact hsame (congrFun (reconcilePayment_processes i status now s) worker)
  | providerCallback req other pause now =>
    apply hsame
    show (providerCallback d req other pause now s).2.processes worker = _
    rw [providerCallback_processes]
    split
    · rename_i hsig
      unfold checkNonce
      split
      · rfl
      · rename_i nonce hnonce
        -- a nonce is checked, so the callback went to another process
        have hother : worker ≠ other := by
          rintro rfl
          simp [replayCheck, hsig, hnonce] at hcheck
        exact Function.update_of_ne hother _ _
    · rfl
  | wait other elapsed =>
    show (Function.update s.processes other _ worker).seenNonces = _ ∧
      _ ≤ (Function.update s.processes other _ worker).monotonic
    by_cases hw : worker = other
    · subst hw
      rw [Function.update_self]
      have helapsed : (0 : ℚ) ≤ elapsed := elapsed.2
      refine ⟨rfl, ?_⟩
      show (s.processes worker).monotonic ≤ (s.processes worker).monotonic + elapsed
      linarith
    · rw [Function.update_of_ne hw]
      exact ⟨rfl, le_refl _⟩
  | restart other clock =>
    apply hsame
    have hw : worker ≠ other := by
      rintro rfl
      exact hrestart clock rfl
    exact Function.update_of_ne hw _ _

theorem serve_process_of_check {s : Server} {e : ServiceEvent} {nonce : String} {pause : ℚ≥0}
    (hcheck : replayCheck d worker e = some (nonce, pause)) :
    (serve d s e).2.processes worker = (isReplay nonce pause (s.processes worker)).2 := by
  unfold replayCheck at hcheck
  split at hcheck
  · rename_i req other pause' now
    split at hcheck
    · rename_i hguard
      obtain ⟨rfl, hsig⟩ := hguard
      obtain ⟨text, hnonce, heq⟩ := Option.map_eq_some_iff.mp hcheck
      obtain ⟨rfl, rfl⟩ := Prod.mk.inj heq
      show (providerCallback d req other pause' now s).2.processes other = _
      rw [providerCallback_processes, if_pos hsig]
      unfold checkNonce
      rw [hnonce]
      exact Function.update_self _ _ _
    · cases hcheck
  · cases hcheck

/-! ## The map and the history -/

/-- The process holds what it accepted, as far as any window from now on can tell, and no nonce
twice. -/
structure WindowInvariant (accepted : List (String × ℚ)) (p : Process) : Prop where
  agree : ∀ now, p.monotonic ≤ now →
    p.seenNonces.filter (inWindow now) = accepted.filter (inWindow now)
  nodup : (p.seenNonces.map Prod.fst).Nodup

variable {accepted : List (String × ℚ)} {p : Process}

theorem WindowInvariant.window_nodup (h : WindowInvariant accepted p) (now : ℚ) :
    ((p.seenNonces.filter (inWindow now)).map Prod.fst).Nodup :=
  h.nodup.sublist (List.filter_sublist.map _)

theorem isReplay_seenNonces (h : WindowInvariant accepted p) (nonce : String) (pause : ℚ≥0) :
    let result := isReplay nonce pause p
    let added := if result.1 then [] else [(nonce, result.2.monotonic)]
    result.2.seenNonces = (accepted ++ added).filter (inWindow p.monotonic) ∧
      p.monotonic ≤ result.2.monotonic := by
  have hpause : (0 : ℚ) ≤ pause := pause.2
  rw [isReplay_eq, h.agree p.monotonic (le_refl _)]
  by_cases hmem : nonce ∈ (accepted.filter (inWindow p.monotonic)).map Prod.fst
  · simp only [if_pos hmem]
    exact ⟨by simp, le_refl _⟩
  · have hnew : inWindow p.monotonic (nonce, p.monotonic + pause) = true := by
      apply decide_eq_true
      have httl : (0 : ℚ) ≤ callbackNonceTtlSeconds := by unfold callbackNonceTtlSeconds; norm_num
      show p.monotonic - callbackNonceTtlSeconds ≤ p.monotonic + pause
      linarith
    simp only [if_neg hmem]
    refine ⟨?_, by linarith⟩
    simp [List.filter_append, hnew]

/-- **One call keeps the invariant**, with what it accepted added to the history. -/
theorem WindowInvariant.isReplay (h : WindowInvariant accepted p) (nonce : String) (pause : ℚ≥0) :
    let result := NocIq.isReplay nonce pause p
    let added := if result.1 then [] else [(nonce, result.2.monotonic)]
    WindowInvariant (accepted ++ added) result.2 := by
  obtain ⟨hkept, hclock⟩ := isReplay_seenNonces h nonce pause
  refine ⟨?_, ?_⟩
  · intro now hnow
    rw [hkept]
    exact filter_inWindow (le_trans hclock hnow) _
  · have hwindow := h.window_nodup p.monotonic
    rw [isReplay_eq]
    by_cases hmem : nonce ∈ (p.seenNonces.filter (inWindow p.monotonic)).map Prod.fst
    · simpa only [if_pos hmem] using hwindow
    · simp only [if_neg hmem, List.map_append, List.map_cons, List.map_nil]
      exact List.nodup_append.mpr ⟨hwindow, List.nodup_singleton _, by
        intro a ha b hb hab
        rw [List.mem_singleton.mp hb] at hab
        exact hmem (hab ▸ ha)⟩

theorem acceptance_of_check {x : Server × ServiceEvent} {nonce : String} {pause : ℚ≥0}
    (hcheck : replayCheck d worker x.2 = some (nonce, pause)) :
    (acceptance d worker x).toList =
      let result := isReplay nonce pause (x.1.processes worker)
      if result.1 then [] else [(nonce, result.2.monotonic)] := by
  unfold acceptance
  rw [hcheck]
  dsimp only [Option.bind_some]
  split <;> rfl

theorem acceptances_concat (d : Deployment) (worker : Nat) (steps : List (Server × ServiceEvent))
    (x : Server × ServiceEvent) :
    acceptances d worker (steps ++ [x]) =
      acceptances d worker steps ++ (acceptance d worker x).toList := by
  unfold acceptances
  rw [List.filterMap_append]
  cases h : acceptance d worker x <;> simp [h]

theorem WindowInvariant.serve {steps : List (Server × ServiceEvent)} {s : Server} {e : ServiceEvent}
    (h : WindowInvariant (acceptances d worker steps) (s.processes worker))
    (hrestart : ∀ clock, e ≠ .restart worker clock) :
    WindowInvariant (acceptances d worker (steps ++ [(s, e)]))
      ((NocIq.serve d s e).2.processes worker) := by
  rw [acceptances_concat]
  cases hcheck : replayCheck d worker e with
  | none =>
    -- without a check the map stays and the clock does not go back
    obtain ⟨hmap, hclock⟩ := serve_process_of_no_check (s := s) hcheck hrestart
    have hidle : acceptance d worker (s, e) = none := by
      unfold acceptance
      rw [hcheck]
      rfl
    rw [hidle, Option.toList_none, List.append_nil]
    refine ⟨?_, ?_⟩
    · intro now hnow
      rw [hmap]
      exact h.agree now (le_trans hclock hnow)
    · rw [hmap]
      exact h.nodup
  | some check =>
    obtain ⟨nonce, pause⟩ := check
    rw [serve_process_of_check hcheck, acceptance_of_check (x := (s, e)) hcheck]
    exact h.isReplay nonce pause

theorem WindowInvariant.run {s t : Server} {steps : List (Server × ServiceEvent)}
    (hrun : ServiceRun d s steps t) (hempty : (s.processes worker).seenNonces = [])
    (hrestart : ∀ x ∈ steps, ∀ clock, x.2 ≠ .restart worker clock) :
    WindowInvariant (acceptances d worker steps) (t.processes worker) := by
  induction hrun with
  | nil => exact ⟨fun _ _ => by rw [hempty]; rfl, by rw [hempty]; exact List.nodup_nil⟩
  | snoc _ hstep ih =>
    have hbefore := ih fun x hx => hrestart x (List.mem_append_left _ hx)
    have hlast := hrestart _ (List.mem_append_right _ (List.mem_singleton_self _))
    rw [← hstep]
    exact hbefore.serve hlast

/-! ## The law of the window -/

/-- The clock a process reads when an event reaches it. -/
def clock (worker : Nat) (x : Server × ServiceEvent) : ℚ := (x.1.processes worker).monotonic

/-- A call `x` of `_is_replay`, against what the process accepted `earlier`: the answer is `False`
exactly if the nonce was not accepted inside the window; two acceptances of a nonce are more than
the window apart; a rejected call leaves every time that stays in the map as it was; and the map
holds exactly the nonces accepted inside the window, this call included, each once. -/
structure NonceWindowLaw (d : Deployment) (worker : Nat) (earlier : List (Server × ServiceEvent))
    (x : Server × ServiceEvent) (nonce : String) (pause : ℚ≥0) : Prop where
  answer : (isReplay nonce pause (x.1.processes worker)).1 = false ↔
    ¬ ∃ ts, (nonce, ts) ∈ acceptances d worker earlier ∧
      clock worker x - callbackNonceTtlSeconds ≤ ts
  apart : ∀ ts ts', (nonce, ts) ∈ acceptances d worker earlier →
    acceptance d worker x = some (nonce, ts') → ts + callbackNonceTtlSeconds < ts'
  rejected : (isReplay nonce pause (x.1.processes worker)).1 = true →
    ((serve d x.1 x.2).2.processes worker).seenNonces =
      (x.1.processes worker).seenNonces.filter (inWindow (clock worker x))
  kept : ((serve d x.1 x.2).2.processes worker).seenNonces =
    (acceptances d worker (earlier ++ [x])).filter (inWindow (clock worker x))
  keys : (((serve d x.1 x.2).2.processes worker).seenNonces.map Prod.fst).Nodup

theorem isReplay_fresh_iff (h : WindowInvariant accepted p) (nonce : String) (pause : ℚ≥0) :
    (isReplay nonce pause p).1 = false ↔
      ¬ ∃ ts, (nonce, ts) ∈ accepted ∧ p.monotonic - callbackNonceTtlSeconds ≤ ts := by
  have hmem : nonce ∈ (accepted.filter (inWindow p.monotonic)).map Prod.fst ↔
      ∃ ts, (nonce, ts) ∈ accepted ∧ p.monotonic - callbackNonceTtlSeconds ≤ ts := by
    rw [List.mem_map]
    constructor
    · rintro ⟨⟨n, ts⟩, hin, rfl⟩
      obtain ⟨haccepted, hwindow⟩ := List.mem_filter.mp hin
      exact ⟨ts, haccepted, of_decide_eq_true hwindow⟩
    · rintro ⟨ts, haccepted, hwindow⟩
      exact ⟨(nonce, ts), List.mem_filter.mpr ⟨haccepted, decide_eq_true hwindow⟩, rfl⟩
  rw [isReplay_eq, h.agree p.monotonic (le_refl _), ← hmem]
  dsimp only
  by_cases hseen : nonce ∈ (accepted.filter (inWindow p.monotonic)).map Prod.fst
  · rw [if_pos hseen]
    exact iff_of_false Bool.noConfusion (not_not.mpr hseen)
  · rw [if_neg hseen]
    exact iff_of_true rfl hseen

/-- **The nonce window.** The law holds of every call a process makes in a run of the service that
begins with its map empty and does not restart it. -/
theorem nonce_window_of_run {d : Deployment} {worker : Nat} {s t : Server}
    {earlier later : List (Server × ServiceEvent)} {x : Server × ServiceEvent} {nonce : String}
    {pause : ℚ≥0} (hrun : ServiceRun d s (earlier ++ x :: later) t)
    (hempty : (s.processes worker).seenNonces = [])
    (hrestart : ∀ y ∈ earlier, ∀ clock, y.2 ≠ .restart worker clock)
    (hcheck : replayCheck d worker x.2 = some (nonce, pause)) :
    NonceWindowLaw d worker earlier x nonce pause := by
  obtain ⟨-, hbefore, -, -⟩ := Runs.Run.split hrun
  have hinv : WindowInvariant (acceptances d worker earlier) (x.1.processes worker) :=
    WindowInvariant.run hbefore hempty hrestart
  have hprocess := serve_process_of_check (s := x.1) hcheck
  have hfresh := isReplay_fresh_iff hinv nonce pause
  obtain ⟨hkept, hclock⟩ := isReplay_seenNonces hinv nonce pause
  refine ⟨hfresh, ?_, ?_, ?_, ?_⟩
  · intro ts ts' haccepted hagain
    -- the second acceptance is stamped after the reading its check was made with
    unfold acceptance at hagain
    rw [hcheck] at hagain
    dsimp only [Option.bind_some] at hagain
    cases hanswer : (isReplay nonce pause (x.1.processes worker)).1 with
    | true =>
      rw [hanswer, if_pos rfl] at hagain
      cases hagain
    | false =>
      rw [hanswer] at hagain
      obtain ⟨-, rfl⟩ := Prod.mk.inj (Option.some.inj hagain)
      have hlate : ts < (x.1.processes worker).monotonic - callbackNonceTtlSeconds := by
        by_contra hin
        exact hfresh.mp hanswer ⟨ts, haccepted, not_lt.mp hin⟩
      linarith
  · intro hreplay
    rw [hprocess, hkept, hreplay, if_pos rfl, List.append_nil]
    exact (hinv.agree _ (le_refl _)).symm
  · rw [hprocess, acceptances_concat, acceptance_of_check hcheck]
    exact hkept
  · rw [hprocess]
    exact (hinv.isReplay nonce pause).nodup

/-! ## The boundary of the window -/

/-- A callback with a nonce, for a payment that is not stored. -/
def noncedCallback : CallbackRequest where
  payload := { transactionId := "pay_unknown", status := "confirmed", nonce := some "nonce-1" }

/-- One nonce at the times 0, 300 and 301; the second call is still rejected. -/
def noncedEvents : List ServiceEvent :=
  [.providerCallback noncedCallback 0 0 1, .wait 0 300, .providerCallback noncedCallback 0 0 2,
    .wait 0 1, .providerCallback noncedCallback 0 0 3]

def openStep (s : Server) (e : ServiceEvent) : Server := (serve openDeployment s e).2

theorem nonce_window_of_boundary_run :
    let earlier := Runs.replay openStep ⟨{}, fun _ => {}⟩ (noncedEvents.take 4)
    let before := (noncedEvents.take 4).foldl openStep ⟨{}, fun _ => {}⟩
    NonceWindowLaw openDeployment 0 earlier
      (before, .providerCallback noncedCallback 0 0 3) "nonce-1" 0 ∧
    acceptances openDeployment 0
      (Runs.replay openStep ⟨{}, fun _ => {}⟩ noncedEvents) = [("nonce-1", 0), ("nonce-1", 301)] := by
  have hrun : ServiceRun openDeployment ⟨{}, fun _ => {}⟩
      (Runs.replay openStep ⟨{}, fun _ => {}⟩ (noncedEvents.take 4) ++
        ((noncedEvents.take 4).foldl openStep ⟨{}, fun _ => {}⟩,
          .providerCallback noncedCallback 0 0 3) :: [])
      (noncedEvents.foldl openStep ⟨{}, fun _ => {}⟩) :=
    Runs.replay_run openStep ⟨{}, fun _ => {}⟩ noncedEvents
  refine ⟨nonce_window_of_run hrun rfl ?_ rfl, by decide +kernel⟩
  intro y hy clock
  simp only [Runs.replay, noncedEvents, List.take, List.mem_cons, List.not_mem_nil, or_false] at hy
  rcases hy with rfl | rfl | rfl | rfl <;> simp

end NocIq
