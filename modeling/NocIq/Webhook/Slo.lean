import NocIq.Webhook.Metrics

/-!
# NocIq — the SLO of the delivery

`get_slo_metrics` reports on the observations of a sliding window. Each completed attempt is one
observation, and the eviction takes none away that a later report would count; but the branch of
`dispatch_delivery` for terminal failures records a success.

* **`sloWindow_eq`** — the window holds the attempts completed within it.
* **`sum_breakdown`** — the breakdowns count each observation once.
* **`sloAccounting_iff`** — hence the runs whose report is right.
-/

namespace NocIq

variable {env : WebhookEnv} {settings : WebhookMetricsSettings} {p p₀ : MeteredProcess}
  {steps : List (MeteredProcess × MeteredEvent)} {t : Time}

/-! ## Completed attempts -/

/-- An attempt that has been completed, with its delivery as it was before. -/
structure CompletedAttempt where
  attempt : Attempt
  delivery : WebhookDelivery
  webhook : Webhook

def completedAttempt (x : MeteredProcess × MeteredEvent) : Option CompletedAttempt :=
  match x.2 with
  | .create _ => none
  | .dispatch id attempt =>
    match x.1.store.row id with
    | none => none
    | some d =>
      match x.1.store.webhook d.webhookId with
      | none => none
      | some w => if Raises (some w) attempt d then none else some ⟨attempt, d, w⟩

/-- The attempts of a run that are completed within the window of a report at `t`. -/
def completedWithin (settings : WebhookMetricsSettings) (t : Time)
    (steps : List (MeteredProcess × MeteredEvent)) : List CompletedAttempt :=
  (steps.filterMap completedAttempt).filter fun a =>
    decide (a.attempt.finished ≥ sloCutoff settings t)

def HttpOutcome.delivers : HttpOutcome → Bool
  | .response statusCode _ => isSuccess statusCode
  | _ => false

/-- What `dispatch_delivery` records of the attempt. -/
def CompletedAttempt.observation (a : CompletedAttempt) : SloObservation where
  timestamp := a.attempt.finished
  success := decide (¬ FailsForNow a.attempt a.delivery)
  latencyMs := ((a.attempt.finished - a.attempt.started : Int) : ℚ) / 1000
  event := a.delivery.event.value
  endpoint := a.webhook.url

theorem completedAttempt_of_completes {id : UUID} {attempt : Attempt} {d : WebhookDelivery}
    {w : Webhook} (h : Completes p.store id attempt d w) :
    completedAttempt (p, .dispatch id attempt) = some ⟨attempt, d, w⟩ := by
  unfold completedAttempt
  simp only [h.row, h.webhook, if_neg h.answered]

variable {a : CompletedAttempt}

theorem completes_of_completedAttempt {id : UUID} {attempt : Attempt}
    (h : completedAttempt (p, .dispatch id attempt) = some a) :
    Completes p.store id attempt a.delivery a.webhook ∧ a.attempt = attempt := by
  unfold completedAttempt at h
  dsimp only at h
  split at h
  · cases h
  · rename_i d hrow
    split at h
    · cases h
    · rename_i w hwebhook
      split at h
      · cases h
      · rename_i hanswered
        obtain rfl := Option.some.inj h
        exact ⟨⟨hrow, hwebhook, hanswered⟩, rfl⟩

theorem completedAttempt_answered {x : MeteredProcess × MeteredEvent}
    (h : completedAttempt x = some a) : a.attempt.outcome ≠ .raised := by
  obtain ⟨p, e⟩ := x
  cases e with
  | create d => cases h
  | dispatch id attempt =>
    obtain ⟨hcompletes, hattempt⟩ := completes_of_completedAttempt h
    intro hraised
    rw [hattempt] at hraised
    exact hcompletes.answered fun _ _ => .inr hraised

/-! ## The window -/

/-- What a step leaves of the window: the eviction of the recorded attempt, if there is one. -/
theorem sloWindow_step (e : MeteredEvent) :
    (p.step env settings e).sloWindow =
      match completedAttempt (p, e) with
      | none => p.sloWindow
      | some a => recordSloObservation settings a.observation p.sloWindow := by
  cases e with
  | create d =>
    unfold MeteredProcess.step completedAttempt
    dsimp only
    split
    · rfl
    · rfl
  | dispatch id attempt =>
    show (p.dispatch env settings id attempt).sloWindow = _
    rcases dispatch_cases env settings id attempt p with
      ⟨d, w, hcompletes, hdispatch⟩ | ⟨hnone, hdispatch⟩
    · rw [hdispatch, completedAttempt_of_completes hcompletes]
      rfl
    · rw [hdispatch]
      cases ha : completedAttempt (p, .dispatch id attempt) with
      | none => rfl
      | some a => exact absurd (completes_of_completedAttempt ha).1 (hnone _ _)

theorem filter_dropWhile {α : Type} {evicted kept : α → Bool}
    (h : ∀ a, evicted a = true → kept a = false) (l : List α) :
    (l.dropWhile evicted).filter kept = l.filter kept := by
  induction l with
  | nil => rfl
  | cons a l ih =>
    rw [List.dropWhile_cons]
    split
    · rename_i hevicted
      rw [ih, List.filter_cons_of_neg (by rw [h a hevicted]; exact Bool.false_ne_true)]
    · rfl

theorem sloCutoff_le (settings : WebhookMetricsSettings) {now : Time} (h : now ≤ t) :
    sloCutoff settings now ≤ sloCutoff settings t := by
  unfold sloCutoff
  exact Int.sub_le_sub_right h _

/-- **The window of a report** holds the attempts completed within it. Induction on the run. -/
theorem sloWindow_eq (hfresh : p₀.sloWindow = []) (hrun : MeteredRun env settings p₀ steps p)
    (hclock : ∀ a ∈ steps.filterMap completedAttempt, a.attempt.finished ≤ t) :
    p.sloWindow.filter (fun o => decide (o.timestamp ≥ sloCutoff settings t)) =
      (completedWithin settings t steps).map CompletedAttempt.observation := by
  induction hrun with
  | nil =>
    rw [hfresh]
    rfl
  | @snoc steps q u e hrun hstep ih =>
    rw [List.filterMap_append] at hclock
    have hbefore := ih fun a ha => hclock a (List.mem_append_left _ ha)
    have hwithin : completedWithin settings t (steps ++ [(q, e)]) =
        completedWithin settings t steps ++ completedWithin settings t [(q, e)] := by
      unfold completedWithin
      rw [List.filterMap_append, List.filter_append]
    rw [← hstep, sloWindow_step, hwithin, List.map_append]
    unfold completedWithin at hbefore ⊢
    cases ha : completedAttempt (q, e) with
    | none => simpa [ha] using hbefore
    | some a =>
      have hnow : a.attempt.finished ≤ t := by
        refine hclock a (List.mem_append_right _ ?_)
        simp [ha]
      have hkept : ∀ x : SloObservation,
          decide (x.timestamp < sloCutoff settings a.observation.timestamp) = true →
            decide (x.timestamp ≥ sloCutoff settings t) = false := by
        intro x hx
        have hold := (of_decide_eq_true hx).trans_le (sloCutoff_le settings hnow)
        rw [decide_eq_false_iff_not]
        exact not_le_of_gt hold
      dsimp only
      unfold recordSloObservation
      rw [List.filter_append, filter_dropWhile hkept, hbefore]
      congr 1
      by_cases hlate : a.attempt.finished ≥ sloCutoff settings t
      · simp [ha, hlate, CompletedAttempt.observation]
      · simp [ha, hlate, CompletedAttempt.observation]

/-! ## The breakdowns -/

def totals (groups : List (String × SloStats)) : Nat := (groups.map fun g => g.2.total).sum

theorem totals_tally (key : String) (o : SloObservation) (groups : List (String × SloStats)) :
    totals (tally key o groups) = totals groups + 1 := by
  unfold totals
  induction groups with
  | nil => rfl
  | cons g groups ih =>
    obtain ⟨name, stats⟩ := g
    unfold tally
    split
    · simp only [List.map_cons, List.sum_cons, SloStats.add]
      omega
    · simp only [List.map_cons, List.sum_cons, ih]
      omega

/-- **A breakdown counts each observation once.** -/
theorem sum_breakdown (key : SloObservation → String) (window : List SloObservation) :
    totals (breakdown key window) = window.length := by
  have hfold : ∀ groups, totals (window.foldl (fun groups o => tally (key o) o groups) groups) =
      totals groups + window.length := by
    induction window with
    | nil => exact fun _ => rfl
    | cons o window ih =>
      intro groups
      rw [List.foldl_cons, ih, totals_tally, List.length_cons]
      omega
  unfold breakdown
  rw [hfold, show totals [] = 0 from rfl, Nat.zero_add]

/-! ## The report -/

/-- The report at `t` says of the attempts completed within its window how many there are and how
many have ended in a 2xx response, and its breakdowns add up; `no_data` says that there are none. -/
def SloAccounting (settings : WebhookMetricsSettings) (t : Time)
    (steps : List (MeteredProcess × MeteredEvent)) (p : MeteredProcess) : Prop :=
  let attempts := completedWithin settings t steps
  match getSloMetrics settings t p.sloWindow with
  | none => attempts.length = 0
  | some metrics =>
    metrics.totalDeliveries = attempts.length ∧
      metrics.successes = attempts.countP (fun a => a.attempt.outcome.delivers) ∧
      (metrics.perEvent.map fun g => g.2.total).sum = metrics.totalDeliveries ∧
      (metrics.perEndpoint.map fun g => g.2.total).sum = metrics.totalDeliveries

theorem delivers_eq {outcome : HttpOutcome} (h : outcome ≠ .raised) :
    outcome.delivers = !outcome.fails := by
  cases outcome with
  | response statusCode text => exact (Bool.not_not _).symm
  | timeout message => rfl
  | requestError message => rfl
  | raised => exact absurd rfl h

theorem countP_observed (attempts : List CompletedAttempt)
    (h : ∀ a ∈ attempts, a.attempt.outcome ≠ .raised) :
    (attempts.map CompletedAttempt.observation).countP SloObservation.success =
      attempts.countP (fun a => a.attempt.outcome.delivers) +
        attempts.countP (fun a => decide (FailsTerminally a.attempt a.delivery)) := by
  induction attempts with
  | nil => rfl
  | cons a attempts ih =>
    rw [List.forall_mem_cons] at h
    rw [List.map_cons, List.countP_cons, List.countP_cons, List.countP_cons, ih h.2,
      delivers_eq h.1]
    unfold CompletedAttempt.observation
    by_cases hfails : a.attempt.outcome.fails = true
    · by_cases hterminal : isTerminal (a.attempt.outcome.codeAfter a.delivery) = true
      · simp only [FailsForNow, FailsTerminally, hfails, hterminal, Bool.true_eq_false, and_false,
          and_true, not_false_eq_true, decide_true, if_true, Bool.not_true, Bool.false_eq_true,
          if_false]
        omega
      · simp [FailsForNow, FailsTerminally, hfails, hterminal]
    · simp only [FailsForNow, FailsTerminally, hfails, false_and, not_false_eq_true, decide_true,
        if_true, Bool.not_false, decide_false, Bool.false_eq_true, if_false]
      omega

theorem completedWithin_answered (h : a ∈ completedWithin settings t steps) :
    a.attempt.outcome ≠ .raised := by
  obtain ⟨x, -, hx⟩ := List.mem_filterMap.mp (List.mem_of_mem_filter h)
  exact completedAttempt_answered hx

/-- **The report is right** exactly if no attempt completed within its window has failed
terminally. The clock does not go back: no attempt is completed after the report. -/
theorem sloAccounting_iff (hfresh : p₀.sloWindow = []) (hrun : MeteredRun env settings p₀ steps p)
    (hclock : ∀ a ∈ steps.filterMap completedAttempt, a.attempt.finished ≤ t) :
    SloAccounting settings t steps p ↔
      ∀ a ∈ completedWithin settings t steps, ¬ FailsTerminally a.attempt a.delivery := by
  have hwindow := sloWindow_eq hfresh hrun hclock
  have hsuccesses := countP_observed (completedWithin settings t steps)
    fun a ha => completedWithin_answered ha
  have hnone : (completedWithin settings t steps).countP
      (fun a => decide (FailsTerminally a.attempt a.delivery)) = 0 ↔
        ∀ a ∈ completedWithin settings t steps, ¬ FailsTerminally a.attempt a.delivery := by
    rw [List.countP_eq_zero]
    simp only [decide_eq_true_eq]
  have htotals : ∀ (key : SloObservation → String) {α : Type} (total : α → Nat)
      (metrics : SloStats → α), (∀ stats, total (metrics stats) = stats.total) →
      ∀ window, (((breakdown key window).map fun g => (g.1, metrics g.2)).map
        fun g => total g.2).sum = window.length := by
    intro key α total metrics hmetrics window
    rw [← sum_breakdown key window, List.map_map]
    unfold totals
    congr 1
    exact List.map_congr_left fun g _ => hmetrics g.2
  unfold SloAccounting getSloMetrics
  dsimp only
  rw [hwindow, ← hnone]
  split
  · rename_i hempty
    split at hempty
    · rename_i hnil
      rw [List.map_eq_nil_iff.mp hnil]
      exact iff_of_true rfl rfl
    · cases hempty
  · rename_i metrics hmetrics
    split at hmetrics
    · cases hmetrics
    · obtain rfl := Option.some.inj hmetrics
      dsimp only
      rw [hsuccesses, htotals _ SloEventMetrics.total _ fun _ => rfl,
        htotals _ SloEndpointMetrics.total _ fun _ => rfl, List.length_map]
      constructor
      · rintro ⟨-, hcount, -, -⟩
        omega
      · intro hzero
        exact ⟨rfl, by omega, rfl, rfl⟩

/-! ### A delivery that is refused -/

/-- The receiver answers 404, and the report counts a success. -/
theorem refused_delivery_counts_as_success :
    ¬ ∀ (env : WebhookEnv) (settings : WebhookMetricsSettings) (p₀ p : MeteredProcess)
        (steps : List (MeteredProcess × MeteredEvent)) (t : Time),
      p₀.sloWindow = [] → MeteredRun env settings p₀ steps p →
        (∀ a ∈ steps.filterMap completedAttempt, a.attempt.finished ≤ t) →
          SloAccounting settings t steps p := by
  intro hall
  let events : List MeteredEvent := [.create queued, .dispatch 7 (answered 404)]
  have hrun := Runs.replay_run (MeteredProcess.step unsignedEnv {}) { store := oneWebhook } events
  have hreport := hall _ _ _ _ _ 11 rfl hrun (by decide +kernel)
  have hsuccesses : (getSloMetrics {} 11 (events.foldl (MeteredProcess.step unsignedEnv {})
      { store := oneWebhook }).sloWindow).map SloMetrics.successes = some 1 := by decide +kernel
  have hnone : (completedWithin {} 11 (Runs.replay (MeteredProcess.step unsignedEnv {})
      { store := oneWebhook } events)).countP (fun a => a.attempt.outcome.delivers) = 0 := by
    decide +kernel
  obtain ⟨metrics, hmetrics, hone⟩ := Option.map_eq_some_iff.mp hsuccesses
  unfold SloAccounting at hreport
  rw [hmetrics] at hreport
  have hcount := hreport.2.1
  rw [hnone, hone] at hcount
  cases hcount

/-- A failure for now, then a success, then a report. -/
theorem sloAccounting_retriedSuccess :
    let events : List MeteredEvent :=
      [.create queued, .dispatch 7 (answered 503), .dispatch 7 (answered 200)]
    let steps := Runs.replay (MeteredProcess.step unsignedEnv {}) { store := oneWebhook } events
    SloAccounting {} 3600000011 steps
      (events.foldl (MeteredProcess.step unsignedEnv {}) { store := oneWebhook }) := by
  intro events steps
  have hrun := Runs.replay_run (MeteredProcess.step unsignedEnv {}) { store := oneWebhook } events
  refine (sloAccounting_iff rfl hrun ?_).mpr ?_
  · decide +kernel
  · decide +kernel

end NocIq
