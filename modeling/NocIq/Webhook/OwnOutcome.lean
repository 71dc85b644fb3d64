import NocIq.Webhook.Crash

/-!
# NocIq — what an attempt is judged by

`_attempt_delivery` writes `response_status_code` when it has a response, and `dispatch_delivery`
classifies the column: after a timeout or a request error it reads the code of an earlier attempt.

* **`givesUp_iff`** — when the column says what the outcome says.
* **`attempts_judged_iff`** — the runs in which every attempt is judged by its own outcome.
* **`decides_of_scheduled`** — first attempts and scheduled retries are; a dispatch of a delivery
  that is already finished may not be.
-/

namespace NocIq

variable {env : WebhookEnv} {s s' : WebhookStore} {p q : WebhookProcess} {id : UUID}
  {d d' : WebhookDelivery} {w : Webhook} {attempt : Attempt}

/-! ## Outcomes -/

/-- The receiver has answered, and a retry will not help. -/
def HttpOutcome.TerminalFailure : HttpOutcome → Prop
  | .response statusCode _ =>
    classifyHttpStatus statusCode = .terminal ∧ isSuccess statusCode = false
  | _ => False

/-- A timeout or a request error. -/
def HttpOutcome.NoResponse : HttpOutcome → Prop
  | .timeout _ => True
  | .requestError _ => True
  | _ => False

/-- The status code on the row after the attempt is one the attempt has received, or not terminal.
A receiver never answers 0. -/
def HttpOutcome.Decides (outcome : HttpOutcome) (d : WebhookDelivery) : Prop :=
  match outcome with
  | .response statusCode _ => statusCode ≠ 0
  | .timeout _ => isTerminal d.responseStatusCode = false
  | .requestError _ => isTerminal d.responseStatusCode = false
  | .raised => True

instance (outcome : HttpOutcome) (d : WebhookDelivery) : Decidable (outcome.Decides d) :=
  match outcome with
  | .response statusCode _ => inferInstanceAs (Decidable (statusCode ≠ 0))
  | .timeout _ | .requestError _ =>
    inferInstanceAs (Decidable (isTerminal d.responseStatusCode = false))
  | .raised => inferInstanceAs (Decidable True)

/-- `dispatch_delivery` gives up because of the status code on the row. -/
def GivesUp (outcome : HttpOutcome) (d : WebhookDelivery) : Prop :=
  ∃ d', attemptDelivery outcome d = some (false, d') ∧ isTerminal d'.responseStatusCode = true

theorem givesUp_iff_code (outcome : HttpOutcome) (d : WebhookDelivery) :
    GivesUp outcome d ↔ outcome.fails = true ∧ isTerminal (outcome.codeAfter d) = true := by
  unfold GivesUp
  by_cases hraised : outcome = .raised
  · rw [hraised]
    refine iff_of_false ?_ fun h => Bool.false_ne_true h.1
    rintro ⟨d', hattempt, -⟩
    cases hattempt
  · obtain ⟨d', hattempt, -, hcode⟩ := attemptDelivery_eq hraised d
    rw [hattempt]
    constructor
    · rintro ⟨d'', hsome, hterminal⟩
      obtain ⟨hfails, rfl⟩ := Prod.mk.inj (Option.some.inj hsome)
      rw [Bool.not_eq_false'] at hfails
      exact ⟨hfails, hcode ▸ hterminal⟩
    · rintro ⟨hfails, hterminal⟩
      exact ⟨d', by rw [hfails]; rfl, hcode ▸ hterminal⟩

/-- **The column agrees with the outcome** exactly if the outcome decides. -/
theorem givesUp_iff (outcome : HttpOutcome) (d : WebhookDelivery) :
    (GivesUp outcome d ↔ outcome.TerminalFailure) ↔ outcome.Decides d := by
  rw [givesUp_iff_code]
  cases outcome with
  | response statusCode text =>
    show ((!isSuccess statusCode) = true ∧
        (statusCode ≠ 0 && classifyHttpStatus statusCode = .terminal) = true ↔
      classifyHttpStatus statusCode = .terminal ∧ isSuccess statusCode = false) ↔ statusCode ≠ 0
    by_cases hzero : statusCode = 0
    · subst hzero
      simp [classifyHttpStatus, isSuccess, retryableStatusCodes, terminalStatusCodes]
    · simp [hzero, and_comm]
  | timeout message =>
    show (true = true ∧ isTerminal d.responseStatusCode = true ↔ False) ↔
      isTerminal d.responseStatusCode = false
    simp
  | requestError message =>
    show (true = true ∧ isTerminal d.responseStatusCode = true ↔ False) ↔
      isTerminal d.responseStatusCode = false
    simp
  | raised => exact iff_of_true (iff_of_false (fun h => Bool.false_ne_true h.1) id) trivial

/-! ## One attempt -/

/-- The attempt on the row `d`, which it leaves as `d'`, is judged by its own outcome. -/
structure Judged (settings : WebhookSettings) (w : Webhook) (outcome : HttpOutcome)
    (d d' : WebhookDelivery) : Prop where
  givesUp : GivesUp outcome d ↔ outcome.TerminalFailure
  deadLetter : RetryLeft settings w (d.attemptCount - 1) →
    (d'.status = .deadLetter ↔ outcome.TerminalFailure)
  retrying : RetryLeft settings w (d.attemptCount - 1) → outcome.NoResponse →
    d'.status = .retrying ∧ d'.nextRetryAt.isSome

variable {outcome : HttpOutcome}

theorem HttpOutcome.NoResponse.fails (h : outcome.NoResponse) : outcome.fails = true := by
  cases outcome with
  | response _ _ => cases h
  | timeout _ => rfl
  | requestError _ => rfl
  | raised => cases h

theorem HttpOutcome.NoResponse.not_terminalFailure (h : outcome.NoResponse) :
    ¬ outcome.TerminalFailure := by
  cases outcome with
  | response _ _ => cases h
  | timeout _ => exact id
  | requestError _ => exact id
  | raised => cases h

theorem HttpOutcome.TerminalFailure.fails (h : outcome.TerminalFailure) : outcome.fails = true := by
  cases outcome with
  | response statusCode text =>
    show (!isSuccess statusCode) = true
    rw [h.2]
    rfl
  | timeout _ => cases h
  | requestError _ => cases h
  | raised => cases h

theorem judged_iff (env : WebhookEnv) (hsign : ¬ Unsignable w d) (attempt : Attempt) :
    Judged env.settings w attempt.outcome (beginDispatch attempt.started d)
        (dispatchRow env (some w) attempt d).row ↔
      attempt.outcome.Decides d := by
  have hbegun : GivesUp attempt.outcome (beginDispatch attempt.started d) ↔
      attempt.outcome.fails = true ∧ isTerminal (attempt.outcome.codeAfter d) = true :=
    givesUp_iff_code _ _
  have hdecides : (GivesUp attempt.outcome (beginDispatch attempt.started d) ↔
      attempt.outcome.TerminalFailure) ↔ attempt.outcome.Decides d :=
    givesUp_iff attempt.outcome (beginDispatch attempt.started d)
  constructor
  · intro hjudged
    exact hdecides.mp hjudged.givesUp
  · intro h
    have hgives := hdecides.mpr h
    have hterminal : attempt.outcome.TerminalFailure ↔
        attempt.outcome.fails = true ∧ isTerminal (attempt.outcome.codeAfter d) = true :=
      hgives.symm.trans hbegun
    have hspec := dispatchRow_spec env (some w) attempt d
    generalize dispatchRow env (some w) attempt d = effect at hspec ⊢
    cases hspec with
    | raised hraises =>
      -- the attempt has no outcome
      have hraised : attempt.outcome = .raised := by
        rcases hraises w rfl with hunsignable | hraised
        · exact absurd hunsignable hsign
        · exact hraised
      refine ⟨hgives, ?_, ?_⟩
      · intro _
        rw [hraised]
        refine iff_of_false ?_ id
        show (if d.attemptCount + 1 > 1 then _ else _) ≠ WebhookDeliveryStatus.deadLetter
        split <;> exact nofun
      · intro _ hnone
        rw [hraised] at hnone
        cases hnone
    | delivered hw hraises hsame hfails =>
      refine ⟨hgives, ?_, ?_⟩
      · intro _
        refine iff_of_false nofun ?_
        intro hfailure
        rw [hfailure.fails] at hfails
        cases hfails
      · intro _ hnone
        rw [hnone.fails] at hfails
        cases hfails
    | @deadLettered w' d' output hw hraises hsame hdead =>
      obtain rfl := Option.some.inj hw
      have hfailure : RetryLeft env.settings w d.attemptCount →
          attempt.outcome.TerminalFailure := by
        intro hleft
        refine hterminal.mpr ⟨hdead.1, ?_⟩
        exact hdead.2.resolve_right (not_not_intro hleft)
      refine ⟨hgives, ?_, ?_⟩
      · intro hleft
        exact iff_of_true rfl (hfailure hleft)
      · intro hleft hnone
        exact absurd (hfailure hleft) hnone.not_terminalFailure
    | scheduled hw hraises hsame hfails hcode hleft =>
      refine ⟨hgives, ?_, ?_⟩
      · intro _
        refine iff_of_false nofun ?_
        intro hfailure
        rw [(hterminal.mp hfailure).2] at hcode
        cases hcode
      · intro _ _
        exact ⟨rfl, rfl⟩

/-! ## The attempts of a run -/

def JudgedByOwnOutcome (env : WebhookEnv) (p : WebhookProcess) (e : ProcessEvent) : Prop :=
  match p.stage, e with
  | .begun deliveryId attempt, .commit =>
    ∀ d ∈ p.store.row deliveryId, ∀ w ∈ p.store.webhook d.webhookId, ¬ Unsignable w d →
      ∃ d' ∈ (p.step env .commit).store.row deliveryId,
        Judged env.settings w attempt.outcome d d'
  | _, _ => True

/-- The outcome that is committed decides what becomes of the row. -/
def WebhookStage.OutcomeDecides (s : WebhookStore) : WebhookStage → ProcessEvent → Prop
  | .begun deliveryId attempt, .commit =>
    ∀ d ∈ s.row deliveryId, ∀ w ∈ s.webhook d.webhookId, ¬ Unsignable w d →
      attempt.outcome.Decides d
  | _, _ => True

def OutcomeDecides (p : WebhookProcess) (e : ProcessEvent) : Prop :=
  p.stage.OutcomeDecides p.store e

instance decidableOutcomeDecides (s : WebhookStore) :
    (stage : WebhookStage) → (e : ProcessEvent) → Decidable (stage.OutcomeDecides s e)
  | .begun deliveryId attempt, .commit =>
    inferInstanceAs (Decidable (∀ d ∈ s.row deliveryId, ∀ w ∈ s.webhook d.webhookId,
      ¬ Unsignable w d → attempt.outcome.Decides d))
  | .idle, _ | .pending _ _ _, _ | .begun _ _, .call _ | .begun _ _, .crash =>
    inferInstanceAs (Decidable True)

instance (p : WebhookProcess) (e : ProcessEvent) : Decidable (OutcomeDecides p e) :=
  decidableOutcomeDecides p.store p.stage e

theorem row_commit_begun (env : WebhookEnv) {deliveryId : UUID}
    (hstage : p.stage = .begun deliveryId attempt)
    (hd : p.store.row deliveryId = some (beginDispatch attempt.started d))
    (hid : d.id = deliveryId) :
    (p.step env .commit).store.row deliveryId =
      some (dispatchRow env (p.store.webhook d.webhookId) attempt d).row := by
  have hrow : (p.store.put (dispatchRow env (p.store.webhook d.webhookId) attempt d).row).row
      deliveryId = some (dispatchRow env (p.store.webhook d.webhookId) attempt d).row :=
    WebhookStore.row_put_self hd ((dispatchRow_id env _ attempt d).trans hid)
  show (p.commit env).store.row deliveryId = _
  unfold WebhookProcess.commit
  rw [hstage]
  dsimp only
  rw [hd]
  dsimp only
  split
  · exact hrow
  · exact hrow

theorem judgedByOwnOutcome_iff (h : p.Consistent) (e : ProcessEvent) :
    JudgedByOwnOutcome env p e ↔ OutcomeDecides p e := by
  unfold JudgedByOwnOutcome OutcomeDecides
  cases hstage : p.stage with
  | idle => exact Iff.rfl
  | pending reason deliveryId attempt => exact Iff.rfl
  | begun deliveryId attempt =>
    cases e with
    | call op => exact Iff.rfl
    | crash => exact Iff.rfl
    | commit =>
      refine forall₂_congr fun d hd => forall₂_congr fun w hw => ?_
      refine forall_congr' fun hsign => ?_
      obtain ⟨d₀, rfl, hid⟩ := h.begun hstage hd
      have hafter := row_commit_begun env hstage hd hid
      have hwebhook : p.store.webhook d₀.webhookId = some w := hw
      rw [hafter, hwebhook]
      have hjudged := judged_iff (d := d₀) env hsign attempt
      constructor
      · rintro ⟨d', hd', hjudge⟩
        obtain rfl := Option.some.inj hd'
        exact hjudged.mp hjudge
      · intro hdecides
        exact ⟨_, rfl, hjudged.mpr hdecides⟩

theorem consistent_empty (hempty : p.store.deliveries = []) (hidle : p.stage = .idle) :
    p.Consistent := by
  refine ⟨?_, by rw [hidle]; trivial⟩
  unfold WebhookStore.WellFormed
  rw [hempty]
  exact List.nodup_nil

/-- **Attempts over a run with crashes.** In a run that starts without deliveries, every attempt is
judged by its own outcome exactly if the outcomes of all of them decide. -/
theorem attempts_judged_iff {p₀ : WebhookProcess} (hempty : p₀.store.deliveries = [])
    (hidle : p₀.stage = .idle) {steps : List (WebhookProcess × ProcessEvent)}
    (hrun : ProcessRun env p₀ steps q) :
    (∀ x ∈ steps, JudgedByOwnOutcome env x.1 x.2) ↔ ∀ x ∈ steps, OutcomeDecides x.1 x.2 := by
  have hconsistent := hrun.invariant_steps (consistent_empty hempty hidle) <| by
    intro p e q hp hstep
    rw [← hstep]
    exact hp.step e
  exact forall₂_congr fun x hx => judgedByOwnOutcome_iff (hconsistent x hx) x.2

/-! ## Codes of earlier attempts -/

def WebhookDelivery.CodeAtRest (d : WebhookDelivery) : Prop :=
  isTerminal d.responseStatusCode = true → d.nextRetryAt = none

theorem codeAtRest_settleFailure (settings : WebhookSettings) (w : Webhook) (now : Time)
    (d : WebhookDelivery) : (settleFailure settings w now d).CodeAtRest := by
  unfold settleFailure
  split
  · exact fun _ => rfl
  · rename_i hnot
    split
    · exact fun hterminal => absurd hterminal hnot
    · exact fun _ => rfl

theorem codeAtRest_unscheduled (h : d.nextRetryAt = none) : d.CodeAtRest := fun _ => h

theorem codeAtRest_settleDispatch (env : WebhookEnv) (webhook : Option Webhook) (attempt : Attempt)
    (h : d.CodeAtRest) : (settleDispatch env webhook attempt d).row.CodeAtRest := by
  unfold settleDispatch
  cases webhook with
  | none => exact h
  | some w =>
    dsimp only
    split
    · exact h
    · split
      · exact h
      · rename_i hfinish
        obtain ⟨result, -, rfl⟩ := Option.map_eq_some_iff.mp hfinish
        dsimp only
        split
        · exact codeAtRest_unscheduled rfl
        · exact codeAtRest_settleFailure env.settings w attempt.finished result.2

def WebhookStore.Rows (P : WebhookDelivery → Prop) (s : WebhookStore) : Prop :=
  ∀ id d, s.row id = some d → P d

theorem rows_put {P : WebhookDelivery → Prop} (h : s.Rows P) (hd : P d) : (s.put d).Rows P := by
  intro id r hr
  rw [WebhookStore.row_put] at hr
  split at hr
  · obtain ⟨_, -, rfl⟩ := Option.map_eq_some_iff.mp hr
    exact hd
  · exact h id r hr

theorem rows_insert {P : WebhookDelivery → Prop} (h : s.Rows P) (hd : P d) :
    WebhookStore.Rows P { s with deliveries := s.deliveries ++ [d] } := by
  intro id r hr
  have hfound : (s.deliveries.find? fun r => decide (r.id = id)).or
      ([d].find? fun r => decide (r.id = id)) = some r := by
    rw [← List.find?_append]
    exact hr
  rcases Option.or_eq_some_iff.mp hfound with hold | ⟨-, hnew⟩
  · exact h id r hold
  · rw [List.mem_singleton.mp (List.mem_of_find?_eq_some hnew)]
    exact hd

theorem codeAtRest_start {item : WebhookWork} {stage : WebhookStage}
    (h : s.Rows WebhookDelivery.CodeAtRest) (hstart : item.start env s = some (s', stage)) :
    s'.Rows WebhookDelivery.CodeAtRest := by
  cases item with
  | deliver c w =>
    dsimp only [WebhookWork.start] at hstart
    split at hstart
    · cases hstart
    · cases hstart
      exact h
    · split at hstart
      · cases hstart
        exact h
      · split at hstart
        · cases hstart
        · split at hstart
          · cases hstart
          · cases hstart
            exact rows_insert h (codeAtRest_unscheduled rfl)
  | dispatch deliveryId attempt =>
    dsimp only [WebhookWork.start] at hstart
    cases hrow : s.row deliveryId with
    | none =>
      rw [hrow] at hstart
      cases hstart
      exact h
    | some d =>
      rw [hrow] at hstart
      cases hstart
      have hd : (beginDispatch attempt.started d).CodeAtRest := h _ d hrow
      exact rows_put h hd
  | replay deliveryId now attempt =>
    dsimp only [WebhookWork.start] at hstart
    cases hrow : s.row deliveryId with
    | none =>
      rw [hrow] at hstart
      cases hstart
      exact h
    | some d =>
      rw [hrow] at hstart
      dsimp only at hstart
      split at hstart
      · cases hstart
        exact h
      · cases hstart
        exact rows_put h (codeAtRest_unscheduled rfl)
  | recover deliveryId now attempt =>
    dsimp only [WebhookWork.start] at hstart
    cases hrow : s.row deliveryId with
    | none =>
      rw [hrow] at hstart
      cases hstart
      exact h
    | some d =>
      rw [hrow] at hstart
      dsimp only at hstart
      split at hstart
      · cases hstart
        exact h
      · cases hstart
        exact rows_put h (codeAtRest_unscheduled rfl)
      · cases hstart
        -- the code stays on the row, the schedule does not
        exact rows_put h (codeAtRest_unscheduled rfl)

theorem codeAtRest_commit (h : p.store.Rows WebhookDelivery.CodeAtRest) :
    (p.commit env).store.Rows WebhookDelivery.CodeAtRest := by
  unfold WebhookProcess.commit
  cases p.stage with
  | idle =>
    cases p.todo with
    | nil => exact h
    | cons item todo =>
      dsimp only
      cases hstart : item.start env p.store with
      | none => exact h
      | some result => exact codeAtRest_start h hstart
  | pending reason deliveryId attempt =>
    dsimp only
    cases hrow : p.store.row deliveryId with
    | none => exact h
    | some d =>
      have hd := h deliveryId d hrow
      cases reason with
      | some reason => exact rows_put h hd
      | none => exact rows_put h hd
  | begun deliveryId attempt =>
    dsimp only
    cases hrow : p.store.row deliveryId with
    | none => exact h
    | some d =>
      have hsettled := codeAtRest_settleDispatch env (p.store.webhook d.webhookId) attempt
        (h deliveryId d hrow)
      dsimp only
      split
      · exact rows_put h hsettled
      · exact rows_put h hsettled

/-- **Scheduled retries.** In every run, an attempt of a delivery with a `next_retry_at` is judged
by its own outcome: no earlier one has left a terminal code. -/
theorem decides_of_scheduled {p₀ : WebhookProcess} (hempty : p₀.store.deliveries = [])
    {steps : List (WebhookProcess × ProcessEvent)} (hrun : ProcessRun env p₀ steps q) :
    ∀ u ∈ Runs.visited steps q, ∀ id d, u.store.row id = some d → d.nextRetryAt.isSome →
      ∀ outcome : HttpOutcome, outcome.NoResponse → outcome.Decides d := by
  have hinit : p₀.store.Rows WebhookDelivery.CodeAtRest := by
    intro id d hd
    have hmem := (WebhookStore.mem_of_row hd).1
    rw [hempty] at hmem
    cases hmem
  have hrows := hrun.invariant_visited (I := fun u => u.store.Rows WebhookDelivery.CodeAtRest)
    hinit <| by
      rintro p e _ hp rfl
      cases e with
      | call op =>
        unfold WebhookProcess.step
        dsimp only
        split
        · exact hp
        · exact hp
      | commit => exact codeAtRest_commit hp
      | crash => exact hp
  intro u hu id d hd hscheduled outcome hnone
  have hcode : isTerminal d.responseStatusCode = false := by
    by_contra hterminal
    rw [hrows u hu id d hd (by simpa using hterminal)] at hscheduled
    cases hscheduled
  cases outcome with
  | response _ _ => cases hnone
  | timeout _ => exact hcode
  | requestError _ => exact hcode
  | raised => cases hnone

/-! ### A timeout after a refusal -/

def timedOut : Attempt where
  started := 20
  outcome := .timeout ⟨"read timed out", by decide⟩
  finished := 30

/-- The receiver refuses a violation with a 404, and an operator retries the delivery: the timeout
of the retry is taken for the 404. -/
theorem timeout_judged_by_earlier_code :
    ¬ ∀ (env : WebhookEnv) (p₀ : WebhookProcess) (steps : List (WebhookProcess × ProcessEvent))
        (q : WebhookProcess),
      p₀.store.deliveries = [] → p₀.stage = .idle → ProcessRun env p₀ steps q →
        ∀ x ∈ steps, JudgedByOwnOutcome env x.1 x.2 := by
  intro hall
  let events : List ProcessEvent := [.call (violation (answered 404)), .commit, .commit, .commit,
    .call (.retry 1 7 timedOut), .commit, .commit]
  let p₀ : WebhookProcess := { store := oneWebhook }
  have hrun := Runs.replay_run (WebhookProcess.step unsignedEnv) p₀ events
  have hjudged := hall unsignedEnv p₀ _ _ rfl rfl hrun
  have hconsistent := hrun.invariant_steps (consistent_empty (p := p₀) rfl rfl) <| by
    rintro p e _ hp rfl
    exact hp.step e
  have hnot : ∃ x ∈ Runs.replay (WebhookProcess.step unsignedEnv) p₀ events,
      ¬ OutcomeDecides x.1 x.2 := by decide +kernel
  obtain ⟨x, hx, hundecided⟩ := hnot
  exact hundecided ((judgedByOwnOutcome_iff (hconsistent x hx) x.2).mp (hjudged x hx))

/-- The retry that is scheduled after a 503. -/
theorem decides_after_503 :
    let events : List ProcessEvent := [.call (violation (answered 503)), .commit, .commit, .commit]
    let t := events.foldl (WebhookProcess.step unsignedEnv) { store := oneWebhook }
    ∃ d, t.store.row 7 = some d ∧ timedOut.outcome.Decides d := by
  intro events t
  have hrun := Runs.replay_run (WebhookProcess.step unsignedEnv) { store := oneWebhook } events
  have hscheduled : ((t.store.row 7).bind (·.nextRetryAt)).isSome = true := by decide +kernel
  cases hd : t.store.row 7 with
  | none =>
    rw [hd] at hscheduled
    cases hscheduled
  | some d =>
    rw [hd] at hscheduled
    exact ⟨d, rfl, decides_of_scheduled rfl hrun t (List.mem_append_right _ List.mem_cons_self) 7 d
      hd hscheduled _ trivial⟩

/-- A violation that is answered with a 503, times out in its retry, and is refused. -/
theorem judged_timedOutRetry :
    let events : List ProcessEvent := [.call (violation (answered 503)), .commit, .commit, .commit,
      .call (.retryPending 1000000000 fun _ => timedOut), .commit, .commit,
      .call (.retryPending 2000000000 fun _ => answered 404), .commit, .commit]
    let steps := Runs.replay (WebhookProcess.step unsignedEnv) { store := oneWebhook } events
    ∀ x ∈ steps, JudgedByOwnOutcome unsignedEnv x.1 x.2 := by
  intro events steps
  have hrun := Runs.replay_run (WebhookProcess.step unsignedEnv) { store := oneWebhook } events
  have hdecides : ∀ x ∈ steps, OutcomeDecides x.1 x.2 := by decide +kernel
  exact (attempts_judged_iff rfl rfl hrun).mpr hdecides

end NocIq
