import NocIq.Webhook.Processes
import NocIq.Webhook.Ssrf

/-!
# NocIq — validated requests

Calls in several processes, commit by commit, while URLs are updated and names change what they
resolve to. Only `trigger_sla_violation_webhooks` validates a URL, before it creates the delivery;
the request goes to the URL that the webhook has then, and on to where the receiver redirects it.

`log` records the URLs that have been accepted and the URLs that the payload has been sent to, each
with its dispatch, which is a turn of a call. It is read by no step.

* **`Recorded.step`** — what the log says of the dispatch in hand.
* **`onlyValidated_iff`** — the runs that send no payload to a URL they have not validated.
-/

namespace NocIq

variable {ip : Type}

/-! ## Watched processes -/

inductive UrlRecord where
  | accepted (call turn : Nat) (url : String)
  | sent (call turn : Nat) (url : String)
  deriving DecidableEq, Repr

/-- The processes; the number of webhooks or deliveries a call has turned to; the URL accepted in
its current turn, if there is one; and the log. -/
structure WatchedProcesses where
  procs : WebhookProcesses
  turn : Nat → Nat := fun _ => 0
  validated : Nat → Option String := fun _ => none
  log : List UrlRecord := []

/-- A commit comes with the answers of the name resolution, with the URL that the session has for
the webhook that is next, and with the redirects of the receiver. -/
inductive WatchedEvent where
  | call (op : WebhookOperation)
  | commit (k : Nat) (dns : String → Resolution) (url : String) (redirects : List Redirect)
  | crash (k : Nat)
  | updateUrl (webhookId : UUID) (url : String)

def WebhookProcess.requests (env : WebhookEnv) (p : WebhookProcess) : List Post :=
  match p.stage with
  | .begun deliveryId attempt =>
    match p.store.row deliveryId with
    | none => []
    | some d => (settleDispatch env (p.store.webhook d.webhookId) attempt d).output
  | _ => []

def WebhookStore.updateUrl (webhookId : UUID) (url : String) (s : WebhookStore) : WebhookStore :=
  { s with webhooks := s.webhooks.map fun w => if w.id = webhookId then { w with url } else w }

/-- The work that the next commit begins. -/
def ServedCall.next (c : ServedCall) : Option WebhookWork :=
  match c.stage with
  | .idle => c.todo.head?
  | _ => none

def WebhookWork.accepts (settings : SsrfSettings) (lib : UrlLibrary ip)
    (dns : String → Resolution) (url : String) : WebhookWork → Option String
  | .deliver _ _ => if validateWebhookUrl settings lib dns url = .accepted then some url else none
  | _ => none

def WatchedProcesses.step (env : WebhookEnv) (settings : SsrfSettings) (lib : UrlLibrary ip)
    (t : WatchedProcesses) : WatchedEvent → WatchedProcesses
  | .call op => { t with procs := t.procs.step env (.call op) }
  | .crash k => { t with procs := t.procs.step env (.crash k) }
  | .updateUrl webhookId url =>
    { t with procs := { t.procs with store := t.procs.store.updateUrl webhookId url } }
  | .commit k dns url redirects =>
    match t.procs.calls[k]? with
    | none => t
    | some c =>
      let procs := t.procs.step env (.commit k)
      match c.next with
      | some item =>
        let accepted := item.accepts settings lib dns url
        { procs
          turn := Function.update t.turn k (t.turn k + 1)
          validated := Function.update t.validated k accepted
          log := t.log ++ accepted.toList.map (.accepted k (t.turn k + 1)) }
      | none =>
        { t with
          procs
          log := t.log ++ ((t.procs.process c).requests env).flatMap fun p =>
            (payloadUrls settings p.url redirects).map (.sent k (t.turn k)) }

/-- The session has the URL of the query, or has read it again; and the call takes the validation
for what it is. -/
def WebhookWork.Validates (settings : SsrfSettings) (lib : UrlLibrary ip) (s : WebhookStore)
    (dns : String → Resolution) (url : String) : WebhookWork → Prop
  | .deliver call w =>
    (url = w.url ∨ url ∈ (s.webhook w.id).map Webhook.url) ∧
      (call.fanOut w.id).url = (validateWebhookUrl settings lib dns url).verdict
  | _ => True

instance (settings : SsrfSettings) (lib : UrlLibrary ip) (s : WebhookStore)
    (dns : String → Resolution) (url : String) (item : WebhookWork) :
    Decidable (item.Validates settings lib s dns url) :=
  match item with
  | .deliver _ _ => inferInstanceAs (Decidable (_ ∧ _))
  | .dispatch _ _ => .isTrue trivial
  | .replay _ _ _ => .isTrue trivial
  | .recover _ _ _ => .isTrue trivial

def WatchedEvent.Admissible (settings : SsrfSettings) (lib : UrlLibrary ip)
    (t : WatchedProcesses) : WatchedEvent → Prop
  | .commit k dns url _ =>
    ∀ c ∈ t.procs.calls[k]?, ∀ item ∈ c.next,
      item.Validates settings lib t.procs.store dns url
  | _ => True

instance (settings : SsrfSettings) (lib : UrlLibrary ip) (t : WatchedProcesses)
    (e : WatchedEvent) : Decidable (e.Admissible settings lib t) :=
  match e with
  | .commit k dns url _ =>
    inferInstanceAs (Decidable (∀ c ∈ t.procs.calls[k]?, ∀ item ∈ c.next,
      item.Validates settings lib t.procs.store dns url))
  | .call _ => .isTrue trivial
  | .crash _ => .isTrue trivial
  | .updateUrl _ _ => .isTrue trivial

abbrev WatchedRun (env : WebhookEnv) (settings : SsrfSettings) (lib : UrlLibrary ip) :=
  Runs.Run fun (t : WatchedProcesses) e t' =>
    t.step env settings lib e = t' ∧ e.Admissible settings lib t

/-- Every URL that the payload has been sent to has been accepted in the same dispatch. -/
def OnlyValidated (t : WatchedProcesses) : Prop :=
  ∀ k n url, .sent k n url ∈ t.log → .accepted k n url ∈ t.log

/-- A request is of a turn that has validated a URL; this still is the URL of the webhook, and the
payload is redirected to no other one. -/
def SendsToValidated (env : WebhookEnv) (settings : SsrfSettings) (t : WatchedProcesses) :
    WatchedEvent → Prop
  | .commit k _ _ redirects =>
    ∀ c ∈ t.procs.calls[k]?, ∀ p ∈ (t.procs.process c).requests env,
      ∃ url ∈ t.validated k, p.url = url ∧
        ∀ target ∈ payloadTargets settings.maxRedirects redirects, target = url
  | _ => True

instance (env : WebhookEnv) (settings : SsrfSettings) (t : WatchedProcesses) (e : WatchedEvent) :
    Decidable (SendsToValidated env settings t e) :=
  match e with
  | .commit k _ _ redirects =>
    inferInstanceAs (Decidable (∀ c ∈ t.procs.calls[k]?,
      ∀ p ∈ (t.procs.process c).requests env, ∃ url ∈ t.validated k, p.url = url ∧
        ∀ target ∈ payloadTargets settings.maxRedirects redirects, target = url))
  | .call _ => .isTrue trivial
  | .crash _ => .isTrue trivial
  | .updateUrl _ _ => .isTrue trivial

variable {env : WebhookEnv} {settings : SsrfSettings} {lib : UrlLibrary ip}
  {t t' : WatchedProcesses} {p : WebhookProcess} {k : Nat}

/-! ## The requests of a commit -/

theorem requests_of_next {c : ServedCall} {item : WebhookWork} (h : c.next = some item) :
    (t.procs.process c).requests env = [] := by
  obtain ⟨stage, todo⟩ := c
  cases stage with
  | idle => rfl
  | pending reason deliveryId attempt => cases h
  | begun deliveryId attempt => cases h

/-! ## The log -/

/-- What the log says of the dispatch in hand, and of those to come. -/
structure WatchedProcesses.Recorded (t : WatchedProcesses) : Prop where
  validated : ∀ k url, .accepted k (t.turn k) url ∈ t.log ↔ t.validated k = some url
  turns : ∀ k n url, .accepted k n url ∈ t.log → n ≤ t.turn k

theorem WatchedProcesses.Recorded.turn (h : t.Recorded) (k : Nat) (accepted : Option String)
    (procs : WebhookProcesses) :
    WatchedProcesses.Recorded
      { procs
        turn := Function.update t.turn k (t.turn k + 1)
        validated := Function.update t.validated k accepted
        log := t.log ++ accepted.toList.map (.accepted k (t.turn k + 1)) } := by
  constructor
  · intro j url
    show _ ∈ t.log ++ _ ↔ _
    rw [List.mem_append, List.mem_map]
    by_cases hj : j = k
    · subst hj
      simp only [Function.update_self]
      constructor
      · rintro (hold | ⟨url', hurl', heq⟩)
        · have hle := h.turns _ _ _ hold
          omega
        · obtain ⟨-, -, rfl⟩ := UrlRecord.accepted.inj heq
          exact Option.mem_toList.mp hurl'
      · intro hurl
        exact .inr ⟨url, Option.mem_toList.mpr hurl, rfl⟩
    · simp only [Function.update_of_ne hj]
      rw [← h.validated j url]
      refine or_iff_left ?_
      rintro ⟨url', -, heq⟩
      exact hj (UrlRecord.accepted.inj heq).1.symm
  · intro j n url hmem
    show n ≤ Function.update t.turn k (t.turn k + 1) j
    rcases List.mem_append.mp hmem with hold | hnew
    · have hle := h.turns j n url hold
      by_cases hj : j = k
      · subst hj
        rw [Function.update_self]
        omega
      · rwa [Function.update_of_ne hj]
    · obtain ⟨url', -, heq⟩ := List.mem_map.mp hnew
      obtain ⟨rfl, rfl, -⟩ := UrlRecord.accepted.inj heq
      rw [Function.update_self]

theorem WatchedProcesses.Recorded.send (h : t.Recorded) (procs : WebhookProcesses)
    {sent : List UrlRecord} (hsent : ∀ k n url, .accepted k n url ∉ sent) :
    WatchedProcesses.Recorded { t with procs, log := t.log ++ sent } := by
  have hmem : ∀ k n url, .accepted k n url ∈ t.log ++ sent ↔ .accepted k n url ∈ t.log := by
    intro k n url
    rw [List.mem_append]
    exact or_iff_left (hsent k n url)
  constructor
  · intro k url
    show _ ∈ t.log ++ sent ↔ _
    rw [hmem]
    exact h.validated k url
  · intro k n url hold
    exact h.turns k n url ((hmem k n url).mp hold)

/-- **The log is right about the dispatches in hand.** -/
theorem WatchedProcesses.Recorded.step (h : t.Recorded) (e : WatchedEvent) :
    (t.step env settings lib e).Recorded := by
  cases e with
  | call op => exact ⟨h.validated, h.turns⟩
  | crash k => exact ⟨h.validated, h.turns⟩
  | updateUrl webhookId url => exact ⟨h.validated, h.turns⟩
  | commit k dns url redirects =>
    unfold WatchedProcesses.step
    dsimp only
    cases t.procs.calls[k]? with
    | none => exact h
    | some c =>
      dsimp only
      cases c.next with
      | some item => exact h.turn k _ _
      | none =>
        refine h.send _ ?_
        intro j n url' hmem
        obtain ⟨p, -, hp⟩ := List.mem_flatMap.mp hmem
        obtain ⟨target, -, heq⟩ := List.mem_map.mp hp
        cases heq

/-! ## Runs -/

/-- **The steps that send no payload to a URL that has not been validated.** -/
theorem onlyValidated_step_iff (h : t.Recorded) (hsafe : OnlyValidated t) (e : WatchedEvent) :
    OnlyValidated (t.step env settings lib e) ↔ SendsToValidated env settings t e := by
  cases e with
  | call op => exact iff_of_true hsafe trivial
  | crash k => exact iff_of_true hsafe trivial
  | updateUrl webhookId url => exact iff_of_true hsafe trivial
  | commit k dns url redirects =>
    unfold WatchedProcesses.step SendsToValidated
    dsimp only
    cases hcall : t.procs.calls[k]? with
    | none => exact iff_of_true hsafe nofun
    | some c =>
      dsimp only
      cases hnext : c.next with
      | some item =>
        -- the first commit of an item validates, and sends nothing yet
        refine iff_of_true ?_ ?_
        · intro j n url' hmem
          refine List.mem_append_left _ (hsafe j n url' ?_)
          rcases List.mem_append.mp hmem with hold | hnew
          · exact hold
          · obtain ⟨accepted, -, heq⟩ := List.mem_map.mp hnew
            cases heq
        · intro c' hc' p hp
          obtain rfl := Option.some.inj hc'
          rw [requests_of_next hnext] at hp
          cases hp
      | none =>
        -- the other commit sends: to the URL of the row, and where redirects lead
        have hnew : ∀ j n url', .sent j n url' ∈ ((t.procs.process c).requests env).flatMap
            (fun p => (payloadUrls settings p.url redirects).map (UrlRecord.sent k (t.turn k))) ↔
              (k = j ∧ t.turn k = n) ∧ ∃ p ∈ (t.procs.process c).requests env,
                url' ∈ payloadUrls settings p.url redirects := by
          intro j n url'
          simp only [List.mem_flatMap, List.mem_map, UrlRecord.sent.injEq]
          constructor
          · rintro ⟨p, hp, target, htarget, hk, hn, rfl⟩
            exact ⟨⟨hk, hn⟩, p, hp, htarget⟩
          · rintro ⟨⟨hk, hn⟩, p, hp, hurl⟩
            exact ⟨p, hp, url', hurl, hk, hn, rfl⟩
        have haccepted : ∀ j n url', .accepted j n url' ∉
            ((t.procs.process c).requests env).flatMap fun p =>
              (payloadUrls settings p.url redirects).map (UrlRecord.sent k (t.turn k)) := by
          intro j n url' hmem
          simp at hmem
        constructor
        · intro hall c' hc' p hp
          obtain rfl := Option.some.inj hc'
          have hvalidated : ∀ url' ∈ payloadUrls settings p.url redirects,
              t.validated k = some url' := by
            intro url' hurl
            have hmem := hall k (t.turn k) url'
              (List.mem_append_right _ ((hnew _ _ _).mpr ⟨⟨rfl, rfl⟩, p, hp, hurl⟩))
            rcases List.mem_append.mp hmem with hold | hsent
            · exact (h.validated k url').mp hold
            · exact absurd hsent (haccepted _ _ _)
          have hurl := hvalidated p.url List.mem_cons_self
          refine ⟨p.url, hurl, rfl, ?_⟩
          intro target htarget
          have hsame := hvalidated target (List.mem_cons_of_mem _ htarget)
          exact Option.some.inj (hsame.symm.trans hurl)
        · intro hsends j n url' hmem
          refine List.mem_append_left _ ?_
          rcases List.mem_append.mp hmem with hold | hsent
          · exact hsafe j n url' hold
          · obtain ⟨⟨rfl, rfl⟩, p, hp, hurl⟩ := (hnew _ _ _).mp hsent
            obtain ⟨url, hvalidated, hfirst, htargets⟩ := hsends c rfl p hp
            have heq : url' = url := by
              rcases List.mem_cons.mp hurl with hself | htarget
              · rw [hself, hfirst]
              · exact htargets url' htarget
            rw [heq]
            exact (h.validated k url).mpr hvalidated

/-- **The payload over a run** goes to validated URLs only, exactly if every request is of a turn
that has validated its URL, and is redirected nowhere else with the payload. -/
theorem onlyValidated_iff {s : WebhookStore} {steps : List (WatchedProcesses × WatchedEvent)}
    (hrun : WatchedRun env settings lib { procs := { store := s } } steps t) :
    (∀ u ∈ Runs.visited steps t, OnlyValidated u) ↔
      ∀ x ∈ steps, SendsToValidated env settings x.1 x.2 := by
  have hrecorded : WatchedProcesses.Recorded { procs := { store := s } } :=
    ⟨fun _ _ => iff_of_false List.not_mem_nil nofun, fun _ _ _ h => absurd h List.not_mem_nil⟩
  have hsafe : OnlyValidated { procs := { store := s } } :=
    fun _ _ _ h => absurd h List.not_mem_nil
  rw [Runs.forall_mem_visited]
  refine hrun.forall_iff hrecorded hsafe ?_ ?_
  · rintro u e u' hu ⟨rfl, -⟩
    exact hu.step e
  · rintro u e u' hu hP ⟨rfl, -⟩
    exact onlyValidated_step_iff hu hP e

/-! ### A name that resolves elsewhere later -/

def receiverUrl : String := "https://receiver.example/hook"

def receiverLibrary : UrlLibrary String where
  urlparse url := if url = receiverUrl then some (some "receiver.example") else none
  lower name := name
  ipAddress ip := if ip = "93.184.216.34" then some ip else none
  inNetwork _ _ := some false
  isLoopback _ := false
  isLinkLocal _ := false
  isPrivate _ := false

def waitingStore : WebhookStore :=
  { oneWebhook with deliveries := [storedDelivery 7 5 .retrying] }

/-- Nobody validates the URL of a retry: its name may resolve to any address by now. -/
theorem retry_sends_unvalidated :
    ¬ ∀ (env : WebhookEnv) (settings : SsrfSettings) (lib : UrlLibrary String) (s : WebhookStore)
        (steps : List (WatchedProcesses × WatchedEvent)) (t : WatchedProcesses),
      WatchedRun env settings lib { procs := { store := s } } steps t →
        ∀ u ∈ Runs.visited steps t, OnlyValidated u := by
  intro hall
  let internal : String → Resolution := fun _ => .addresses ["169.254.169.254"]
  let events : List WatchedEvent :=
    [.call (.retry 1 7 (answered 200)), .commit 0 internal receiverUrl [],
      .commit 0 internal receiverUrl []]
  let start : WatchedProcesses := { procs := { store := waitingStore } }
  have hrun := (Runs.replay_run (WatchedProcesses.step unsignedEnv {} receiverLibrary) start
    events).restrict (A := fun t e => e.Admissible {} receiverLibrary t) (by decide +kernel)
  have hlast := hall _ _ _ _ _ _ hrun _ (List.mem_append_right _ (List.mem_singleton_self _))
  have haccepted := hlast 0 1 receiverUrl (by decide +kernel)
  revert haccepted
  decide +kernel

/-- A violation is delivered, and the receiver redirects it to itself. -/
theorem onlyValidated_violation :
    let resolved : String → Resolution := fun _ => .addresses ["93.184.216.34"]
    let events : List WatchedEvent :=
      [.call (violation (answered 200)), .commit 0 resolved receiverUrl [],
        .commit 0 resolved receiverUrl [], .commit 0 resolved receiverUrl [⟨308, receiverUrl⟩]]
    let step := WatchedProcesses.step unsignedEnv {} receiverLibrary
    let start : WatchedProcesses := { procs := { store := oneWebhook } }
    ∀ u ∈ Runs.visited (Runs.replay step start events) (events.foldl step start),
      OnlyValidated u := by
  intro resolved events step start
  have hrun := (Runs.replay_run step start events).restrict
    (A := fun t e => e.Admissible {} receiverLibrary t) (by decide +kernel)
  refine (onlyValidated_iff hrun).mpr ?_
  decide +kernel

end NocIq
