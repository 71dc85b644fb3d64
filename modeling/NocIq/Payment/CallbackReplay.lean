import Mathlib.Tactic.Linarith
import NocIq.Payment.StatusMachine

/-!
# NocIq — replayed provider callbacks

One signed request, delivered any number of times among arbitrary other events of the service.
The nonce is optional, the map of seen nonces belongs to a process and forgets an entry after
`CALLBACK_NONCE_TTL_SECONDS`, and the signed message carries no time; a retry brings a failed
payment back to a state in which the old message is valid again.

* **`callback_effects_of_run`** — what lies between two deliveries that both change the status.
* **`callback_effective_twice`** — that there can be two.
-/

namespace NocIq

open Relational PaymentRepository

/-- The event is a delivery of the request. -/
def Delivers (req : CallbackRequest) : ServiceEvent → Prop
  | .providerCallback r _ _ _ => r = req
  | _ => False

instance (req : CallbackRequest) (e : ServiceEvent) : Decidable (Delivers req e) := by
  unfold Delivers
  split <;> infer_instance

/-- The event is a delivery of the request to the given process. -/
def DeliversTo (req : CallbackRequest) (worker : Nat) (e : ServiceEvent) : Prop :=
  ∃ pause now, e = .providerCallback req worker pause now

variable {req : CallbackRequest}

theorem Delivers.exists {e : ServiceEvent} (h : Delivers req e) :
    ∃ worker, DeliversTo req worker e := by
  unfold Delivers at h
  split at h
  · obtain rfl := h
    exact ⟨_, _, _, rfl⟩
  · exact h.elim

def ChangesStatus (d : Deployment) (paymentId : String) (x : Server × ServiceEvent) : Prop :=
  statusOf (serve d x.1 x.2).2 paymentId ≠ statusOf x.1 paymentId

instance (d : Deployment) (paymentId : String) (x : Server × ServiceEvent) :
    Decidable (ChangesStatus d paymentId x) := by
  unfold ChangesStatus; infer_instance

/-- A delivery of the request that changes the status of its payment. -/
def TakesEffect (d : Deployment) (req : CallbackRequest) (x : Server × ServiceEvent) : Prop :=
  Delivers req x.2 ∧ ChangesStatus d req.payload.transactionId x

instance (d : Deployment) (req : CallbackRequest) (x : Server × ServiceEvent) :
    Decidable (TakesEffect d req x) := by
  unfold TakesEffect; infer_instance

/-- The deliveries of a run that change the status. -/
def effectiveDeliveries (d : Deployment) (req : CallbackRequest)
    (steps : List (Server × ServiceEvent)) : List (Server × ServiceEvent) :=
  steps.filter fun x => decide (TakesEffect d req x)

/-! ## What a delivery does to the status -/

variable {d : Deployment} {x : Server × ServiceEvent}

theorem action_of_changesStatus {paymentId : String} (hsat : Satisfies schema x.1.db)
    (hchanges : ChangesStatus d paymentId x) :
    ∃ p p' a, findPayment x.1.db paymentId = some p ∧
      findPayment (serve d x.1 x.2).2.db paymentId = some p' ∧
      requestedAction d x.1 x.2 = some (paymentId, a) ∧
      PaymentRepository.applyAction p a = some p' := by
  have hrow := (serve_effect (d := d) hsat x.2).row paymentId
  unfold ChangesStatus statusOf at hchanges
  cases hfind : findPayment x.1.db paymentId with
  | none =>
    rw [hrow, hfind] at hchanges
    exact absurd rfl hchanges
  | some p =>
    rw [hfind, Option.map_some] at hrow
    rcases rowAfter_cases (requestedAction d x.1 x.2) paymentId p with hsame | ⟨a, hreq, haction⟩
    · rw [hrow, hsame, hfind] at hchanges
      exact absurd rfl hchanges
    · exact ⟨p, _, a, rfl, hrow, hreq, haction⟩

/-- An effective delivery passed the signature and the nonce check, found the payment in another
status, and left it in the requested one. -/
theorem TakesEffect.spec (hsat : Satisfies schema x.1.db) (h : TakesEffect d req x) :
    (∀ worker pause now, x.2 = .providerCallback req worker pause now →
      callbackPasses d x.1 req worker pause = true) ∧
    statusOf x.1 req.payload.transactionId ≠ some req.payload.status ∧
    statusOf (serve d x.1 x.2).2 req.payload.transactionId = some req.payload.status := by
  obtain ⟨hdelivers, hchanges⟩ := h
  obtain ⟨worker, pause, now, he⟩ := hdelivers.exists
  obtain ⟨p, p', a, hfind, hfind', hreq, haction⟩ := action_of_changesStatus hsat hchanges
  have hreq' := hreq
  rw [he] at hreq'
  simp only [requestedAction] at hreq'
  -- a callback that fails its checks asks for nothing
  split at hreq'
  · rename_i hpasses
    obtain ⟨-, rfl⟩ := Prod.mk.inj (Option.some.inj hreq')
    simp only [PaymentRepository.applyAction] at haction
    split at haction
    · rename_i hallowed
      obtain rfl := Option.some.inj haction
      refine ⟨?_, ?_, ?_⟩
      · intro worker' pause' now' he'
        rw [he] at he'
        obtain ⟨-, rfl, rfl, -⟩ := ServiceEvent.providerCallback.inj he'
        exact hpasses
      · rw [statusOf, hfind, Option.map_some]
        exact fun hsame => hallowed.ne.1 (Option.some.inj hsame).symm
      · rw [statusOf, hfind', Option.map_some]
    · cases haction
  · cases hreq'

theorem delivery_idempotent (hsat : Satisfies schema x.1.db) (hdelivers : Delivers req x.2)
    (hstatus : statusOf x.1 req.payload.transactionId = some req.payload.status) :
    ¬ ChangesStatus d req.payload.transactionId x := by
  intro hchanges
  exact (TakesEffect.spec hsat ⟨hdelivers, hchanges⟩).2.1 hstatus

/-! ## What a process remembers -/

/-- The process still holds the nonce stamped `ts`, or its clock has left the window behind. -/
def Process.Remembers (nonce : String) (ts : ℚ) (p : Process) : Prop :=
  (nonce, ts) ∈ p.seenNonces ∨ ts + callbackNonceTtlSeconds < p.monotonic

variable {nonce : String} {ts : ℚ} {p : Process}

theorem Process.Remembers.evict (h : p.Remembers nonce ts) :
    (evictStaleNonces p).Remembers nonce ts := by
  rcases h with hmem | hlate
  · by_cases hstale : ts < p.monotonic - callbackNonceTtlSeconds
    · refine .inr ?_
      show ts + callbackNonceTtlSeconds < p.monotonic
      linarith
    · exact .inl (List.mem_filter.mpr ⟨hmem, by simpa using hstale⟩)
  · exact .inr hlate

theorem Process.Remembers.isReplay (h : p.Remembers nonce ts) (other : String) (pause : ℚ≥0) :
    (NocIq.isReplay other pause p).2.Remembers nonce ts := by
  have hevicted := h.evict
  unfold NocIq.isReplay
  dsimp only
  split
  · exact hevicted
  · rcases hevicted with hmem | hlate
    · exact .inl (List.mem_append_left _ hmem)
    · refine .inr ?_
      have hpause : (0 : ℚ) ≤ pause := pause.2
      show ts + callbackNonceTtlSeconds < (evictStaleNonces p).monotonic + pause
      linarith

variable {pause : ℚ≥0}

theorem remembers_of_fresh (hfresh : (isReplay nonce pause p).1 = false) :
    (isReplay nonce pause p).2.Remembers nonce (isReplay nonce pause p).2.monotonic := by
  unfold isReplay at hfresh ⊢
  dsimp only at hfresh ⊢
  split at hfresh
  · cases hfresh
  · rename_i hnone
    rw [if_neg hnone]
    exact .inl (List.mem_append_right _ (List.mem_singleton_self _))

theorem window_of_fresh (h : p.Remembers nonce ts) (hfresh : (isReplay nonce pause p).1 = false) :
    ts + callbackNonceTtlSeconds < p.monotonic := by
  rcases h.evict with hmem | hlate
  · exfalso
    unfold isReplay at hfresh
    dsimp only at hfresh
    split at hfresh
    · cases hfresh
    · rename_i hnone
      apply hnone
      rw [List.lookup_isSome_iff]
      exact ⟨(nonce, ts), hmem, by simp⟩
  · exact hlate

theorem applyCallback_processes (req : CallbackRequest) (now : Time) (s : Server) :
    (applyCallback req now s).2.processes = s.processes := by
  unfold applyCallback
  dsimp only
  split
  · rfl
  · split
    · rfl
    · split <;> rfl

theorem reconcilePayment_processes (i status : String) (now : Time) (s : Server) :
    (reconcilePayment i status now s).2.processes = s.processes := by
  unfold reconcilePayment
  split
  · rfl
  · split <;> rfl

theorem retryPayment_processes (i : String) (now : Time) (s : Server) :
    (retryPayment i now s).2.processes = s.processes := by
  unfold retryPayment
  split
  · rfl
  · split <;> rfl

/-- The processes after a callback: as they were, or as the replay check left them. -/
theorem providerCallback_processes (d : Deployment) (req : CallbackRequest) (worker : Nat)
    (pause : ℚ≥0) (now : Time) (s : Server) :
    (providerCallback d req worker pause now s).2.processes =
      if (rejectedSignature d req).isNone then
        (checkNonce worker pause (effectiveNonce req) s).2.processes
      else s.processes := by
  unfold providerCallback
  split
  · rename_i hsig
    rw [hsig]
    rfl
  · rename_i hsig
    rw [hsig]
    rfl
  · rename_i hsig
    rw [hsig]
    dsimp only
    split
    · rfl
    · exact applyCallback_processes _ _ _

variable {s : Server} {worker : Nat}

theorem remembers_checkNonce (h : (s.processes worker).Remembers nonce ts) (other : Nat)
    (pause : ℚ≥0) (checked : Option String) :
    ((checkNonce other pause checked s).2.processes worker).Remembers nonce ts := by
  unfold checkNonce
  split
  · exact h
  · rename_i text _
    show (Function.update s.processes other (isReplay text pause (s.processes other)).2 worker).Remembers
      nonce ts
    by_cases hw : worker = other
    · subst hw
      rw [Function.update_self]
      exact h.isReplay text pause
    · rw [Function.update_of_ne hw]
      exact h

theorem remembers_serve {e : ServiceEvent} (h : (s.processes worker).Remembers nonce ts)
    (hrestart : ∀ clock, e ≠ .restart worker clock) :
    ((serve d s e).2.processes worker).Remembers nonce ts := by
  cases e with
  | updateStatus i status now => exact h
  | reconcile i status now => exact h
  | retry i now => exact h
  | replayDeadLetter i now => exact h
  | providerCallback req other pause now =>
    show ((providerCallback d req other pause now s).2.processes worker).Remembers nonce ts
    rw [providerCallback_processes]
    split
    · exact remembers_checkNonce h other pause _
    · exact h
  | retryPayment i now =>
    show ((retryPayment i now s).2.processes worker).Remembers nonce ts
    rw [retryPayment_processes]
    exact h
  | reconcilePayment i status now =>
    show ((reconcilePayment i status now s).2.processes worker).Remembers nonce ts
    rw [reconcilePayment_processes]
    exact h
  | wait other elapsed =>
    show (Function.update s.processes other _ worker).Remembers nonce ts
    by_cases hw : worker = other
    · subst hw
      rw [Function.update_self]
      -- waiting removes nothing, and what was past the window stays past it
      rcases h with hmem | hlate
      · exact .inl hmem
      · refine .inr ?_
        have helapsed : (0 : ℚ) ≤ elapsed := elapsed.2
        show ts + callbackNonceTtlSeconds < (s.processes worker).monotonic + elapsed
        linarith
    · rw [Function.update_of_ne hw]
      exact h
  | restart other clock =>
    show (Function.update s.processes other _ worker).Remembers nonce ts
    have hw : worker ≠ other := by
      intro hw
      subst hw
      exact hrestart clock rfl
    rw [Function.update_of_ne hw]
    exact h

theorem fresh_of_callbackPasses (hnonce : given (effectiveNonce req) = some nonce)
    (hpasses : callbackPasses d s req worker pause = true) :
    (rejectedSignature d req).isNone = true ∧
      (isReplay nonce pause (s.processes worker)).1 = false := by
  unfold callbackPasses checkNonce at hpasses
  rw [hnonce] at hpasses
  simpa using hpasses

theorem remembers_of_callbackPasses {now : Time} (hnonce : given (effectiveNonce req) = some nonce)
    (hpasses : callbackPasses d s req worker pause = true) : let p := (serve d s (.providerCallback req worker pause now)).2.processes worker
    p.Remembers nonce p.monotonic := by
  obtain ⟨hsig, hfresh⟩ := fresh_of_callbackPasses hnonce hpasses
  have hprocess : (serve d s (.providerCallback req worker pause now)).2.processes worker
      = (isReplay nonce pause (s.processes worker)).2 := by
    show (providerCallback d req worker pause now s).2.processes worker = _
    rw [providerCallback_processes, if_pos hsig]
    unfold checkNonce
    rw [hnonce]
    exact Function.update_self _ _ _
  dsimp only
  rw [hprocess]
  exact remembers_of_fresh hfresh

/-! ## Two effective deliveries -/

theorem satisfies_of_run {t : Server} {steps : List (Server × ServiceEvent)}
    (hsat : Satisfies schema s.db) (hrun : ServiceRun d s steps t) : Satisfies schema t.db := by
  refine Runs.Run.invariant (I := fun r : Server => Satisfies schema r.db) hsat ?_ hrun
  rintro r e r' hr rfl
  exact (serve_effect hr e).satisfies

/-- **Between two effective deliveries of one request.** The request does not ask for `confirmed`;
some other event changed the status in between; and if the request carries a nonce and one process
handled both, that process restarted in between or its clock moved past the window. -/
theorem callback_effects_of_run {d : Deployment} {req : CallbackRequest} {s t : Server}
    {l₁ l₂ l₃ : List (Server × ServiceEvent)} {x y : Server × ServiceEvent}
    (hsat : Satisfies schema s.db) (hrun : ServiceRun d s (l₁ ++ x :: (l₂ ++ y :: l₃)) t)
    (hx : TakesEffect d req x) (hy : TakesEffect d req y) :
    req.payload.status ≠ "confirmed" ∧
    (∃ z ∈ l₂, ¬ Delivers req z.2 ∧ ChangesStatus d req.payload.transactionId z) ∧
    ∀ nonce worker, given (effectiveNonce req) = some nonce → DeliversTo req worker x.2 →
      DeliversTo req worker y.2 →
      (∃ z ∈ l₂, ∃ clock, z.2 = .restart worker clock) ∨
        ((serve d x.1 x.2).2.processes worker).monotonic + callbackNonceTtlSeconds
          < (y.1.processes worker).monotonic := by
  -- cut the run at the two deliveries
  obtain ⟨u, hbefore, hstep_x, hafter⟩ := Runs.Run.split hrun
  obtain ⟨v, hbetween, hstep_y, -⟩ := Runs.Run.split hafter
  have hsat_x : Satisfies schema x.1.db := satisfies_of_run hsat hbefore
  have hsat_u : Satisfies schema u.db := by
    rw [← hstep_x]
    exact (serve_effect hsat_x x.2).satisfies
  have hsat_y : Satisfies schema y.1.db := satisfies_of_run hsat_u hbetween
  obtain ⟨hpasses_x, -, hstatus_u⟩ := hx.spec hsat_x
  obtain ⟨hpasses_y, hstatus_y, -⟩ := hy.spec hsat_y
  rw [hstep_x] at hstatus_u
  refine ⟨?_, ?_, ?_⟩
  · -- a confirmed payment keeps its row up to the second delivery
    intro hconfirmed
    obtain ⟨p, hfind, hp⟩ := Option.map_eq_some_iff.mp hstatus_u
    have hfind_y := confirmed_of_run hsat_u hfind (hp.trans hconfirmed) hbetween
    apply hstatus_y
    rw [statusOf, hfind_y, Option.map_some, hp]
  · -- otherwise the status is still the requested one when the second delivery arrives
    by_contra hnone
    push Not at hnone
    apply hstatus_y
    have hstatus : Satisfies schema y.1.db ∧
        statusOf y.1 req.payload.transactionId = some req.payload.status := by
      refine Runs.Run.invariant_of_steps (I := fun r : Server => Satisfies schema r.db ∧
        statusOf r req.payload.transactionId = some req.payload.status)
        ⟨hsat_u, hstatus_u⟩ hbetween ?_
      rintro z hz r ⟨hsat_r, hstatus_r⟩ rfl
      refine ⟨(serve_effect hsat_r z.2).satisfies, ?_⟩
      have hsame : ¬ ChangesStatus d req.payload.transactionId z := by
        by_cases hdelivers : Delivers req z.2
        · exact delivery_idempotent hsat_r hdelivers hstatus_r
        · exact hnone z hz hdelivers
      rw [not_not.mp hsame, hstatus_r]
    exact hstatus.2
  · intro nonce worker hnonce hto_x hto_y
    by_cases hrestart : ∃ z ∈ l₂, ∃ clock, z.2 = .restart worker clock
    · exact .inl hrestart
    · refine .inr ?_
      push Not at hrestart
      obtain ⟨pause_x, now_x, he_x⟩ := hto_x
      obtain ⟨pause_y, now_y, he_y⟩ := hto_y
      set ts := ((serve d x.1 x.2).2.processes worker).monotonic with hts
      have hremembers_u : (u.processes worker).Remembers nonce ts := by
        rw [hts, ← hstep_x, he_x]
        exact remembers_of_callbackPasses hnonce (hpasses_x worker pause_x now_x he_x)
      have hremembers_y : (y.1.processes worker).Remembers nonce ts := by
        refine Runs.Run.invariant_of_steps
          (I := fun r : Server => (r.processes worker).Remembers nonce ts)
          hremembers_u hbetween ?_
        rintro z hz r hr rfl
        exact remembers_serve hr (hrestart z hz)
      have hfresh := fresh_of_callbackPasses hnonce (hpasses_y worker pause_y now_y he_y)
      exact window_of_fresh hremembers_y hfresh.2

/-! ## A signed failure notice, delivered twice -/

/-- The secret `whsec`, and the digest of the one message the example signs. -/
def signedDeployment : Deployment where
  webhookSecret := "whsec"
  hmacSha256 key message :=
    if key = "whsec" ∧ message = "pay_0123456789ab:failed:" then
      "8b824255e6052b2722f4cf81f8c355e47b881d0795edf3de46a9d65e5165b255"
    else ""

def failureNotice : CallbackRequest where
  payload := { transactionId := latePayment.id, status := "failed" }
  xWebhookSignature := some "8b824255e6052b2722f4cf81f8c355e47b881d0795edf3de46a9d65e5165b255"

def noticeDelivery (now : Time) : ServiceEvent := .providerCallback failureNotice 0 0 now

/-- The notice arrives, the payment is retried, and the same notice arrives again. -/
def replayedNotice : List ServiceEvent :=
  [noticeDelivery 1, .retryPayment latePayment.id 2, noticeDelivery 3]

def signedStep (s : Server) (e : ServiceEvent) : Server := (serve signedDeployment s e).2

/-- The states the run leaves after the first delivery, and after the retry. -/
def noticedServer : Server := signedStep paidServer (noticeDelivery 1)

def retriedServer : Server := signedStep noticedServer (.retryPayment latePayment.id 2)

theorem firstNotice_takesEffect :
    TakesEffect signedDeployment failureNotice (paidServer, noticeDelivery 1) := by
  decide +kernel

theorem secondNotice_takesEffect :
    TakesEffect signedDeployment failureNotice (retriedServer, noticeDelivery 3) := by
  decide +kernel

theorem callback_effects_of_replayed_notice :
    failureNotice.payload.status ≠ "confirmed" ∧
    (∃ z ∈ [(noticedServer, ServiceEvent.retryPayment latePayment.id 2)],
      ¬ Delivers failureNotice z.2 ∧
        ChangesStatus signedDeployment failureNotice.payload.transactionId z) ∧
    ∀ nonce worker, given (effectiveNonce failureNotice) = some nonce →
      DeliversTo failureNotice worker (noticeDelivery 1) →
      DeliversTo failureNotice worker (noticeDelivery 3) →
      (∃ z ∈ [(noticedServer, ServiceEvent.retryPayment latePayment.id 2)],
        ∃ clock, z.2 = .restart worker clock) ∨
        (noticedServer.processes worker).monotonic + callbackNonceTtlSeconds
          < (retriedServer.processes worker).monotonic := by
  have hrun : ServiceRun signedDeployment paidServer
      ([] ++ (paidServer, noticeDelivery 1) ::
        ([(noticedServer, ServiceEvent.retryPayment latePayment.id 2)] ++
          (retriedServer, noticeDelivery 3) :: []))
      (signedStep retriedServer (noticeDelivery 3)) :=
    Runs.replay_run signedStep paidServer replayedNotice
  exact callback_effects_of_run latePayment_new.row.1 hrun firstNotice_takesEffect
    secondNotice_takesEffect

/-- Both deliveries change the status. -/
theorem callback_effective_twice :
    rejectedSignature signedDeployment failureNotice = none ∧
      ServiceRun signedDeployment paidServer
        (Runs.replay signedStep paidServer replayedNotice)
        (replayedNotice.foldl signedStep paidServer) ∧
      (effectiveDeliveries signedDeployment failureNotice
        (Runs.replay signedStep paidServer replayedNotice)).length = 2 := by
  refine ⟨by decide +kernel, Runs.replay_run signedStep paidServer replayedNotice, ?_⟩
  have hretry : ¬ TakesEffect signedDeployment failureNotice
      (noticedServer, .retryPayment latePayment.id 2) := fun h => h.1
  show ([(paidServer, noticeDelivery 1), (noticedServer, .retryPayment latePayment.id 2),
    (retriedServer, noticeDelivery 3)].filter fun x =>
      decide (TakesEffect signedDeployment failureNotice x)).length = 2
  simp [firstNotice_takesEffect, hretry, secondNotice_takesEffect]

end NocIq
