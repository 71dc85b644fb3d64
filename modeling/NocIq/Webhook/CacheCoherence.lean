import NocIq.Webhook.SubscriptionCache

/-!
# NocIq — which lookups the cache misleads

An entry lacks an event of its row if it is stored by a lookup that has loaded the row before an
update, or if the update has run in another process. Without such entries the lookups that start
after an update find what the updated row says.

* **`Kept.step`** — what the steps keep of the caches and of the lookups under way.
* **`coherent_run`** — the runs whose lookups find what the updated rows say.
-/

namespace NocIq

namespace CachingProcesses

variable {t : CachingProcesses} {k process : Nat} {call : LookupCall} {start : LookupStart}
  {id : UUID}

/-! ## The steps of an update -/

theorem stepUpdate_loaded {call : UpdateCall} {row : Webhook} (hstage : call.stage = .loaded row) :
    t.stepUpdate k process call =
      { t with
        webhooks := t.webhooks.map fun w =>
          if w.id = call.webhookId then call.payload.write row w else w
        calls :=
          (t.overtaken call).set k (process, .update { call with stage := .committed }) } := by
  simp only [stepUpdate, hstage]

theorem stepUpdate_committed {call : UpdateCall} (hstage : call.stage = .committed) :
    t.stepUpdate k process call =
      { t with
        caches :=
          if call.payload.invalidates then
            Function.update t.caches process
              (TtlCache.invalidate call.webhookId (t.caches process))
          else t.caches
        calls := t.calls.set k (process, .update { call with stage := .returned }) } := by
  simp only [stepUpdate, hstage]

/-! ## What is pending -/

theorem exists_mem_set {α : Type} {P : α → Prop} {l : List α} {x y : α} (hx : l[k]? = some x)
    (hP : ¬ P x) : (∃ c ∈ l.set k y, P c) ↔ (∃ c ∈ l, P c) ∨ P y := by
  constructor
  · intro ⟨c, hc, hPc⟩
    rcases List.mem_or_eq_of_mem_set hc with hold | hnew
    · exact .inl ⟨c, hold, hPc⟩
    · exact .inr (hnew ▸ hPc)
  · intro h
    rcases h with ⟨c, hc, hPc⟩ | hy
    · obtain ⟨j, hj⟩ := List.mem_iff_getElem?.mp hc
      have hjk : k ≠ j := by
        intro heq
        rw [heq, hj] at hx
        exact hP (Option.some.inj hx ▸ hPc)
      refine ⟨c, List.mem_iff_getElem?.mpr ⟨j, ?_⟩, hPc⟩
      rw [List.getElem?_set_ne hjk]
      exact hj
    · obtain ⟨hlt, -⟩ := List.getElem?_eq_some_iff.mp hx
      exact ⟨y, List.mem_set hlt y, hy⟩

theorem pends_overtake (c : CacheCall) (webhookId : UUID) :
    (c.overtake webhookId).pends id = c.pends id := by
  cases c with
  | lookup call start =>
    show CacheCall.pends id (if call.todo = [] then _ else _) = _
    split
    · rfl
    · rfl
  | update call => rfl

theorem pending_advance_lookup {after : LookupCall} (t' : CachingProcesses)
    (hk : t.calls[k]? = some (process, .lookup call start))
    (hcalls : t'.calls = t.calls.set k (process, .lookup after start)) (other : Nat) (id : UUID) :
    t'.Pending other id ↔ t.Pending other id := by
  unfold Pending
  rw [hcalls, exists_mem_set hk]
  · simp [CacheCall.pends]
  · simp [CacheCall.pends]

/-! ## What is kept -/

/-- A lookup under way: what it has to do; what it finds of the settled webhooks; and these are as
they were when it began. -/
structure KeptLookup (t : CachingProcesses) (call : LookupCall) (start : LookupStart) : Prop where
  loaded : ∀ w ∈ call.todo,
    w ∈ start.webhooks ∧ w.isActive = true ∧ call.event.value ∈ w.events
  found : ∀ id, start.settled id = true →
    ((id ∈ call.result.map Webhook.id ∨ id ∈ call.todo.map Webhook.id) ↔
      ∃ w ∈ start.webhooks, w.id = id ∧ w.isActive = true ∧ call.event.value ∈ w.events)
  current : call.todo ≠ [] → ∀ w ∈ start.webhooks, start.settled w.id = true →
    (∃ w' ∈ t.webhooks, w'.id = w.id ∧ w'.isActive = w.isActive ∧ w'.events = w.events) ∧
      ∀ process, ¬ t.Pending process w.id

/-- No entry lacks an event of its row, unless it is about to be invalidated. -/
def Covered (t : CachingProcesses) : Prop :=
  ∀ process, ∀ w ∈ t.webhooks, ∀ events,
    TtlCache.live t.now (t.caches process) w.id = some events →
      t.Pending process w.id ∨ Covers w events

structure Kept (t : CachingProcesses) : Prop where
  covered : t.Covered
  lookups : ∀ process call start, (process, CacheCall.lookup call start) ∈ t.calls →
    KeptLookup t call start

theorem Kept.coherent (h : t.Kept) : t.Coherent := by
  intro process call start hmem hended id hsettled
  rw [← (h.lookups process call start hmem).found id hsettled, hended]
  simp

theorem KeptLookup.transfer (h : KeptLookup t call start) {t' : CachingProcesses}
    (hwebhooks : t'.webhooks = t.webhooks)
    (hpending : ∀ process id, t'.Pending process id → t.Pending process id) :
    KeptLookup t' call start := by
  refine ⟨h.loaded, h.found, ?_⟩
  intro htodo w hw hsettled
  obtain ⟨hrow, hnone⟩ := h.current htodo w hw hsettled
  rw [hwebhooks]
  exact ⟨hrow, fun process hp => hnone process (hpending process w.id hp)⟩

theorem KeptLookup.check (h : KeptLookup t call start) {webhook : Webhook} {todo : List Webhook}
    (htodo : call.todo = webhook :: todo) {events : List String}
    (hevents : start.settled webhook.id = true → call.event.value ∈ events) :
    KeptLookup t (call.check webhook todo events) start := by
  constructor
  · intro w hw
    exact h.loaded w (htodo ▸ List.mem_cons_of_mem webhook hw)
  · intro id hsettled
    refine Iff.trans ?_ (h.found id hsettled)
    rw [htodo, List.map_cons, List.mem_cons]
    by_cases hid : id = webhook.id
    · have hmem := hevents (hid ▸ hsettled)
      simp [LookupCall.check, hmem, hid]
    · show (id ∈ (if call.event.value ∈ events then call.result ++ [webhook]
        else call.result).map Webhook.id ∨ _) ↔ _
      split
      · simp [LookupCall.check, hid]
      · simp [LookupCall.check, hid]
  · intro _ w hw hsettled
    exact h.current (htodo ▸ List.cons_ne_nil webhook todo) w hw hsettled

/-- **One access of a lookup.** -/
theorem KeptLookup.step (ht : t.Kept) (h : KeptLookup t call start) :
    KeptLookup t (call.step t.now (t.caches process)).2 start := by
  cases htodo : call.todo with
  | nil =>
    have hstep : call.step t.now (t.caches process) = (t.caches process, call) := by
      simp only [LookupCall.step, htodo]
    rw [hstep]
    exact h
  | cons webhook todo =>
    obtain ⟨hstart, hactive, hevent⟩ := h.loaded webhook (htodo ▸ List.mem_cons_self)
    cases hmissed : call.missed with
    | true =>
      rw [LookupCall.step_store htodo hmissed]
      exact h.check htodo fun _ => hevent
    | false =>
      cases hlive : TtlCache.live t.now (t.caches process) webhook.id with
      | none =>
        rw [LookupCall.step_miss htodo hmissed hlive]
        exact ⟨h.loaded, h.found, h.current⟩
      | some events =>
        rw [LookupCall.step_hit htodo hmissed hlive]
        apply h.check htodo
        intro hsettled
        obtain ⟨⟨w, hw, hid, hactive', hevents⟩, hnone⟩ :=
          h.current (htodo ▸ List.cons_ne_nil webhook todo) webhook hstart hsettled
        rw [← hid] at hlive hnone
        have hcovers := (ht.covered process w hw events hlive).resolve_left (hnone process)
        exact hcovers (hactive'.trans hactive) (hevents ▸ hevent)

/-! ## The steps -/

theorem write_subscription {payload : WebhookUpdate} (h : payload.invalidates = false)
    (loaded stored : Webhook) :
    (payload.write loaded stored).isActive = stored.isActive ∧
      (payload.write loaded stored).events = stored.events := by
  unfold WebhookUpdate.invalidates at h
  rw [Bool.or_eq_false_iff, Option.isSome_eq_false_iff, Option.isSome_eq_false_iff,
    Option.isNone_iff_eq_none, Option.isNone_iff_eq_none] at h
  simp [WebhookUpdate.write, WebhookUpdate.assign, WebhookUpdate.column, h.1, h.2]

theorem Kept.elapse (h : t.Kept) (microseconds : Nat) : (t.step (.elapse microseconds)).Kept := by
  constructor
  · intro process w hw events hlive
    have hle : t.now ≤ t.now + microseconds := Int.le_add_of_nonneg_right (Int.natCast_nonneg _)
    exact h.covered process w hw events (TtlCache.live_of_later hle hlive)
  · intro process call start hmem
    exact (h.lookups process call start hmem).transfer rfl fun _ _ hp => hp

theorem start_queried (event : WebhookEvent) (webhooks : List Webhook) :
    LookupCall.start true event webhooks =
      { event
        todo := webhooks.filter fun w => w.isActive && decide (event.value ∈ w.events) } :=
  rfl

theorem start_refused (event : WebhookEvent) (webhooks : List Webhook) :
    LookupCall.start false event webhooks = { event, completion := .raised, todo := [] } :=
  rfl

theorem keptLookup_refused {event : WebhookEvent} (t' : CachingProcesses)
    (hnone : ∀ w ∈ t.webhooks, t.settled w.id = true → w.isActive = true →
      event.value ∉ w.events) :
    KeptLookup t' (LookupCall.start false event t.webhooks) ⟨t.webhooks, t.settled⟩ := by
  rw [start_refused]
  constructor
  · exact fun w hw => absurd hw List.not_mem_nil
  · intro id hsettled
    refine iff_of_false (by simp) ?_
    rintro ⟨w, hw, rfl, hactive, hevent⟩
    exact hnone w hw hsettled hactive hevent
  · exact fun hne => absurd rfl hne

theorem keptLookup_queried (event : WebhookEvent) (t' : CachingProcesses)
    (hwebhooks : t'.webhooks = t.webhooks)
    (hpending : ∀ process id, t'.Pending process id → t.Pending process id) :
    KeptLookup t' (LookupCall.start true event t.webhooks) ⟨t.webhooks, t.settled⟩ := by
  rw [start_queried]
  constructor
  · intro w hw
    obtain ⟨hmem, hselected⟩ := List.mem_filter.mp hw
    rw [Bool.and_eq_true, decide_eq_true_eq] at hselected
    exact ⟨hmem, hselected⟩
  · intro id _
    simp [and_comm, and_left_comm]
  · intro _ w hw hsettled
    rw [hwebhooks]
    refine ⟨⟨w, hw, rfl, rfl, rfl⟩, ?_⟩
    intro process hp
    obtain ⟨c, hc, -, hpends⟩ := hpending process w.id hp
    simp only [settled, Bool.and_eq_true, Bool.not_eq_true', List.any_eq_false] at hsettled
    exact hsettled.2 c hc hpends

theorem Kept.startCall (h : t.Kept) {c : Nat × CacheCall} (hpends : ∀ id, c.2.pends id = false)
    (hlookup : ∀ process call start, c = (process, .lookup call start) →
      KeptLookup { t with calls := t.calls ++ [c] } call start) :
    Kept { t with calls := t.calls ++ [c] } := by
  have hpending : ∀ process id,
      Pending { t with calls := t.calls ++ [c] } process id ↔ t.Pending process id := by
    intro process id
    unfold Pending
    simp [List.mem_append, or_and_right, exists_or, hpends]
  constructor
  · intro process w hw events hlive
    rw [hpending]
    exact h.covered process w hw events hlive
  · intro process call start hmem
    rcases List.mem_append.mp hmem with hold | hnew
    · exact (h.lookups process call start hold).transfer rfl fun q id => (hpending q id).mp
    · exact hlookup process call start (List.mem_singleton.mp hnew).symm

theorem Kept.stepLookup (h : t.Kept) (hk : t.calls[k]? = some (process, .lookup call start))
    (hstored : call.missed = true → ∀ loaded ∈ call.todo.head?, ∀ w ∈ t.webhooks, w.id = loaded.id →
      t.Pending process w.id ∨ Covers w loaded.events) :
    (t.stepLookup k process call start).Kept := by
  have hpending := pending_advance_lookup (t.stepLookup k process call start) hk rfl
  constructor
  · intro other w hw events hlive
    rw [hpending]
    change TtlCache.live t.now
      (Function.update t.caches process (call.step t.now (t.caches process)).1 other) w.id =
        some events at hlive
    by_cases hother : other = process
    · subst hother
      rw [Function.update_self] at hlive
      rcases LookupCall.live_step hlive with hold | ⟨hmissed, loaded, hloaded, hid, hevents⟩
      · exact h.covered other w hw events hold
      · exact hevents ▸ hstored hmissed loaded hloaded w hw hid
    · rw [Function.update_of_ne hother] at hlive
      exact h.covered other w hw events hlive
  · intro other call' start' hmem
    rcases List.mem_or_eq_of_mem_set hmem with hold | hnew
    · exact (h.lookups other call' start' hold).transfer rfl fun q id => (hpending q id).mp
    · obtain ⟨-, hlookup⟩ := Prod.mk.inj hnew
      obtain ⟨rfl, rfl⟩ := CacheCall.lookup.inj hlookup
      have hkept := h.lookups process call start' (List.mem_of_getElem? hk)
      exact (hkept.step h).transfer rfl fun q id => (hpending q id).mp

theorem pending_commit {call : UpdateCall} {row : Webhook}
    (hk : t.calls[k]? = some (process, .update call)) (hstage : call.stage = .loaded row)
    (other : Nat) (id : UUID) :
    (t.stepUpdate k process call).Pending other id ↔
      t.Pending other id ∨
        (process = other ∧ call.webhookId = id ∧ call.payload.invalidates = true) := by
  have hovertaken : (t.overtaken call)[k]? = some (process, .update call) := by
    unfold overtaken
    split
    · rw [List.getElem?_map, hk]
      rfl
    · exact hk
  have hsame : (∃ c ∈ t.overtaken call, c.1 = other ∧ c.2.pends id = true) ↔
      t.Pending other id := by
    unfold overtaken Pending
    split
    · simp [pends_overtake]
    · rfl
  rw [← hsame, stepUpdate_loaded hstage]
  unfold Pending
  rw [exists_mem_set hovertaken]
  · simp [CacheCall.pends, UpdateCall.pends]
  · simp [CacheCall.pends, UpdateCall.pends, hstage]

theorem subscription_commit (k process : Nat) {call : UpdateCall} {row w : Webhook}
    (hstage : call.stage = .loaded row) (hw : w ∈ t.webhooks)
    (h : w.id ≠ call.webhookId ∨ call.payload.invalidates = false) :
    ∃ w' ∈ (t.stepUpdate k process call).webhooks,
      w'.id = w.id ∧ w'.isActive = w.isActive ∧ w'.events = w.events := by
  rw [stepUpdate_loaded hstage]
  refine ⟨_, List.mem_map_of_mem hw, ?_⟩
  split
  · rename_i hid
    have hinvalidates := h.resolve_left fun hne => hne hid
    exact ⟨rfl, write_subscription hinvalidates row w⟩
  · exact ⟨rfl, rfl, rfl⟩

theorem mem_overtaken {call : UpdateCall} {lookup : LookupCall} {start' : LookupStart}
    (h : (process, .lookup lookup start') ∈ t.overtaken call) :
    ∃ start, (process, CacheCall.lookup lookup start) ∈ t.calls ∧
      start'.webhooks = start.webhooks ∧
      (∀ id, start'.settled id = true → start.settled id = true) ∧
      (lookup.todo ≠ [] → ∀ id, start'.settled id = true →
        id ≠ call.webhookId ∨ call.payload.invalidates = false) := by
  unfold overtaken at h
  split at h
  · obtain ⟨⟨q, c⟩, hc, heq⟩ := List.mem_map.mp h
    obtain ⟨rfl, hovertake⟩ := Prod.mk.inj heq
    cases c with
    | update call' => cases hovertake
    | lookup lookup₀ start =>
      change (if lookup₀.todo = [] then CacheCall.lookup lookup₀ start
        else .lookup lookup₀
          { start with settled := Function.update start.settled call.webhookId false }) =
        .lookup lookup start' at hovertake
      split at hovertake
      · rename_i hended
        obtain ⟨rfl, rfl⟩ := CacheCall.lookup.inj hovertake
        exact ⟨start, hc, rfl, fun _ hid => hid, fun htodo => absurd hended htodo⟩
      · obtain ⟨rfl, rfl⟩ := CacheCall.lookup.inj hovertake
        have hsettled : ∀ id,
            Function.update start.settled call.webhookId false id = true →
              id ≠ call.webhookId ∧ start.settled id = true := by
          intro id hid
          by_cases heq : id = call.webhookId
          · rw [heq, Function.update_self] at hid
            cases hid
          · rw [Function.update_of_ne heq] at hid
            exact ⟨heq, hid⟩
        exact ⟨start, hc, rfl, fun id hid => (hsettled id hid).2,
          fun _ id hid => .inl (hsettled id hid).1⟩
  · rename_i hinvalidates
    exact ⟨start', h, rfl, fun _ hid => hid,
      fun _ _ _ => .inr (Bool.eq_false_of_not_eq_true hinvalidates)⟩

/-- **A commit** leaves the entries of its own process to the invalidation that follows. -/
theorem Kept.commit (h : t.Kept) {call : UpdateCall} {row : Webhook}
    (hk : t.calls[k]? = some (process, .update call)) (hstage : call.stage = .loaded row)
    (hcovered : ∀ w ∈ t.webhooks, w.id = call.webhookId → ∀ other, other ≠ process → ∀ events,
      TtlCache.live t.now (t.caches other) w.id = some events →
        t.Pending other w.id ∨ Covers (call.payload.write row w) events) :
    (t.stepUpdate k process call).Kept := by
  have hpending := pending_commit hk hstage
  constructor
  · intro other w' hw' events hlive
    rw [hpending]
    rw [stepUpdate_loaded hstage] at hw' hlive
    obtain ⟨w, hw, rfl⟩ := List.mem_map.mp hw'
    by_cases hid : w.id = call.webhookId
    · rw [if_pos hid] at hlive ⊢
      -- the own process invalidates its entry after the commit, if the columns in it have changed
      by_cases hother : other = process
      · cases hinvalidates : call.payload.invalidates with
        | true => exact .inl (.inr ⟨hother.symm, hid.symm, rfl⟩)
        | false =>
          obtain ⟨hactive, hevents⟩ := write_subscription hinvalidates row w
          refine (h.covered other w hw events hlive).imp .inl ?_
          intro hcovers
          unfold Covers
          rw [hactive, hevents]
          exact hcovers
      · exact (hcovered w hw hid other hother events hlive).imp_left .inl
    · rw [if_neg hid] at hlive ⊢
      exact (h.covered other w hw events hlive).imp_left .inl
  · intro other lookup start hmem
    rw [stepUpdate_loaded hstage] at hmem
    rcases List.mem_or_eq_of_mem_set hmem with hold | hnew
    · obtain ⟨start₀, hmem₀, hwebhooks, hsettled, hother⟩ := mem_overtaken hold
      have hkept := h.lookups other lookup start₀ hmem₀
      refine ⟨hwebhooks ▸ hkept.loaded, ?_, ?_⟩
      · intro id hid
        rw [hwebhooks]
        exact hkept.found id (hsettled id hid)
      · intro htodo w hw hid
        obtain ⟨⟨w₀, hw₀, hid₀, hactive, hevents⟩, hnone⟩ :=
          hkept.current htodo w (hwebhooks ▸ hw) (hsettled w.id hid)
        -- a lookup that has not been overtaken has loaded the row as it is now
        have hapart := hother htodo w.id hid
        obtain ⟨w', hw', hid', hactive', hevents'⟩ :=
          subscription_commit k process hstage hw₀ (hid₀ ▸ hapart)
        refine ⟨⟨w', hw', hid'.trans hid₀, hactive'.trans hactive, hevents'.trans hevents⟩, ?_⟩
        intro q hp
        rcases (hpending q w.id).mp hp with hold | ⟨-, hsame, hinvalidates⟩
        · exact hnone q hold
        · rcases hapart with hne | hkeeps
          · exact hne hsame.symm
          · rw [hkeeps] at hinvalidates
            cases hinvalidates
    · cases hnew

theorem pending_invalidate {call : UpdateCall} (hk : t.calls[k]? = some (process, .update call))
    (hstage : call.stage = .committed) (other : Nat) (id : UUID) :
    ((t.stepUpdate k process call).Pending other id → t.Pending other id) ∧
      (t.Pending other id → (t.stepUpdate k process call).Pending other id ∨
        (other = process ∧ id = call.webhookId ∧ call.payload.invalidates = true)) := by
  have hreturned : ∀ id, CacheCall.pends id (.update { call with stage := .returned }) = false := by
    intro id
    simp [CacheCall.pends, UpdateCall.pends]
  rw [stepUpdate_committed hstage]
  unfold Pending
  constructor
  · intro ⟨c, hc, hother, hpends⟩
    rcases List.mem_or_eq_of_mem_set hc with hold | hnew
    · exact ⟨c, hold, hother, hpends⟩
    · rw [hnew, hreturned] at hpends
      cases hpends
  · intro hp
    by_cases hself : process = other ∧ CacheCall.pends id (.update call) = true
    · right
      simp only [CacheCall.pends, UpdateCall.pends, Bool.and_eq_true, decide_eq_true_eq] at hself
      exact ⟨hself.1.symm, hself.2.1.1.symm, hself.2.2⟩
    · exact .inl ((exists_mem_set hk hself).mpr (.inl hp))

/-- **The invalidation**: the entries it was pending for are gone. -/
theorem Kept.invalidate (h : t.Kept) {call : UpdateCall}
    (hk : t.calls[k]? = some (process, .update call)) (hstage : call.stage = .committed) :
    (t.stepUpdate k process call).Kept := by
  have hpending := pending_invalidate hk hstage
  constructor
  · intro other w hw events hlive
    -- the entry has been there, and it is not the one that is invalidated
    have hbefore : TtlCache.live t.now (t.caches other) w.id = some events ∧
        ¬ (other = process ∧ w.id = call.webhookId ∧ call.payload.invalidates = true) := by
      rw [stepUpdate_committed hstage] at hlive
      dsimp only at hlive
      split at hlive
      · by_cases hother : other = process
        · rw [hother, Function.update_self] at hlive
          obtain ⟨hne, hold⟩ := TtlCache.live_invalidate hlive
          exact ⟨hother ▸ hold, fun hself => hne hself.2.1⟩
        · rw [Function.update_of_ne hother] at hlive
          exact ⟨hlive, fun hself => hother hself.1⟩
      · rename_i hinvalidates
        exact ⟨hlive, fun hself => hinvalidates hself.2.2⟩
    have hmem : w ∈ t.webhooks := by
      rw [stepUpdate_committed hstage] at hw
      exact hw
    refine (h.covered other w hmem events hbefore.1).imp_left ?_
    intro hp
    exact ((hpending other w.id).2 hp).resolve_right hbefore.2
  · intro other lookup start hmem
    rw [stepUpdate_committed hstage] at hmem
    rcases List.mem_or_eq_of_mem_set hmem with hold | hnew
    · refine (h.lookups other lookup start hold).transfer ?_ fun q id => (hpending q id).1
      rw [stepUpdate_committed hstage]
    · cases hnew

/-- **What every step keeps**, if it meets the condition. -/
theorem Kept.step (h : t.Kept) (e : CacheEvent) (hcond : t.KeepsCovered e) : (t.step e).Kept := by
  cases e with
  | elapse microseconds => exact h.elapse microseconds
  | lookup process event =>
    refine h.startCall (fun _ => rfl) ?_
    intro q call start heq
    obtain ⟨-, hlookup⟩ := Prod.mk.inj heq
    obtain ⟨rfl, rfl⟩ := CacheCall.lookup.inj hlookup
    cases hcontainment : t.containmentOnText with
    | false =>
      refine keptLookup_refused _ (hcond.resolve_left ?_)
      rw [hcontainment]
      exact Bool.false_ne_true
    | true =>
      refine keptLookup_queried event _ rfl ?_
      intro q id ⟨c, hc, hq, hpends⟩
      rcases List.mem_append.mp hc with hold | hnew
      · exact ⟨c, hold, hq, hpends⟩
      · rw [List.mem_singleton.mp hnew] at hpends
        cases hpends
  | update process webhookId payload =>
    unfold CachingProcesses.step
    dsimp only
    split
    · exact h
    · exact h.startCall (fun id => by simp [CacheCall.pends, UpdateCall.pends]) nofun
  | advance k =>
    unfold KeepsCovered at hcond
    unfold CachingProcesses.step
    dsimp only at hcond ⊢
    cases hk : t.calls[k]? with
    | none => exact h
    | some c =>
      obtain ⟨process, work⟩ := c
      rw [hk] at hcond
      cases work with
      | lookup call start => exact h.stepLookup hk hcond
      | update call =>
        cases hstage : call.stage with
        | loaded row => exact h.commit hk hstage (hcond row hstage)
        | committed => exact h.invalidate hk hstage
        | returned =>
          have hsame : t.stepUpdate k process call = t := by
            simp only [stepUpdate, hstage]
          show (t.stepUpdate k process call).Kept
          rw [hsame]
          exact h

/-- At the start the caches are empty, and no call is under way. -/
def initial (containmentOnText : Bool) (webhooks : List Webhook) : CachingProcesses :=
  { containmentOnText, webhooks }

theorem kept_initial (containmentOnText : Bool) (webhooks : List Webhook) :
    (initial containmentOnText webhooks).Kept := by
  constructor
  · intro _ _ _ _ hlive
    cases hlive
  · intro _ _ _ hmem
    cases hmem

/-- **The runs whose lookups find what the updated rows say.** -/
theorem coherent_run {containmentOnText : Bool} {webhooks : List Webhook}
    {steps : List (CachingProcesses × CacheEvent)}
    (h : Run (initial containmentOnText webhooks) steps t)
    (hcond : ∀ x ∈ steps, x.1.KeepsCovered x.2) : ∀ u ∈ Runs.visited steps t, u.Coherent := by
  have hinitial := kept_initial containmentOnText webhooks
  have hkept := (h.restrict hcond).invariant_visited (I := Kept) hinitial ?_
  · exact fun u hu => (hkept u hu).coherent
  · intro u e v hu ⟨hstep, hmeets⟩
    rw [← hstep]
    exact hu.step e hmeets

/-! ### Two lookups and an update -/

def oneSubscription : Webhook where
  id := 1
  url := "https://receiver.example/hook"
  events := ["sla.violation"]

def addWarning : WebhookUpdate where
  events := some [.slaViolation, .slaWarning]

/-- A lookup has missed when the update is committed, and stores what it has loaded when the update
has returned; another lookup follows. -/
def lateFill : List CacheEvent :=
  [.lookup 0 .slaViolation, .advance 0, .update 0 1 addWarning, .advance 1, .advance 1, .advance 0,
    .lookup 0 .slaWarning, .advance 2]

/-- An update returns, and a lookup for what it has added begins. -/
def lookupAfterUpdate : List CacheEvent :=
  [.update 0 1 addWarning, .advance 0, .advance 0, .lookup 0 .slaWarning]

/-- **A refused query and a late fill hide a subscription**: on the TEXT column no lookup finds the
updated row, and where a database evaluates the query, a late fill misleads those that follow. -/
theorem late_fill_hides_subscription :
    (¬ ∀ (webhooks : List Webhook) (steps : List (CachingProcesses × CacheEvent))
        (t : CachingProcesses), (webhooks.map Webhook.id).Nodup →
          Run (initial false webhooks) steps t → ∀ u ∈ Runs.visited steps t, u.Coherent) ∧
      ¬ ∀ (webhooks : List Webhook) (steps : List (CachingProcesses × CacheEvent))
          (t : CachingProcesses), (webhooks.map Webhook.id).Nodup →
            Run (initial true webhooks) steps t → ∀ u ∈ Runs.visited steps t, u.Coherent := by
  have hnone : (1 : UUID) ∉ ([] : List Webhook).map Webhook.id := List.not_mem_nil
  constructor
  · intro hall
    have hrun := Runs.replay_run step (initial false [oneSubscription]) lookupAfterUpdate
    have hcoherent := (Runs.forall_mem_visited.mp (hall _ _ _ (by decide) hrun)).2
    let start : LookupStart :=
      { webhooks := [addWarning.write oneSubscription oneSubscription]
        settled :=
          ((lookupAfterUpdate.take 3).foldl step (initial false [oneSubscription])).settled }
    have hcall : ((lookupAfterUpdate.foldl step (initial false [oneSubscription])).calls)[1]? =
        some (0, .lookup { event := .slaWarning, completion := .raised, todo := [] } start) := rfl
    have hsettled : start.settled 1 = true := by decide +kernel
    have hfound := hcoherent 0 _ start (List.mem_of_getElem? hcall) rfl 1 hsettled
    exact hnone (hfound.mpr ⟨_, List.mem_singleton_self _, by decide, by decide, by decide⟩)
  · intro hall
    have hrun := Runs.replay_run step (initial true [oneSubscription]) lateFill
    have hcoherent := (Runs.forall_mem_visited.mp (hall _ _ _ (by decide) hrun)).2
    let start : LookupStart :=
      { webhooks := [addWarning.write oneSubscription oneSubscription]
        settled := ((lateFill.take 6).foldl step (initial true [oneSubscription])).settled }
    have hcall : ((lateFill.foldl step (initial true [oneSubscription])).calls)[2]? =
        some (0, .lookup { event := .slaWarning, todo := [] } start) := rfl
    have hsettled : start.settled 1 = true := by decide +kernel
    have hfound := hcoherent 0 _ start (List.mem_of_getElem? hcall) rfl 1 hsettled
    exact hnone (hfound.mpr ⟨_, List.mem_singleton_self _, by decide, by decide, by decide⟩)

def updateThenLookup : List CacheEvent := lookupAfterUpdate ++ [.advance 1, .advance 1]

theorem coherent_updateThenLookup :
    (updateThenLookup.foldl step (initial true [oneSubscription])).Coherent := by
  have hrun := Runs.replay_run step (initial true [oneSubscription]) updateThenLookup
  refine (Runs.forall_mem_visited.mp (coherent_run hrun ?_)).2
  intro x hx
  simp only [updateThenLookup, lookupAfterUpdate, List.cons_append, List.nil_append, Runs.replay,
    List.mem_cons, List.not_mem_nil, or_false] at hx
  rcases hx with rfl | rfl | rfl | rfl | rfl | rfl
  · trivial
  · -- the caches are empty
    exact fun _ _ _ _ _ _ _ _ hlive => nomatch hlive
  · exact fun _ hstage => nomatch hstage
  · exact .inl rfl
  · exact fun hmissed => nomatch hmissed
  · -- the row is as it has been loaded
    intro _ loaded hloaded w hw _
    right
    obtain rfl := Option.some.inj hloaded
    rw [List.mem_singleton.mp hw]
    decide

end CachingProcesses

end NocIq
