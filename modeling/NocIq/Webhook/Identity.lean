import NocIq.Json
import NocIq.Lib.Text
import NocIq.Webhook.Processes

/-!
# NocIq — the identity of deliveries

The idempotency key of a delivery is the hash of its webhook, its event and one reading of the
clock; the timestamp in its payload is another reading. Two calls for one event that read the same
time give their deliveries for a webhook the same key, and the second insertion fails.

* **`generateIdempotencyKey_inj`** — the key determines the webhook, the event and the time.
* **`stampedWith_inj`** — a payload has one timestamp.
* **`identitiesAgree_iff`** — the runs in which keys and timestamps are what receivers rely on.
-/

namespace NocIq

/-! ## Keys and timestamps -/

def doubleQuote : Char := Char.ofNat 34

/-- What `hashlib`, `uuid` and `datetime` promise, with SHA-256 taken to be injective. -/
structure WebhookEnv.Lawful (env : WebhookEnv) : Prop where
  sha256 : Function.Injective env.sha256
  uuidText : Function.Injective env.uuidText
  uuidText_colon : ∀ id, ':' ∉ (env.uuidText id).toList
  isoformat : Function.Injective env.isoformat
  isoformat_quote : ∀ t, doubleQuote ∉ (env.isoformat t).toList

variable {env : WebhookEnv} {s s' : WebhookStore} {p q : WebhookProcess} {id : UUID}
  {d d' : WebhookDelivery}

theorem WebhookEvent.value_inj {e e' : WebhookEvent} (h : e.value = e'.value) : e = e' := by
  cases e <;> cases e' <;> first | rfl | exact absurd h (by decide)

theorem generateIdempotencyKey_eq (env : WebhookEnv) (webhookId : UUID) (event : WebhookEvent)
    (t : Time) :
    generateIdempotencyKey env webhookId event t =
      env.sha256 (String.ofList ((env.uuidText webhookId).toList ++
        ':' :: (event.value.toList ++ ':' :: (env.isoformat t).toList))) := by
  have hcolon : ":".toList = [':'] := by decide
  unfold generateIdempotencyKey
  congr 1
  apply String.toList_inj.mp
  show (env.uuidText webhookId ++ ":" ++ event.value ++ ":" ++ env.isoformat t).toList = _
  simp only [String.toList_append, hcolon, List.append_assoc, List.cons_append, List.nil_append,
    String.toList_ofList]

/-- **The key determines what it is made of.** -/
theorem generateIdempotencyKey_inj (henv : env.Lawful) {w w' : UUID} {e e' : WebhookEvent}
    {t t' : Time} (h : generateIdempotencyKey env w e t = generateIdempotencyKey env w' e' t') :
    w = w' ∧ e = e' ∧ t = t' := by
  have hcolon : ∀ e : WebhookEvent, ':' ∉ e.value.toList := by
    intro e
    cases e <;> decide
  rw [generateIdempotencyKey_eq, generateIdempotencyKey_eq] at h
  have hlists := String.ofList_inj.mp (henv.sha256 h)
  obtain ⟨hw, hrest⟩ := Text.delimited_inj (henv.uuidText_colon w) (henv.uuidText_colon w') hlists
  obtain ⟨he, ht⟩ := Text.delimited_inj (hcolon e) (hcolon e') hrest
  exact ⟨henv.uuidText (String.toList_inj.mp hw), WebhookEvent.value_inj (String.toList_inj.mp he),
    henv.isoformat (String.toList_inj.mp ht)⟩

/-- The text of `build_redacted_payload`. -/
def payloadText (env : WebhookEnv) (event : WebhookEvent) (timestamp : Time) (data : String) :
    String :=
  "\x7b\"schema_version\": \"" ++ webhookSchemaVersion ++ "\", \"event\": \"" ++ event.value ++
    "\", \"timestamp\": \"" ++ env.isoformat timestamp ++ "\", \"data\": " ++ data ++ "\x7d"

theorem payload_eq (env : WebhookEnv) (c : TriggerCall) :
    c.payload env = c.data.map (payloadText env c.event c.payloadTimestamp) := rfl

/-- The timestamp inside of the payload is `t`. -/
def StampedWith (env : WebhookEnv) (payload : String) (t : Time) : Prop :=
  ∃ event data, payload = payloadText env event t data

theorem toList_payloadText (env : WebhookEnv) (event : WebhookEvent) (t : Time) (data : String) :
    (payloadText env event t data).toList =
      ("\x7b\"schema_version\": \"" ++ webhookSchemaVersion ++ "\", \"event\": \"").toList ++
        (event.value.toList ++ doubleQuote :: (", \"timestamp\": \"".toList ++
          ((env.isoformat t).toList ++
            doubleQuote :: (", \"data\": " ++ data ++ "\x7d").toList))) := by
  have htimestamp : "\", \"timestamp\": \"".toList =
      doubleQuote :: ", \"timestamp\": \"".toList := by decide
  have hdata : "\", \"data\": ".toList = doubleQuote :: ", \"data\": ".toList := by decide
  unfold payloadText
  simp only [String.toList_append, htimestamp, hdata, List.append_assoc, List.cons_append]

/-- **A payload has one timestamp.** -/
theorem stampedWith_inj (henv : env.Lawful) {payload : String} {t t' : Time}
    (h : StampedWith env payload t) (h' : StampedWith env payload t') : t = t' := by
  have hquote : ∀ e : WebhookEvent, doubleQuote ∉ e.value.toList := by
    intro e
    cases e <;> decide
  obtain ⟨e, data, rfl⟩ := h
  obtain ⟨e', data', heq⟩ := h'
  have hlists := congrArg String.toList heq
  rw [toList_payloadText, toList_payloadText] at hlists
  have hevent := List.append_cancel_left hlists
  obtain ⟨-, hstamp⟩ := Text.delimited_inj (hquote e) (hquote e') hevent
  have hiso := List.append_cancel_left hstamp
  obtain ⟨ht, -⟩ := Text.delimited_inj (henv.isoformat_quote t) (henv.isoformat_quote t') hiso
  exact henv.isoformat (String.toList_inj.mp ht)

/-! ## What a call creates -/

/-- The call gets to `create_delivery` for the webhook. -/
def TriggerCall.Attempts (env : WebhookEnv) (c : TriggerCall) (webhook : Webhook) : Prop :=
  (c.fanOut webhook.id).url = .valid ∧ c.throttled env webhook = false ∧
    (c.payload env).isSome = true

instance (env : WebhookEnv) (c : TriggerCall) (webhook : Webhook) :
    Decidable (c.Attempts env webhook) :=
  inferInstanceAs (Decidable (_ ∧ _ ∧ _))

theorem created_eq_some {c : TriggerCall} {w : Webhook} (h : c.created env w s = some d) :
    c.Attempts env w ∧ TriggerCall.conflicts d s = false ∧
      ∃ payload, c.payload env = some payload ∧ d = c.newDelivery env w payload := by
  unfold TriggerCall.created at h
  split at h
  · rename_i hchecks
    obtain ⟨hmap, hfree⟩ := Option.filter_eq_some_iff.mp h
    obtain ⟨payload, hpayload, rfl⟩ := Option.map_eq_some_iff.mp hmap
    refine ⟨⟨hchecks.1, hchecks.2, by rw [hpayload]; rfl⟩, by simpa using hfree, payload, hpayload,
      rfl⟩
  · cases h

theorem process_created (h : p.created env = some d) :
    ∃ c w todo, p.stage = .idle ∧ p.todo = .deliver c w :: todo ∧
      c.created env w p.store = some d := by
  unfold WebhookProcess.created at h
  split at h
  · rename_i item todo hstage htodo
    cases item with
    | deliver c w => exact ⟨c, w, todo, hstage, htodo, h⟩
    | dispatch => cases h
    | replay => cases h
    | recover => cases h
  · cases h

theorem todo_created (h : p.created env = some d) : (p.commit env).todo = p.todo.tail := by
  obtain ⟨c, w, todo, hstage, htodo, hcreated⟩ := process_created h
  have hstart := start_deliver env c w p.store
  rw [hcreated] at hstart
  obtain ⟨stage, hnew⟩ := hstart
  unfold WebhookProcess.commit
  rw [hstage, htodo]
  dsimp only
  rw [hnew]
  rfl

/-! ## The webhooks a call has still to serve -/

def WebhookWork.target : WebhookWork → Option UUID
  | .deliver _ webhook => some webhook.id
  | _ => none

def targets (todo : List WebhookWork) : List UUID := todo.filterMap WebhookWork.target

theorem targets_commit (env : WebhookEnv) (p : WebhookProcess) :
    (targets (p.commit env).todo).Sublist (targets p.todo) := by
  unfold targets
  rcases todo_commit env p with hsame | htail | hnone
  · rw [hsame]
  · rw [htail]
    exact (List.tail_sublist _).filterMap _
  · rw [hnone]
    exact List.nil_sublist _

theorem webhooks_sublist (env : WebhookEnv) (c : TriggerCall) (s : WebhookStore) :
    (c.webhooks env s).Sublist s.webhooks := by
  unfold TriggerCall.webhooks getActiveWebhooksForEvent queryWebhooks
  split
  · exact List.filter_sublist.trans List.filter_sublist
  · exact List.nil_sublist _

theorem targets_work (hwebhooks : (s.webhooks.map Webhook.id).Nodup) (op : WebhookOperation) :
    (targets (op.work env s)).Nodup := by
  -- only the items of a trigger have a webhook as their target
  have hnone : ∀ {α : Type} (f : α → WebhookWork) (l : List α), (∀ a, (f a).target = none) →
      (targets (l.map f)).Nodup := by
    intro α f l hf
    have hempty : targets (l.map f) = [] := by
      unfold targets
      rw [List.filterMap_map, List.filterMap_eq_nil_iff]
      exact fun a _ => hf a
    rw [hempty]
    exact List.nodup_nil
  have hone : ∀ item : WebhookWork, (targets [item]).Nodup := by
    intro item
    unfold targets
    cases h : item.target with
    | none => simp [h]
    | some id => simp [h]
  cases op with
  | trigger call =>
    have hids : targets ((call.webhooks env s).map (.deliver call)) =
        (call.webhooks env s).map Webhook.id := by
      unfold targets
      rw [List.filterMap_map]
      exact congrFun (List.filterMap_eq_map (f := Webhook.id)) _
    show (targets ((call.webhooks env s).map (.deliver call))).Nodup
    rw [hids]
    exact hwebhooks.sublist ((webhooks_sublist env call s).map Webhook.id)
  | dispatchTask deliveryId attempt => exact hone _
  | partitionedTask deliveryId partitionId backpressured attempt =>
    unfold WebhookOperation.work
    dsimp only
    split
    · exact hone _
    · exact List.nodup_nil
  | retryPending now attempts => exact hnone _ _ fun _ => rfl
  | retry webhookId deliveryId attempt =>
    unfold WebhookOperation.work
    dsimp only
    split
    · split
      · exact hone _
      · exact List.nodup_nil
    · exact List.nodup_nil
  | replay deliveryId now attempt => exact hone _
  | recover startTime endTime now attempts =>
    unfold WebhookOperation.work
    dsimp only
    split
    · exact List.nodup_nil
    · exact hnone _ _ fun _ => rfl

/-! ## What every state keeps -/

variable {t u : WebhookProcesses} {k : Nat}

/-- The stored identities, and where they come from. -/
structure WebhookProcesses.Tracked (env : WebhookEnv) (t : WebhookProcesses) : Prop where
  ids : (t.store.identities.map DeliveryIdentity.id).Nodup
  keys : (t.store.identities.map DeliveryIdentity.idempotencyKey).Nodup
  key_eq : ∀ x ∈ t.store.identities,
    x.idempotencyKey = generateIdempotencyKey env x.webhookId x.event x.eventTimestamp
  webhooks : (t.store.webhooks.map Webhook.id).Nodup
  origin : ∀ x ∈ t.store.identities, ∃ k < t.calls.length, t.origin x.id = some k
  targets : ∀ (k : Nat) (c : ServedCall), t.calls[k]? = some c → (targets c.todo).Nodup
  unserved : ∀ (k : Nat) (c : ServedCall), t.calls[k]? = some c →
    ∀ x ∈ t.store.identities, t.origin x.id = some k → x.webhookId ∉ NocIq.targets c.todo
  once : ∀ x ∈ t.store.identities, ∀ y ∈ t.store.identities,
    x.webhookId = y.webhookId → t.origin x.id = t.origin y.id → x = y

theorem WebhookProcesses.Tracked.wellFormed (h : t.Tracked env) : t.store.WellFormed :=
  (WebhookStore.wellFormed_iff t.store).mpr h.ids

theorem WebhookProcesses.Tracked.call (h : t.Tracked env) (op : WebhookOperation) :
    (t.step env (.call op)).Tracked env := by
  have hlast : ∀ (k : Nat) (c : ServedCall),
      (t.calls ++ [{ todo := op.work env t.store }])[k]? = some c →
      t.calls[k]? = some c ∨ k = t.calls.length ∧ c = { todo := op.work env t.store } := by
    intro k c hc
    rw [List.getElem?_append] at hc
    split at hc
    · exact .inl hc
    · rename_i hge
      obtain ⟨hk, hc⟩ := List.getElem?_eq_some_iff.mp hc
      rw [List.length_singleton] at hk
      refine .inr ⟨by omega, ?_⟩
      rw [← hc]
      simp
  refine { h with origin := ?_, targets := ?_, unserved := ?_ }
  · intro x hx
    obtain ⟨k, hk, horigin⟩ := h.origin x hx
    refine ⟨k, ?_, horigin⟩
    show k < (t.calls ++ [_]).length
    rw [List.length_append]
    omega
  · intro k c hc
    rcases hlast k c hc with hold | ⟨-, rfl⟩
    · exact h.targets k c hold
    · exact targets_work h.webhooks op
  · intro k c hc x hx horigin
    rcases hlast k c hc with hold | ⟨hk, -⟩
    · exact h.unserved k c hold x hx horigin
    · -- no delivery comes from a call that has just begun
      obtain ⟨k', hk', horigin'⟩ := h.origin x hx
      have heq : k' = k := Option.some.inj (horigin'.symm.trans horigin)
      omega

variable {c : ServedCall}

theorem targets_set {calls : List ServedCall} {c' : ServedCall} (hc : calls[k]? = some c)
    (hsub : (targets c'.todo).Sublist (targets c.todo)) {j : Nat} {b : ServedCall}
    (hb : (calls.set k c')[j]? = some b) :
    ∃ a, calls[j]? = some a ∧ (targets b.todo).Sublist (targets a.todo) := by
  rw [List.getElem?_set] at hb
  split at hb
  · rename_i hjk
    split at hb
    · obtain rfl := Option.some.inj hb
      exact ⟨c, hjk ▸ hc, hsub⟩
    · cases hb
  · exact ⟨b, hb, List.Sublist.refl _⟩

theorem WebhookProcesses.Tracked.crash (h : t.Tracked env) (k : Nat) :
    (t.step env (.crash k)).Tracked env := by
  have hcalls : ∀ {j : Nat} {b : ServedCall}, (t.calls.set k { todo := [] })[j]? = some b →
      ∃ a, t.calls[j]? = some a ∧ (NocIq.targets b.todo).Sublist (NocIq.targets a.todo) := by
    intro j b hb
    cases hc : t.calls[k]? with
    | none =>
      have hsame : t.calls.set k { todo := [] } = t.calls := by
        rw [List.set_eq_of_length_le]
        exact List.getElem?_eq_none_iff.mp hc
      rw [hsame] at hb
      exact ⟨b, hb, List.Sublist.refl _⟩
    | some c =>
      have hnil : (NocIq.targets ({ todo := [] } : ServedCall).todo).Sublist
          (NocIq.targets c.todo) := List.nil_sublist _
      exact targets_set hc hnil hb
  refine { h with origin := ?_, targets := ?_, unserved := ?_ }
  · intro x hx
    obtain ⟨j, hj, horigin⟩ := h.origin x hx
    refine ⟨j, ?_, horigin⟩
    show j < (t.calls.set k _).length
    rwa [List.length_set]
  · intro j b hb
    obtain ⟨a, ha, hsub⟩ := hcalls hb
    exact (h.targets j a ha).sublist hsub
  · intro j b hb x hx horigin hmem
    obtain ⟨a, ha, hsub⟩ := hcalls hb
    exact h.unserved j a ha x hx horigin (hsub.subset hmem)

theorem WebhookProcesses.Tracked.keep (h : t.Tracked env) (hc : t.calls[k]? = some c)
    (hcreated : (t.process c).created env = none) : (t.step env (.commit k)).Tracked env := by
  have hcommit := identities_commit env (t.process c) h.wellFormed
  rw [hcreated] at hcommit
  have hsame : ((t.process c).commit env).store.identities = t.store.identities :=
    hcommit.trans (List.append_nil _)
  have hwebhooks : ((t.process c).commit env).store.webhooks = t.store.webhooks :=
    webhooks_commit env (t.process c)
  have hsub : (NocIq.targets ((t.process c).commit env).todo).Sublist (NocIq.targets c.todo) :=
    targets_commit env (t.process c)
  rw [step_commit hc, hcreated]
  constructor
  · show (((t.process c).commit env).store.identities.map _).Nodup
    rw [hsame]
    exact h.ids
  · show (((t.process c).commit env).store.identities.map _).Nodup
    rw [hsame]
    exact h.keys
  · show ∀ x ∈ ((t.process c).commit env).store.identities, _
    rw [hsame]
    exact h.key_eq
  · show (((t.process c).commit env).store.webhooks.map _).Nodup
    rw [hwebhooks]
    exact h.webhooks
  · show ∀ x ∈ ((t.process c).commit env).store.identities, ∃ j < (t.calls.set k _).length, _
    rw [hsame, List.length_set]
    exact h.origin
  · intro j b hb
    obtain ⟨a, ha, hle⟩ := targets_set hc hsub hb
    exact (h.targets j a ha).sublist hle
  · show ∀ j b, (t.calls.set k _)[j]? = some b →
      ∀ x ∈ ((t.process c).commit env).store.identities, _
    rw [hsame]
    intro j b hb x hx horigin hmem
    obtain ⟨a, ha, hle⟩ := targets_set hc hsub hb
    exact h.unserved j a ha x hx horigin (hle.subset hmem)
  · show ∀ x ∈ ((t.process c).commit env).store.identities,
      ∀ y ∈ ((t.process c).commit env).store.identities, _
    rw [hsame]
    exact h.once

theorem nodup_column_concat {ρ κ : Type} {column : ρ → κ} {rows : List ρ} {row : ρ}
    (h : (rows.map column).Nodup) (hnew : ∀ x ∈ rows, column x ≠ column row) :
    ((rows ++ [row]).map column).Nodup := by
  rw [List.map_append, List.map_singleton, List.nodup_append]
  refine ⟨h, List.nodup_singleton _, ?_⟩
  intro i hi j hj
  obtain ⟨x, hx, rfl⟩ := List.mem_map.mp hi
  rw [List.mem_singleton.mp hj]
  exact hnew x hx

/-- One delivery of an origin for each webhook, with one more of an origin that has not served its
webhook. -/
theorem once_concat {rows : List DeliveryIdentity} {row : DeliveryIdentity}
    {origin origin' : UUID → Option Nat}
    (honce : ∀ x ∈ rows, ∀ y ∈ rows, x.webhookId = y.webhookId → origin x.id = origin y.id → x = y)
    (hold : ∀ x ∈ rows, origin' x.id = origin x.id)
    (hunserved : ∀ x ∈ rows, origin x.id = origin' row.id → x.webhookId ≠ row.webhookId) :
    ∀ x ∈ rows ++ [row], ∀ y ∈ rows ++ [row],
      x.webhookId = y.webhookId → origin' x.id = origin' y.id → x = y := by
  intro x hx y hy hw horigin
  rcases List.mem_append.mp hx with hx | hx
  · rcases List.mem_append.mp hy with hy | hy
    · rw [hold x hx, hold y hy] at horigin
      exact honce x hx y hy hw horigin
    · rw [List.mem_singleton.mp hy] at hw horigin
      rw [hold x hx] at horigin
      exact absurd hw (hunserved x hx horigin)
  · rcases List.mem_append.mp hy with hy | hy
    · rw [List.mem_singleton.mp hx] at hw horigin
      rw [hold y hy] at horigin
      exact absurd hw.symm (hunserved y hy horigin.symm)
    · rw [List.mem_singleton.mp hx, List.mem_singleton.mp hy]

theorem WebhookProcesses.Tracked.create (h : t.Tracked env) (hc : t.calls[k]? = some c)
    (hcreated : (t.process c).created env = some d) : (t.step env (.commit k)).Tracked env := by
  obtain ⟨call, w, todo, hstage, htodo, hnew⟩ := process_created hcreated
  have htodo' : c.todo = .deliver call w :: todo := htodo
  obtain ⟨-, hfree, payload, hpayload, hd⟩ := created_eq_some hnew
  have hcommit := identities_commit env (t.process c) h.wellFormed
  rw [hcreated] at hcommit
  have hrows : ((t.process c).commit env).store.identities =
      t.store.identities ++ [d.identity] := hcommit
  have hrest : ((t.process c).commit env).todo = todo := by
    rw [todo_created hcreated, htodo]
    rfl
  have hwebhook : d.identity.webhookId = w.id := by
    rw [hd]
    rfl
  have htargets : NocIq.targets c.todo = w.id :: NocIq.targets todo := by
    rw [htodo']
    rfl
  have hsub : (NocIq.targets ((t.process c).commit env).todo).Sublist (NocIq.targets c.todo) :=
    targets_commit env (t.process c)
  have hnodup := h.targets k c hc
  rw [htargets, List.nodup_cons] at hnodup
  obtain ⟨hklt, -⟩ := List.getElem?_eq_some_iff.mp hc
  -- the id and the key are new
  have hnewRow : ∀ x ∈ t.store.identities, x.id ≠ d.id ∧ x.idempotencyKey ≠ d.idempotencyKey := by
    intro x hx
    obtain ⟨r, hr, rfl⟩ := List.mem_map.mp hx
    exact ne_of_not_conflicts hfree hr
  have horiginOld : ∀ x ∈ t.store.identities,
      Function.update t.origin d.id (some k) x.id = t.origin x.id := by
    intro x hx
    exact Function.update_of_ne (hnewRow x hx).1 _ _
  have horiginNew : Function.update t.origin d.id (some k) d.identity.id = some k :=
    Function.update_self _ _ _
  -- the call has created nothing for this webhook before
  have hunserved : ∀ x ∈ t.store.identities, t.origin x.id = some k → x.webhookId ≠ w.id := by
    intro x hx horigin heq
    refine h.unserved k c hc x hx horigin ?_
    rw [htargets, heq]
    exact List.mem_cons_self
  rw [step_commit hc, hcreated]
  constructor
  · show (((t.process c).commit env).store.identities.map _).Nodup
    rw [hrows]
    exact nodup_column_concat h.ids fun x hx => (hnewRow x hx).1
  · show (((t.process c).commit env).store.identities.map _).Nodup
    rw [hrows]
    exact nodup_column_concat h.keys fun x hx => (hnewRow x hx).2
  · show ∀ x ∈ ((t.process c).commit env).store.identities, _
    rw [hrows, List.forall_mem_append, List.forall_mem_singleton]
    refine ⟨h.key_eq, ?_⟩
    rw [hd]
    rfl
  · show (((t.process c).commit env).store.webhooks.map _).Nodup
    rw [webhooks_commit]
    exact h.webhooks
  · show ∀ x ∈ ((t.process c).commit env).store.identities, ∃ j < (t.calls.set k _).length,
      Function.update t.origin d.id (some k) x.id = some j
    rw [hrows, List.length_set, List.forall_mem_append, List.forall_mem_singleton]
    refine ⟨?_, k, hklt, horiginNew⟩
    intro x hx
    rw [horiginOld x hx]
    exact h.origin x hx
  · intro j b hb
    obtain ⟨a, ha, hle⟩ := targets_set hc hsub hb
    exact (h.targets j a ha).sublist hle
  · show ∀ j b, (t.calls.set k _)[j]? = some b →
      ∀ x ∈ ((t.process c).commit env).store.identities,
        Function.update t.origin d.id (some k) x.id = some j → _
    rw [hrows]
    intro j b hb x hx horigin hmem
    rcases List.mem_append.mp hx with hx | hx
    · rw [horiginOld x hx] at horigin
      obtain ⟨a, ha, hle⟩ := targets_set hc hsub hb
      exact h.unserved j a ha x hx horigin (hle.subset hmem)
    · -- the new delivery is of the webhook that has just been served
      rw [List.mem_singleton.mp hx] at horigin hmem
      have hj : k = j := Option.some.inj (horiginNew.symm.trans horigin)
      rw [← hj, List.getElem?_set_self hklt] at hb
      rw [← Option.some.inj hb, hwebhook] at hmem
      dsimp only at hmem
      rw [hrest] at hmem
      exact hnodup.1 hmem
  · show ∀ x ∈ ((t.process c).commit env).store.identities,
      ∀ y ∈ ((t.process c).commit env).store.identities, x.webhookId = y.webhookId →
        Function.update t.origin d.id (some k) x.id =
          Function.update t.origin d.id (some k) y.id → x = y
    rw [hrows]
    refine once_concat h.once horiginOld ?_
    intro x hx horigin
    rw [horiginNew] at horigin
    rw [hwebhook]
    exact hunserved x hx horigin

/-- **Every step keeps the identities tracked.** -/
theorem WebhookProcesses.Tracked.step (h : t.Tracked env) (e : ProcessesEvent) :
    (t.step env e).Tracked env := by
  cases e with
  | call op => exact h.call op
  | commit k =>
    cases hc : t.calls[k]? with
    | none =>
      have hsame : t.step env (.commit k) = t := by
        unfold WebhookProcesses.step
        dsimp only
        rw [hc]
      rw [hsame]
      exact h
    | some c =>
      cases hcreated : (t.process c).created env with
      | none => exact h.keep hc hcreated
      | some d => exact h.create hc hcreated
  | crash k => exact h.crash k

/-! ## Runs -/

/-- What receivers rely on: two deliveries have one key exactly if they are of one webhook and one
call, and the timestamp in a payload is that of the event. -/
structure WebhookProcesses.IdentitiesAgree (env : WebhookEnv) (t : WebhookProcesses) : Prop where
  key : ∀ d ∈ t.store.deliveries, ∀ d' ∈ t.store.deliveries,
    d.idempotencyKey = d'.idempotencyKey ↔
      d.webhookId = d'.webhookId ∧ t.origin d.id = t.origin d'.id
  stamp : ∀ d ∈ t.store.deliveries, StampedWith env d.payload d.eventTimestamp

/-- The call and the webhook that the next commit of a call is for. -/
def WebhookProcesses.next (t : WebhookProcesses) (k : Nat) : Option (TriggerCall × Webhook) :=
  match t.calls[k]? with
  | some ⟨.idle, .deliver c w :: _⟩ => some (c, w)
  | _ => none

def FailsOnKey (env : WebhookEnv) (t : WebhookProcesses) : ProcessesEvent → Prop
  | .commit k =>
    ∃ x ∈ t.next k, x.1.Attempts env x.2 ∧
      ∃ d ∈ t.store.deliveries,
        d.idempotencyKey = generateIdempotencyKey env x.2.id x.1.event x.1.eventTimestamp
  | _ => False

instance (env : WebhookEnv) (t : WebhookProcesses) :
    (e : ProcessesEvent) → Decidable (FailsOnKey env t e)
  | .commit k =>
    inferInstanceAs (Decidable (∃ x ∈ t.next k, x.1.Attempts env x.2 ∧
      ∃ d ∈ t.store.deliveries,
        d.idempotencyKey = generateIdempotencyKey env x.2.id x.1.event x.1.eventTimestamp))
  | .call _ | .crash _ => inferInstanceAs (Decidable False)

/-- The call reads a time for its event that no earlier call for this event has read, as far as the
webhook has got deliveries, and the same time for its payload. -/
def ReadsOwnTime (env : WebhookEnv) (t : WebhookProcesses) : ProcessesEvent → Prop
  | .commit k =>
    ∀ x ∈ t.next k, x.1.Attempts env x.2 →
      (∀ d ∈ t.store.deliveries, d.webhookId = x.2.id → d.event = x.1.event →
        d.eventTimestamp ≠ x.1.eventTimestamp) ∧
      ((x.1.created env x.2 t.store).isSome = true → x.1.payloadTimestamp = x.1.eventTimestamp)
  | _ => True

instance (env : WebhookEnv) (t : WebhookProcesses) :
    (e : ProcessesEvent) → Decidable (ReadsOwnTime env t e)
  | .commit k =>
    inferInstanceAs (Decidable (∀ x ∈ t.next k, x.1.Attempts env x.2 →
      (∀ d ∈ t.store.deliveries, d.webhookId = x.2.id → d.event = x.1.event →
        d.eventTimestamp ≠ x.1.eventTimestamp) ∧
      ((x.1.created env x.2 t.store).isSome = true → x.1.payloadTimestamp = x.1.eventTimestamp)))
  | .call _ | .crash _ => inferInstanceAs (Decidable True)

/-- A timestamp of its own in every payload. -/
def WebhookProcesses.Stamped (env : WebhookEnv) (t : WebhookProcesses) : Prop :=
  ∀ x ∈ t.store.identities, StampedWith env x.payload x.eventTimestamp

theorem stamped_iff (t : WebhookProcesses) :
    t.Stamped env ↔ ∀ d ∈ t.store.deliveries, StampedWith env d.payload d.eventTimestamp := by
  unfold WebhookProcesses.Stamped WebhookStore.identities
  rw [List.forall_mem_map]
  exact Iff.rfl

theorem WebhookProcesses.Tracked.key_iff (h : t.Tracked env) (hd : d ∈ t.store.deliveries)
    (hd' : d' ∈ t.store.deliveries) :
    d.idempotencyKey = d'.idempotencyKey ↔
      d.webhookId = d'.webhookId ∧ t.origin d.id = t.origin d'.id := by
  have hx : d.identity ∈ t.store.identities := List.mem_map_of_mem hd
  have hy : d'.identity ∈ t.store.identities := List.mem_map_of_mem hd'
  constructor
  · intro hkey
    have hsame : d.identity = d'.identity := List.inj_on_of_nodup_map h.keys hx hy hkey
    have hid : d.id = d'.id := congrArg DeliveryIdentity.id hsame
    exact ⟨congrArg DeliveryIdentity.webhookId hsame, by rw [hid]⟩
  · rintro ⟨hwebhook, horigin⟩
    exact congrArg DeliveryIdentity.idempotencyKey (h.once _ hx _ hy hwebhook horigin)

theorem created_next (env : WebhookEnv) (hc : t.calls[k]? = some c) :
    (t.process c).created env = (t.next k).bind fun x => x.1.created env x.2 t.store := by
  unfold WebhookProcesses.next WebhookProcess.created
  rw [hc]
  obtain ⟨stage, todo⟩ := c
  cases stage with
  | idle =>
    cases todo with
    | nil => rfl
    | cons item todo => cases item <;> rfl
  | pending => rfl
  | begun => rfl

/-- The delivery that the step creates has one time. -/
def CreatesStamped (env : WebhookEnv) (t : WebhookProcesses) : ProcessesEvent → Prop
  | .commit k =>
    ∀ x ∈ t.next k, (x.1.created env x.2 t.store).isSome = true →
      x.1.payloadTimestamp = x.1.eventTimestamp
  | _ => True

theorem stamped_step_iff (henv : env.Lawful) (h : t.Tracked env) (hstamped : t.Stamped env)
    (e : ProcessesEvent) : (t.step env e).Stamped env ↔ CreatesStamped env t e := by
  cases e with
  | call op => exact iff_of_true hstamped trivial
  | crash k => exact iff_of_true hstamped trivial
  | commit k =>
    show _ ↔ ∀ x ∈ t.next k, (x.1.created env x.2 t.store).isSome = true →
      x.1.payloadTimestamp = x.1.eventTimestamp
    cases hc : t.calls[k]? with
    | none =>
      -- there is no call of this number
      have hsame : t.step env (.commit k) = t := by
        unfold WebhookProcesses.step
        dsimp only
        rw [hc]
      have hnone : t.next k = none := by
        unfold WebhookProcesses.next
        rw [hc]
      rw [hsame, hnone]
      exact iff_of_true hstamped fun x hx => absurd hx (Option.not_mem_none x)
    | some c =>
      have hnext := created_next env hc
      have hcommit := identities_commit env (t.process c) h.wellFormed
      have hrows : (t.step env (.commit k)).store.identities =
          t.store.identities ++
            ((t.process c).created env).toList.map WebhookDelivery.identity := by
        rw [step_commit hc]
        exact hcommit
      unfold WebhookProcesses.Stamped at hstamped ⊢
      rw [hrows, List.forall_mem_append, and_iff_right hstamped]
      cases hcreated : (t.process c).created env with
      | none =>
        refine iff_of_true (fun d hd => by cases hd) ?_
        intro x hx hsome
        rw [hnext, hx] at hcreated
        rw [show x.1.created env x.2 t.store = none from hcreated] at hsome
        cases hsome
      | some d =>
        rw [hnext] at hcreated
        obtain ⟨x, hx, hnew⟩ := Option.bind_eq_some_iff.mp hcreated
        obtain ⟨-, -, payload, hpayload, hd⟩ := created_eq_some hnew
        rw [payload_eq] at hpayload
        obtain ⟨data, -, rfl⟩ := Option.map_eq_some_iff.mp hpayload
        have hstamp : StampedWith env d.payload x.1.payloadTimestamp := by
          rw [hd]
          exact ⟨x.1.event, data, rfl⟩
        have htime : d.eventTimestamp = x.1.eventTimestamp := by rw [hd]; rfl
        -- the payload is dumped with the first reading of the clock, the row has the second one
        have hone : StampedWith env d.payload d.eventTimestamp ↔
            x.1.payloadTimestamp = x.1.eventTimestamp := by
          rw [htime]
          constructor
          · intro h'
            exact stampedWith_inj henv hstamp h'
          · intro heq
            exact heq ▸ hstamp
        simp only [Option.toList_some, List.map_singleton, List.forall_mem_singleton]
        refine hone.trans ?_
        constructor
        · intro heq y hy _
          obtain rfl := Option.some.inj (hx.symm.trans hy)
          exact heq
        · intro hall
          exact hall x hx (by rw [hnew]; rfl)

/-- A step reads a time of its own exactly if it does not fail on a key and stamps what it
creates. -/
theorem readsOwnTime_iff (henv : env.Lawful) (h : t.Tracked env) (e : ProcessesEvent) :
    ReadsOwnTime env t e ↔ ¬ FailsOnKey env t e ∧ CreatesStamped env t e := by
  cases e with
  | call op => exact iff_of_true trivial ⟨not_false, trivial⟩
  | crash k => exact iff_of_true trivial ⟨not_false, trivial⟩
  | commit k =>
    have hkey : ∀ d ∈ t.store.deliveries, d.idempotencyKey =
        generateIdempotencyKey env d.webhookId d.event d.eventTimestamp :=
      fun d hd => h.key_eq d.identity (List.mem_map_of_mem hd)
    constructor
    · intro hown
      refine ⟨?_, ?_⟩
      · rintro ⟨x, hx, hattempts, d, hd, hfails⟩
        rw [hkey d hd] at hfails
        obtain ⟨hw, hevent, ht⟩ := generateIdempotencyKey_inj henv hfails
        exact (hown x hx hattempts).1 d hd hw hevent ht
      · intro x hx hsome
        obtain ⟨d, hd⟩ := Option.isSome_iff_exists.mp hsome
        exact (hown x hx (created_eq_some hd).1).2 hsome
    · rintro ⟨hunique, hstamps⟩ x hx hattempts
      refine ⟨?_, hstamps x hx⟩
      intro d hd hw hevent ht
      refine hunique ⟨x, hx, hattempts, d, hd, ?_⟩
      rw [hkey d hd, hw, hevent, ht]

/-- **Delivery identity.** In a run that starts without deliveries, keys and timestamps agree in
every state and no insertion fails on its key exactly if every call reads a time of its own. -/
theorem identitiesAgree_iff (henv : env.Lawful) {t₀ : WebhookProcesses}
    (hdeliveries : t₀.store.deliveries = []) (hcalls : t₀.calls = [])
    (hwebhooks : (t₀.store.webhooks.map Webhook.id).Nodup)
    {steps : List (WebhookProcesses × ProcessesEvent)} (hrun : ProcessesRun env t₀ steps u) :
    ((∀ t ∈ Runs.visited steps u, t.IdentitiesAgree env) ∧
        ∀ x ∈ steps, ¬ FailsOnKey env x.1 x.2) ↔
      ∀ x ∈ steps, ReadsOwnTime env x.1 x.2 := by
  have hnone : t₀.store.identities = [] := by
    unfold WebhookStore.identities
    rw [hdeliveries]
    rfl
  have htracked : t₀.Tracked env := by
    constructor
    · simp [hnone]
    · simp [hnone]
    · simp [hnone]
    · exact hwebhooks
    · simp [hnone]
    · simp [hcalls]
    · simp [hcalls]
    · simp [hnone]
  have hstamped : t₀.Stamped env := by
    unfold WebhookProcesses.Stamped
    rw [hnone]
    exact nofun
  have hkeep : ∀ (t : WebhookProcesses) (e : ProcessesEvent) (u : WebhookProcesses),
      t.Tracked env → t.step env e = u → u.Tracked env := by
    intro t e u h hstep
    exact hstep ▸ h.step e
  have hvisited : ∀ t ∈ Runs.visited steps u, t.Tracked env :=
    hrun.invariant_visited htracked hkeep
  have hforall := hrun.forall_iff (P := fun t => t.Stamped env) (C := CreatesStamped env) htracked
    hstamped hkeep fun t e u h hst hstep => hstep ▸ stamped_step_iff henv h hst e
  have hagree : (∀ t ∈ Runs.visited steps u, t.IdentitiesAgree env) ↔
      ∀ x ∈ steps, CreatesStamped env x.1 x.2 := by
    rw [← hforall]
    refine Iff.trans ?_ (Runs.forall_mem_visited (P := WebhookProcesses.Stamped env))
    refine forall₂_congr ?_
    intro t ht
    have h := hvisited t ht
    rw [stamped_iff]
    exact ⟨fun hall => hall.stamp, fun hall => ⟨fun d hd d' hd' => h.key_iff hd hd', hall⟩⟩
  rw [hagree, ← forall₂_and]
  refine forall₂_congr ?_
  intro x hx
  rw [readsOwnTime_iff henv (hrun.invariant_steps htracked hkeep x hx)]
  exact And.comm

/-! ### One second of the clock -/

/-- The last `k` digits of `n`, for a base up to 16. -/
def lastDigits (base : Nat) : Nat → Nat → List Char
  | 0, _ => []
  | k + 1, n => lastDigits base k (n / base) ++ [Json.hexDigit (n % base)]

theorem hexDigit_inj : ∀ m < 16, ∀ n < 16, Json.hexDigit m = Json.hexDigit n → m = n := by decide

theorem hexDigit_plain : ∀ n < 16, Json.hexDigit n ≠ '-' ∧ Json.hexDigit n ≠ ':' ∧
    Json.hexDigit n ≠ doubleQuote := by decide

variable {base : Nat}

theorem length_lastDigits (base k n : Nat) : (lastDigits base k n).length = k := by
  induction k generalizing n with
  | zero => rfl
  | succ k ih => simp [lastDigits, ih]

theorem mem_lastDigits (hbase : 0 < base ∧ base ≤ 16) {k n : Nat} {c : Char}
    (h : c ∈ lastDigits base k n) : ∃ m < 16, c = Json.hexDigit m := by
  induction k generalizing n with
  | zero => cases h
  | succ k ih =>
    rcases List.mem_append.mp h with h | h
    · exact ih h
    · have hlt := Nat.mod_lt n hbase.1
      exact ⟨n % base, by omega, List.mem_singleton.mp h⟩

theorem lastDigits_inj (hbase : 0 < base ∧ base ≤ 16) {k m n : Nat} (hm : m < base ^ k)
    (hn : n < base ^ k) (h : lastDigits base k m = lastDigits base k n) : m = n := by
  induction k generalizing m n with
  | zero =>
    rw [pow_zero] at hm hn
    omega
  | succ k ih =>
    obtain ⟨hinit, hlast⟩ := List.append_inj' h rfl
    have hmod : m % base = n % base := by
      have hm' := Nat.mod_lt m hbase.1
      have hn' := Nat.mod_lt n hbase.1
      exact hexDigit_inj _ (by omega) _ (by omega) (List.singleton_inj.mp hlast)
    rw [pow_succ] at hm hn
    have hdiv : m / base = n / base :=
      ih (Nat.div_lt_of_lt_mul (by rwa [Nat.mul_comm] at hm))
        (Nat.div_lt_of_lt_mul (by rwa [Nat.mul_comm] at hn)) hinit
    rw [← Nat.div_add_mod m base, ← Nat.div_add_mod n base, hdiv, hmod]

/-- `str(uuid)`. -/
def uuidStr (id : UUID) : String :=
  let digits := lastDigits 16 32 id.toNat
  let part (start length : Nat) := (digits.drop start).take length
  String.ofList (part 0 8 ++ '-' :: (part 8 4 ++ '-' :: (part 12 4 ++ '-' :: (part 16 4 ++
    '-' :: part 20 12))))

theorem mem_uuidStr {id : UUID} {c : Char} (h : c ∈ (uuidStr id).toList) :
    c = '-' ∨ ∃ m < 16, c = Json.hexDigit m := by
  have hpart : ∀ start length : Nat,
      c ∈ ((lastDigits 16 32 id.toNat).drop start).take length → ∃ m < 16, c = Json.hexDigit m := by
    intro start length hmem
    exact mem_lastDigits (by decide) (List.mem_of_mem_drop (List.mem_of_mem_take hmem))
  unfold uuidStr at h
  simp only [String.toList_ofList, List.mem_append, List.mem_cons] at h
  rcases h with h | h | h | h | h | h | h | h | h
  · exact .inr (hpart _ _ h)
  · exact .inl h
  · exact .inr (hpart _ _ h)
  · exact .inl h
  · exact .inr (hpart _ _ h)
  · exact .inl h
  · exact .inr (hpart _ _ h)
  · exact .inl h
  · exact .inr (hpart _ _ h)

theorem filter_uuidStr (id : UUID) :
    (uuidStr id).toList.filter (fun c => decide (c ≠ '-')) = lastDigits 16 32 id.toNat := by
  have hpart : ∀ start length : Nat,
      (((lastDigits 16 32 id.toNat).drop start).take length).filter (fun c => decide (c ≠ '-')) =
        ((lastDigits 16 32 id.toNat).drop start).take length := by
    intro start length
    rw [List.filter_eq_self]
    intro c hc
    obtain ⟨m, hm, rfl⟩ :=
      mem_lastDigits (by decide) (List.mem_of_mem_drop (List.mem_of_mem_take hc))
    exact decide_eq_true (hexDigit_plain m hm).1
  have hlength := length_lastDigits 16 32 id.toNat
  unfold uuidStr
  simp only [String.toList_ofList, List.filter_append, List.filter_cons, hpart]
  generalize lastDigits 16 32 id.toNat = digits at hlength ⊢
  have hjoin : ∀ start length : Nat, (digits.drop start).take length ++
      digits.drop (start + length) = digits.drop start := by
    intro start length
    rw [← List.drop_drop, List.take_append_drop]
  have hend : (digits.drop 20).take 12 = digits.drop 20 := by
    rw [List.take_of_length_le]
    rw [List.length_drop]
    omega
  have hdash : decide (('-' : Char) ≠ '-') = false := by decide
  simp only [hdash, hend, Bool.false_eq_true, if_false, List.drop_zero]
  rw [hjoin 16 4, hjoin 12 4, hjoin 8 4, List.take_append_drop]

theorem uuidStr_inj : Function.Injective uuidStr := by
  intro id id' h
  have hdigits := filter_uuidStr id
  rw [h, filter_uuidStr] at hdigits
  have hlt : ∀ id : UUID, id.toNat < 16 ^ 32 := fun id => lt_of_lt_of_eq id.isLt (by norm_num)
  have hnat := lastDigits_inj (by decide) (hlt id) (hlt id') hdigits.symm
  exact BitVec.eq_of_toNat_eq hnat

/-- `isoformat` in the first second of 1970, and some other text at other times. -/
def secondText (t : Int) : String :=
  if 0 < t ∧ t < 1000000 then
    "1970-01-01T00:00:00." ++ String.ofList (lastDigits 10 6 t.toNat)
  else String.ofList ((if t < 0 then '-' else '+') :: List.replicate t.natAbs 'x')

/-- SHA-256 of the key of the webhook 1 and an SLA violation at the time 5, and some other text of
every other one. -/
def violationHash (text : String) : String :=
  if text = "00000000-0000-0000-0000-000000000001:sla.violation:1970-01-01T00:00:00.000005" then
    "24438c8f356d5c64bde449e0680fa29ae04a4b1cc9bdf8d9c19b3ae25139507c"
  else "x" ++ text

theorem secondText_inside {t : Int} (h : 0 < t ∧ t < 1000000) :
    (secondText t).toList = "1970-01-01T00:00:00.".toList ++ lastDigits 10 6 t.toNat := by
  unfold secondText
  rw [if_pos h, String.toList_append, String.toList_ofList (l := lastDigits 10 6 t.toNat)]

theorem secondText_outside {t : Int} (h : ¬ (0 < t ∧ t < 1000000)) :
    (secondText t).toList =
      (if t < 0 then '-' else '+') :: List.replicate t.natAbs 'x' := by
  unfold secondText
  rw [if_neg h, String.toList_ofList]

theorem secondText_ne {t t' : Int} (h : 0 < t ∧ t < 1000000) (h' : ¬ (0 < t' ∧ t' < 1000000)) :
    secondText t ≠ secondText t' := by
  intro heq
  have hlists := congrArg String.toList heq
  rw [secondText_inside h, secondText_outside h'] at hlists
  have hhead : '1' = if t' < 0 then '-' else '+' := (List.cons.inj hlists).1
  split at hhead
  · exact absurd hhead (by decide)
  · exact absurd hhead (by decide)

theorem secondText_inj : Function.Injective secondText := by
  intro t t' heq
  by_cases h : 0 < t ∧ t < 1000000
  · by_cases h' : 0 < t' ∧ t' < 1000000
    · have hlists := congrArg String.toList heq
      rw [secondText_inside h, secondText_inside h'] at hlists
      have hdigits := List.append_cancel_left hlists
      have hnat := lastDigits_inj (by decide) (by omega) (by omega) hdigits
      omega
    · exact absurd heq (secondText_ne h h')
  · by_cases h' : 0 < t' ∧ t' < 1000000
    · exact absurd heq.symm (secondText_ne h' h)
    · have hlists := congrArg String.toList heq
      rw [secondText_outside h, secondText_outside h'] at hlists
      obtain ⟨hsign, hunary⟩ := List.cons.inj hlists
      have habs : t.natAbs = t'.natAbs := by
        have hlength := congrArg List.length hunary
        rwa [List.length_replicate, List.length_replicate] at hlength
      have hneg : t < 0 ↔ t' < 0 := by
        by_cases ht : t < 0
        · by_cases ht' : t' < 0
          · exact iff_of_true ht ht'
          · rw [if_pos ht, if_neg ht'] at hsign
            exact absurd hsign (by decide)
        · by_cases ht' : t' < 0
          · rw [if_neg ht, if_pos ht'] at hsign
            exact absurd hsign (by decide)
          · exact iff_of_false ht ht'
      omega

theorem violationHash_inj : Function.Injective violationHash := by
  have hother : ∀ text : String,
      "24438c8f356d5c64bde449e0680fa29ae04a4b1cc9bdf8d9c19b3ae25139507c" ≠ "x" ++ text := by
    intro text heq
    have hlists := congrArg String.toList heq
    rw [String.toList_append] at hlists
    exact absurd (List.cons.inj hlists).1 (by decide)
  intro a b heq
  unfold violationHash at heq
  split at heq
  · rename_i ha
    split at heq
    · rename_i hb
      rw [ha, hb]
    · exact absurd heq (hother b)
  · split at heq
    · exact absurd heq.symm (hother a)
    · have hlists := congrArg String.toList heq
      rw [String.toList_append, String.toList_append] at hlists
      exact String.toList_inj.mp (List.append_cancel_left hlists)

def secondEnv : WebhookEnv where
  containmentOnText := true
  hmacSha256 _ _ := ""
  sha256 := violationHash
  isoformat := secondText
  uuidText := uuidStr

theorem secondEnv_lawful : secondEnv.Lawful where
  sha256 := violationHash_inj
  uuidText := uuidStr_inj
  uuidText_colon := by
    intro id h
    rcases mem_uuidStr h with hdash | ⟨m, hm, hdigit⟩
    · exact absurd hdash (by decide)
    · exact (hexDigit_plain m hm).2.1 hdigit.symm
  isoformat := secondText_inj
  isoformat_quote := by
    intro t h
    change doubleQuote ∈ (secondText t).toList at h
    by_cases ht : 0 < t ∧ t < 1000000
    · rw [secondText_inside ht] at h
      rcases List.mem_append.mp h with hdate | hdigit
      · exact absurd hdate (by decide)
      · obtain ⟨m, hm, hquote⟩ := mem_lastDigits (by decide) hdigit
        exact (hexDigit_plain m hm).2.2 hquote.symm
    · rw [secondText_outside ht] at h
      rcases List.mem_cons.mp h with hsign | hx
      · split at hsign
        · exact absurd hsign (by decide)
        · exact absurd hsign (by decide)
      · exact absurd (List.eq_of_mem_replicate hx) (by decide)

/-- A call for a violation, with its two readings of the clock. -/
def timedViolation (deliveryId : UUID) (eventTimestamp payloadTimestamp : Time)
    (attempt : Attempt) : WebhookOperation :=
  .trigger
    { event := .slaViolation
      eventTimestamp
      payloadTimestamp
      data := some "\x7b\x7d"
      cachedEvents := fun _ => none
      fanOut := fun _ =>
        { deliveryId, url := .valid, backpressured := false, createdAt := 6, attempt } }

/-- Two calls read the same time: the insertion of the second one fails. -/
theorem equal_times_fail_on_key :
    ¬ ∀ (env : WebhookEnv) (t₀ : WebhookProcesses)
        (steps : List (WebhookProcesses × ProcessesEvent)) (u : WebhookProcesses),
      env.Lawful → t₀.store.deliveries = [] → t₀.calls = [] →
        (t₀.store.webhooks.map Webhook.id).Nodup → ProcessesRun env t₀ steps u →
          (∀ t ∈ Runs.visited steps u, t.IdentitiesAgree env) ∧
            ∀ x ∈ steps, ¬ FailsOnKey env x.1 x.2 := by
  intro hall
  let events : List ProcessesEvent :=
    [.call (timedViolation 7 5 5 (answered 200)), .call (timedViolation 8 5 5 (answered 200)),
      .commit 0, .commit 1]
  have hrun := Runs.replay_run (WebhookProcesses.step secondEnv) { store := oneWebhook } events
  have hunique := (hall secondEnv _ _ _ secondEnv_lawful rfl rfl (by decide) hrun).2
  exact absurd hunique (by decide +kernel)

/-- A delivery that fails once and is retried, with one time for its event and its payload. -/
theorem identitiesAgree_retriedViolation :
    let events : List ProcessesEvent :=
      [.call (timedViolation 7 5 5 (answered 503)), .commit 0, .commit 0, .commit 0,
        .call (.retryPending 1000000000 fun _ => answered 200), .commit 1, .commit 1]
    let steps := Runs.replay (WebhookProcesses.step secondEnv) { store := oneWebhook } events
    (∀ t ∈ Runs.visited steps
          (events.foldl (WebhookProcesses.step secondEnv) { store := oneWebhook }),
        t.IdentitiesAgree secondEnv) ∧
      ∀ x ∈ steps, ¬ FailsOnKey secondEnv x.1 x.2 := by
  intro events steps
  have hrun := Runs.replay_run (WebhookProcesses.step secondEnv) { store := oneWebhook } events
  have hown : ∀ x ∈ steps, ReadsOwnTime secondEnv x.1 x.2 := by decide +kernel
  exact (identitiesAgree_iff secondEnv_lawful rfl rfl (by decide) hrun).mpr hown

end NocIq
