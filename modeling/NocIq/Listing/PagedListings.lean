import NocIq.Lib.OffsetPages
import NocIq.Outage.Timeline
import NocIq.Payment.CursorPages
import NocIq.Webhook.Schema

/-!
# NocIq — the listings with a page number or an offset

`PaymentRepository.list`, `OutageEventRepository.list_for_outage`, `list_webhook_deliveries` and
`list_webhooks` read a page with `OFFSET` and `LIMIT`. Payments and deliveries are ordered by
`created_at` only, events by `occurred_at` only, webhooks not at all; how the database orders the
rows that remain is the argument `deliver` of each listing.

* **`paymentPages_iff`** / **`eventPages_iff`** / **`deliveryPages_iff`** / **`webhookPages_iff`** —
  each listing is one of `OffsetPages`, with the rows it can show.
* **`offset_pages_partition_iff`** — when the pages of the four have every matching row once.
-/

namespace NocIq

open OffsetPages

/-! ## `PaymentRepository.list` -/

structure PaymentListFilters extends PaymentFilters where
  dateFrom : Option Time := none
  dateTo : Option Time := none

/-- `payment_transactions`, with its primary key. -/
structure PaymentTable where
  rows : List PaymentRow
  ids_nodup : (rows.map (·.id)).Nodup

namespace PaymentTable

/-- The query of the listing, without its order. -/
def matching (filters : PaymentListFilters) (table : PaymentTable) : List PaymentRow :=
  let query := CursorPages.filterBy filters.status (fun r => some r.status) table.rows
  let query := CursorPages.filterBy filters.outageId (fun r => r.outageId) query
  let query := CursorPages.filterBy filters.type (fun r => some r.type) query
  query.filter fun r =>
    filters.dateFrom.all (fun t => decide (t ≤ r.createdAt)) &&
      filters.dateTo.all (fun t => decide (r.createdAt ≤ t))

def list (deliver : List PaymentRow → List PaymentRow) (page pageSize : Nat)
    (filters : PaymentListFilters) (table : PaymentTable) :
    Except Exc (List PaymentTransaction × Nat) := do
  let query := table.matching filters
  let total := query.length
  let rows := window ((page - 1) * pageSize) pageSize (deliver query)
  let items ← rows.mapM CursorPages.ormToPydantic
  return (items, total)

/-- The pages 1, 2, … have every matching payment once, in whatever order each query has them. -/
def PagesExact (table : PaymentTable) (filters : PaymentListFilters) (pageSize : Nat) : Prop :=
  let query := table.matching filters
  ∀ deliver : Nat → List PaymentRow → List PaymentRow,
    (∀ n, OffsetPages.Delivers (descending PaymentRow.createdAt) query (deliver n query)) →
    ∀ r ∈ query,
      ShownOnce (fun n => (table.list (deliver n) (n + 1) pageSize filters).toOption.map Prod.fst)
        PaymentTransaction.id r.id

end PaymentTable

/-! ## `OutageEventRepository.list_for_outage` -/

structure EventFilters where
  eventType : Option String := none
  startDate : Option Time := none
  endDate : Option Time := none

/-- `outage_events`, with its primary key. -/
structure OutageEventTable where
  rows : List OutageEventORM
  ids_nodup : (rows.map (·.id)).Nodup

namespace OutageEventTable

/-- The query of the listing, without its order. -/
def matching (outageId : String) (filters : EventFilters) (table : OutageEventTable) :
    List OutageEventORM :=
  table.rows.filter fun e =>
    decide (e.outageId = outageId ∧ (∀ t ∈ filters.eventType, t ≠ "" → e.eventType = t) ∧
      (∀ t ∈ filters.startDate, t ≤ e.occurredAt) ∧ ∀ t ∈ filters.endDate, e.occurredAt ≤ t)

def listForOutage (env : TimelineEnv) (deliver : List OutageEventORM → List OutageEventORM)
    (outageId : String) (filters : EventFilters) (page pageSize : Nat)
    (table : OutageEventTable) : Option OutageEventRepository.TimelinePage :=
  let query := table.matching outageId filters
  let rows := window ((page - 1) * pageSize) pageSize (deliver query)
  (rows.mapM (OutageEventRepository.item env)).map fun items =>
    { items, total := query.length, page, pageSize }

theorem listForOutage_mergeSort (env : TimelineEnv) (outageId : String) (filters : EventFilters)
    (page pageSize : Nat) (table : OutageEventTable) :
    table.listForOutage env (fun l => l.mergeSort fun a b => decide (a.occurredAt ≤ b.occurredAt))
        outageId filters page pageSize =
      OutageEventRepository.listForOutage env outageId filters.eventType filters.startDate
        filters.endDate page pageSize { events := table.rows } := by
  unfold listForOutage OutageEventRepository.listForOutage OutageEventRepository.query
  dsimp only
  rw [List.length_mergeSort]
  rfl

/-- The pages 1, 2, … have every matching event once, in whatever order each query has them. -/
def PagesExact (env : TimelineEnv) (table : OutageEventTable) (outageId : String)
    (filters : EventFilters) (pageSize : Nat) : Prop :=
  let query := table.matching outageId filters
  ∀ deliver : Nat → List OutageEventORM → List OutageEventORM,
    (∀ n, OffsetPages.Delivers (ascending OutageEventORM.occurredAt) query (deliver n query)) →
    ∀ e ∈ query,
      ShownOnce
        (fun n => (table.listForOutage env (deliver n) outageId filters (n + 1) pageSize).map
          OutageEventRepository.TimelinePage.items)
        OutageEventRepository.OutageEventItem.id e.id

end OutageEventTable

/-! ## The webhook tables -/

/-- The columns of `webhooks` that the listing reads; `events` is the stored text. -/
structure WebhookRow where
  id : UUID
  name : String
  url : String
  isActive : Bool := true
  events : String
  maxRetries : Int := 3
  secretVersion : Int := 1
  lastSecretRotationAt : Option Time := none
  rotationGraceExpiresAt : Option Time := none
  deriving DecidableEq, Repr

/-- `webhooks` and `webhook_deliveries`, with their keys. -/
structure WebhookTables where
  webhooks : List WebhookRow
  deliveries : List WebhookDelivery := []
  webhook_ids_nodup : (webhooks.map (·.id)).Nodup
  delivery_ids_nodup : (deliveries.map (·.id)).Nodup
  webhook_fkey : ∀ d ∈ deliveries, d.webhookId ∈ webhooks.map (·.id)

/-- What the database computes: `text ILIKE pattern`, and the text of a UUID. -/
structure SqlText where
  ilike : String → String → Bool
  uuidText : UUID → String

/-- The columns of the webhook tables have no time zone. -/
def columnIsoformat (t : Time) : String := (Datetime.naive t).isoformat

/-! ## `list_webhook_deliveries` -/

structure DeliveryFilters where
  status : Option WebhookDeliveryStatus := none
  event : Option WebhookEvent := none
  search : Option String := none
  createdAfter : Option Time := none
  createdBefore : Option Time := none
  deliveredAfter : Option Time := none
  deliveredBefore : Option Time := none

structure WebhookDeliveryResponse where
  id : UUID
  webhookId : UUID
  event : WebhookEvent
  status : WebhookDeliveryStatus
  attemptCount : Nat
  responseStatusCode : Option Nat
  errorMessage : Option String
  deliveredAt : Option String
  deadLetteredAt : Option String
  signatureVersion : Int
  idempotencyKey : String
  eventTimestamp : String
  createdAt : String
  deriving DecidableEq, Repr

structure PaginatedWebhookDeliveries where
  items : List WebhookDeliveryResponse
  total : Nat
  offset : Nat
  limit : Nat
  returned : Nat
  hasMore : Bool
  deriving DecidableEq, Repr

def serializeDelivery (delivery : WebhookDelivery) : WebhookDeliveryResponse where
  id := delivery.id
  webhookId := delivery.webhookId
  event := delivery.event
  status := delivery.status
  attemptCount := delivery.attemptCount
  responseStatusCode := delivery.responseStatusCode
  errorMessage := delivery.errorMessage
  deliveredAt := delivery.deliveredAt.map columnIsoformat
  deadLetteredAt := delivery.deadLetteredAt.map columnIsoformat
  signatureVersion := delivery.signatureVersion
  idempotencyKey := delivery.idempotencyKey
  eventTimestamp := columnIsoformat delivery.eventTimestamp
  createdAt := columnIsoformat delivery.createdAt

/-- The `or_(…)` of the search; a comparison with NULL lets no row pass. -/
def DeliveryFilters.found (sql : SqlText) (search : Option String) (d : WebhookDelivery) : Bool :=
  match search with
  | none => true
  | some search =>
    if search = "" then true
    else
      let searchTerm := s!"%{search}%"
      sql.ilike (sql.uuidText d.id) searchTerm ||
        d.errorMessage.any (fun message => sql.ilike message searchTerm) ||
        d.responseStatusCode.any fun code => sql.ilike (toString code) searchTerm

namespace WebhookTables

/-- The query of the deliveries, without its order. -/
def matchingDeliveries (sql : SqlText) (webhookId : UUID) (filters : DeliveryFilters)
    (tables : WebhookTables) : List WebhookDelivery :=
  tables.deliveries.filter fun d =>
    decide (d.webhookId = webhookId) &&
      filters.status.all (fun status => decide (d.status = status)) &&
      filters.event.all (fun event => decide (d.event = event)) &&
      filters.createdAfter.all (fun t => decide (t ≤ d.createdAt)) &&
      filters.createdBefore.all (fun t => decide (d.createdAt ≤ t)) &&
      filters.deliveredAfter.all (fun t => d.deliveredAt.any fun at' => decide (t ≤ at')) &&
      filters.deliveredBefore.all (fun t => d.deliveredAt.any fun at' => decide (at' ≤ t)) &&
      DeliveryFilters.found sql filters.search d

def listWebhookDeliveries (sql : SqlText) (deliver : List WebhookDelivery → List WebhookDelivery)
    (webhookId : UUID) (filters : DeliveryFilters) (limit offset : Nat) (tables : WebhookTables) :
    Except Exc PaginatedWebhookDeliveries :=
  if webhookId ∈ tables.webhooks.map (·.id) then
    let query := tables.matchingDeliveries sql webhookId filters
    let total := query.length
    let items := (window offset limit (deliver query)).map serializeDelivery
    .ok
      { items, total, offset, limit
        returned := items.length
        hasMore := decide (offset + items.length < total) }
  else .error (.http 404 "Webhook not found.")

/-- The pages at the offsets 0, `limit`, … have every matching delivery once. -/
def DeliveryPagesExact (sql : SqlText) (tables : WebhookTables) (webhookId : UUID)
    (filters : DeliveryFilters) (limit : Nat) : Prop :=
  let query := tables.matchingDeliveries sql webhookId filters
  ∀ deliver : Nat → List WebhookDelivery → List WebhookDelivery,
    (∀ n, OffsetPages.Delivers (descending WebhookDelivery.createdAt) query (deliver n query)) →
    ∀ d ∈ query,
      ShownOnce
        (fun n => (tables.listWebhookDeliveries sql (deliver n) webhookId filters limit
          (n * limit)).toOption.map PaginatedWebhookDeliveries.items)
        WebhookDeliveryResponse.id d.id

end WebhookTables

/-! ## `list_webhooks` -/

structure WebhookFilters where
  isActive : Option Bool := none
  name : Option String := none

structure WebhookResponse where
  id : UUID
  name : String
  url : String
  isActive : Bool
  events : List String
  maxRetries : Int
  schemaVersion : String := "1"
  secretVersion : Int
  lastSecretRotationAt : Option String
  rotationGraceExpiresAt : Option String
  deriving DecidableEq, Repr

/-- The stored events as the `List[str]` of the response. Text that `json.loads` refuses counts as no
events; what it reads is refused if it is no list of texts, also a `NaN` or a lone surrogate. -/
def decodeEvents (floats : Json.FloatText) (events : String) : Except Exc (List String) :=
  match Json.loads floats events.toList with
  | none => .ok []
  | some (.arr items) => items.mapM eventText
  | some _ => .error (.validationError ["events"])
where
  eventText : Json.Value → Except Exc String
    | .str event => .ok event
    | _ => .error (.validationError ["events"])

def serializeWebhook (floats : Json.FloatText) (webhook : WebhookRow) :
    Except Exc WebhookResponse := do
  let events ← decodeEvents floats webhook.events
  return {
    id := webhook.id
    name := webhook.name
    url := webhook.url
    isActive := webhook.isActive
    events
    maxRetries := webhook.maxRetries
    secretVersion := webhook.secretVersion
    lastSecretRotationAt := webhook.lastSecretRotationAt.map columnIsoformat
    rotationGraceExpiresAt := webhook.rotationGraceExpiresAt.map columnIsoformat }

namespace WebhookTables

def matchingWebhooks (sql : SqlText) (filters : WebhookFilters) (tables : WebhookTables) :
    List WebhookRow :=
  tables.webhooks.filter fun w =>
    filters.isActive.all (fun isActive => decide (w.isActive = isActive)) &&
      filters.name.all fun name => decide (name = "") || sql.ilike w.name s!"%{name}%"

def listWebhooks (sql : SqlText) (floats : Json.FloatText)
    (deliver : List WebhookRow → List WebhookRow) (filters : WebhookFilters) (page pageSize : Nat)
    (tables : WebhookTables) : Except Exc (List WebhookResponse) :=
  let query := tables.matchingWebhooks sql filters
  let offset := (page - 1) * pageSize
  (window offset pageSize (deliver query)).mapM (serializeWebhook floats)

/-- The pages 1, 2, … have every matching webhook once, in whatever order each query has them. -/
def WebhookPagesExact (sql : SqlText) (floats : Json.FloatText) (tables : WebhookTables)
    (filters : WebhookFilters) (pageSize : Nat) : Prop :=
  let query := tables.matchingWebhooks sql filters
  ∀ deliver : Nat → List WebhookRow → List WebhookRow,
    (∀ n, OffsetPages.Delivers unordered query (deliver n query)) →
    ∀ w ∈ query,
      ShownOnce
        (fun n =>
          (tables.listWebhooks sql floats (deliver n) filters (n + 1) pageSize).toOption)
        WebhookResponse.id w.id

end WebhookTables

/-! ## When the pages are exact -/

theorem nodup_ids_filter {ρ ι : Type} {id : ρ → ι} {rows : List ρ} (h : (rows.map id).Nodup)
    {query : List ρ} (hsub : query.Sublist rows) : (query.map id).Nodup :=
  (hsub.map id).nodup h

theorem CursorPages.filterBy_sublist (value : Option String) (column : PaymentRow → Option String)
    (query : List PaymentRow) : (CursorPages.filterBy value column query).Sublist query := by
  unfold CursorPages.filterBy
  split
  · exact List.Sublist.refl query
  · split
    · exact List.Sublist.refl query
    · exact List.filter_sublist

theorem PaymentTable.matching_sublist (filters : PaymentListFilters) (table : PaymentTable) :
    (table.matching filters).Sublist table.rows := by
  unfold PaymentTable.matching
  refine List.filter_sublist.trans ((CursorPages.filterBy_sublist _ _ _).trans ?_)
  exact (CursorPages.filterBy_sublist _ _ _).trans (CursorPages.filterBy_sublist _ _ _)

theorem CursorPages.isSome_ormToPydantic (r : PaymentRow) :
    (CursorPages.ormToPydantic r).toOption.isSome ↔ r.outageId.isSome := by
  unfold CursorPages.ormToPydantic
  cases r.outageId with
  | none => exact Iff.rfl
  | some outageId => exact iff_of_true rfl rfl

theorem CursorPages.id_of_ormToPydantic {r : PaymentRow} {p : PaymentTransaction}
    (h : (CursorPages.ormToPydantic r).toOption = some p) : p.id = r.id := by
  unfold CursorPages.ormToPydantic at h
  cases houtage : r.outageId with
  | none =>
    rw [houtage] at h
    cases h
  | some outageId =>
    rw [houtage] at h
    obtain rfl := Option.some.inj h
    rfl

theorem PaymentTable.items_list (deliver : List PaymentRow → List PaymentRow) (n pageSize : Nat)
    (filters : PaymentListFilters) (table : PaymentTable) :
    (table.list deliver (n + 1) pageSize filters).toOption.map Prod.fst =
      (window (n * pageSize) pageSize (deliver (table.matching filters))).mapM
        fun r => (CursorPages.ormToPydantic r).toOption := by
  rw [← toOption_mapM]
  unfold PaymentTable.list
  dsimp only
  rw [Nat.add_sub_cancel]
  cases (window (n * pageSize) pageSize (deliver (table.matching filters))).mapM
    CursorPages.ormToPydantic with
  | error e => rfl
  | ok items => rfl

theorem paymentPages_iff (table : PaymentTable) (filters : PaymentListFilters) (size : ℕ+) :
    table.PagesExact filters size ↔
      (∀ r ∈ table.matching filters, r.outageId.isSome) ∧
        ∀ r ∈ table.matching filters,
          OnOnePage (descending PaymentRow.createdAt) size (table.matching filters) r := by
  have hnodup := nodup_ids_filter table.ids_nodup (table.matching_sublist filters)
  have hexact := listing_exact_iff (descending PaymentRow.createdAt) size.pos
    (fun r p hp => CursorPages.id_of_ormToPydantic hp) hnodup
    (fun deliver n => table.items_list deliver n size filters)
  simp only [CursorPages.isSome_ormToPydantic] at hexact
  exact hexact

theorem OutageEventRepository.id_of_item {env : TimelineEnv} {e : OutageEventORM}
    {i : OutageEventRepository.OutageEventItem} (h : OutageEventRepository.item env e = some i) :
    i.id = e.id := by
  obtain ⟨detail, -, rfl⟩ := Option.map_eq_some_iff.mp h
  rfl

theorem OutageEventTable.items_listForOutage (env : TimelineEnv)
    (deliver : List OutageEventORM → List OutageEventORM) (outageId : String) (n pageSize : Nat)
    (filters : EventFilters) (table : OutageEventTable) :
    (table.listForOutage env deliver outageId filters (n + 1) pageSize).map
        OutageEventRepository.TimelinePage.items =
      (window (n * pageSize) pageSize (deliver (table.matching outageId filters))).mapM
        (OutageEventRepository.item env) := by
  unfold OutageEventTable.listForOutage
  dsimp only
  rw [Option.map_map, Nat.add_sub_cancel]
  exact Option.map_id'

theorem eventPages_iff (env : TimelineEnv) (table : OutageEventTable) (outageId : String)
    (filters : EventFilters) (size : ℕ+) :
    table.PagesExact env outageId filters size ↔
      (∀ e ∈ table.matching outageId filters, (OutageEventRepository.decodeDetail env e).isSome) ∧
        ∀ e ∈ table.matching outageId filters,
          OnOnePage (ascending OutageEventORM.occurredAt) size (table.matching outageId filters)
            e := by
  have hsub : (table.matching outageId filters).Sublist table.rows := List.filter_sublist
  have hexact := listing_exact_iff (ascending OutageEventORM.occurredAt) size.pos
    (fun e i hi => OutageEventRepository.id_of_item hi) (nodup_ids_filter table.ids_nodup hsub)
    (fun deliver n => table.items_listForOutage env deliver outageId n size filters)
  simp only [OutageEventRepository.item, Option.isSome_map] at hexact
  exact hexact

/-! ### Webhooks -/

theorem id_of_serializeDelivery {d : WebhookDelivery} {r : WebhookDeliveryResponse}
    (h : some (serializeDelivery d) = some r) : r.id = d.id := by
  obtain rfl := Option.some.inj h
  rfl

theorem webhookId_of_matching {sql : SqlText} {tables : WebhookTables} {webhookId : UUID}
    {filters : DeliveryFilters} {d : WebhookDelivery}
    (h : d ∈ tables.matchingDeliveries sql webhookId filters) : d.webhookId = webhookId := by
  have hfilter := (List.mem_filter.mp h).2
  simp only [Bool.and_eq_true, decide_eq_true_eq, and_assoc] at hfilter
  exact hfilter.1

theorem WebhookTables.items_listWebhookDeliveries (sql : SqlText)
    (deliver : List WebhookDelivery → List WebhookDelivery) {webhookId : UUID}
    {tables : WebhookTables} (hwebhook : webhookId ∈ tables.webhooks.map (·.id))
    (filters : DeliveryFilters) (limit n : Nat) :
    (tables.listWebhookDeliveries sql deliver webhookId filters limit (n * limit)).toOption.map
        PaginatedWebhookDeliveries.items =
      (window (n * limit) limit (deliver (tables.matchingDeliveries sql webhookId filters))).mapM
        fun d => some (serializeDelivery d) := by
  unfold WebhookTables.listWebhookDeliveries
  rw [if_pos hwebhook]
  exact (List.mapM_pure (m := Option)).symm

theorem deliveryPages_iff (sql : SqlText) (tables : WebhookTables) (webhookId : UUID)
    (filters : DeliveryFilters) (limit : ℕ+) :
    tables.DeliveryPagesExact sql webhookId filters limit ↔
      ∀ d ∈ tables.matchingDeliveries sql webhookId filters,
        OnOnePage (descending WebhookDelivery.createdAt) limit
          (tables.matchingDeliveries sql webhookId filters) d := by
  have hsub : (tables.matchingDeliveries sql webhookId filters).Sublist tables.deliveries :=
    List.filter_sublist
  by_cases hwebhook : webhookId ∈ tables.webhooks.map (·.id)
  · have hexact := listing_exact_iff (descending WebhookDelivery.createdAt) limit.pos
      (fun d r hr => id_of_serializeDelivery hr)
      (nodup_ids_filter tables.delivery_ids_nodup hsub)
      (fun deliver n => tables.items_listWebhookDeliveries sql deliver hwebhook filters limit n)
    refine hexact.trans (and_iff_right ?_)
    exact fun d _ => rfl
  · -- without the webhook there are no deliveries either
    have hnone : ∀ d ∈ tables.matchingDeliveries sql webhookId filters, False := by
      intro d hd
      have hfkey := tables.webhook_fkey d (hsub.subset hd)
      rw [webhookId_of_matching hd] at hfkey
      exact hwebhook hfkey
    exact iff_of_true (fun _ _ d hd => (hnone d hd).elim) fun d hd => (hnone d hd).elim

theorem serializeWebhook_toOption (floats : Json.FloatText) (w : WebhookRow) :
    (serializeWebhook floats w).toOption.map WebhookResponse.id =
      (decodeEvents floats w.events).toOption.map fun _ => w.id := by
  unfold serializeWebhook
  cases decodeEvents floats w.events with
  | error e => rfl
  | ok events => rfl

theorem id_of_serializeWebhook {floats : Json.FloatText} {w : WebhookRow} {r : WebhookResponse}
    (h : (serializeWebhook floats w).toOption = some r) : r.id = w.id := by
  have hid := serializeWebhook_toOption floats w
  rw [h, Option.map_some] at hid
  obtain ⟨-, -, hid⟩ := Option.map_eq_some_iff.mp hid.symm
  exact hid.symm

theorem isSome_serializeWebhook (floats : Json.FloatText) (w : WebhookRow) :
    (serializeWebhook floats w).toOption.isSome =
      (decodeEvents floats w.events).toOption.isSome := by
  have hid := congrArg Option.isSome (serializeWebhook_toOption floats w)
  rw [Option.isSome_map, Option.isSome_map] at hid
  exact hid

theorem WebhookTables.items_listWebhooks (tables : WebhookTables) (sql : SqlText)
    (floats : Json.FloatText) (deliver : List WebhookRow → List WebhookRow)
    (filters : WebhookFilters) (n pageSize : Nat) :
    (tables.listWebhooks sql floats deliver filters (n + 1) pageSize).toOption =
      (window (n * pageSize) pageSize (deliver (tables.matchingWebhooks sql filters))).mapM
        fun w => (serializeWebhook floats w).toOption := by
  unfold WebhookTables.listWebhooks
  dsimp only
  rw [Nat.add_sub_cancel, toOption_mapM]

theorem webhookPages_iff (sql : SqlText) (floats : Json.FloatText) (tables : WebhookTables)
    (filters : WebhookFilters) (size : ℕ+) :
    tables.WebhookPagesExact sql floats filters size ↔
      (∀ w ∈ tables.matchingWebhooks sql filters,
          (decodeEvents floats w.events).toOption.isSome) ∧
        (tables.matchingWebhooks sql filters).length ≤ size := by
  have hsub : (tables.matchingWebhooks sql filters).Sublist tables.webhooks :=
    List.filter_sublist
  have hexact := listing_exact_iff (@unordered WebhookRow) size.pos
    (fun w r hr => id_of_serializeWebhook hr)
    (nodup_ids_filter tables.webhook_ids_nodup hsub)
    (fun deliver n => tables.items_listWebhooks sql floats deliver filters n size)
  simp only [isSome_serializeWebhook] at hexact
  refine hexact.trans (and_congr_right fun _ => ?_)
  constructor
  · intro h
    cases hquery : tables.matchingWebhooks sql filters with
    | nil => exact Nat.zero_le _
    | cons w query =>
      rw [hquery] at h
      exact (onOnePage_unordered_iff size.pos List.mem_cons_self).mp (h w List.mem_cons_self)
  · intro h w hw
    exact (onOnePage_unordered_iff size.pos hw).mpr h

/-- **Pages by offset** have every matching row exactly once, in whatever order each query has the
rows, if and only if all of them can be shown and rows with equal sort keys lie on one page. Without
`ORDER BY` that is one page for all. -/
theorem offset_pages_partition_iff (size : ℕ+) :
    (∀ (table : PaymentTable) (filters : PaymentListFilters),
      table.PagesExact filters size ↔
        (∀ r ∈ table.matching filters, r.outageId.isSome) ∧
          ∀ r ∈ table.matching filters,
            OnOnePage (descending PaymentRow.createdAt) size (table.matching filters) r) ∧
    (∀ (env : TimelineEnv) (table : OutageEventTable) (outageId : String) (filters : EventFilters),
      table.PagesExact env outageId filters size ↔
        (∀ e ∈ table.matching outageId filters,
            (OutageEventRepository.decodeDetail env e).isSome) ∧
          ∀ e ∈ table.matching outageId filters,
            OnOnePage (ascending OutageEventORM.occurredAt) size
              (table.matching outageId filters) e) ∧
    (∀ (sql : SqlText) (tables : WebhookTables) (webhookId : UUID) (filters : DeliveryFilters),
      tables.DeliveryPagesExact sql webhookId filters size ↔
        ∀ d ∈ tables.matchingDeliveries sql webhookId filters,
          OnOnePage (descending WebhookDelivery.createdAt) size
            (tables.matchingDeliveries sql webhookId filters) d) ∧
    ∀ (sql : SqlText) (floats : Json.FloatText) (tables : WebhookTables)
      (filters : WebhookFilters),
      tables.WebhookPagesExact sql floats filters size ↔
        (∀ w ∈ tables.matchingWebhooks sql filters,
            (decodeEvents floats w.events).toOption.isSome) ∧
          (tables.matchingWebhooks sql filters).length ≤ size := by
  refine ⟨?payments, ?events, ?deliveries, ?webhooks⟩
  case payments => exact fun table filters => paymentPages_iff table filters size
  case events =>
    exact fun env table outageId filters => eventPages_iff env table outageId filters size
  case deliveries =>
    exact fun sql tables webhookId filters => deliveryPages_iff sql tables webhookId filters size
  case webhooks =>
    exact fun sql floats tables filters => webhookPages_iff sql floats tables filters size

/-! ## Rows with equal keys -/

def paymentAt (id : String) (createdAt : Time) : PaymentRow where
  id
  transactionHash := id
  type := "reward"
  amount := 1
  assetCode := "USDC"
  fromAddress := "SYSTEM_POOL"
  toAddress := "OUTAGE_SETTLEMENT"
  status := "pending"
  outageId := some "OUT-1"
  createdAt

def tiedPayments : PaymentTable where
  rows := [paymentAt "pay_1" 0, paymentAt "pay_2" 0]
  ids_nodup := by decide

def tiedEvents : OutageEventTable where
  rows := [⟨"evt_1", "OUT-1", "updated", none, "1", 0⟩, ⟨"evt_2", "OUT-1", "patched", none, "1", 0⟩]
  ids_nodup := by decide

def deliveryAt (id : UUID) (createdAt : Time) : WebhookDelivery where
  id
  webhookId := 1
  event := .slaViolation
  payload := ""
  idempotencyKey := ""
  eventTimestamp := createdAt
  createdAt
  updatedAt := createdAt

/-- Two webhooks, and two deliveries of one moment. -/
def tiedWebhooks : WebhookTables where
  webhooks := [⟨1, "a", "https://a.example", true, "[]", 3, 1, none, none⟩,
    ⟨2, "b", "https://b.example", true, "[]", 3, 1, none, none⟩]
  deliveries := [deliveryAt 1 0, deliveryAt 2 0]
  webhook_ids_nodup := by decide
  delivery_ids_nodup := by decide
  webhook_fkey := by decide

def plainSqlText : SqlText where
  ilike text pattern := decide (text = pattern)
  uuidText id := toString id.toNat

/-- With one row on a page, a database may show one of two such rows twice, and never the other. -/
theorem tied_rows_not_partitioned :
    ¬ tiedPayments.PagesExact {} 1 ∧
      ¬ tiedEvents.PagesExact plainTimelineEnv "OUT-1" {} 1 ∧
      ¬ tiedWebhooks.DeliveryPagesExact plainSqlText 1 {} 1 ∧
      ¬ tiedWebhooks.WebhookPagesExact plainSqlText plainTimelineEnv.floats {} 1 := by
  refine ⟨fun h => ?_, fun h => ?_, fun h => ?_, fun h => ?_⟩
  · exact absurd ((paymentPages_iff tiedPayments {} 1).mp h).2 (by decide)
  · exact absurd ((eventPages_iff plainTimelineEnv tiedEvents "OUT-1" {} 1).mp h).2 (by decide)
  · exact absurd ((deliveryPages_iff plainSqlText tiedWebhooks 1 {} 1).mp h) (by decide)
  · exact absurd ((webhookPages_iff plainSqlText _ tiedWebhooks {} 1).mp h).2 (by decide)

end NocIq
