import NocIq.Lib.ReadThrough
import NocIq.Settlement.Settle
import NocIq.Sla.Trends

/-!
# NocIq — the cached analytics

`get_sla_dashboard_kpis` and `get_sla_trends` of `app/api/v1/endpoints/sla.py`, which answer from a
cache for 30 seconds, and the settlement, which invalidates it. A key is the filters joined by `_`,
which a severity, a site and a zone may contain.

* **`AnalyticsRequest.serve_eq`** — both endpoints are one read through the cache.
* **`AnalyticsRequest.SameFilters.live_eq`** — requests that ask for the same get the same.
* **`AnalyticsRequest.live_append_iff`** — more rows change an answer exactly if one of them is in
  its numbers.
-/

namespace NocIq

open SLARepository Rounding

/-! ## The cache -/

inductive Analytics where
  | dashboard (kpis : SLADashboardKPI)
  | trends (points : List SLATrendPoint)
  deriving DecidableEq, Repr

abbrev AnalyticsCache := TtlCache.Cache String Analytics ℚ

/-- The database, and the cache of the process. -/
structure AnalyticsServer where
  db : Db
  cache : AnalyticsCache

/-- `key.startswith(start)`. -/
def startsWith (start key : String) : Bool := start.toList.isPrefixOf key.toList

def invalidateAnalyticsCache (cache : AnalyticsCache) : AnalyticsCache :=
  TtlCache.invalidateWhere (startsWith "perf_agg_")
    (TtlCache.invalidateWhere (startsWith "trends_")
      (TtlCache.invalidateWhere (startsWith "dashboard_kpis_") cache))

def analyticsKey (key : String) : Bool :=
  startsWith "perf_agg_" key || (startsWith "trends_" key || startsWith "dashboard_kpis_" key)

/-! ## The requests that read -/

/-- `site_id or site`. -/
def resolvedSite (siteId site : Option String) : Option String :=
  match siteId with
  | some text => if text = "" then site else some text
  | none => site

def formatted : Option String → String
  | some text => text
  | none => "None"

def dashboardKey (severity site : Option String) : String :=
  "dashboard_kpis_" ++ formatted severity ++ "_" ++ formatted site

def trendsKey (days : Nat) (bucket tz : String) (severity site : Option String) : String :=
  "trends_" ++ toString days ++ "_" ++ bucket ++ "_" ++ tz ++ "_" ++ formatted severity ++ "_"
    ++ formatted site

/-- The filters of a trends request. -/
structure TrendsQuery where
  days : Nat := 7
  bucket : String := "day"
  tz : String := "UTC"
  severity : Option String := none
  siteId : Option String := none
  site : Option String := none
  days_bounds : 1 ≤ days ∧ days ≤ 90 := by decide

/-- An answer of the two endpoints, with the value of its `X-Cache` header. -/
abbrev AnalyticsResponse := ReadThrough.Served Analytics ℚ

def AnalyticsResponse.xCache : AnalyticsResponse → String
  | .cached _ => "HIT"
  | .computed _ => "MISS"

def AnalyticsResponse.xCacheAge : AnalyticsResponse → ℚ
  | .cached found => roundTo 2 found.age
  | .computed _ => 0

/-- `_dashboard_cache` keeps its entries for 30 seconds. -/
def cacheTtl : ℚ := 30

def getSlaDashboardKpis (severity siteId site : Option String) (readAt storedAt : ℚ)
    (s : AnalyticsServer) : Except Exc AnalyticsResponse × AnalyticsServer :=
  let resolvedSite := resolvedSite siteId site
  let result := (aggregateDashboardKpis severity resolvedSite s.db).map Analytics.dashboard
  let (response, cache) := ReadThrough.serve cacheTtl readAt storedAt
    (dashboardKey severity resolvedSite) result s.cache
  (response, { s with cache })

/-- `except ValueError`, which pydantic's `ValidationError` is one of. -/
def badRequest (env : AnalyticsEnv) : Exc → Exc
  | .valueError message => .http 400 message
  | .validationError fields => .http 400 (env.validationText fields)
  | e => e

def getSlaTrends (env : AnalyticsEnv) (query : TrendsQuery) (readAt storedAt : ℚ)
    (s : AnalyticsServer) : Except Exc AnalyticsResponse × AnalyticsServer :=
  if query.bucket ∉ validBuckets then (.error (.http 400 (invalidBucket query.bucket)), s)
  else
    let resolvedSite := resolvedSite query.siteId query.site
    let result := ((aggregateTrends env query.days query.bucket query.tz query.severity
      resolvedSite s.db).map Analytics.trends).mapError (badRequest env)
    let (response, cache) := ReadThrough.serve cacheTtl readAt storedAt
      (trendsKey query.days query.bucket query.tz query.severity resolvedSite) result s.cache
    (response, { s with cache })

/-! ## A settlement -/

/-- The settlement with its invalidation, between its two commits. -/
def settleInvalidating (env : SettleEnv) (outageId : String) (sla : SLAResult)
    (s : AnalyticsServer) : Except Exc (SLAResult × PaymentTransaction) × AnalyticsServer :=
  match createIfChanged sla env.started s.db with
  | (.error e, db) => (.error e, { s with db })
  | (.ok storedSla, db) =>
    let cache := invalidateAnalyticsCache s.cache
    match PaymentRepository.createForSlaResult env.settings env.uuidHex env.now outageId storedSla
        db with
    | (.error e, db) => (.error e, { db, cache })
    | (.ok payment, db) => (.ok (storedSla, payment), { db, cache })

/-! ## Requests by name -/

inductive AnalyticsRequest where
  | dashboard (severity siteId site : Option String)
  | trends (query : TrendsQuery)

namespace AnalyticsRequest

def key : AnalyticsRequest → String
  | dashboard severity siteId site => dashboardKey severity (resolvedSite siteId site)
  | trends query => trendsKey query.days query.bucket query.tz query.severity
      (resolvedSite query.siteId query.site)

def serve (env : AnalyticsEnv) (readAt storedAt : ℚ) (s : AnalyticsServer) :
    AnalyticsRequest → Except Exc AnalyticsResponse × AnalyticsServer
  | dashboard severity siteId site => getSlaDashboardKpis severity siteId site readAt storedAt s
  | trends query => getSlaTrends env query readAt storedAt s

def live (env : AnalyticsEnv) (req : AnalyticsRequest) (db : Db) : Except Exc Analytics :=
  match req with
  | dashboard severity siteId site =>
    (aggregateDashboardKpis severity (resolvedSite siteId site) db).map .dashboard
  | trends query =>
    ((aggregateTrends env query.days query.bucket query.tz query.severity
      (resolvedSite query.siteId query.site) db).map .trends).mapError (badRequest env)

def given (filter : Option String) : Option String := filter.filter fun text => decide (text ≠ "")

def SameFilters : AnalyticsRequest → AnalyticsRequest → Prop
  | dashboard severity siteId site, dashboard severity' siteId' site' =>
    given severity = given severity' ∧
      given (resolvedSite siteId site) = given (resolvedSite siteId' site')
  | trends query, trends query' =>
    query.days = query'.days ∧ query.bucket = query'.bucket ∧ query.tz = query'.tz ∧
      given query.severity = given query'.severity ∧
      given (resolvedSite query.siteId query.site) = given (resolvedSite query'.siteId query'.site)
  | _, _ => False

/-- The rows that are in the numbers of an answer. -/
def countedRows (env : AnalyticsEnv) (req : AnalyticsRequest) (db : Db) : List SLAResultORM :=
  match req with
  | dashboard severity siteId site => kpiRows severity (resolvedSite siteId site) db
  | trends query =>
    Groups.selected query.days (bucketOf env query.bucket query.tz)
      (kpiRows query.severity (resolvedSite query.siteId query.site) db)

end AnalyticsRequest

/-! ## Keys -/

theorem AnalyticsRequest.analyticsKey_key (req : AnalyticsRequest) :
    analyticsKey req.key = true := by
  have hstart : ∀ start rest : String, startsWith start (start ++ rest) = true := by
    intro start rest
    unfold startsWith
    rw [String.toList_append, List.isPrefixOf_iff_prefix]
    exact List.prefix_append _ _
  unfold analyticsKey
  rw [Bool.or_eq_true, Bool.or_eq_true]
  cases req with
  | dashboard severity siteId site =>
    right
    right
    show startsWith "dashboard_kpis_" ("dashboard_kpis_" ++ formatted severity ++ "_"
      ++ formatted (resolvedSite siteId site)) = true
    simp only [String.append_assoc]
    exact hstart _ _
  | trends query =>
    right
    left
    show startsWith "trends_" ("trends_" ++ toString query.days ++ "_" ++ query.bucket ++ "_"
      ++ query.tz ++ "_" ++ formatted query.severity ++ "_"
      ++ formatted (resolvedSite query.siteId query.site)) = true
    simp only [String.append_assoc]
    exact hstart _ _

theorem invalidateAnalyticsCache_eq (cache : AnalyticsCache) :
    invalidateAnalyticsCache cache
      = TtlCache.invalidateWhere analyticsKey cache := by
  funext key
  unfold invalidateAnalyticsCache TtlCache.invalidateWhere analyticsKey
  cases startsWith "perf_agg_" key <;> cases startsWith "trends_" key <;>
    cases startsWith "dashboard_kpis_" key <;> rfl

/-! ## Filters -/

theorem kpiRows_given (severity siteId : Option String) (db : Db) :
    kpiRows (AnalyticsRequest.given severity) (AnalyticsRequest.given siteId) db
      = kpiRows severity siteId db := by
  have hany : ∀ f : Option String, ((AnalyticsRequest.given f).any fun t => decide (t ≠ ""))
      = f.any fun t => decide (t ≠ "") := by
    intro f
    cases f with
    | none => rfl
    | some t => by_cases ht : t = "" <;> simp [AnalyticsRequest.given, Option.filter, ht]
  have hpasses : ∀ (f v : Option String), passesText (AnalyticsRequest.given f) v
      = passesText f v := by
    intro f v
    cases f with
    | none => rfl
    | some t =>
      by_cases ht : t = "" <;> simp [AnalyticsRequest.given, Option.filter, ht, passesText]
  unfold kpiRows passesOutage
  simp only [hany, hpasses]

namespace AnalyticsRequest

variable {env : AnalyticsEnv} {req req' : AnalyticsRequest} {db : Db} {value : Analytics}

theorem SameFilters.live_eq (h : req.SameFilters req') (env : AnalyticsEnv) (db : Db) :
    req.live env db = req'.live env db := by
  cases req with
  | dashboard severity siteId site =>
    cases req' with
    | dashboard severity' siteId' site' =>
      obtain ⟨hseverity, hsite⟩ := h
      unfold live aggregateDashboardKpis
      dsimp only
      rw [← kpiRows_given, hseverity, hsite, kpiRows_given]
    | trends query' => cases h
  | trends query =>
    cases req' with
    | dashboard severity' siteId' site' => cases h
    | trends query' =>
      obtain ⟨hdays, hbucket, htz, hseverity, hsite⟩ := h
      unfold live aggregateTrends
      dsimp only
      rw [← kpiRows_given query.severity, hseverity, hsite, kpiRows_given, hdays, hbucket, htz]

/-! ## More rows -/

def filteredRows (req : AnalyticsRequest) (db : Db) : List SLAResultORM :=
  match req with
  | dashboard severity siteId site => kpiRows severity (resolvedSite siteId site) db
  | trends query => kpiRows query.severity (resolvedSite query.siteId query.site) db

theorem mem_of_mem_filteredRows {r : SLAResultORM} (h : r ∈ req.filteredRows db) :
    r ∈ db.slaResults := by
  cases req with
  | dashboard severity siteId site => exact mem_of_mem_kpiRows h
  | trends query => exact mem_of_mem_kpiRows h

theorem filteredRows_append (req : AnalyticsRequest) (db : Db) (rows more : List SLAResultORM) :
    req.filteredRows { db with slaResults := rows ++ more }
      = req.filteredRows { db with slaResults := rows }
        ++ req.filteredRows { db with slaResults := more } := by
  cases req with
  | dashboard severity siteId site => exact kpiRows_append _ _ db rows more
  | trends query => exact kpiRows_append _ _ db rows more

theorem countedRows_subset {r : SLAResultORM} (h : r ∈ req.countedRows env db) :
    r ∈ req.filteredRows db := by
  cases req with
  | dashboard severity siteId site => exact h
  | trends query => exact List.mem_of_mem_filter h

theorem live_dashboard_eq_ok {severity siteId site : Option String} :
    (dashboard severity siteId site).live env db = .ok value ↔
      0 ≤ sumRewards ((dashboard severity siteId site).filteredRows db) ∧
        value = .dashboard (dashboardOf ((dashboard severity siteId site).filteredRows db)) := by
  unfold live filteredRows
  dsimp only
  cases hresult : aggregateDashboardKpis severity (resolvedSite siteId site) db with
  | error e =>
    constructor
    · intro h
      cases h
    · rintro ⟨hrewards, -⟩
      rw [aggregateDashboardKpis_eq_ok.mpr ⟨hrewards, rfl⟩] at hresult
      cases hresult
  | ok kpis =>
    obtain ⟨hrewards, rfl⟩ := aggregateDashboardKpis_eq_ok.mp hresult
    constructor
    · intro h
      exact ⟨hrewards, (Except.ok.inj h).symm⟩
    · rintro ⟨-, rfl⟩
      rfl

theorem wrapped_eq_ok {α β : Type} {result : Except Exc α} {wrap : α → β} {translate : Exc → Exc}
    {b : β} : (result.map wrap).mapError translate = .ok b ↔ ∃ a, result = .ok a ∧ b = wrap a := by
  cases result with
  | error e =>
    constructor
    · intro h
      cases h
    · rintro ⟨a, ha, -⟩
      cases ha
  | ok a =>
    constructor
    · intro h
      exact ⟨a, rfl, (Except.ok.inj h).symm⟩
    · rintro ⟨a', ha', rfl⟩
      cases ha'
      rfl

theorem aggregateTrends_eq_ok {limitDays : Nat} {bucket tz : String}
    {severity siteId : Option String} {points : List SLATrendPoint} :
    aggregateTrends env limitDays bucket tz severity siteId db = .ok points ↔
      bucket ∈ validBuckets ∧ env.zoneInfo tz = .found ∧
        trendsOf env limitDays bucket tz (kpiRows severity siteId db) = .ok points := by
  unfold aggregateTrends
  by_cases hbucket : bucket ∈ validBuckets
  · rw [if_neg (not_not.mpr hbucket)]
    cases hzone : env.zoneInfo tz with
    | notFound => simp only [reduceCtorEq, false_and, and_false]
    | raises e => simp only [reduceCtorEq, false_and, and_false]
    | found => simp only [hbucket, true_and]
  · rw [if_pos hbucket]
    simp only [reduceCtorEq, hbucket, false_and]

theorem live_trends_eq_ok {query : TrendsQuery} :
    (trends query).live env db = .ok value ↔
      query.bucket ∈ validBuckets ∧ env.zoneInfo query.tz = .found ∧
        ∃ points, trendsOf env query.days query.bucket query.tz ((trends query).filteredRows db)
          = .ok points ∧ value = .trends points := by
  unfold live filteredRows
  dsimp only
  rw [wrapped_eq_ok]
  simp only [aggregateTrends_eq_ok, and_assoc, exists_and_left]

variable {rows more : List SLAResultORM}

theorem mem_filteredRows_append {r : SLAResultORM}
    (h : r ∈ req.filteredRows { db with slaResults := more }) :
    r ∈ req.filteredRows { db with slaResults := rows ++ more } := by
  rw [filteredRows_append]
  exact List.mem_append_right _ h

theorem live_dashboard_append {severity siteId site : Option String}
    (h : (dashboard severity siteId site).live env { db with slaResults := rows } = .ok value) :
    (dashboard severity siteId site).live env { db with slaResults := rows ++ more } = .ok value ↔
      (dashboard severity siteId site).filteredRows { db with slaResults := more } = [] := by
  obtain ⟨hrewards, rfl⟩ := live_dashboard_eq_ok.mp h
  rw [← dashboardOf_append_iff, ← filteredRows_append, live_dashboard_eq_ok]
  constructor
  · rintro ⟨-, hsame⟩
    exact (Analytics.dashboard.inj hsame).symm
  · intro hsame
    refine ⟨?_, congrArg Analytics.dashboard hsame.symm⟩
    rw [filteredRows_append] at hsame ⊢
    rw [dashboardOf_append_iff.mp hsame, List.append_nil]
    exact hrewards

theorem live_trends_append {query : TrendsQuery}
    (h : (trends query).live env { db with slaResults := rows } = .ok value) :
    (trends query).live env { db with slaResults := rows ++ more } = .ok value ↔
      ∀ r ∈ (trends query).filteredRows { db with slaResults := more },
        bucketOf env query.bucket query.tz r ∉ Groups.newest query.days
          (bucketOf env query.bucket query.tz)
          ((trends query).filteredRows { db with slaResults := rows ++ more }) := by
  obtain ⟨hbucket, hzone, points, hpoints, rfl⟩ := live_trends_eq_ok.mp h
  rw [filteredRows_append, ← trendsOf_append_iff hpoints, ← filteredRows_append, live_trends_eq_ok]
  constructor
  · rintro ⟨-, -, points', hpoints', hsame⟩
    rw [hpoints', Analytics.trends.inj hsame]
  · intro hpoints'
    exact ⟨hbucket, hzone, points, hpoints', rfl⟩

theorem live_append_filtered (h : req.live env { db with slaResults := rows } = .ok value) :
    req.live env { db with slaResults := rows ++ more } = .ok value ↔
      ∀ r ∈ req.filteredRows { db with slaResults := more },
        r ∉ req.countedRows env { db with slaResults := rows ++ more } := by
  cases req with
  | dashboard severity siteId site =>
    rw [live_dashboard_append h, List.eq_nil_iff_forall_not_mem]
    apply forall_congr'
    intro r
    constructor
    · intro hnone hr
      exact absurd hr hnone
    · intro hnone hr
      exact hnone hr (mem_filteredRows_append hr)
  | trends query =>
    rw [live_trends_append h]
    apply forall_congr'
    intro r
    apply imp_congr_right
    intro hr
    show _ ↔ r ∉ List.filter _
      ((trends query).filteredRows { db with slaResults := rows ++ more })
    rw [List.mem_filter, decide_eq_true_iff, not_and]
    exact ⟨fun hbucket _ => hbucket, fun hcounted => hcounted (mem_filteredRows_append hr)⟩

/-- **More rows** change the answer exactly if one of them is in its numbers. -/
theorem live_append_iff (hids : ((rows ++ more).map (·.id)).Nodup)
    (h : req.live env { db with slaResults := rows } = .ok value) :
    req.live env { db with slaResults := rows ++ more } = .ok value ↔
      ∀ row ∈ more, ∀ counted ∈ req.countedRows env { db with slaResults := rows ++ more },
        counted.id ≠ row.id := by
  rw [live_append_filtered h]
  constructor
  · intro hnone row hrow counted hcounted hid
    have hfiltered := countedRows_subset hcounted
    rw [filteredRows_append] at hfiltered
    rcases List.mem_append.mp hfiltered with hold | hnew
    · -- a row and one of the earlier rows do not share an id
      rw [List.map_append] at hids
      refine (List.nodup_append.mp hids).2.2 counted.id ?_ row.id ?_ hid
      · exact List.mem_map_of_mem (mem_of_mem_filteredRows hold)
      · exact List.mem_map_of_mem hrow
    · exact hnone counted hnew hcounted
  · intro hnone r hr hcounted
    exact hnone r (mem_of_mem_filteredRows hr) r hcounted rfl

/-! ## Through the cache -/

theorem serve_eq (env : AnalyticsEnv) (req : AnalyticsRequest) (readAt storedAt : ℚ)
    (s : AnalyticsServer) :
    ((∃ e, req.serve env readAt storedAt s = (.error e, s)) ∧ ∀ db value,
        req.live env db ≠ .ok value) ∨
      req.serve env readAt storedAt s =
        ((ReadThrough.serve cacheTtl readAt storedAt req.key (req.live env s.db) s.cache).1,
          { s with
            cache := (ReadThrough.serve cacheTtl readAt storedAt req.key (req.live env s.db)
              s.cache).2 }) := by
  cases req with
  | dashboard severity siteId site => exact .inr rfl
  | trends query =>
    by_cases hbucket : query.bucket ∈ validBuckets
    · right
      show getSlaTrends env query readAt storedAt s = _
      unfold getSlaTrends
      rw [if_neg (not_not.mpr hbucket)]
      rfl
    · left
      refine ⟨⟨_, if_pos hbucket⟩, ?_⟩
      intro db value hlive
      exact hbucket (live_trends_eq_ok.mp hlive).1

end AnalyticsRequest

end NocIq
