import NocIq.Lib.Groups
import NocIq.Sla.Analytics

/-!
# NocIq — the trends

`aggregate_trends` of `app/repositories/sla_repository.py`: the rows the dashboard would count,
grouped by the local day, week or month of their `created_at`, and of the groups the newest.

Both aggregations read of a row neither its flag nor, if it has none of the requested outages, the
row itself. **`kpiRows_append`** and **`kpiRows_map`** say so of the rows, and
**`trendsOf_append_iff`** and **`trendsOf_unflag`** of the points made from them.
-/

namespace NocIq

open Rounding

/-! ## What is asked of the libraries -/

/-- `ZoneInfo(key)`. -/
inductive ZoneLookup where
  | found
  | notFound
  | raises (e : Exc)

/-- The zones, PostgreSQL's `date_trunc` of an instant's local time in a zone, and the texts of a
bucket and of a validation error. PostgreSQL knows the zones that `zoneinfo` knows. -/
structure AnalyticsEnv where
  zoneInfo : String → ZoneLookup
  dateTrunc : String → String → Time → Time
  bucketText : Time → String
  bucketText_injective : Function.Injective bucketText
  validationText : List String → String

/-! ## `aggregate_trends` -/

def validBuckets : List String := ["day", "week", "month"]

def invalidBucket (bucket : String) : String :=
  "Invalid bucket '" ++ bucket ++ "'. Must be one of: " ++ String.intercalate ", " validBuckets

structure SLATrendPoint where
  date : String
  totalOutages : Nat
  violations : Nat
  rewards : ℚ
  penalties : ℚ
  deriving DecidableEq, Repr

def SLATrendPoint.validate (p : SLATrendPoint) : Except Exc SLATrendPoint :=
  validated p [("rewards", decide (¬ 0 ≤ p.rewards)), ("penalties", decide (¬ 0 ≤ p.penalties))]

def trendPoint (env : AnalyticsEnv) (bucket : Time) (rows : List SLAResultORM) :
    Except Exc SLATrendPoint :=
  SLATrendPoint.validate
    { date := env.bucketText bucket
      totalOutages := rows.length
      violations := countViolations rows
      rewards := roundTo 2 (sumRewards rows)
      penalties := roundTo 2 (sumPenalties rows) }

def bucketOf (env : AnalyticsEnv) (bucket tz : String) (r : SLAResultORM) : Time :=
  env.dateTrunc bucket tz r.createdAt

/-- The points of the newest buckets, oldest first. -/
def trendsOf (env : AnalyticsEnv) (limitDays : Nat) (bucket tz : String)
    (rows : List SLAResultORM) : Except Exc (List SLATrendPoint) :=
  ((Groups.limited limitDays (bucketOf env bucket tz) rows).mapM fun g =>
    trendPoint env g.1 g.2).map List.reverse

def aggregateTrends (env : AnalyticsEnv) (limitDays : Nat) (bucket tz : String)
    (severity siteId : Option String) (db : Db) : Except Exc (List SLATrendPoint) :=
  if bucket ∉ validBuckets then .error (.valueError (invalidBucket bucket))
  else
    match env.zoneInfo tz with
    | .notFound => .error (.valueError s!"Unknown timezone: '{tz}'")
    | .raises e => .error e
    | .found => trendsOf env limitDays bucket tz (kpiRows severity siteId db)

/-! ## The rows that are read -/

theorem kpiRows_append (severity siteId : Option String) (db : Db) (rows more : List SLAResultORM) :
    kpiRows severity siteId { db with slaResults := rows ++ more }
      = kpiRows severity siteId { db with slaResults := rows }
        ++ kpiRows severity siteId { db with slaResults := more } := by
  unfold kpiRows
  dsimp only
  split
  · unfold joinOutage
    rw [List.flatMap_append, List.filter_append, List.map_append]
  · rfl

theorem kpiRows_map (severity siteId : Option String) (db : Db) {f : SLAResultORM → SLAResultORM}
    (hf : ∀ r, (f r).outageId = r.outageId) :
    kpiRows severity siteId { db with slaResults := db.slaResults.map f }
      = (kpiRows severity siteId db).map f := by
  unfold kpiRows
  dsimp only
  split
  · have hjoin : joinOutage { db with slaResults := db.slaResults.map f }
        = (joinOutage db).map fun ro => (f ro.1, ro.2) := by
      unfold joinOutage
      dsimp only
      rw [List.flatMap_map, List.map_flatMap]
      apply List.flatMap_congr
      intro r _
      rw [hf, List.map_map]
      rfl
    rw [hjoin, List.filter_map, List.map_map, List.map_map]
    rfl
  · rfl

theorem mem_of_mem_kpiRows {severity siteId : Option String} {db : Db} {r : SLAResultORM}
    (h : r ∈ kpiRows severity siteId db) : r ∈ db.slaResults := by
  unfold kpiRows at h
  dsimp only at h
  split at h
  · obtain ⟨ro, hro, rfl⟩ := List.mem_map.mp h
    obtain ⟨r', hr', hmem⟩ := List.mem_flatMap.mp (List.mem_of_mem_filter hro)
    obtain ⟨o, -, rfl⟩ := List.mem_map.mp hmem
    exact hr'
  · exact h

/-! ## The flag -/

def unflag (r : SLAResultORM) : SLAResultORM := { r with isLatest := false }

theorem countViolations_unflag (rows : List SLAResultORM) :
    countViolations (rows.map unflag) = countViolations rows := by
  unfold countViolations
  rw [List.filter_map, List.length_map]
  rfl

theorem sumRewards_unflag (rows : List SLAResultORM) :
    sumRewards (rows.map unflag) = sumRewards rows := by
  unfold sumRewards
  rw [List.map_map]
  rfl

theorem sumPenalties_unflag (rows : List SLAResultORM) :
    sumPenalties (rows.map unflag) = sumPenalties rows := by
  unfold sumPenalties
  rw [List.map_map]
  rfl

theorem dashboardOf_unflag (rows : List SLAResultORM) :
    dashboardOf (rows.map unflag) = dashboardOf rows := by
  unfold dashboardOf
  rw [countViolations_unflag, sumRewards_unflag, sumPenalties_unflag, List.length_map]

theorem trendPoint_unflag (env : AnalyticsEnv) (bucket : Time) (rows : List SLAResultORM) :
    trendPoint env bucket (rows.map unflag) = trendPoint env bucket rows := by
  unfold trendPoint
  rw [countViolations_unflag, sumRewards_unflag, sumPenalties_unflag, List.length_map]

theorem trendsOf_unflag (env : AnalyticsEnv) (limitDays : Nat) (bucket tz : String)
    (rows : List SLAResultORM) :
    trendsOf env limitDays bucket tz (rows.map unflag) = trendsOf env limitDays bucket tz rows := by
  have hbucket : ∀ r, bucketOf env bucket tz (unflag r) = bucketOf env bucket tz r := fun _ => rfl
  unfold trendsOf
  rw [Groups.limited_map hbucket, List.mapM_map]
  simp only [Function.comp_def, trendPoint_unflag]

/-! ## More rows -/

variable {rows : List SLAResultORM} {env : AnalyticsEnv}

theorem trendPoint_eq_ok {bucket : Time} {point : SLATrendPoint}
    (h : trendPoint env bucket rows = .ok point) :
    point.date = env.bucketText bucket ∧ point.totalOutages = rows.length := by
  unfold trendPoint SLATrendPoint.validate at h
  rw [(validated_eq_ok.mp h).2]
  exact ⟨rfl, rfl⟩

variable {points : List SLATrendPoint}

theorem mapM_trendPoint {groups : List (Time × List SLAResultORM)}
    (h : (groups.mapM fun g => trendPoint env g.1 g.2) = .ok points) :
    points.map (fun p => (p.date, p.totalOutages))
      = groups.map fun g => (env.bucketText g.1, g.2.length) := by
  induction groups generalizing points with
  | nil =>
    cases h
    rfl
  | cons g groups ih =>
    rw [List.mapM_cons] at h
    cases hpoint : trendPoint env g.1 g.2 with
    | error e =>
      rw [hpoint] at h
      cases h
    | ok point =>
      cases hrest : groups.mapM (fun g => trendPoint env g.1 g.2) with
      | error e =>
        rw [hpoint, hrest] at h
        cases h
      | ok rest =>
        rw [hpoint, hrest] at h
        cases h
        obtain ⟨hdate, htotal⟩ := trendPoint_eq_ok hpoint
        rw [List.map_cons, List.map_cons, ih hrest, hdate, htotal]

theorem trendsOf_counts {limitDays : Nat} {bucket tz : String} {rows' : List SLAResultORM}
    (h : trendsOf env limitDays bucket tz rows = .ok points)
    (h' : trendsOf env limitDays bucket tz rows' = .ok points) :
    Groups.counts limitDays (bucketOf env bucket tz) rows
      = Groups.counts limitDays (bucketOf env bucket tz) rows' := by
  have hpoints : ∀ {rows : List SLAResultORM}, trendsOf env limitDays bucket tz rows = .ok points →
      points.reverse.map (fun p => (p.date, p.totalOutages))
        = (Groups.counts limitDays (bucketOf env bucket tz) rows).map
            (Prod.map env.bucketText id) := by
    intro rows h
    unfold trendsOf at h
    cases hmap : (Groups.limited limitDays (bucketOf env bucket tz) rows).mapM
        (fun g => trendPoint env g.1 g.2) with
    | error e =>
      rw [hmap] at h
      cases h
    | ok reversed =>
      rw [hmap] at h
      cases h
      rw [List.reverse_reverse, mapM_trendPoint hmap]
      unfold Groups.counts
      rw [List.map_map]
      rfl
  have hinjective : Function.Injective (Prod.map env.bucketText (id : Nat → Nat)) :=
    env.bucketText_injective.prodMap Function.injective_id
  exact List.map_injective_iff.mpr hinjective ((hpoints h).symm.trans (hpoints h'))

/-- **More rows** change the trends exactly if one of them is in a newest bucket. -/
theorem trendsOf_append_iff {limitDays : Nat} {bucket tz : String} {more : List SLAResultORM}
    (h : trendsOf env limitDays bucket tz rows = .ok points) :
    trendsOf env limitDays bucket tz (rows ++ more) = .ok points ↔
      ∀ r ∈ more, bucketOf env bucket tz r ∉
        Groups.newest limitDays (bucketOf env bucket tz) (rows ++ more) := by
  constructor
  · intro hmore
    exact Groups.counts_append_iff.mp (trendsOf_counts hmore h)
  · intro hmore
    unfold trendsOf at h ⊢
    rw [Groups.limited_append hmore]
    exact h

/-- **More rows** change the dashboard. -/
theorem dashboardOf_append_iff {more : List SLAResultORM} :
    dashboardOf (rows ++ more) = dashboardOf rows ↔ more = [] := by
  constructor
  · intro h
    have hlength : (rows ++ more).length = rows.length := congrArg SLADashboardKPI.totalOutages h
    rw [List.length_append] at hlength
    apply List.eq_nil_of_length_eq_zero
    omega
  · intro h
    rw [h, List.append_nil]

end NocIq
