import NocIq.Isoformat
import NocIq.JsonText
import NocIq.Sla.Analytics

/-!
# NocIq — snapshots of the dashboard

`create_snapshot`, `rebuild_snapshot`, `verify_snapshot_integrity` and `reconcile_snapshots` of
`app/repositories/sla_repository.py`, and the checksum of `app/models/orm/sla_snapshot.py`. A
`DateTime(timezone=True)` column gives an aware datetime in UTC back for the naive one that was
stored.

Of several snapshots with the latest `created_at` the database returns any.

* **`computeChecksum_injective`** — a checksum stands for the columns it is computed from.
* **`isoformat_naive_ne_aware`** — a naive datetime and an aware one have different texts.
* **`snapshots_never_verify`** — what becomes of the snapshots that the repository makes.
-/

namespace NocIq

open Rounding

/-! ## The table -/

/-- SHA-256, the texts of floats, and `str(datetime)`. -/
structure SnapshotEnv where
  sha256 : String → String
  sha256_injective : Function.Injective sha256
  float : Json.FloatText
  datetimeText : Datetime → String

/-- The columns that are hashed, as attributes of the row. -/
structure SnapshotColumns where
  snapshotKey : String
  totalOutages : Int
  totalViolations : Int
  totalRewards : ℚ
  totalPenalties : ℚ
  netPayout : ℚ
  avgMttr : ℚ
  createdAt : Datetime
  deriving DecidableEq, Repr

/-- A row of `sla_analytics_snapshots` as an object of the session. -/
structure SLAAnalyticsSnapshotORM where
  id : Nat
  columns : SnapshotColumns
  checksum : String
  deriving DecidableEq, Repr

/-- The members of `data`, by `sort_keys` in the order of their names. -/
def SnapshotColumns.data (c : SnapshotColumns) : List (String × Json.Value) :=
  [("avg_mttr", .float c.avgMttr), ("created_at", .str c.createdAt.isoformat),
    ("net_payout", .float c.netPayout), ("snapshot_key", .str c.snapshotKey),
    ("total_outages", .int c.totalOutages), ("total_penalties", .float c.totalPenalties),
    ("total_rewards", .float c.totalRewards), ("total_violations", .int c.totalViolations)]

/-- `compute_checksum`. -/
def computeChecksum (env : SnapshotEnv) (c : SnapshotColumns) : String :=
  env.sha256 (Json.dumps env.float (.obj c.data))

/-- What a stored `created_at` is read back as. -/
def Datetime.readBack (d : Datetime) : Datetime := .aware d.instant 0

def SLAAnalyticsSnapshotORM.readBack (orm : SLAAnalyticsSnapshotORM) : SLAAnalyticsSnapshotORM :=
  { orm with columns := { orm.columns with createdAt := orm.columns.createdAt.readBack } }

/-- The table, with the rows as they are read. -/
structure SnapshotTable where
  rows : List SLAAnalyticsSnapshotORM := []
  seq : Nat := 0

/-! ## Snapshots -/

structure SLAAnalyticsSnapshot where
  id : Nat
  snapshotKey : String
  totalOutages : Int
  totalViolations : Int
  totalRewards : ℚ
  totalPenalties : ℚ
  netPayout : ℚ
  avgMttr : ℚ
  checksum : String
  createdAt : String
  deriving DecidableEq, Repr

section Repository

variable (env : SnapshotEnv)

def SLAAnalyticsSnapshot.validate (s : SLAAnalyticsSnapshot) : Except Exc SLAAnalyticsSnapshot :=
  validated s [("total_outages", decide (¬ 0 ≤ s.totalOutages)),
    ("total_violations", decide (¬ 0 ≤ s.totalViolations)),
    ("total_rewards", decide (¬ 0 ≤ s.totalRewards)),
    ("total_penalties", decide (¬ 0 ≤ s.totalPenalties)), ("avg_mttr", decide (¬ 0 ≤ s.avgMttr))]

def SLAAnalyticsSnapshotORM.toSnapshot (orm : SLAAnalyticsSnapshotORM) : SLAAnalyticsSnapshot where
  id := orm.id
  snapshotKey := orm.columns.snapshotKey
  totalOutages := orm.columns.totalOutages
  totalViolations := orm.columns.totalViolations
  totalRewards := orm.columns.totalRewards
  totalPenalties := orm.columns.totalPenalties
  netPayout := orm.columns.netPayout
  avgMttr := orm.columns.avgMttr
  checksum := orm.checksum
  createdAt := env.datetimeText orm.columns.createdAt

def snapshotColumns (snapshotKey : String) (kpis : SLADashboardKPI)
    (perf : SLAPerformanceAggregation) (now : Time) : SnapshotColumns where
  snapshotKey
  totalOutages := kpis.totalOutages
  totalViolations := kpis.totalViolations
  totalRewards := kpis.totalRewards
  totalPenalties := kpis.totalPenalties
  netPayout := kpis.netPayout
  avgMttr := perf.avgMttr
  createdAt := (Datetime.now now).withoutTzinfo

/-- `create_snapshot`. The checksum is computed before the row has been stored. -/
def createSnapshot (db : Db) (snapshotKey : String) (now : Time) (table : SnapshotTable) :
    Except Exc SLAAnalyticsSnapshot × SnapshotTable :=
  match aggregateDashboardKpis none none db with
  | .error e => (.error e, table)
  | .ok kpis =>
    match aggregatePerformance {} db with
    | .error e => (.error e, table)
    | .ok perf =>
      let columns := snapshotColumns snapshotKey kpis perf now
      let orm : SLAAnalyticsSnapshotORM :=
        { id := table.seq + 1, columns, checksum := computeChecksum env columns }
      let refreshed := orm.readBack
      ((refreshed.toSnapshot env).validate,
        { rows := table.rows ++ [refreshed], seq := table.seq + 1 })

/-- `rebuild_snapshot`, which does the same. -/
def rebuildSnapshot (db : Db) (snapshotKey : String) (now : Time) (table : SnapshotTable) :
    Except Exc SLAAnalyticsSnapshot × SnapshotTable :=
  createSnapshot env db snapshotKey now table

/-- What `order_by(created_at.desc()).first()` may give of the rows of a key. -/
def FindsLatest (rows : List SLAAnalyticsSnapshotORM) (snapshotKey : String) :
    Option SLAAnalyticsSnapshotORM → Prop
  | none => ∀ r ∈ rows, r.columns.snapshotKey ≠ snapshotKey
  | some orm => orm ∈ rows ∧ orm.columns.snapshotKey = snapshotKey ∧
      ∀ r ∈ rows, r.columns.snapshotKey = snapshotKey →
        r.columns.createdAt.instant ≤ orm.columns.createdAt.instant

structure IntegrityReport where
  valid : Bool
  snapshotId : Option Nat := none
  error : Option String := none
  deriving DecidableEq, Repr

/-- `verify_snapshot_integrity`, of the row that the query has found. -/
def verifySnapshotIntegrity (found : Option SLAAnalyticsSnapshotORM) : IntegrityReport :=
  match found with
  | none => { valid := false, error := some "No snapshot found" }
  | some orm =>
    if computeChecksum env orm.columns = orm.checksum then
      { valid := true, snapshotId := some orm.id }
    else
      { valid := false
        snapshotId := some orm.id
        error := some "Checksum mismatch - snapshot may have been tampered with" }

end Repository

/-! ## Reconciliation -/

section Reconciliation

variable (snapshot : SLAAnalyticsSnapshot) (kpis : SLADashboardKPI)
  (perf : SLAPerformanceAggregation)

/-- The numbers of a report. -/
def liveData : List (String × Json.Value) :=
  [("total_outages", .int kpis.totalOutages), ("total_violations", .int kpis.totalViolations),
    ("total_rewards", .float kpis.totalRewards), ("total_penalties", .float kpis.totalPenalties),
    ("net_payout", .float kpis.netPayout), ("avg_mttr", .float perf.avgMttr)]

def snapshotData : List (String × Json.Value) :=
  [("total_outages", .int snapshot.totalOutages),
    ("total_violations", .int snapshot.totalViolations),
    ("total_rewards", .float snapshot.totalRewards),
    ("total_penalties", .float snapshot.totalPenalties),
    ("net_payout", .float snapshot.netPayout), ("avg_mttr", .float snapshot.avgMttr)]

def driftDetected : Bool :=
  decide (snapshot.totalOutages ≠ kpis.totalOutages) ||
    decide (snapshot.totalViolations ≠ kpis.totalViolations) ||
    decide (snapshot.totalRewards ≠ kpis.totalRewards) ||
    decide (snapshot.totalPenalties ≠ kpis.totalPenalties) ||
    decide (|snapshot.netPayout - kpis.netPayout| > 1 / 100) ||
    decide (|snapshot.avgMttr - perf.avgMttr| > 1 / 100)

/-- An entry of `differences` for a count, and for an amount. -/
def countDifference (stored live : Int) : Json.Value :=
  .obj [("snapshot", .int stored), ("live", .int live), ("diff", .int (live - stored))]

def amountDifference (stored live : ℚ) : Json.Value :=
  .obj [("snapshot", .float stored), ("live", .float live),
    ("diff", .float (roundTo 2 (live - stored)))]

def differenceIf (differs : Prop) [Decidable differs] (field : String) (entry : Json.Value) :
    List (String × Json.Value) :=
  if differs then [(field, entry)] else []

def differences : List (String × Json.Value) :=
  differenceIf (snapshot.totalOutages ≠ kpis.totalOutages) "total_outages"
      (countDifference snapshot.totalOutages kpis.totalOutages) ++
    differenceIf (snapshot.totalViolations ≠ kpis.totalViolations) "total_violations"
      (countDifference snapshot.totalViolations kpis.totalViolations) ++
    differenceIf (snapshot.totalRewards ≠ kpis.totalRewards) "total_rewards"
      (amountDifference snapshot.totalRewards kpis.totalRewards) ++
    differenceIf (snapshot.totalPenalties ≠ kpis.totalPenalties) "total_penalties"
      (amountDifference snapshot.totalPenalties kpis.totalPenalties) ++
    differenceIf (|snapshot.netPayout - kpis.netPayout| > 1 / 100) "net_payout"
      (amountDifference snapshot.netPayout kpis.netPayout) ++
    differenceIf (|snapshot.avgMttr - perf.avgMttr| > 1 / 100) "avg_mttr"
      (amountDifference snapshot.avgMttr perf.avgMttr)

end Reconciliation

inductive SnapshotReconciliation where
  | missing (snapshotKey recommendation message : String)
      (currentLiveData : List (String × Json.Value))
  | compared (snapshotKey : String) (snapshotId : Nat) (snapshotCreatedAt : String)
      (driftDetected : Bool) (recommendation : String)
      (differences : Option (List (String × Json.Value)))
      (currentLiveData snapshotData : List (String × Json.Value))

/-- `reconcile_snapshots`, of the row that the query has found. -/
def reconcileSnapshots (env : SnapshotEnv) (db : Db) (snapshotKey : String)
    (found : Option SLAAnalyticsSnapshotORM) : Except Exc SnapshotReconciliation := do
  let latest ← found.mapM fun orm => (orm.toSnapshot env).validate
  let kpis ← aggregateDashboardKpis none none db
  let perf ← aggregatePerformance {} db
  match latest with
  | none =>
    return .missing snapshotKey "rebuild" "No snapshot exists. Rebuild recommended."
      (liveData kpis perf)
  | some snapshot =>
    let drift := driftDetected snapshot kpis perf
    return .compared snapshotKey snapshot.id snapshot.createdAt drift
      (if drift then "rebuild" else "ok")
      (if drift then some (differences snapshot kpis perf) else none)
      (liveData kpis perf) (snapshotData snapshot)

/-! ## What is listed -/

section Listed

variable (snapshot : SLAAnalyticsSnapshot) (kpis : SLADashboardKPI)
  (perf : SLAPerformanceAggregation)

/-- The fields of a report that differ; the last two may differ a little. -/
def fieldDiffers : String → Bool
  | "total_outages" => decide (snapshot.totalOutages ≠ kpis.totalOutages)
  | "total_violations" => decide (snapshot.totalViolations ≠ kpis.totalViolations)
  | "total_rewards" => decide (snapshot.totalRewards ≠ kpis.totalRewards)
  | "total_penalties" => decide (snapshot.totalPenalties ≠ kpis.totalPenalties)
  | "net_payout" => decide (|snapshot.netPayout - kpis.netPayout| > 1 / 100)
  | "avg_mttr" => decide (|snapshot.avgMttr - perf.avgMttr| > 1 / 100)
  | _ => false

def snapshotFields : List String :=
  ["total_outages", "total_violations", "total_rewards", "total_penalties", "net_payout",
    "avg_mttr"]

theorem names_differenceIf (differs : Prop) [Decidable differs] (field : String)
    (entry : Json.Value) :
    (differenceIf differs field entry).map Prod.fst = if differs then [field] else [] := by
  unfold differenceIf
  split
  · rfl
  · rfl

/-- **What is listed** are the fields that differ, in their order. -/
theorem names_differences :
    (differences snapshot kpis perf).map Prod.fst =
      snapshotFields.filter (fieldDiffers snapshot kpis perf) := by
  have hcons (field : String) (fields : List String) :
      (field :: fields).filter (fieldDiffers snapshot kpis perf) =
        (if fieldDiffers snapshot kpis perf field = true then [field] else []) ++
          fields.filter (fieldDiffers snapshot kpis perf) := by
    rw [List.filter_cons]
    split
    · rfl
    · rfl
  unfold differences snapshotFields
  simp only [List.map_append, names_differenceIf, hcons, List.filter_nil, List.append_nil,
    List.append_assoc, fieldDiffers, decide_eq_true_eq]

theorem driftDetected_eq :
    driftDetected snapshot kpis perf = snapshotFields.any (fieldDiffers snapshot kpis perf) := by
  simp only [driftDetected, snapshotFields, List.any_cons, List.any_nil, fieldDiffers,
    Bool.or_false, Bool.or_assoc]

end Listed

/-! ## The checksum -/

theorem isoformat_naive_ne_aware (wall utcOffset : Int) :
    (Datetime.naive wall).isoformat ≠ (Datetime.aware wall utcOffset).isoformat := by
  intro h
  have htexts : Datetime.wallText wall = Datetime.wallText wall ++ Datetime.offsetText utcOffset :=
    String.ofList_inj.mp h
  have hlength := congrArg List.length htexts
  rw [List.length_append, Datetime.offsetText, List.length_cons] at hlength
  omega

theorem dumpsString_append_inj {text text' rest rest' : String}
    (h : Json.dumpsString text ++ rest = Json.dumpsString text' ++ rest') : text = text' := by
  obtain ⟨cs, hcs, hread⟩ := Json.scanString_dumpsString text
  obtain ⟨cs', hcs', hread'⟩ := Json.scanString_dumpsString text'
  have hlists := congrArg String.toList h
  rw [String.toList_append, String.toList_append, hcs, hcs', List.cons_append,
    List.cons_append] at hlists
  have hrest := (List.cons.inj hlists).2
  have hscan := hread rest.toList
  rw [hrest, hread'] at hscan
  exact (Json.PyString.text.inj (Prod.mk.inj (Option.some.inj hscan)).1).symm

variable {env : SnapshotEnv}

theorem computeChecksum_ne (env : SnapshotEnv) (c : SnapshotColumns) {d d' : Datetime}
    (h : d.isoformat ≠ d'.isoformat) :
    computeChecksum env { c with createdAt := d } ≠
      computeChecksum env { c with createdAt := d' } := by
  intro heq
  have htexts := env.sha256_injective heq
  -- the texts are the same up to `created_at`, which comes second
  simp only [SnapshotColumns.data, Json.dumps, Json.dumpsMembers,
    String.append_right_inj] at htexts
  exact h (dumpsString_append_inj htexts)

/-- The numbers have texts that they are read from. -/
def SnapshotColumns.Readable (env : SnapshotEnv) (c : SnapshotColumns) : Prop :=
  c.createdAt.Valid ∧ ∀ q ∈ [c.avgMttr, c.netPayout, c.totalPenalties, c.totalRewards],
    Json.ReadsBack env.float (.float q)

/-- **A checksum stands for its columns**: whatever hashed column is changed, the checksum
changes. -/
theorem computeChecksum_injective {c c' : SnapshotColumns} (hc : c.Readable env)
    (hc' : c'.Readable env) (h : computeChecksum env c = computeChecksum env c') : c = c' := by
  have hback : ∀ {c : SnapshotColumns}, c.Readable env →
      Json.ReadsBack env.float (.obj c.data) := by
    intro c hc
    have hfloats := hc.2
    simp only [List.forall_mem_cons] at hfloats
    obtain ⟨hmttr, hnet, hpenalties, hrewards, -⟩ := hfloats
    refine .obj (by simp [SnapshotColumns.data]) ?_
    simp only [SnapshotColumns.data, List.forall_mem_cons]
    exact ⟨hmttr, .str _, hnet, .str _, .int _, hpenalties, hrewards, .int _,
      List.forall_mem_nil _⟩
  have htexts := congrArg (fun text : String => Json.loads env.float text.toList)
    (env.sha256_injective h)
  rw [Json.loads_dumps (hback hc), Json.loads_dumps (hback hc')] at htexts
  have hdates : c.createdAt = c'.createdAt := by
    have hiso : c.createdAt.isoformat = c'.createdAt.isoformat := by
      simp [SnapshotColumns.data] at htexts
      exact htexts.2.1
    have hread := congrArg Datetime.fromisoformat hiso
    rw [Datetime.fromisoformat_isoformat hc.1, Datetime.fromisoformat_isoformat hc'.1] at hread
    exact Option.some.inj hread
  simp [SnapshotColumns.data] at htexts
  cases c
  cases c'
  simp_all

/-! ## The snapshots that are made -/

/-- The row has the checksum of a naive `created_at`, and is read with an aware one. -/
def HashedNaive (env : SnapshotEnv) (orm : SLAAnalyticsSnapshotORM) : Prop :=
  ∃ wall, orm.columns.createdAt = .aware wall 0 ∧
    orm.checksum = computeChecksum env { orm.columns with createdAt := .naive wall }

theorem HashedNaive.not_valid {orm : SLAAnalyticsSnapshotORM} (h : HashedNaive env orm) :
    (verifySnapshotIntegrity env (some orm)).valid = false := by
  obtain ⟨wall, hdate, hchecksum⟩ := h
  have hne : computeChecksum env orm.columns ≠ orm.checksum := by
    -- hashed without an offset, read back with one
    have hdiffers := computeChecksum_ne env orm.columns (isoformat_naive_ne_aware wall 0)
    rw [hchecksum]
    intro heq
    apply hdiffers
    rw [← heq, ← hdate]
  unfold verifySnapshotIntegrity
  dsimp only
  rw [if_neg hne]

/-- A call of `create_snapshot` or `rebuild_snapshot`. -/
structure SnapshotCall where
  db : Db
  snapshotKey : String
  now : Time

def SnapshotCall.run (env : SnapshotEnv) (call : SnapshotCall) (table : SnapshotTable) :
    Except Exc SLAAnalyticsSnapshot × SnapshotTable :=
  createSnapshot env call.db call.snapshotKey call.now table

def snapshotsAfter (env : SnapshotEnv) (calls : List SnapshotCall) : SnapshotTable :=
  calls.foldl (fun table call => (call.run env table).2) {}

def SnapshotCall.row (env : SnapshotEnv) (call : SnapshotCall) (id : Nat) (kpis : SLADashboardKPI)
    (perf : SLAPerformanceAggregation) : SLAAnalyticsSnapshotORM :=
  let columns := snapshotColumns call.snapshotKey kpis perf call.now
  SLAAnalyticsSnapshotORM.readBack { id, columns, checksum := computeChecksum env columns }

theorem SnapshotCall.row_instant (call : SnapshotCall) (id : Nat) (kpis : SLADashboardKPI)
    (perf : SLAPerformanceAggregation) :
    (call.row env id kpis perf).columns.createdAt.instant = call.now := Int.sub_zero call.now

theorem SnapshotCall.row_hashedNaive (call : SnapshotCall) (id : Nat) (kpis : SLADashboardKPI)
    (perf : SLAPerformanceAggregation) : HashedNaive env (call.row env id kpis perf) :=
  ⟨call.now, rfl, rfl⟩

theorem SnapshotCall.run_cases (env : SnapshotEnv) (call : SnapshotCall) (table : SnapshotTable) :
    (∃ e, (call.run env table).1 = .error e ∧ (call.run env table).2 = table) ∨
      ∃ kpis perf, aggregateDashboardKpis none none call.db = .ok kpis ∧
        aggregatePerformance {} call.db = .ok perf ∧
        (call.run env table).1 =
          ((call.row env (table.seq + 1) kpis perf).toSnapshot env).validate ∧
        (call.run env table).2.rows =
          table.rows ++ [call.row env (table.seq + 1) kpis perf] := by
  unfold run createSnapshot
  cases aggregateDashboardKpis none none call.db with
  | error e => exact .inl ⟨e, rfl, rfl⟩
  | ok kpis =>
    cases aggregatePerformance {} call.db with
    | error e => exact .inl ⟨e, rfl, rfl⟩
    | ok perf => exact .inr ⟨kpis, perf, rfl, rfl, rfl, rfl⟩

/-- Every row has its checksum from before it was stored. Induction on the calls. -/
theorem hashedNaive_snapshotsAfter (env : SnapshotEnv) (calls : List SnapshotCall) :
    ∀ orm ∈ (snapshotsAfter env calls).rows, HashedNaive env orm := by
  unfold snapshotsAfter
  induction calls using List.reverseRecOn with
  | nil => exact List.forall_mem_nil _
  | append_singleton calls call ih =>
    rw [List.foldl_append, List.foldl_cons, List.foldl_nil]
    -- the last call leaves the rows before it as they are
    generalize calls.foldl (fun table call => (call.run env table).2) {} = table at ih
    rcases call.run_cases env table with ⟨e, -, htable⟩ | ⟨kpis, perf, -, -, -, hrows⟩
    · rw [htable]
      exact ih
    · rw [hrows]
      intro orm horm
      rcases List.mem_append.mp horm with horm | horm
      · exact ih orm horm
      · rw [List.mem_singleton.mp horm]
        exact call.row_hashedNaive _ kpis perf

theorem SnapshotCall.not_driftDetected (env : SnapshotEnv) (call : SnapshotCall) (id : Nat)
    (kpis : SLADashboardKPI) (perf : SLAPerformanceAggregation) :
    driftDetected ((call.row env id kpis perf).toSnapshot env) kpis perf = false := by
  simp [driftDetected, row, SLAAnalyticsSnapshotORM.readBack, SLAAnalyticsSnapshotORM.toSnapshot,
    snapshotColumns]

theorem FindsLatest.eq_newest {rows : List SLAAnalyticsSnapshotORM} {snapshotKey : String}
    {orm : SLAAnalyticsSnapshotORM} {found : Option SLAAnalyticsSnapshotORM}
    (h : FindsLatest (rows ++ [orm]) snapshotKey found)
    (hkey : orm.columns.snapshotKey = snapshotKey)
    (hnewest : ∀ r ∈ rows, r.columns.snapshotKey = snapshotKey →
      r.columns.createdAt.instant < orm.columns.createdAt.instant) : found = some orm := by
  have hmem : orm ∈ rows ++ [orm] := List.mem_append_right _ List.mem_cons_self
  cases found with
  | none => exact absurd hkey (h orm hmem)
  | some found =>
    obtain ⟨hfound, hfoundKey, hlatest⟩ := h
    rcases List.mem_append.mp hfound with hold | hnew
    · have hlt := hnewest found hold hfoundKey
      exact absurd hlt (not_lt.mpr (hlatest orm hmem hkey))
    · rw [List.mem_singleton.mp hnew]

/-- **No snapshot verifies**, whatever has been made before it; and one that is the newest of its
key shows no drift. -/
theorem snapshots_never_verify (env : SnapshotEnv) (calls : List SnapshotCall)
    (call : SnapshotCall) {response : SLAAnalyticsSnapshot}
    (h : (call.run env (snapshotsAfter env calls)).1 = .ok response) :
    let table := snapshotsAfter env (calls ++ [call])
    (∀ found, FindsLatest table.rows call.snapshotKey found →
      (verifySnapshotIntegrity env found).valid = false) ∧
    ((∀ r ∈ (snapshotsAfter env calls).rows, r.columns.snapshotKey = call.snapshotKey →
        r.columns.createdAt.instant < call.now) →
      ∀ found, FindsLatest table.rows call.snapshotKey found →
        ∃ live stored, reconcileSnapshots env call.db call.snapshotKey found =
          .ok (.compared call.snapshotKey response.id response.createdAt false "ok" none
            live stored)) := by
  constructor
  · intro found hfound
    cases found with
    | none => rfl
    | some orm =>
      exact (hashedNaive_snapshotsAfter env (calls ++ [call]) orm hfound.1).not_valid
  · intro hnewest found hfound
    have hafter : snapshotsAfter env (calls ++ [call]) =
        (call.run env (snapshotsAfter env calls)).2 := by
      unfold snapshotsAfter
      rw [List.foldl_append]
      rfl
    rcases call.run_cases env (snapshotsAfter env calls) with
      ⟨e, herror, -⟩ | ⟨kpis, perf, hkpis, hperf, hresponse, hrows⟩
    · rw [herror] at h
      cases h
    · rw [hafter, hrows] at hfound
      -- the row that is found is the one just made, and compared with what it was made of
      have hrow := hfound.eq_newest rfl (by rwa [call.row_instant])
      rw [hresponse] at h
      have hvalue := (validated_eq_ok.mp h).2
      refine ⟨liveData kpis perf, snapshotData response, ?_⟩
      have hdrift := call.not_driftDetected env ((snapshotsAfter env calls).seq + 1) kpis perf
      rw [← hvalue] at hdrift
      have hlatest : found.mapM (fun orm => (orm.toSnapshot env).validate) =
          Except.ok (some response) := by
        rw [hrow]
        show (some <$> ((call.row env _ kpis perf).toSnapshot env).validate) = _
        rw [h]
        rfl
      unfold reconcileSnapshots
      rw [hlatest, hkpis, hperf]
      show Except.ok _ = _
      rw [hdrift]
      rfl

/-! ### The first snapshot -/

def plainSnapshotEnv : SnapshotEnv where
  sha256 text := text
  sha256_injective _ _ h := h
  float := { repr := fun _ => "0.0", parse := fun _ => some 0 }
  datetimeText := Datetime.isoformat

/-- A snapshot of a database without SLA results, at noon of 2025-01-01. -/
def firstSnapshot : SnapshotCall where
  db := {}
  snapshotKey := "global"
  now := 1735732800000000

def firstRow : SLAAnalyticsSnapshotORM :=
  firstSnapshot.row plainSnapshotEnv 1 ⟨0, 0, 0, 0, 0⟩ ⟨0, 0, 0, 0⟩

theorem first_checksum_stands :
    { firstRow.columns with totalOutages := 0 } = firstRow.columns := by
  have hreadable : firstRow.columns.Readable plainSnapshotEnv := by
    refine ⟨by decide, ?_⟩
    simp only [List.forall_mem_cons]
    exact ⟨.float rfl rfl, .float rfl rfl, .float rfl rfl, .float rfl rfl, List.forall_mem_nil _⟩
  exact @computeChecksum_injective plainSnapshotEnv _ _ hreadable hreadable rfl

theorem run_firstSnapshot :
    firstSnapshot.run plainSnapshotEnv {} =
      (.ok (firstRow.toSnapshot plainSnapshotEnv), { rows := [firstRow], seq := 1 }) := by
  have hkpis : aggregateDashboardKpis none none firstSnapshot.db = .ok ⟨0, 0, 0, 0, 0⟩ := by
    decide +kernel
  have hperf : aggregatePerformance {} firstSnapshot.db = .ok ⟨0, 0, 0, 0⟩ := by
    decide +kernel
  have hvalid : (firstRow.toSnapshot plainSnapshotEnv).validate =
      .ok (firstRow.toSnapshot plainSnapshotEnv) := by
    refine validated_eq_ok.mpr ⟨?_, rfl⟩
    simp [firstRow, SnapshotCall.row, SLAAnalyticsSnapshotORM.toSnapshot,
      SLAAnalyticsSnapshotORM.readBack, snapshotColumns]
  unfold SnapshotCall.run createSnapshot
  rw [hkpis, hperf]
  exact Prod.ext hvalid rfl

theorem snapshotsAfter_first :
    snapshotsAfter plainSnapshotEnv [firstSnapshot] = { rows := [firstRow], seq := 1 } :=
  congrArg Prod.snd run_firstSnapshot

theorem findsLatest_first : FindsLatest [firstRow] "global" (some firstRow) := by
  refine ⟨List.mem_cons_self, rfl, ?_⟩
  intro r hr _
  rw [List.mem_singleton.mp hr]

/-- The first snapshot is found, does not verify, and shows no drift. -/
theorem first_snapshot_never_verifies :
    (verifySnapshotIntegrity plainSnapshotEnv (some firstRow)).valid = false ∧
      ∃ live stored, reconcileSnapshots plainSnapshotEnv firstSnapshot.db "global" (some firstRow) =
        .ok (.compared "global" 1 "2025-01-01T12:00:00+00:00" false "ok" none live stored) := by
  have hrun : (firstSnapshot.run plainSnapshotEnv (snapshotsAfter plainSnapshotEnv [])).1 =
      .ok (firstRow.toSnapshot plainSnapshotEnv) := congrArg Prod.fst run_firstSnapshot
  obtain ⟨hvalid, hdrift⟩ := snapshots_never_verify plainSnapshotEnv [] firstSnapshot hrun
  rw [List.nil_append, snapshotsAfter_first] at hvalid hdrift
  exact ⟨hvalid _ findsLatest_first, hdrift (List.forall_mem_nil _) _ findsLatest_first⟩

/-- **The first snapshot is reported as tampered with.** -/
theorem first_snapshot_is_invalid :
    ¬ ∀ (env : SnapshotEnv) (call : SnapshotCall) (response : SLAAnalyticsSnapshot),
      (call.run env {}).1 = .ok response → ∀ found,
        FindsLatest (call.run env {}).2.rows call.snapshotKey found →
          (verifySnapshotIntegrity env found).valid = true := by
  intro hall
  have hvalid := hall plainSnapshotEnv firstSnapshot _ (congrArg Prod.fst run_firstSnapshot)
  rw [run_firstSnapshot] at hvalid
  have hnaive : HashedNaive plainSnapshotEnv firstRow := firstSnapshot.row_hashedNaive _ _ _
  exact Bool.false_ne_true (hnaive.not_valid.symm.trans (hvalid _ findsLatest_first))

end NocIq
