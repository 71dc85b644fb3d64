import NocIq.Isoformat
import NocIq.Lib.PrefixClasses
import NocIq.Schema

/-!
# NocIq — event coverage

`check_event_coverage` of `app/services/audit_log.py`: the events of the last hours are counted by
the prefix of their type, and a class without events is reported as critical.

An event is credited to the first class that fits. `webhook.` stands before `webhook.partition.` and
`webhook.slo.`, so these two are never credited with an event.

* **`checkEventCoverage_eq`** — what the report says of each class, and its totals.
* **`counts_by_class_iff`** — the audit logs and windows whose events are counted by their longest
  class.
-/

namespace NocIq

/-! ## The taxonomy -/

structure EventClassMeta where
  impactedMetrics : List String
  ingestionStage : String
  deriving DecidableEq, Repr

/-- `EXPECTED_EVENT_CLASSES`, in the order of the dictionary. -/
def expectedEventClasses : List (String × EventClassMeta) :=
  [("wallet.", ⟨["wallet_balance", "wallet_status", "trustline_coverage"], "wallet_registry"⟩),
    ("auth.", ⟨["login_success_rate", "lockout_rate", "auth_failure_rate"], "auth_store"⟩),
    ("job_", ⟨["job_success_rate", "retry_rate", "failure_rate"], "sla_tasks / celery"⟩),
    ("sla.", ⟨["sla_violation_rate", "avg_mttr", "payout_sum"], "sla_service"⟩),
    ("webhook.", ⟨["webhook_delivery_rate", "webhook_failure_rate"], "webhook_service"⟩),
    ("payment.", ⟨["payment_success_rate", "payment_volume"], "payment_service"⟩),
    ("redaction.", ⟨["redaction_config_changes", "redaction_audit_events"], "webhook_service"⟩),
    ("webhook.partition.", ⟨["partition_lag", "partition_throughput", "backpressure_events"],
      "webhook_service"⟩),
    ("webhook.slo.", ⟨["slo_burn_rate", "slo_budget_remaining", "slo_latency_breach"],
      "webhook_service"⟩)]

def expectedPrefixes : List String := expectedEventClasses.map Prod.fst

/-! ## The report -/

inductive CoverageSeverity where
  | ok
  | warning
  | critical
  deriving DecidableEq, Repr

structure EventClassCoverage where
  eventClass : String
  present : Bool
  eventCount : Nat
  impactedMetrics : List String
  ingestionStage : String
  severity : CoverageSeverity
  deriving DecidableEq, Repr

structure EventCoverageReport where
  checkedAt : String
  windowHours : Int
  totalExpectedClasses : Nat
  coveredClasses : Nat
  missingClasses : Nat
  underrepresentedClasses : Nat
  coverage : List EventClassCoverage
  deriving DecidableEq, Repr

/-- `counts[prefix] += 1` for the first class that fits. -/
def creditEvent (counts : String → Nat) (eventType : String) : String → Nat :=
  match expectedPrefixes.find? fun p => p.toList.isPrefixOf eventType.toList with
  | some p => Function.update counts p (counts p + 1)
  | none => counts

/-- What the loop over the classes has collected. -/
structure CoverageTally where
  coverage : List EventClassCoverage := []
  missing : Nat := 0
  underrepresented : Nat := 0
  covered : Nat := 0

def judgeClass (underrepresentedThreshold : Int) (counts : String → Nat) (t : CoverageTally)
    (c : String × EventClassMeta) : CoverageTally :=
  let count := counts c.1
  let entry (severity : CoverageSeverity) : EventClassCoverage :=
    { eventClass := c.1
      present := decide (0 < count)
      eventCount := count
      impactedMetrics := c.2.impactedMetrics
      ingestionStage := c.2.ingestionStage
      severity }
  if count = 0 then
    { t with missing := t.missing + 1, coverage := t.coverage ++ [entry .critical] }
  else if (count : Int) < underrepresentedThreshold then
    { t with
      underrepresented := t.underrepresented + 1
      covered := t.covered + 1
      coverage := t.coverage ++ [entry .warning] }
  else { t with covered := t.covered + 1, coverage := t.coverage ++ [entry .ok] }

/-- `now - timedelta(hours=window_hours)`, an `OverflowError` when that is no `datetime`. -/
def windowStart? (now : Time) (windowHours : Int) : Option Time :=
  let t := now - timedelta windowHours 0 0
  if (Datetime.now t).Valid then some t else none

/-- The `event_type`s of the rows from an instant on. -/
def eventTypesSince (cutoff : Time) (db : Db) : List String :=
  (db.auditLogs.filter fun r => cutoff ≤ r.createdAt).map AuditLogORM.eventType

/-- `checked_at` is a second reading of the clock. -/
def checkEventCoverage (windowHours underrepresentedThreshold : Int) (now checkedAt : Time)
    (db : Db) : Option EventCoverageReport :=
  match windowStart? now windowHours with
  | none => none
  | some cutoff =>
    let counts := (eventTypesSince cutoff db).foldl creditEvent fun _ => 0
    let tally := expectedEventClasses.foldl (judgeClass underrepresentedThreshold counts) {}
    some {
      checkedAt := (Datetime.now checkedAt).isoformat
      windowHours
      totalExpectedClasses := expectedEventClasses.length
      coveredClasses := tally.covered
      missingClasses := tally.missing
      underrepresentedClasses := tally.underrepresented
      coverage := tally.coverage }

/-- Every class once, with the events whose longest class it is; critical are those without. -/
structure EventCoverageReport.CountsByClass (eventTypes : List String)
    (report : EventCoverageReport) : Prop where
  classes : report.coverage.map EventClassCoverage.eventClass = expectedPrefixes
  counts : ∀ entry ∈ report.coverage, entry.eventCount = eventTypes.countP fun eventType =>
    PrefixClasses.Longest String.toList expectedPrefixes eventType.toList entry.eventClass
  critical : ∀ entry ∈ report.coverage, entry.severity = .critical ↔ entry.eventCount = 0
  accounted : report.coveredClasses + report.missingClasses = report.totalExpectedClasses

/-! ## The two loops -/

/-- **One event** counts for the first class that fits. -/
theorem creditEvent_apply (counts : String → Nat) (eventType p : String) :
    creditEvent counts eventType p = counts p +
      if PrefixClasses.firstMatch String.toList expectedPrefixes eventType.toList = some p
      then 1 else 0 := by
  unfold creditEvent
  show (match PrefixClasses.firstMatch String.toList expectedPrefixes eventType.toList with
    | some p => Function.update counts p (counts p + 1)
    | none => counts) p = _
  cases PrefixClasses.firstMatch String.toList expectedPrefixes eventType.toList with
  | none => simp
  | some q =>
    by_cases hpq : p = q
    · simp [hpq]
    · simp [Function.update_of_ne hpq, Ne.symm hpq]

/-- All events. Induction on them. -/
theorem foldl_creditEvent (eventTypes : List String) (counts : String → Nat) (p : String) :
    eventTypes.foldl creditEvent counts p = counts p + eventTypes.countP fun eventType =>
      PrefixClasses.firstMatch String.toList expectedPrefixes eventType.toList = some p := by
  induction eventTypes generalizing counts with
  | nil => rfl
  | cons eventType eventTypes ih =>
    rw [List.foldl_cons, ih, creditEvent_apply, List.countP_cons]
    simp only [decide_eq_true_eq]
    omega

def coverageOf (underrepresentedThreshold : Int) (counts : String → Nat)
    (c : String × EventClassMeta) : EventClassCoverage where
  eventClass := c.1
  present := decide (0 < counts c.1)
  eventCount := counts c.1
  impactedMetrics := c.2.impactedMetrics
  ingestionStage := c.2.ingestionStage
  severity :=
    if counts c.1 = 0 then .critical
    else if (counts c.1 : Int) < underrepresentedThreshold then .warning
    else .ok

section Judging

variable (threshold : Int) (counts : String → Nat)

/-- **One class** gets its entry, and is covered or missing. -/
theorem judgeClass_eq (t : CoverageTally) (c : String × EventClassMeta) :
    (judgeClass threshold counts t c).coverage = t.coverage ++ [coverageOf threshold counts c] ∧
      (judgeClass threshold counts t c).covered + (judgeClass threshold counts t c).missing =
        t.covered + t.missing + 1 := by
  unfold judgeClass coverageOf
  dsimp only
  by_cases hzero : counts c.1 = 0
  · rw [if_pos hzero, if_pos hzero]
    exact ⟨rfl, by dsimp only; omega⟩
  · rw [if_neg hzero, if_neg hzero]
    by_cases hfew : (counts c.1 : Int) < threshold
    · rw [if_pos hfew, if_pos hfew]
      exact ⟨rfl, by dsimp only; omega⟩
    · rw [if_neg hfew, if_neg hfew]
      exact ⟨rfl, by dsimp only; omega⟩

/-- All classes. Induction on them. -/
theorem foldl_judgeClass (classes : List (String × EventClassMeta)) (t : CoverageTally) :
    (classes.foldl (judgeClass threshold counts) t).coverage =
        t.coverage ++ classes.map (coverageOf threshold counts) ∧
      (classes.foldl (judgeClass threshold counts) t).covered +
        (classes.foldl (judgeClass threshold counts) t).missing =
        t.covered + t.missing + classes.length := by
  induction classes generalizing t with
  | nil =>
    rw [List.foldl_nil, List.map_nil, List.append_nil]
    exact ⟨rfl, rfl⟩
  | cons c classes ih =>
    obtain ⟨hcoverage, hcounts⟩ := judgeClass_eq threshold counts t c
    obtain ⟨hcoverage', hcounts'⟩ := ih (judgeClass threshold counts t c)
    rw [List.foldl_cons, hcoverage', hcounts', hcoverage, hcounts, List.length_cons]
    constructor
    · rw [List.append_assoc]
      rfl
    · omega

end Judging

/-! ## What is reported -/

/-- **The report**: the entries of the classes, and as many classes as were covered or missing. -/
theorem checkEventCoverage_eq {windowHours : Int} (threshold : Int) {now cutoff : Time}
    (checkedAt : Time) (db : Db) (hstart : windowStart? now windowHours = some cutoff) :
    ∃ report, checkEventCoverage windowHours threshold now checkedAt db = some report ∧
      report.coverage = expectedEventClasses.map
        (coverageOf threshold ((eventTypesSince cutoff db).foldl creditEvent fun _ => 0)) ∧
      report.coveredClasses + report.missingClasses = report.totalExpectedClasses := by
  obtain ⟨hcoverage, hcounts⟩ := foldl_judgeClass threshold
    ((eventTypesSince cutoff db).foldl creditEvent fun _ => 0) expectedEventClasses {}
  unfold checkEventCoverage
  rw [hstart]
  refine ⟨_, rfl, hcoverage, ?_⟩
  rw [hcounts]
  exact Nat.zero_add _

theorem coverageOf_critical (threshold : Int) (counts : String → Nat)
    (c : String × EventClassMeta) :
    (coverageOf threshold counts c).severity = .critical ↔
      (coverageOf threshold counts c).eventCount = 0 := by
  unfold coverageOf
  dsimp only
  by_cases hzero : counts c.1 = 0
  · simp [hzero]
  · rw [if_neg hzero]
    split <;> simp [hzero]

theorem shadowed_expected :
    PrefixClasses.shadowed String.toList expectedPrefixes =
      ["webhook.partition.", "webhook.slo."] := by
  decide

theorem longest_shadowed_iff (eventType : String) :
    (∃ c, PrefixClasses.Longest String.toList expectedPrefixes eventType.toList c ∧
        c ∈ PrefixClasses.shadowed String.toList expectedPrefixes) ↔
      PrefixClasses.fits String.toList eventType.toList "webhook.partition." = true ∨
        PrefixClasses.fits String.toList eventType.toList "webhook.slo." = true := by
  rw [shadowed_expected]
  constructor
  · intro hexists
    obtain ⟨c, hc, hmem⟩ := hexists
    rw [List.mem_pair] at hmem
    rcases hmem with rfl | rfl
    · exact .inl hc.fits
    · exact .inr hc.fits
  · intro heither
    rcases heither with hfits | hfits
    · exact ⟨_, PrefixClasses.longest_of_unrefined (by decide) hfits (by decide), by decide⟩
    · exact ⟨_, PrefixClasses.longest_of_unrefined (by decide) hfits (by decide), by decide⟩

theorem countsByClass_iff (threshold : Int) (eventTypes : List String)
    {report : EventCoverageReport}
    (hcoverage : report.coverage =
      expectedEventClasses.map (coverageOf threshold (eventTypes.foldl creditEvent fun _ => 0)))
    (haccounted : report.coveredClasses + report.missingClasses = report.totalExpectedClasses) :
    report.CountsByClass eventTypes ↔ ∀ eventType ∈ eventTypes,
      ¬ PrefixClasses.fits String.toList eventType.toList "webhook.partition." = true ∧
        ¬ PrefixClasses.fits String.toList eventType.toList "webhook.slo." = true := by
  have hnodup : expectedPrefixes.Nodup := by decide
  -- the counts of the loop are those of the first match
  have hagree := PrefixClasses.counts_agree_iff String.toList hnodup (eventTypes.map String.toList)
  simp only [List.countP_map, List.forall_mem_map] at hagree
  have hcounts : (∀ entry ∈ report.coverage, entry.eventCount = eventTypes.countP fun eventType =>
        PrefixClasses.Longest String.toList expectedPrefixes eventType.toList entry.eventClass) ↔
      ∀ p ∈ expectedPrefixes, (eventTypes.countP fun eventType =>
          PrefixClasses.firstMatch String.toList expectedPrefixes eventType.toList = some p) =
        eventTypes.countP fun eventType =>
          PrefixClasses.Longest String.toList expectedPrefixes eventType.toList p := by
    rw [hcoverage, List.forall_mem_map]
    unfold expectedPrefixes
    rw [List.forall_mem_map]
    apply forall₂_congr
    intro c _
    show (eventTypes.foldl creditEvent (fun _ => 0) c.1 = _) ↔ _
    rw [foldl_creditEvent, Nat.zero_add]
    rfl
  have hunshadowed : (∀ eventType ∈ eventTypes, ∀ c,
        PrefixClasses.Longest String.toList expectedPrefixes eventType.toList c →
          c ∉ PrefixClasses.shadowed String.toList expectedPrefixes) ↔
      ∀ eventType ∈ eventTypes,
        ¬ PrefixClasses.fits String.toList eventType.toList "webhook.partition." = true ∧
          ¬ PrefixClasses.fits String.toList eventType.toList "webhook.slo." = true := by
    apply forall₂_congr
    intro eventType _
    rw [← not_or, ← longest_shadowed_iff, not_exists]
    exact forall_congr' fun c => not_and.symm
  rw [← hunshadowed, ← hagree]
  constructor
  · intro hby
    exact hcounts.mp hby.counts
  · intro hall
    refine ⟨?_, hcounts.mpr hall, ?_, haccounted⟩
    · rw [hcoverage, List.map_map]
      rfl
    · rw [hcoverage, List.forall_mem_map]
      intro c _
      exact coverageOf_critical threshold _ c

/-- **Every audit log and window.** The report is made and counts by class exactly if the window
starts at a `datetime` and no event in it is of a class that refines `webhook.`. -/
theorem counts_by_class_iff (windowHours threshold : Int) (now checkedAt : Time) (db : Db) :
    (∃ report, checkEventCoverage windowHours threshold now checkedAt db = some report ∧
        report.CountsByClass (eventTypesSince (now - timedelta windowHours 0 0) db)) ↔
      (Datetime.now (now - timedelta windowHours 0 0)).Valid ∧
        ∀ eventType ∈ eventTypesSince (now - timedelta windowHours 0 0) db,
          ¬ PrefixClasses.fits String.toList eventType.toList "webhook.partition." = true ∧
            ¬ PrefixClasses.fits String.toList eventType.toList "webhook.slo." = true := by
  by_cases hvalid : (Datetime.now (now - timedelta windowHours 0 0)).Valid
  · have hstart : windowStart? now windowHours = some (now - timedelta windowHours 0 0) :=
      if_pos hvalid
    obtain ⟨report, hreport, hcoverage, haccounted⟩ :=
      checkEventCoverage_eq threshold checkedAt db hstart
    have hiff := countsByClass_iff threshold _ hcoverage haccounted
    constructor
    · intro hexists
      obtain ⟨report', hreport', hby⟩ := hexists
      rw [hreport, Option.some.injEq] at hreport'
      rw [← hreport'] at hby
      exact ⟨hvalid, hiff.mp hby⟩
    · intro hcond
      exact ⟨report, hreport, hiff.mpr hcond.2⟩
  · have hstart : windowStart? now windowHours = none := if_neg hvalid
    constructor
    · intro hexists
      obtain ⟨report, hreport, -⟩ := hexists
      unfold checkEventCoverage at hreport
      rw [hstart] at hreport
      cases hreport
    · intro hcond
      exact absurd hcond.1 hvalid

/-- A budget alert among the events of the last day. -/
def sloAlerts : Db where
  auditLogs := [⟨"webhook.slo.budget_exhausted", [], 1700000000000000⟩]

/-- It is counted as `webhook.`, and `webhook.slo.` is reported as missing. -/
theorem slo_alert_is_missed :
    ¬ ∃ report, checkEventCoverage 24 5 1700000000000001 1700000000000002 sloAlerts = some report ∧
      report.CountsByClass
        (eventTypesSince (1700000000000001 - timedelta 24 0 0) sloAlerts) := by
  intro hexists
  obtain ⟨report, hreport, hby⟩ := hexists
  -- the loop stops at `webhook.`
  have hlast : (checkEventCoverage 24 5 1700000000000001 1700000000000002 sloAlerts).any
      (fun report => decide (∃ entry ∈ report.coverage, entry.eventClass = "webhook.slo." ∧
        entry.eventCount = 0)) = true := by decide +kernel
  rw [hreport] at hlast
  obtain ⟨entry, hentry, hclass, hzero⟩ := of_decide_eq_true hlast
  have hcount := hby.counts entry hentry
  rw [hzero, hclass] at hcount
  exact absurd hcount (by decide +kernel)

end NocIq
