import Mathlib.Control.Traversable.Instances
import Mathlib.Data.List.Sort
import NocIq.Isoformat
import NocIq.Lib.Bins
import NocIq.Lib.Rounding

/-!
# NocIq — trend buckets

`TrendAggregator.aggregate` of `app/services/analytics/trend_aggregator.py`: metric points in a
range are collected in windows of an hour, a day or a week of UTC.

`buckets[bucket_start].append(float(value))` looks the bucket up before it converts the value, so a
value that is skipped has already made an empty bucket.

* **`alignToWindow_eq`** — alignment goes back to the last multiple of the window, counted from the
  first Monday of year 1.
* **`aggregate_eq`** — the runs that raise nothing, and what they return.
* **`trend_partition_iff`** — the inputs whose points are partitioned into buckets.
-/

namespace NocIq

open Calendar Rounding

namespace TrendAggregator

instance (wall : Int) : Decidable (Datetime.InRange wall) := inferInstanceAs (Decidable (_ ∧ _))

/-! ## Windows -/

inductive WindowSize where
  | hourly
  | daily
  | weekly
  deriving DecidableEq, Repr

namespace WindowSize

def value : WindowSize → String
  | hourly => "hourly"
  | daily => "daily"
  | weekly => "weekly"

/-- `WindowSize(value)`. -/
def ofValue (value : String) : Option WindowSize :=
  [hourly, daily, weekly].find? fun w => w.value = value

/-- `_WINDOW_DELTAS`, in microseconds. -/
def delta : WindowSize → Int
  | hourly => timedelta 1 0 0
  | daily => timedelta 24 0 0
  | weekly => timedelta (7 * 24) 0 0

theorem ofValue_value (w : WindowSize) : ofValue w.value = some w := by
  cases w <;> decide

theorem delta_pos (w : WindowSize) : 0 < w.delta := by
  cases w <;> decide

end WindowSize

/-- `weekday()`: Monday is 0. Year 1 starts on a Monday. -/
def weekday (wall : Int) : Nat := (Datetime.date wall).days % 7

/-- `_align_to_window`. -/
def alignToWindow (dt : Int) : WindowSize → Int
  | .hourly => Datetime.wallOf (Datetime.date dt) ⟨(Datetime.clock dt).hour, 0, 0, 0, by
      have := (Datetime.clock dt).valid
      rw [ValidClock] at this ⊢
      omega⟩
  | .daily => Datetime.wallOf (Datetime.date dt) ⟨0, 0, 0, 0, by decide⟩
  | .weekly =>
    let aligned := Datetime.wallOf (Datetime.date dt) ⟨0, 0, 0, 0, by decide⟩
    aligned - timedelta (24 * weekday aligned) 0 0

/-! ## The aggregation -/

/-- What `float(…)` does: it returns, raises a `TypeError` or a `ValueError`, or raises something
else, as an `OverflowError` for a large integer. -/
inductive Conversion (F : Type) where
  | ok (x : F)
  | skipped
  | raises

/-- Python's floats, and its conversion of any value. -/
structure FloatEnv (V F : Type) where
  float : V → Conversion F
  zero : F
  sum : List F → F
  div : F → Nat → F
  min : List F → F
  max : List F → F
  round6 : F → F

/-- A point: its `timestamp`, if that is a `datetime`, and its `value`, if it has one. -/
structure MetricPoint (V : Type) where
  timestamp : Option { d : Datetime // d.Valid }
  value : Option V

structure TrendBucket (F : Type) where
  window : String
  bucketStart : String
  bucketEnd : String
  count : Nat
  sum : F
  avg : F
  min : F
  max : F
  deriving DecidableEq, Repr

inductive TrendFault where
  /-- the text is no `WindowSize` -/
  | valueError
  /-- there is no such `datetime` -/
  | overflowError
  /-- what `float(value)` has raised -/
  | conversion
  deriving DecidableEq, Repr

section Aggregate

variable {V F : Type} (env : FloatEnv V F)

/-- `astimezone(timezone.utc).replace(tzinfo=None)`, for an aware datetime. -/
def toUtc (d : Datetime) : Except TrendFault Int :=
  match d with
  | .naive wall => .ok wall
  | .aware wall utcOffset =>
    if Datetime.InRange (wall - utcOffset) then .ok (wall - utcOffset) else .error .overflowError

/-- The points with a `datetime`, that datetime in UTC. -/
def normalise : List (MetricPoint V) → Except TrendFault (List (Int × Option V))
  | [] => .ok []
  | m :: metrics =>
    match m.timestamp with
    | none => normalise metrics
    | some d => do
      let ts ← toUtc d.1
      let normalised ← normalise metrics
      return (ts, m.value) :: normalised

/-- `float(m.get("value", 0.0))`. -/
def convert : Option V → Conversion F
  | none => .ok env.zero
  | some value => env.float value

/-- Neither before `from_dt` nor from `to_dt` on. -/
def inside (fromDt toDt : Option Int) (ts : Int) : Bool :=
  !fromDt.any (fun bound => ts < bound) && !toDt.any (fun bound => bound ≤ ts)

def addPoint (window : WindowSize) (fromDt toDt : Option Int) (buckets : List (Int × List F))
    (m : Int × Option V) : Except TrendFault (List (Int × List F)) :=
  if inside fromDt toDt m.1 then
    let bucketStart := alignToWindow m.1 window
    match convert env m.2 with
    | .ok x => .ok (Bins.add bucketStart (some x) buckets)
    | .skipped => .ok (Bins.add bucketStart none buckets)
    | .raises => .error .conversion
  else .ok buckets

/-- `dt.isoformat() + "Z"`. -/
def zulu (dt : Int) : String := (Datetime.naive dt).isoformat ++ "Z"

def trendBucket (window : WindowSize) (bucket : Int × List F) :
    Except TrendFault (TrendBucket F) :=
  let (bucketStart, values) := bucket
  if Datetime.InRange (bucketStart + window.delta) then
    .ok
      { window := window.value
        bucketStart := zulu bucketStart
        bucketEnd := zulu (bucketStart + window.delta)
        count := values.length
        sum := env.round6 (env.sum values)
        avg := if values = [] then env.zero else env.round6 (env.div (env.sum values) values.length)
        min := if values = [] then env.zero else env.round6 (env.min values)
        max := if values = [] then env.zero else env.round6 (env.max values) }
  else .error .overflowError

/-- `aggregate`, from the buckets on: `sorted(buckets)`. -/
def aggregateWindow (window : WindowSize) (metrics : List (MetricPoint V))
    (fromDt toDt : Option { d : Datetime // d.Valid }) :
    Except TrendFault (List (TrendBucket F)) := do
  let normalised ← normalise metrics
  let fromDt ← fromDt.mapM fun d => toUtc d.1
  let toDt ← toDt.mapM fun d => toUtc d.1
  let buckets ← normalised.foldlM (addPoint env window fromDt toDt) []
  (buckets.insertionSort fun a b => a.1 ≤ b.1).mapM (trendBucket env window)

def aggregate (metrics : List (MetricPoint V)) (windowSize : String)
    (fromDt toDt : Option { d : Datetime // d.Valid }) :
    Except TrendFault (List (TrendBucket F)) :=
  match WindowSize.ofValue windowSize with
  | some window => aggregateWindow env window metrics fromDt toDt
  | none => .error .valueError

/-! ## Partitions -/

def Conversion.value? : Conversion F → Option F
  | .ok x => some x
  | _ => none

def pointsInRange (metrics : List (MetricPoint V))
    (fromDt toDt : Option { d : Datetime // d.Valid }) : List (Int × Option V) :=
  (metrics.filterMap fun m => m.timestamp.map fun d => (d.1.instant, m.value)).filter fun p =>
    inside (fromDt.map fun d => d.1.instant) (toDt.map fun d => d.1.instant) p.1

/-- The times of those with a value that is a number. -/
def numericTimes (metrics : List (MetricPoint V))
    (fromDt toDt : Option { d : Datetime // d.Valid }) : List Int :=
  ((pointsInRange metrics fromDt toDt).filter fun p => (convert env p.2).value?.isSome).map Prod.fst

/-- The full hours; of a day its midnight; and the midnight of a Monday. -/
def WindowSize.Aligned (window : WindowSize) (wall : Int) : Prop :=
  let clock := Datetime.clock wall
  (clock.minute = 0 ∧ clock.second = 0 ∧ clock.microsecond = 0) ∧
    (window ≠ .hourly → clock.hour = 0) ∧ (window = .weekly → weekday wall = 0)

/-- The buckets start at `starts` and partition the times. -/
structure IsTrend (window : WindowSize) (times starts : List Int)
    (buckets : List (TrendBucket F)) : Prop where
  valid : ∀ s ∈ starts, Datetime.InRange s ∧ Datetime.InRange (s + window.delta)
  bucketStart : buckets.map TrendBucket.bucketStart = starts.map zulu
  bucketEnd : buckets.map TrendBucket.bucketEnd = starts.map fun s => zulu (s + window.delta)
  increasing : starts.Pairwise (· < ·)
  aligned : ∀ s ∈ starts, window.Aligned s
  once : ∀ t ∈ times, ∃! s, s ∈ starts ∧ s ≤ t ∧ t < s + window.delta
  counts : buckets.map TrendBucket.count =
    starts.map fun s => times.countP fun t => s ≤ t ∧ t < s + window.delta
  total : (buckets.map TrendBucket.count).sum = times.length
  nonempty : ∀ b ∈ buckets, 0 < b.count

/-- Every datetime has one in UTC and its window an end; no conversion raises anything but what is
skipped, and what is skipped shares its window with a number. -/
structure Clean (window : WindowSize) (metrics : List (MetricPoint V))
    (fromDt toDt : Option { d : Datetime // d.Valid }) : Prop where
  dates : ∀ m ∈ metrics, ∀ d, m.timestamp = some d → Datetime.InRange d.1.instant
  bounds : ∀ d, fromDt = some d ∨ toDt = some d → Datetime.InRange d.1.instant
  values : ∀ p ∈ pointsInRange metrics fromDt toDt, convert env p.2 ≠ .raises
  ends : ∀ p ∈ pointsInRange metrics fromDt toDt,
    Datetime.InRange (alignToWindow p.1 window + window.delta)
  shared : ∀ p ∈ pointsInRange metrics fromDt toDt, ∃ q ∈ pointsInRange metrics fromDt toDt,
    (convert env q.2).value?.isSome = true ∧ alignToWindow q.1 window = alignToWindow p.1 window

/-! ## Alignment -/

theorem fields_eq {wall : Int} (h : Datetime.InRange wall) :
    ∃ n : Nat, wall + Datetime.yearOne = n ∧ (Datetime.date wall).days = n / dayLength ∧
      Datetime.clock wall = .ofMicroseconds (n % dayLength) := by
  obtain ⟨hnonneg, hlt⟩ := h
  refine ⟨(wall + Datetime.yearOne).toNat, by omega, ?_, rfl⟩
  unfold Datetime.date
  rw [Date.days_ofDays]
  rw [Nat.div_lt_iff_lt_mul (by decide)]
  omega

theorem midnight_eq {dt : Int} (h : Datetime.InRange dt) :
    Datetime.wallOf (Datetime.date dt) ⟨0, 0, 0, 0, by decide⟩ =
      Bins.start 86400000000 (dt + Datetime.yearOne) - Datetime.yearOne := by
  obtain ⟨n, hn, hdays, -⟩ := fields_eq h
  have hzero : (⟨0, 0, 0, 0, by decide⟩ : Clock).microseconds = 0 := rfl
  unfold Datetime.wallOf Bins.start
  rw [hdays, hzero, hn, dayLength]
  omega

/-- `_align_to_window` goes back to the last multiple of the window. -/
theorem alignToWindow_eq {dt : Int} (h : Datetime.InRange dt) (window : WindowSize) :
    alignToWindow dt window =
      Bins.start window.delta (dt + Datetime.yearOne) - Datetime.yearOne := by
  obtain ⟨n, hn, hdays, hclock⟩ := fields_eq h
  cases window with
  | hourly =>
    have hdelta : WindowSize.hourly.delta = 3600000000 := by decide
    have hhour : (Datetime.clock dt).hour = n % dayLength / 3600000000 % 24 := by
      rw [hclock]
      rfl
    unfold alignToWindow Datetime.wallOf Bins.start
    dsimp only [Clock.microseconds, duration]
    rw [hhour, hdays, hn, hdelta, dayLength]
    omega
  | daily =>
    have hdelta : WindowSize.daily.delta = 86400000000 := by decide
    rw [hdelta]
    exact midnight_eq h
  | weekly =>
    have hdelta : WindowSize.weekly.delta = 604800000000 := by decide
    unfold alignToWindow
    dsimp only
    rw [midnight_eq h, hdelta, hn]
    have hrange : Datetime.InRange (Bins.start 86400000000 n - Datetime.yearOne) := by
      obtain ⟨hnonneg, hlt⟩ := h
      unfold Datetime.InRange Bins.start
      omega
    -- the weekday is that of the midnight
    obtain ⟨n', hn', hdays', -⟩ := fields_eq hrange
    unfold weekday timedelta Bins.start at *
    rw [hdays', dayLength]
    omega

theorem alignToWindow_inRange {dt : Int} (h : Datetime.InRange dt) (window : WindowSize) :
    Datetime.InRange (alignToWindow dt window) := by
  have hle := Bins.start_le window.delta_pos (dt + Datetime.yearOne)
  rw [alignToWindow_eq h]
  obtain ⟨hnonneg, hlt⟩ := h
  have hstart : 0 ≤ Bins.start window.delta (dt + Datetime.yearOne) :=
    Bins.start_nonneg window.delta_pos hnonneg
  unfold Datetime.InRange
  omega

theorem aligned_of_emod {s : Int} (h : Datetime.InRange s) {window : WindowSize}
    (hs : (s + Datetime.yearOne) % window.delta = 0) : window.Aligned s := by
  obtain ⟨n, hn, hdays, hclock⟩ := fields_eq h
  rw [hn] at hs
  unfold WindowSize.Aligned weekday
  dsimp only
  rw [hclock, hdays]
  dsimp only [Clock.ofMicroseconds]
  unfold dayLength
  cases window with
  | hourly =>
    have hdelta : WindowSize.hourly.delta = 3600000000 := by decide
    rw [hdelta] at hs
    exact ⟨by omega, fun hne => absurd rfl hne, fun heq => nomatch heq⟩
  | daily =>
    have hdelta : WindowSize.daily.delta = 86400000000 := by decide
    rw [hdelta] at hs
    exact ⟨by omega, fun _ => by omega, fun heq => nomatch heq⟩
  | weekly =>
    have hdelta : WindowSize.weekly.delta = 604800000000 := by decide
    rw [hdelta] at hs
    exact ⟨by omega, fun _ => by omega, fun _ => by omega⟩

theorem alignToWindow_aligned {dt : Int} (h : Datetime.InRange dt) (window : WindowSize) :
    window.Aligned (alignToWindow dt window) := by
  refine aligned_of_emod (alignToWindow_inRange h window) ?_
  rw [alignToWindow_eq h, Int.sub_add_cancel]
  exact Bins.start_emod _

theorem mem_window_iff {t dt : Int} (ht : Datetime.InRange t) (h : Datetime.InRange dt)
    (window : WindowSize) :
    (alignToWindow dt window ≤ t ∧ t < alignToWindow dt window + window.delta) ↔
      alignToWindow t window = alignToWindow dt window := by
  have hstart : Bins.start window.delta (dt + Datetime.yearOne) % window.delta = 0 :=
    Bins.start_emod _
  have hbin := Bins.mem_bin_iff window.delta_pos hstart (t := t + Datetime.yearOne)
  rw [alignToWindow_eq h, alignToWindow_eq ht]
  omega

/-! ## What a run collects -/

theorem toUtc_eq (d : { d : Datetime // d.Valid }) :
    toUtc d.1 =
      if Datetime.InRange d.1.instant then .ok d.1.instant else .error .overflowError := by
  obtain ⟨d, hd⟩ := d
  cases d with
  | naive wall =>
    have hwall : Datetime.InRange wall := hd
    exact (if_pos hwall).symm
  | aware wall utcOffset => rfl

theorem toUtc_ok_iff {d : { d : Datetime // d.Valid }} {t : Int} :
    toUtc d.1 = .ok t ↔ Datetime.InRange d.1.instant ∧ t = d.1.instant := by
  rw [toUtc_eq]
  by_cases hrange : Datetime.InRange d.1.instant
  · simp [hrange, eq_comm]
  · simp [hrange]

theorem bound_ok_iff {bound : Option { d : Datetime // d.Valid }} {b : Option Int} :
    (bound.mapM fun d => toUtc d.1) = .ok b ↔
      (∀ d, bound = some d → Datetime.InRange d.1.instant) ∧
        b = bound.map fun d => d.1.instant := by
  cases bound with
  | none => simp [pure, Except.pure, eq_comm]
  | some d =>
    simp [Option.mapM, toUtc_eq]
    by_cases hrange : Datetime.InRange d.1.instant
    · simp [hrange, eq_comm, Functor.map, Except.map]
    · simp [hrange, Functor.map, Except.map]

/-- All points are normalised if each datetime is. Induction on the points. -/
theorem normalise_ok_iff (metrics : List (MetricPoint V)) (normalised : List (Int × Option V)) :
    normalise metrics = .ok normalised ↔
      (∀ m ∈ metrics, ∀ d, m.timestamp = some d → Datetime.InRange d.1.instant) ∧
        normalised =
          metrics.filterMap fun m => m.timestamp.map fun d => (d.1.instant, m.value) := by
  induction metrics generalizing normalised with
  | nil => simp [normalise, eq_comm]
  | cons m metrics ih =>
    unfold normalise
    rw [List.forall_mem_cons]
    cases hts : m.timestamp with
    | none =>
      dsimp only
      rw [ih, List.filterMap_cons_none (by rw [hts]; rfl)]
      simp
    | some d =>
      dsimp only
      rw [except_bind_ok_iff, List.filterMap_cons_some (by rw [hts]; rfl)]
      simp only [toUtc_ok_iff, except_bind_ok_iff, ih]
      constructor
      · intro hrun
        obtain ⟨ts, ⟨hrange, rfl⟩, rest, ⟨hdates, rfl⟩, hok⟩ := hrun
        refine ⟨⟨?_, hdates⟩, (Except.ok.inj hok).symm⟩
        intro d' hd'
        rw [← Option.some.inj hd']
        exact hrange
      · intro hboth
        obtain ⟨⟨hd, hdates⟩, rfl⟩ := hboth
        exact ⟨_, ⟨hd d rfl, rfl⟩, _, ⟨hdates, rfl⟩, rfl⟩

/-- **One point.** Out of the range it changes nothing. -/
theorem addPoint_ok_iff {window : WindowSize} {fromDt toDt : Option Int}
    {buckets buckets' : List (Int × List F)} {p : Int × Option V} :
    addPoint env window fromDt toDt buckets p = .ok buckets' ↔
      (inside fromDt toDt p.1 = true → convert env p.2 ≠ .raises) ∧
        buckets' = if inside fromDt toDt p.1 then
          Bins.add (alignToWindow p.1 window) (convert env p.2).value? buckets else buckets := by
  unfold addPoint
  cases inside fromDt toDt p.1 with
  | false => simp [eq_comm]
  | true => cases convert env p.2 <;> simp [Conversion.value?, eq_comm]

/-- All points. Induction on them. -/
theorem foldlM_addPoint_ok_iff {window : WindowSize} {fromDt toDt : Option Int}
    (points : List (Int × Option V)) {buckets buckets' : List (Int × List F)} :
    points.foldlM (addPoint env window fromDt toDt) buckets = .ok buckets' ↔
      (∀ p ∈ points.filter fun p => inside fromDt toDt p.1, convert env p.2 ≠ .raises) ∧
        buckets' = (points.filter fun p => inside fromDt toDt p.1).foldl
          (fun buckets p => Bins.add (alignToWindow p.1 window) (convert env p.2).value? buckets)
          buckets := by
  induction points generalizing buckets with
  | nil => simp [pure, Except.pure, eq_comm]
  | cons p points ih =>
    rw [List.foldlM_cons, except_bind_ok_iff]
    simp only [addPoint_ok_iff, ih]
    cases hin : inside fromDt toDt p.1 with
    | true =>
      rw [List.filter_cons_of_pos (by exact hin), List.forall_mem_cons, List.foldl_cons]
      simp [and_assoc]
    | false =>
      rw [List.filter_cons_of_neg (by simpa using hin)]
      simp

def bucketOf (window : WindowSize) (bucket : Int × List F) : TrendBucket F where
  window := window.value
  bucketStart := zulu bucket.1
  bucketEnd := zulu (bucket.1 + window.delta)
  count := bucket.2.length
  sum := env.round6 (env.sum bucket.2)
  avg :=
    if bucket.2 = [] then env.zero
    else env.round6 (env.div (env.sum bucket.2) bucket.2.length)
  min := if bucket.2 = [] then env.zero else env.round6 (env.min bucket.2)
  max := if bucket.2 = [] then env.zero else env.round6 (env.max bucket.2)

theorem trendBucket_ok_iff {window : WindowSize} {e : Int × List F} {b : TrendBucket F} :
    trendBucket env window e = .ok b ↔
      Datetime.InRange (e.1 + window.delta) ∧ b = bucketOf env window e := by
  unfold trendBucket bucketOf
  dsimp only
  by_cases hrange : Datetime.InRange (e.1 + window.delta)
  · rw [if_pos hrange, Except.ok.injEq, eq_comm]
    exact (and_iff_right hrange).symm
  · rw [if_neg hrange]
    exact ⟨fun h => (nomatch h), fun h => absurd h.1 hrange⟩

theorem mapM_trendBucket_ok_iff {window : WindowSize} {entries : List (Int × List F)}
    {buckets : List (TrendBucket F)} :
    entries.mapM (trendBucket env window) = .ok buckets ↔
      (∀ e ∈ entries, Datetime.InRange (e.1 + window.delta)) ∧
        buckets = entries.map (bucketOf env window) := by
  induction entries generalizing buckets with
  | nil => simp [pure, Except.pure, eq_comm]
  | cons e entries ih =>
    rw [List.mapM_cons, List.forall_mem_cons, List.map_cons]
    simp only [except_bind_ok_iff, trendBucket_ok_iff, ih]
    constructor
    · intro hrun
      obtain ⟨b, ⟨hrange, rfl⟩, bs, ⟨hranges, rfl⟩, hok⟩ := hrun
      exact ⟨⟨hrange, hranges⟩, (Except.ok.inj hok).symm⟩
    · intro hboth
      obtain ⟨⟨hrange, hranges⟩, rfl⟩ := hboth
      exact ⟨_, ⟨hrange, rfl⟩, _, ⟨hranges, rfl⟩, rfl⟩

/-- The windows of the points in the range, with their values, in order. -/
def sortedBuckets (window : WindowSize) (metrics : List (MetricPoint V))
    (fromDt toDt : Option { d : Datetime // d.Valid }) : List (Int × List F) :=
  (Bins.collect (fun p => alignToWindow p.1 window) (fun p => (convert env p.2).value?)
    (pointsInRange metrics fromDt toDt)).insertionSort fun a b => a.1 ≤ b.1

/-- **A run that raises nothing.** -/
theorem aggregate_eq {window : WindowSize} {metrics : List (MetricPoint V)}
    {fromDt toDt : Option { d : Datetime // d.Valid }} {buckets : List (TrendBucket F)} :
    aggregate env metrics window.value fromDt toDt = .ok buckets ↔
      (∀ m ∈ metrics, ∀ d, m.timestamp = some d → Datetime.InRange d.1.instant) ∧
      (∀ d, fromDt = some d ∨ toDt = some d → Datetime.InRange d.1.instant) ∧
      (∀ p ∈ pointsInRange metrics fromDt toDt, convert env p.2 ≠ .raises) ∧
      (∀ e ∈ sortedBuckets env window metrics fromDt toDt,
        Datetime.InRange (e.1 + window.delta)) ∧
      buckets = (sortedBuckets env window metrics fromDt toDt).map (bucketOf env window) := by
  unfold aggregate
  rw [WindowSize.ofValue_value]
  dsimp only
  unfold aggregateWindow
  simp only [except_bind_ok_iff, normalise_ok_iff, bound_ok_iff, foldlM_addPoint_ok_iff,
    mapM_trendBucket_ok_iff]
  constructor
  · intro hrun
    obtain ⟨_, ⟨hdates, rfl⟩, _, ⟨hfrom, rfl⟩, _, ⟨hto, rfl⟩, _, ⟨hvalues, rfl⟩, hends, rfl⟩ := hrun
    refine ⟨hdates, ?_, hvalues, hends, rfl⟩
    intro d hd
    exact hd.elim (hfrom d) (hto d)
  · intro hall
    obtain ⟨hdates, hbounds, hvalues, hends, rfl⟩ := hall
    exact ⟨_, ⟨hdates, rfl⟩, _, ⟨fun d hd => hbounds d (.inl hd), rfl⟩, _,
      ⟨fun d hd => hbounds d (.inr hd), rfl⟩, _, ⟨hvalues, rfl⟩, hends, rfl⟩

/-! ## The buckets of a run -/

section Buckets

variable {window : WindowSize} {metrics : List (MetricPoint V)}
  {fromDt toDt : Option { d : Datetime // d.Valid }}

theorem mem_sortedBuckets {e : Int × List F} :
    e ∈ sortedBuckets env window metrics fromDt toDt ↔
      e ∈ Bins.collect (fun p => alignToWindow p.1 window) (fun p => (convert env p.2).value?)
        (pointsInRange metrics fromDt toDt) :=
  List.mem_insertionSort _

theorem mem_keys_sortedBuckets {k : Int} :
    k ∈ (sortedBuckets env window metrics fromDt toDt).map Prod.fst ↔
      ∃ p ∈ pointsInRange metrics fromDt toDt, alignToWindow p.1 window = k := by
  rw [← (Bins.collected_collect _ _ _).keys k]
  exact ((List.perm_insertionSort _ _).map Prod.fst).mem_iff

theorem sortedBuckets_increasing :
    ((sortedBuckets env window metrics fromDt toDt).map Prod.fst).Pairwise (· < ·) := by
  have hsorted : (sortedBuckets env window metrics fromDt toDt).Pairwise fun a b => a.1 ≤ b.1 :=
    List.pairwise_insertionSort _ _
  have hnodup : ((sortedBuckets env window metrics fromDt toDt).map Prod.fst).Nodup :=
    ((List.perm_insertionSort _ _).map Prod.fst).nodup_iff.mpr
      (Bins.collected_collect _ _ _).nodup
  have hle := List.pairwise_map.mpr hsorted
  exact (hle.and hnodup).imp fun hboth => lt_of_le_of_ne hboth.1 hboth.2

theorem length_bucket {e : Int × List F} (he : e ∈ sortedBuckets env window metrics fromDt toDt) :
    e.2.length = (numericTimes env metrics fromDt toDt).countP fun t =>
      alignToWindow t window = e.1 := by
  rw [(Bins.collected_collect _ _ _).values e ((mem_sortedBuckets env).mp he)]
  unfold numericTimes
  rw [List.countP_map, List.countP_filter, List.length_filterMap_eq_countP, List.countP_filter]
  apply List.countP_congr
  intro p _
  simp [and_comm]

theorem inRange_of_mem (hdates : ∀ m ∈ metrics, ∀ d, m.timestamp = some d →
    Datetime.InRange d.1.instant) {p : Int × Option V}
    (hp : p ∈ pointsInRange metrics fromDt toDt) : Datetime.InRange p.1 := by
  obtain ⟨m, hm, hpoint⟩ := List.mem_filterMap.mp (List.mem_filter.mp hp).1
  obtain ⟨d, hd, rfl⟩ := Option.map_eq_some_iff.mp hpoint
  exact hdates m hm d hd

theorem mem_numericTimes {t : Int} :
    t ∈ numericTimes env metrics fromDt toDt ↔
      ∃ p ∈ pointsInRange metrics fromDt toDt, (convert env p.2).value?.isSome = true ∧
        p.1 = t := by
  unfold numericTimes
  simp [List.mem_map, List.mem_filter, and_assoc]

theorem Clean.mem_keys (h : Clean env window metrics fromDt toDt) (k : Int) :
    k ∈ (sortedBuckets env window metrics fromDt toDt).map Prod.fst ↔
      ∃ t ∈ numericTimes env metrics fromDt toDt, alignToWindow t window = k := by
  rw [mem_keys_sortedBuckets]
  constructor
  · intro hexists
    obtain ⟨p, hp, hk⟩ := hexists
    obtain ⟨q, hq, hnumeric, hwindow⟩ := h.shared p hp
    exact ⟨q.1, (mem_numericTimes env).mpr ⟨q, hq, hnumeric, rfl⟩, hwindow.trans hk⟩
  · intro hexists
    obtain ⟨t, ht, hk⟩ := hexists
    obtain ⟨q, hq, -, rfl⟩ := (mem_numericTimes env).mp ht
    exact ⟨q, hq, hk⟩

/-- **What a clean run returns** partitions the points. -/
theorem Clean.isTrend (h : Clean env window metrics fromDt toDt) :
    IsTrend window (numericTimes env metrics fromDt toDt)
      ((sortedBuckets env window metrics fromDt toDt).map Prod.fst)
      ((sortedBuckets env window metrics fromDt toDt).map (bucketOf env window)) := by
  have hpoint : ∀ s ∈ (sortedBuckets env window metrics fromDt toDt).map Prod.fst,
      ∃ p ∈ pointsInRange metrics fromDt toDt, Datetime.InRange p.1 ∧
        alignToWindow p.1 window = s := by
    intro s hs
    obtain ⟨p, hp, heq⟩ := (mem_keys_sortedBuckets env).mp hs
    exact ⟨p, hp, inRange_of_mem h.dates hp, heq⟩
  have htime : ∀ t ∈ numericTimes env metrics fromDt toDt, Datetime.InRange t := by
    intro t ht
    obtain ⟨q, hq, -, rfl⟩ := (mem_numericTimes env).mp ht
    exact inRange_of_mem h.dates hq
  have hmem : ∀ s ∈ (sortedBuckets env window metrics fromDt toDt).map Prod.fst,
      ∀ t ∈ numericTimes env metrics fromDt toDt,
        (s ≤ t ∧ t < s + window.delta) ↔ alignToWindow t window = s := by
    intro s hs t ht
    obtain ⟨p, -, hrange, rfl⟩ := hpoint s hs
    exact mem_window_iff (htime t ht) hrange window
  -- a bucket counts the numbers aligned to its start, which are those in its window
  have hcounts : ((sortedBuckets env window metrics fromDt toDt).map (bucketOf env window)).map
      TrendBucket.count = ((sortedBuckets env window metrics fromDt toDt).map Prod.fst).map
        fun s => (numericTimes env metrics fromDt toDt).countP fun t =>
          alignToWindow t window = s := by
    rw [List.map_map, List.map_map]
    exact List.map_congr_left fun e he => length_bucket env he
  refine
    { valid := ?_
      bucketStart := by rw [List.map_map, List.map_map]; rfl
      bucketEnd := by rw [List.map_map, List.map_map]; rfl
      increasing := sortedBuckets_increasing env
      aligned := ?_
      once := ?_
      counts := ?_
      total := ?_
      nonempty := ?_ }
  · intro s hs
    obtain ⟨p, hp, hrange, rfl⟩ := hpoint s hs
    exact ⟨alignToWindow_inRange hrange window, h.ends p hp⟩
  · intro s hs
    obtain ⟨p, -, hrange, rfl⟩ := hpoint s hs
    exact alignToWindow_aligned hrange window
  · intro t ht
    have hs := (h.mem_keys env _).mpr ⟨t, ht, rfl⟩
    refine ⟨alignToWindow t window, ⟨hs, (hmem _ hs t ht).mpr rfl⟩, ?_⟩
    intro s hother
    exact ((hmem s hother.1 t ht).mp hother.2).symm
  · rw [hcounts]
    apply List.map_congr_left
    intro s hs
    apply List.countP_congr
    intro t ht
    rw [decide_eq_true_iff, decide_eq_true_iff]
    exact (hmem s hs t ht).symm
  · rw [hcounts]
    exact Bins.sum_counts ((sortedBuckets_increasing env).imp fun hlt => ne_of_lt hlt)
      (h.mem_keys env)
  · intro b hb
    obtain ⟨e, he, rfl⟩ := List.mem_map.mp hb
    show 0 < e.2.length
    rw [length_bucket env he, List.countP_pos_iff]
    obtain ⟨t, ht, hwindow⟩ := (h.mem_keys env _).mp (List.mem_map_of_mem he)
    exact ⟨t, ht, decide_eq_true hwindow⟩

/-- **Every input.** The points in the range are partitioned exactly if it is clean. -/
theorem trend_partition_iff (window : WindowSize) (metrics : List (MetricPoint V))
    (fromDt toDt : Option { d : Datetime // d.Valid }) :
    (∃ buckets, aggregate env metrics window.value fromDt toDt = .ok buckets ∧
      ∃ starts, IsTrend window (numericTimes env metrics fromDt toDt) starts buckets) ↔
      Clean env window metrics fromDt toDt := by
  constructor
  · intro hrun
    obtain ⟨buckets, hrun, starts, htrend⟩ := hrun
    obtain ⟨hdates, hbounds, hvalues, hends, rfl⟩ := (aggregate_eq env).mp hrun
    -- every point in the range has a bucket
    have hbucket : ∀ p ∈ pointsInRange metrics fromDt toDt,
        ∃ e ∈ sortedBuckets env window metrics fromDt toDt, e.1 = alignToWindow p.1 window := by
      intro p hp
      exact List.mem_map.mp ((mem_keys_sortedBuckets env).mpr ⟨p, hp, rfl⟩)
    refine ⟨hdates, hbounds, hvalues, ?_, ?_⟩
    · intro p hp
      obtain ⟨e, he, heq⟩ := hbucket p hp
      rw [← heq]
      exact hends e he
    · intro p hp
      obtain ⟨e, he, heq⟩ := hbucket p hp
      -- a bucket with a count has a number in it
      have hpos : 0 < e.2.length := htrend.nonempty _ (List.mem_map_of_mem he)
      rw [length_bucket env he, List.countP_pos_iff] at hpos
      obtain ⟨t, ht, hwindow⟩ := hpos
      obtain ⟨q, hq, hnumeric, rfl⟩ := (mem_numericTimes env).mp ht
      exact ⟨q, hq, hnumeric, (of_decide_eq_true hwindow).trans heq⟩
  · intro hclean
    refine ⟨_, (aggregate_eq env).mpr ⟨hclean.dates, hclean.bounds, hclean.values, ?_, rfl⟩, _,
      hclean.isTrend env⟩
    intro e he
    obtain ⟨p, hp, heq⟩ := (mem_keys_sortedBuckets env).mp (List.mem_map_of_mem he)
    rw [← heq]
    exact hclean.ends p hp

end Buckets

end Aggregate

/-! ## A value that is no number -/

/-- `None`, and numbers. -/
def numbers : FloatEnv (Option ℚ) ℚ where
  float
    | some x => .ok x
    | none => .skipped
  zero := 0
  sum := List.sum
  div x n := x / n
  min values := values.foldl min (values.headD 0)
  max values := values.foldl max (values.headD 0)
  round6 := roundTo 6

/-- A point without a number, at noon of the first Monday of 2025. -/
def unmeasured : List (MetricPoint (Option ℚ)) :=
  [⟨some ⟨.naive 1736164800000000, by decide⟩, some none⟩]

/-- Its day is returned as a bucket without points. -/
theorem empty_bucket_is_returned :
    ¬ ∃ buckets, aggregate numbers unmeasured "daily" none none = .ok buckets ∧
      ∃ starts, IsTrend .daily (numericTimes numbers unmeasured none none) starts buckets := by
  intro hrun
  obtain ⟨buckets, hrun, starts, htrend⟩ := hrun
  have hempty : (aggregate numbers unmeasured "daily" none none).toOption.any
      (fun buckets => decide (∃ b ∈ buckets, b.count = 0)) = true := by decide +kernel
  rw [hrun] at hempty
  obtain ⟨b, hb, hzero⟩ := of_decide_eq_true hempty
  have hpos := htrend.nonempty b hb
  omega

end TrendAggregator

end NocIq
