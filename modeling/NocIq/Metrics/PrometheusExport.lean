import Mathlib.Data.List.Infix
import Mathlib.Data.Rat.Floor
import NocIq.Lib.Text
import NocIq.Metrics.Registry

/-!
# NocIq — the export of metrics

`get_prometheus_metrics` of `app/api/v1/endpoints/metrics.py` writes the registry as text. It cuts
the tags out of the keys, and writes them between braces as they are there.

* **`labelsOf_makeKey`** — what is cut out ends at the first brace of a tag.
* **`bucketCounts_law`** — the counts of a timer's buckets do not fall.
-/

namespace NocIq

namespace PrometheusExport

open Exposition
open MetricsRegistry
open Dictionary (collect keys valuesAt)

/-! ## Keys -/

/-- `text.find(c)`. -/
def find (c : Char) (text : Text) : Int := if c ∈ text then text.idxOf c else -1

/-- `text[start:stop]`. -/
def slice (text : Text) (start stop : Int) : Text :=
  let index (i : Int) : Nat := (if i < 0 then i + text.length else i).toNat
  (text.take (index stop)).drop (index start)

/-- `key.split("{")[0]`. -/
def metricNameOf (key : Text) : Text := key.takeWhile (· ≠ '\x7b')

def labelsOf (key : Text) : Text :=
  if '\x7b' ∈ key then slice key (find '\x7b' key + 1) (find '\x7d' key) else []

/-! ## Lines -/

/-- `repr` of a float, and how a reader takes it. -/
structure FloatText where
  repr : ℚ → Text
  parse : Text → Option ℚ
  parse_repr : ∀ q, parse (repr q) = some q
  ne_nil : ∀ q, repr q ≠ []
  chars : ∀ q, ∀ c ∈ repr q, c.isDigit = true ∨ c ∈ ['+', '-', '.', 'e']

def helpLine (metricName help : Text) : Text := "# HELP ".toList ++ (metricName ++ ' ' :: help)

def typeLine (metricName type : Text) : Text := "# TYPE ".toList ++ (metricName ++ ' ' :: type)

/-- `part in metric_name.lower()`. -/
def mentions (metricName : Text) (part : String) : Bool :=
  decide (part.toList <:+: metricName.map Char.toLower)

def counterHelp (metricName : Text) : List Text :=
  if mentions metricName "request" then [helpLine metricName "Total number of requests".toList]
  else if mentions metricName "error" then [helpLine metricName "Total number of errors".toList]
  else if mentions metricName "webhook" then
    [helpLine metricName "Total number of webhook events".toList]
  else []

def gaugeHelp (metricName : Text) : List Text :=
  if mentions metricName "active" || mentions metricName "current" then
    [helpLine metricName "Current active count".toList]
  else []

/-- A name with what is in its braces, and a value. -/
def bracedLine (metricName labels value : Text) : Text :=
  metricName ++ '\x7b' :: (labels ++ '\x7d' :: ' ' :: value)

def sampleLine (metricName labels value : Text) : Text :=
  if labels ≠ [] then bracedLine metricName labels value else metricName ++ ' ' :: value

/-- A line of a bucket. The quotes of its label are written with a backslash before them. -/
def bucketLine (metricName baseLabels bound value : Text) : Text :=
  metricName ++ '\x7b' :: (baseLabels ++ (escapedLe bound ++ '\x7d' :: ' ' :: value))

def baseLabelsOf (key : Text) : Text := if labelsOf key ≠ [] then labelsOf key ++ [','] else []

section Lines

variable (t : FloatText)

def counterLines (item : Text × ℚ) : List Text :=
  counterHelp (metricNameOf item.1) ++
    [typeLine (metricNameOf item.1) "counter".toList,
      sampleLine (metricNameOf item.1) (labelsOf item.1) (t.repr item.2)]

def gaugeLines (item : Text × ℚ) : List Text :=
  gaugeHelp (metricNameOf item.1) ++
    [typeLine (metricNameOf item.1) "gauge".toList,
      sampleLine (metricNameOf item.1) (labelsOf item.1) (t.repr item.2)]

/-- What the export uses of the summary of measurements. -/
structure Stats where
  count : Nat
  avg : ℚ

/-- `get_metrics_summary`, of the dictionaries of measurements. -/
def summaries (measured : List (Text × List ℚ)) : List (Text × Stats) :=
  (measured.filter fun item => item.2 ≠ []).map fun item =>
    (item.1, { count := item.2.length, avg := item.2.sum / item.2.length })

def countText (count : Nat) : Text := (toString count).toList

def histogramLines (item : Text × Stats) : List Text :=
  let (key, stats) := item
  let metricName := metricNameOf key
  [ helpLine metricName ("Histogram of ".toList ++ metricName),
    typeLine metricName "histogram".toList,
    bracedLine (metricName ++ "_count".toList) (baseLabelsOf key) (countText stats.count),
    bracedLine (metricName ++ "_sum".toList) (baseLabelsOf key) (t.repr (stats.avg * stats.count)),
    bucketLine (metricName ++ "_bucket".toList) (baseLabelsOf key) "+Inf".toList
      (countText stats.count) ]

def buckets : List ℚ :=
  [1 / 1000, 5 / 1000, 1 / 100, 25 / 1000, 5 / 100, 1 / 10, 25 / 100, 5 / 10, 1, 25 / 10, 5, 10, 30,
    60]

def bucketCount (stats : Stats) (bucket : ℚ) : Nat :=
  let avgSeconds := stats.avg / 1000
  if bucket < avgSeconds * (1 / 10) then 0
  else if bucket < avgSeconds * (5 / 10) then ⌊(stats.count : ℚ) * (1 / 10)⌋₊
  else if bucket < avgSeconds then ⌊(stats.count : ℚ) * (3 / 10)⌋₊
  else if bucket < avgSeconds * 2 then ⌊(stats.count : ℚ) * (7 / 10)⌋₊
  else if bucket < avgSeconds * 5 then ⌊(stats.count : ℚ) * (95 / 100)⌋₊
  else stats.count

def timerLines (item : Text × Stats) : List Text :=
  let (key, stats) := item
  let metricName := metricNameOf key ++ "_seconds".toList
  [ helpLine metricName
      ("Duration of ".toList ++ (metricNameOf key ++ " in seconds".toList)),
    typeLine metricName "histogram".toList,
    bracedLine (metricName ++ "_count".toList) (baseLabelsOf key) (countText stats.count),
    bracedLine (metricName ++ "_sum".toList) (baseLabelsOf key)
      (t.repr (stats.avg / 1000 * stats.count)) ] ++
    buckets.map (fun bucket =>
      bucketLine (metricName ++ "_bucket".toList) (baseLabelsOf key) (t.repr bucket)
        (countText (bucketCount stats bucket))) ++
    [bucketLine (metricName ++ "_bucket".toList) (baseLabelsOf key) "+Inf".toList
      (countText stats.count)]

def metadataLines (now : ℚ) : List Text :=
  let metricName := "app_metrics_timestamp".toList
  [ helpLine metricName "Timestamp of metrics collection".toList,
    typeLine metricName "gauge".toList,
    sampleLine metricName [] (t.repr now) ]

def prometheusLines (now : ℚ) (r : Registry) : List Text :=
  r.counters.flatMap (counterLines t) ++ r.gauges.flatMap (gaugeLines t) ++
    (summaries r.histograms).flatMap (histogramLines t) ++
    (summaries r.timers).flatMap (timerLines t) ++ metadataLines t now

/-- `get_prometheus_metrics`. -/
def content (now : ℚ) (r : Registry) : Text :=
  [newline].intercalate (prometheusLines t now r) ++ [newline]

end Lines

def bucketCounts (stats : Stats) : List Nat := buckets.map (bucketCount stats) ++ [stats.count]

/-- The lines of the buckets of a timer, with counts in the order of the bounds. -/
def bucketLines (t : FloatText) (item : Text × Stats) (counts : List Nat) : List Text :=
  List.zipWith (fun bound count =>
      bucketLine (metricNameOf item.1 ++ "_seconds".toList ++ "_bucket".toList)
        (baseLabelsOf item.1) bound (countText count))
    (buckets.map t.repr ++ ["+Inf".toList]) counts

/-! ## What is cut out of a key -/

theorem brace_notMem_name (name : MetricName) : '\x7b' ∉ name.text ∧ '\x7d' ∉ name.text := by
  obtain ⟨-, -, hchars⟩ := name.valid
  exact ⟨fun h => absurd (hchars _ h) (by decide), fun h => absurd (hchars _ h) (by decide)⟩

theorem takeWhile_name (name : MetricName) (rest : Text) :
    (name.text ++ '\x7b' :: rest).takeWhile (· ≠ '\x7b') = name.text := by
  have hne : ∀ c ∈ name.text, decide (c ≠ '\x7b') = true := fun c hc =>
    decide_eq_true fun heq => (brace_notMem_name name).1 (heq ▸ hc)
  rw [List.takeWhile_append_of_pos hne, List.takeWhile_cons_of_neg (by decide), List.append_nil]

theorem metricNameOf_makeKey (name : MetricName) (tags : Tags) :
    metricNameOf (makeKey name tags) = name.text := by
  unfold metricNameOf makeKey
  split_ifs
  · refine List.takeWhile_eq_self_iff.mpr fun c hc => decide_eq_true fun heq => ?_
    exact (brace_notMem_name name).1 (heq ▸ hc)
  · exact takeWhile_name name _

theorem take_idxOf (c : Char) (text : Text) :
    text.take (text.idxOf c) = text.takeWhile (· ≠ c) := by
  induction text with
  | nil => rfl
  | cons d text ih =>
    rw [List.idxOf_cons]
    by_cases hd : d = c
    · rw [beq_iff_eq.mpr hd, List.takeWhile_cons_of_neg (by simp [hd])]
      rfl
    · rw [beq_false_of_ne hd, List.takeWhile_cons_of_pos (by simp [hd]), ← ih]
      rfl

theorem takeWhile_ne_append (inner rest : Text) (d : Char) :
    (inner ++ d :: rest).takeWhile (· ≠ d) = inner.takeWhile (· ≠ d) := by
  induction inner with
  | nil => exact List.takeWhile_cons_of_neg (by simp)
  | cons c inner ih =>
    by_cases hc : c = d
    · rw [List.cons_append, List.takeWhile_cons_of_neg (by simp [hc]),
        List.takeWhile_cons_of_neg (by simp [hc])]
    · rw [List.cons_append, List.takeWhile_cons_of_pos (by simp [hc]), ih,
        List.takeWhile_cons_of_pos (by simp [hc])]

theorem slice_between {before inner rest : Text} {c d : Char} (hc : c ∉ before) (hd : d ∉ before)
    (hcd : c ≠ d) : slice (before ++ c :: (inner ++ d :: rest))
      (find c (before ++ c :: (inner ++ d :: rest)) + 1)
      (find d (before ++ c :: (inner ++ d :: rest))) = inner.takeWhile (· ≠ d) := by
  have hfindc : find c (before ++ c :: (inner ++ d :: rest)) = before.length := by
    rw [find, if_pos (List.mem_append_right _ List.mem_cons_self),
      List.idxOf_append_of_notMem hc, List.idxOf_cons_self, Nat.add_zero]
  have hfindd : find d (before ++ c :: (inner ++ d :: rest)) =
      ((before.length + 1 + (inner ++ d :: rest).idxOf d : Nat) : Int) := by
    rw [find, if_pos (by simp), List.idxOf_append_of_notMem hd, List.idxOf_cons_ne _ hcd,
      Nat.succ_eq_add_one]
    congr 1
    omega
  rw [hfindc, hfindd]
  -- both characters are found, so no index counts from the end
  unfold slice
  dsimp only
  rw [if_neg (by omega), if_neg (by omega), Int.toNat_natCast, List.drop_take]
  have hstart : ((before.length : Int) + 1).toNat = before.length + 1 := by omega
  rw [hstart, Nat.add_sub_cancel_left, ← takeWhile_ne_append inner rest d, ← take_idxOf]
  congr 1
  rw [List.drop_append, List.drop_eq_nil_of_le (Nat.le_succ _), Nat.add_sub_cancel_left]
  rfl

theorem labelsOf_makeKey (name : MetricName) (tags : Tags) :
    labelsOf (makeKey name tags) =
      if tags.items = [] then [] else (tagString tags).takeWhile (· ≠ '\x7d') := by
  obtain ⟨hopen, hclose⟩ := brace_notMem_name name
  unfold labelsOf makeKey
  by_cases htags : tags.items = []
  · rw [if_pos htags, if_pos htags, if_neg hopen]
  · rw [if_neg htags, if_neg htags,
      if_pos (List.mem_append_right _ List.mem_cons_self),
      slice_between hopen hclose (by decide)]

/-! ## Buckets -/

theorem drop_timerLines {t : FloatText} (item : Text × Stats) :
    (timerLines t item).drop 4 = bucketLines t item (bucketCounts item.2) :=
  rfl

/-- The part of the measurements that is estimated to be in a bucket. -/
def share (avgSeconds bucket : ℚ) : ℚ :=
  if bucket < avgSeconds * (1 / 10) then 0
  else if bucket < avgSeconds * (5 / 10) then 1 / 10
  else if bucket < avgSeconds then 3 / 10
  else if bucket < avgSeconds * 2 then 7 / 10
  else if bucket < avgSeconds * 5 then 95 / 100
  else 1

theorem bucketCount_eq (stats : Stats) (bucket : ℚ) :
    bucketCount stats bucket = ⌊(stats.count : ℚ) * share (stats.avg / 1000) bucket⌋₊ := by
  unfold bucketCount share
  dsimp only
  split_ifs
  · rw [mul_zero, Nat.floor_zero]
  · rfl
  · rfl
  · rfl
  · rfl
  · rw [mul_one, Nat.floor_natCast]

/-- Whatever the average is: a larger bucket passes each test that a smaller one passes. -/
theorem share_mono {avgSeconds bucket bucket' : ℚ} (h : bucket ≤ bucket') :
    share avgSeconds bucket ≤ share avgSeconds bucket' := by
  unfold share
  split_ifs <;> linarith

theorem share_le_one (avgSeconds bucket : ℚ) : share avgSeconds bucket ≤ 1 := by
  unfold share
  split_ifs <;> norm_num

/-- **The counts of the buckets** do not fall, and end with the count of all. -/
theorem bucketCounts_law (stats : Stats) :
    (bucketCounts stats).Pairwise (· ≤ ·) ∧ (bucketCounts stats).getLast? = some stats.count := by
  have hnonneg : (0 : ℚ) ≤ stats.count := Nat.cast_nonneg _
  have hbuckets : buckets.Pairwise (· ≤ ·) := by decide +kernel
  refine ⟨List.pairwise_append.mpr ⟨?_, List.pairwise_singleton _ _, ?_⟩, List.getLast?_concat⟩
  · refine hbuckets.map _ fun bucket bucket' hle => ?_
    rw [bucketCount_eq, bucketCount_eq]
    exact Nat.floor_mono (mul_le_mul_of_nonneg_left (share_mono hle) hnonneg)
  · intro count hcount total htotal
    obtain ⟨bucket, -, rfl⟩ := List.mem_map.mp hcount
    rw [List.mem_singleton.mp htotal, bucketCount_eq]
    refine Nat.floor_le_of_le ?_
    exact mul_le_of_le_one_right hnonneg (share_le_one _ _)

end PrometheusExport

end NocIq
