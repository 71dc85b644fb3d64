import Mathlib.Algebra.Order.BigOperators.Group.List
import Mathlib.Data.List.MinMax
import Mathlib.Data.Rat.Encodable
import NocIq.Metrics.PrometheusExport

/-!
# NocIq — what a reader finds in the export of metrics

The lines of the export are read by the grammar of the text format. Quotes and escapes are the
grammar's, so of tags that are written as they are something is lost, and the buckets of histograms
and timers cannot be read.

* **`unread_bucketLine`** — the line of a bucket is no sample.
* **`untagged_of_recorded`** — metrics that are all read back have no tags.
* **`reads_prometheusLines`** — what is read of counters and gauges with names only.
* **`faithful_export_iff`** — the export is faithful for these, if the names are different.
-/

namespace NocIq

namespace PrometheusExport

open Exposition
open MetricsRegistry
open Dictionary (collect keys valuesAt)

section Reading

variable (t : FloatText)

/-! ## Reading the export -/

def linesOf (text : Text) : List Text := text.splitOn newline

def sampleOf (line : Text) : Option (Sample ℚ) :=
  if isComment line then none else parseLine t.parse line

/-- The export after a run can be read, and says what has been recorded. -/
structure Faithful (now : ℚ) (run : List Recording) : Prop where
  parses : ∀ line ∈ linesOf (content t now (registryAfter run)), isComment line = false →
    ∃ s, sampleOf t line = some s
  distinct : ((linesOf (content t now (registryAfter run))).filterMap fun line =>
    (sampleOf t line).map fun s => (s.name, s.labels)).Nodup
  counters : ∀ s, (∃ line ∈ ((registryAfter run).counters.flatMap (counterLines t)).flatMap linesOf,
    sampleOf t line = some s) ↔ RecordedCounter run s
  gauges : ∀ s, (∃ line ∈ ((registryAfter run).gauges.flatMap (gaugeLines t)).flatMap linesOf,
    sampleOf t line = some s) ↔ RecordedGauge run s
  timers : ∀ item ∈ summaries (registryAfter run).timers,
    (timerLines t item).drop 4 = bucketLines t item (bucketCounts item.2) ∧
      (bucketCounts item.2).Pairwise (· ≤ ·) ∧ (bucketCounts item.2).getLast? = some item.2.count

end Reading

/-- Only counters and gauges are recorded, without tags, under names that are all different and not
that of the metadata. -/
structure Plain (run : List Recording) : Prop where
  noMeasurements : histogramCalls run = [] ∧ timerCalls run = []
  untagged : ∀ call ∈ counterCalls run ++ gaugeCalls run, call.tags.items = []
  separate : ∀ counter ∈ counterCalls run, ∀ gauge ∈ gaugeCalls run,
    counter.name.text ≠ gauge.name.text
  notMetadata : ∀ call ∈ counterCalls run ++ gaugeCalls run,
    call.name.text ≠ "app_metrics_timestamp".toList

variable {t : FloatText} {now : ℚ} {run : List Recording}

/-! ## Lines of the text -/

theorem linesOf_content (now : ℚ) (r : Registry) :
    linesOf (content t now r) = (prometheusLines t now r).flatMap linesOf ++ [[]] := by
  have hne : prometheusLines t now r ≠ [] :=
    List.append_ne_nil_of_right_ne_nil _ (List.cons_ne_nil _ _)
  unfold linesOf content
  rw [List.splitOn_append_cons_self, Text.splitOn_join newline hne]
  rfl

variable {line : Text}

theorem linesOf_eq (h : newline ∉ line) : linesOf line = [line] :=
  List.splitOn_eq_singleton h

theorem mem_linesOf_content {now : ℚ} {r : Registry} {item : Text}
    (hitem : item ∈ prometheusLines t now r) (hline : line ∈ linesOf item) :
    line ∈ linesOf (content t now r) := by
  rw [linesOf_content]
  exact List.mem_append_left _ (List.mem_flatMap.mpr ⟨item, hitem, hline⟩)

variable {name : Text}

theorem newline_notMem_name (hname : IsName name) : newline ∉ name :=
  fun h => absurd (hname.2.2 _ h) (by decide)

/-! ## Lines that cannot be read -/

/-- A line that is no comment and no sample. -/
def Unread (t : FloatText) (line : Text) : Prop :=
  isComment line = false ∧ sampleOf t line = none

theorem unread_of_parseLine {rest : Text} (hname : IsName name)
    (h : parseLine t.parse (name ++ rest) = none) : Unread t (name ++ rest) := by
  have hcomment := isComment_name hname rest
  exact ⟨hcomment, by rw [sampleOf, if_neg (by rw [hcomment]; exact Bool.false_ne_true), h]⟩

theorem unread_of_newline {labels : Text} (hname : IsName name) (hbrace : '\x7d' ∉ labels)
    (hnewline : newline ∈ labels) (rest : Text) :
    ∃ line ∈ linesOf (name ++ '\x7b' :: (labels ++ rest)), Unread t line := by
  obtain ⟨before, after, rfl, hbefore⟩ := List.eq_append_cons_of_mem hnewline
  have hfirst : newline ∉ name ++ '\x7b' :: before := by
    rw [List.mem_append, List.mem_cons, not_or, not_or]
    exact ⟨newline_notMem_name hname, by decide, hbefore⟩
  have hsplit : name ++ '\x7b' :: (before ++ newline :: after ++ rest) =
      (name ++ '\x7b' :: before) ++ newline :: (after ++ rest) := by simp
  refine ⟨name ++ '\x7b' :: before, ?_, ?_⟩
  · rw [hsplit, linesOf, List.splitOn_append_cons_self_of_not_mem hfirst]
    exact List.mem_cons_self
  · refine unread_of_parseLine hname (parseLine_open hname fun h => hbrace ?_)
    exact List.mem_append_left _ h

/-- There is nothing in the text that a line or a string could end with. -/
def Clean (text : Text) : Prop := ∀ c ∈ text, c ≠ quote ∧ c ≠ backslash ∧ c ≠ newline

theorem clean_repr (t : FloatText) (q : ℚ) : Clean (t.repr q) := by
  intro c hc
  rcases t.chars q c hc with hdigit | hother
  · refine ⟨?_, ?_, ?_⟩ <;> rintro rfl <;> exact absurd hdigit (by decide)
  · have hall : ∀ d ∈ ['+', '-', '.', 'e'], d ≠ quote ∧ d ≠ backslash ∧ d ≠ newline :=
      List.forall_iff_forall_mem.mp (by decide)
    exact hall c hother

theorem clean_countText (count : Nat) : Clean (countText count) := by
  intro c hc
  have hdigit := Text.isDigit_of_mem_toString hc
  refine ⟨?_, ?_, ?_⟩ <;> rintro rfl <;> exact absurd hdigit (by decide)

variable {text : Text}

theorem quote_notMem (h : Clean text) : quote ∉ text := fun hc => (h _ hc).1 rfl

theorem backslash_notMem (h : Clean text) : backslash ∉ text :=
  fun hc => (h _ hc).2.1 rfl

theorem newline_notMem (h : Clean text) : newline ∉ text :=
  fun hc => (h _ hc).2.2 rfl

/-- **The line of a bucket** cannot be read, whatever the labels before its own are. -/
theorem unread_bucketLine {baseLabels bound value : Text} (hname : IsName name)
    (hbrace : '\x7d' ∉ baseLabels) (hbound : Clean bound) (hvalue : Clean value) :
    ∃ line ∈ linesOf (bucketLine name baseLabels bound value), Unread t line := by
  by_cases hnewline : newline ∈ baseLabels
  · exact unread_of_newline hname hbrace hnewline _
  · have hitem : newline ∉ bucketLine name baseLabels bound value := by
      simp only [bucketLine, escapedLe, List.mem_append, List.mem_cons, List.not_mem_nil, or_false,
        not_or]
      have hother : newline ∉ ['\x7b', 'l', 'e', '=', backslash, quote, '\x7d', ' '] := by decide
      simp only [List.mem_cons, List.not_mem_nil, or_false, not_or] at hother
      simp only [hother, newline_notMem_name hname, hnewline, newline_notMem hbound,
        newline_notMem hvalue, not_false_eq_true, and_self]
    rw [linesOf_eq hitem]
    refine ⟨_, List.mem_singleton_self _, unread_of_parseLine hname ?_⟩
    refine parseLine_escapedLe hname hbrace (quote_notMem hbound) (backslash_notMem hbound) ?_
    simp only [List.mem_cons, not_or]
    exact ⟨by decide, by decide, quote_notMem hvalue⟩

/-! ## Measurements -/

theorem isName_append {suffix : Text} (hname : IsName name) (hsuffix : suffix.all isNameChar = true) :
    IsName (name ++ suffix) := by
  obtain ⟨hstart, hne, hchars⟩ := hname
  refine ⟨?_, List.append_ne_nil_of_left_ne_nil hne _, ?_⟩
  · rwa [List.head?_append_of_ne_nil _ hne]
  · intro c hc
    exact (List.mem_append.mp hc).elim (hchars c) (List.all_eq_true.mp hsuffix c)

theorem brace_notMem_labelsOf (name : MetricName) (tags : Tags) :
    '\x7d' ∉ labelsOf (makeKey name tags) := by
  rw [labelsOf_makeKey]
  split_ifs
  · exact List.not_mem_nil
  · intro h
    have hne := List.mem_takeWhile_imp h
    exact absurd rfl (of_decide_eq_true hne)

theorem brace_notMem_baseLabels (name : MetricName) (tags : Tags) :
    '\x7d' ∉ baseLabelsOf (makeKey name tags) := by
  unfold baseLabelsOf
  split_ifs
  · rw [List.mem_append, not_or]
    exact ⟨brace_notMem_labelsOf name tags, by decide⟩
  · exact List.not_mem_nil

theorem appendTo_ne_nil (old : Option (List ℚ)) (value : ℚ) : appendTo old value ≠ [] := by
  unfold appendTo
  dsimp only
  rw [Ne, List.drop_eq_nil_iff, List.length_append, List.length_singleton]
  omega

theorem mem_summaries_of_mem {measured : List (Text × List ℚ)} {key : Text} {values : List ℚ}
    (h : (key, values) ∈ measured) (hne : values ≠ []) :
    ∃ stats, (key, stats) ∈ summaries measured :=
  ⟨_, List.mem_map.mpr ⟨(key, values), List.mem_filter.mpr ⟨h, decide_eq_true hne⟩, rfl⟩⟩

variable {calls : List Call}

theorem mem_summaries {call : Call} (h : call ∈ calls) :
    ∃ stats, (makeKey call.name call.tags, stats) ∈
      summaries (collect appendTo (calls.map Call.entry)) := by
  have hkey : makeKey call.name call.tags ∈ keys (collect appendTo (calls.map Call.entry)) := by
    rw [Dictionary.mem_keys_collect, List.map_map]
    exact List.mem_map_of_mem h
  obtain ⟨⟨key, values⟩, hitem, hfst⟩ := List.mem_map.mp hkey
  have hlookup := (Dictionary.mem_iff_lookup (Dictionary.nodup_keys_collect _ _)).mp hitem
  obtain ⟨old, value, hvalues⟩ := Dictionary.exists_of_lookup_collect hlookup
  rw [← hfst]
  exact mem_summaries_of_mem hitem (hvalues ▸ appendTo_ne_nil old value)

theorem clean_inf : Clean "+Inf".toList := List.forall_iff_forall_mem.mp (by decide)

theorem unread_of_measured (name : MetricName) (suffix : Text) (tags : Tags) (count : Nat)
    (hsuffix : suffix.all isNameChar = true) :
    ∃ line ∈ linesOf (bucketLine (metricNameOf (makeKey name tags) ++ suffix)
      (baseLabelsOf (makeKey name tags)) "+Inf".toList (countText count)), Unread t line := by
  rw [metricNameOf_makeKey]
  exact unread_bucketLine (isName_append name.valid hsuffix) (brace_notMem_baseLabels name tags)
    clean_inf (clean_countText count)

theorem noMeasurements_of_read
    (hread : ∀ line ∈ linesOf (content t now (registryAfter run)), ¬ Unread t line) :
    histogramCalls run = [] ∧ timerCalls run = [] := by
  constructor
  · refine List.eq_nil_iff_forall_not_mem.mpr fun call hcall => ?_
    obtain ⟨stats, hstats⟩ := mem_summaries hcall
    rw [← histograms_eq] at hstats
    obtain ⟨line, hline, hunread⟩ :=
      unread_of_measured (t := t) call.name "_bucket".toList call.tags stats.count (by decide)
    refine hread line (mem_linesOf_content ?_ hline) hunread
    refine List.mem_append_left _ (List.mem_append_left _ (List.mem_append_right _ ?_))
    refine List.mem_flatMap.mpr ⟨_, hstats, ?_⟩
    simp only [histogramLines, List.mem_cons, true_or, or_true]
  · refine List.eq_nil_iff_forall_not_mem.mpr fun call hcall => ?_
    obtain ⟨stats, hstats⟩ := mem_summaries hcall
    rw [← timers_eq] at hstats
    obtain ⟨line, hline, hunread⟩ := unread_of_measured (t := t) call.name
      ("_seconds".toList ++ "_bucket".toList) call.tags stats.count (by decide)
    rw [← List.append_assoc] at hline
    refine hread line (mem_linesOf_content ?_ hline) hunread
    refine List.mem_append_left _ (List.mem_append_right _ ?_)
    exact List.mem_flatMap.mpr ⟨_, hstats, List.mem_append_right _ (List.mem_singleton_self _)⟩

/-! ## Lines of one metric -/

/-- A line that says nothing of values. -/
def Remark (line : Text) : Prop := newline ∉ line ∧ isComment line = true

theorem newline_notMem_comment {word metricName : Text} (hword : newline ∉ word)
    (hname : newline ∉ metricName) (htext : newline ∉ text) :
    newline ∉ word ++ (metricName ++ ' ' :: text) := by
  have hblank : newline ≠ ' ' := by decide
  intro h
  rcases List.mem_append.mp h with h | h
  · exact hword h
  · rcases List.mem_append.mp h with h | h
    · exact hname h
    · exact htext ((List.mem_cons.mp h).resolve_left hblank)

theorem remark_helpLine {metricName help : Text} (hname : newline ∉ metricName)
    (hhelp : newline ∉ help) : Remark (helpLine metricName help) :=
  ⟨newline_notMem_comment (by decide) hname hhelp, rfl⟩

theorem remark_typeLine {metricName type : Text} (hname : newline ∉ metricName)
    (htype : newline ∉ type) : Remark (typeLine metricName type) :=
  ⟨newline_notMem_comment (by decide) hname htype, rfl⟩

/-- Remarks, and then the sample of an item. -/
def Described (t : FloatText) (item : Text × ℚ) (lines : List Text) : Prop :=
  ∃ remarks, (∀ line ∈ remarks, Remark line) ∧
    lines = remarks ++ [sampleLine (metricNameOf item.1) (labelsOf item.1) (t.repr item.2)]

variable {item : Text × ℚ}

theorem described_counterLines (hname : newline ∉ metricNameOf item.1) :
    Described t item (counterLines t item) := by
  refine ⟨counterHelp (metricNameOf item.1) ++ [typeLine (metricNameOf item.1) "counter".toList],
    ?_, by rw [counterLines, List.append_assoc]; rfl⟩
  rw [List.forall_mem_append, List.forall_mem_singleton]
  refine ⟨?_, remark_typeLine hname (by decide)⟩
  unfold counterHelp
  split_ifs
  · exact List.forall_mem_singleton.mpr (remark_helpLine hname (by decide))
  · exact List.forall_mem_singleton.mpr (remark_helpLine hname (by decide))
  · exact List.forall_mem_singleton.mpr (remark_helpLine hname (by decide))
  · exact List.forall_mem_nil _

theorem described_gaugeLines (hname : newline ∉ metricNameOf item.1) :
    Described t item (gaugeLines t item) := by
  refine ⟨gaugeHelp (metricNameOf item.1) ++ [typeLine (metricNameOf item.1) "gauge".toList],
    ?_, by rw [gaugeLines, List.append_assoc]; rfl⟩
  rw [List.forall_mem_append, List.forall_mem_singleton]
  refine ⟨?_, remark_typeLine hname (by decide)⟩
  unfold gaugeHelp
  split_ifs
  · exact List.forall_mem_singleton.mpr (remark_helpLine hname (by decide))
  · exact List.forall_mem_nil _

theorem described_metadataLines (t : FloatText) (now : ℚ) :
    Described t ("app_metrics_timestamp".toList, now) (metadataLines t now) := by
  refine ⟨[helpLine "app_metrics_timestamp".toList "Timestamp of metrics collection".toList,
    typeLine "app_metrics_timestamp".toList "gauge".toList], ?_, ?_⟩
  · rw [List.forall_mem_cons, List.forall_mem_singleton]
    exact ⟨remark_helpLine (by decide) (by decide), remark_typeLine (by decide) (by decide)⟩
  · have hname : metricNameOf "app_metrics_timestamp".toList = "app_metrics_timestamp".toList := by
      decide
    have hlabels : labelsOf "app_metrics_timestamp".toList = [] := by decide
    rw [hname, hlabels]
    rfl

theorem sampleOf_remark (h : Remark line) : sampleOf t line = none := if_pos h.2

variable {lines : List Text}

theorem sampleOf_described (h : Described t item lines) {s : Sample ℚ}
    (hline : line ∈ lines.flatMap linesOf) (hs : sampleOf t line = some s) :
    line ∈ linesOf (sampleLine (metricNameOf item.1) (labelsOf item.1) (t.repr item.2)) := by
  obtain ⟨remarks, hremarks, rfl⟩ := h
  rw [List.flatMap_append, List.mem_append, List.flatMap_singleton] at hline
  refine hline.resolve_left fun hremark => ?_
  obtain ⟨remark, hmem, hline⟩ := List.mem_flatMap.mp hremark
  rw [linesOf_eq (hremarks remark hmem).1, List.mem_singleton] at hline
  subst hline
  rw [sampleOf_remark (hremarks line hmem)] at hs
  cases hs

theorem mem_of_described (h : Described t item lines)
    (hline : line ∈ linesOf (sampleLine (metricNameOf item.1) (labelsOf item.1) (t.repr item.2))) :
    line ∈ lines.flatMap linesOf := by
  obtain ⟨remarks, -, rfl⟩ := h
  rw [List.flatMap_append, List.flatMap_singleton]
  exact List.mem_append_right _ hline

/-! ## Tags -/

/-- The length of tags in a key, each with its separators. -/
def written (tags : Tags) : ℕ := (tags.items.map fun item => item.1.length + item.2.length + 2).sum

theorem length_intercalate (sep : Char) (parts : List Text) (h : parts ≠ []) :
    ([sep].intercalate parts).length + 1 = (parts.map fun part => part.length + 1).sum := by
  induction parts with
  | nil => exact absurd rfl h
  | cons part parts ih =>
    by_cases hparts : parts = []
    · subst hparts
      rw [List.intercalate_singleton, List.map_singleton, List.sum_singleton]
    · rw [List.intercalate_cons_of_ne_nil hparts, List.map_cons, List.sum_cons, ← ih hparts,
        List.length_append, List.length_append, List.length_singleton]
      omega

theorem length_tagString {tags : Tags} (h : tags.items ≠ []) :
    (tagString tags).length + 1 = written tags := by
  unfold tagString written
  have hperm := List.perm_insertionSort (fun a b : Text × Text => a.1 ≤ b.1) tags.items
  have hne : (tags.items.insertionSort fun a b => a.1 ≤ b.1).map tagText ≠ [] := by
    rw [Ne, List.map_eq_nil_iff]
    exact fun hnil => h (List.perm_nil.mp (hnil ▸ hperm.symm))
  rw [length_intercalate ',' _ hne, List.map_map]
  refine (List.Perm.sum_eq (hperm.map _)).trans ?_
  refine congrArg List.sum (List.map_congr_left fun item _ => ?_)
  simp only [Function.comp_apply, tagText, List.length_append, List.length_cons]
  omega

theorem length_labelsOf_le (name : MetricName) (tags : Tags) :
    (labelsOf (makeKey name tags)).length ≤ written tags - 1 := by
  rw [labelsOf_makeKey]
  split_ifs with h
  · exact Nat.zero_le _
  · have hlength := length_tagString h
    have hcut := (List.takeWhile_sublist (l := tagString tags) (· ≠ '\x7d')).length_le
    omega

theorem written_le_size (tags : Tags) {labels : List (Text × Text)}
    (h : (tags.items : Multiset (Text × Text)) = labels) : written tags ≤ size labels := by
  unfold written size
  rw [← ((Multiset.coe_eq_coe.mp h).map _).sum_eq]
  exact List.sum_le_sum fun item _ => Nat.le_succ _

theorem eq_nil_of_written {tags : Tags} (h : written tags = 0) : tags.items = [] := by
  unfold written at h
  cases hitems : tags.items with
  | nil => rfl
  | cons item items =>
    rw [hitems, List.map_cons, List.sum_cons] at h
    omega

theorem newline_notMem_plain (hname : IsName name) (q : ℚ) : newline ∉ name ++ ' ' :: t.repr q := by
  have hblank : newline ≠ ' ' := by decide
  rw [List.mem_append, List.mem_cons, not_or, not_or]
  exact ⟨newline_notMem_name hname, hblank, newline_notMem (clean_repr t q)⟩

theorem isPlain_repr (t : FloatText) (q : ℚ) : IsPlain (t.repr q) := by
  refine ⟨t.ne_nil q, fun c hc => ?_⟩
  rcases t.chars q c hc with hdigit | hother
  · refine ⟨decide_eq_false ?_, ?_⟩
    · rintro (rfl | rfl) <;> exact absurd hdigit (by decide)
    · rintro rfl
      exact absurd hdigit (by decide)
  · have hall : ∀ d ∈ ['+', '-', '.', 'e'], isBlank d = false ∧ d ≠ '\x7b' :=
      List.forall_iff_forall_mem.mp (by decide)
    exact hall c hother

theorem sampleOf_plain (hname : IsName name) (q : ℚ) :
    sampleOf t (name ++ ' ' :: t.repr q) = some ⟨name, 0, q⟩ := by
  rw [sampleOf, if_neg (by rw [isComment_name hname]; exact Bool.false_ne_true),
    parseLine_plain hname (isPlain_repr t q), t.parse_repr]
  rfl

theorem size_le_of_sampleOf {name : MetricName} {tags : Tags} {q : ℚ} {s : Sample ℚ}
    (hread : ∀ line ∈ linesOf (sampleLine name.text (labelsOf (makeKey name tags)) (t.repr q)),
      ¬ Unread t line)
    (hline : line ∈ linesOf (sampleLine name.text (labelsOf (makeKey name tags)) (t.repr q)))
    (hs : sampleOf t line = some s) :
    ∃ labels : List (Text × Text),
      s.labels = labels ∧ size labels ≤ (labelsOf (makeKey name tags)).length := by
  have hbrace := brace_notMem_labelsOf name tags
  generalize labelsOf (makeKey name tags) = inner at hread hline hbrace ⊢
  unfold sampleLine at hread hline
  split_ifs at hread hline with hinner
  · unfold bracedLine at hread hline
    by_cases hnewline : newline ∈ inner
    · obtain ⟨line', hline', hunread⟩ :=
        unread_of_newline (t := t) name.valid hbrace hnewline ('\x7d' :: ' ' :: t.repr q)
      exact absurd hunread (hread line' hline')
    · have hitem : newline ∉ name.text ++ '\x7b' :: (inner ++ '\x7d' :: ' ' :: t.repr q) := by
        have hother : newline ∉ ['\x7b', '\x7d', ' '] := by decide
        simp only [List.mem_append, List.mem_cons, List.not_mem_nil, or_false, not_or] at hother ⊢
        exact ⟨newline_notMem_name name.valid, hother.1, hnewline, hother.2.1, hother.2.2,
          newline_notMem (clean_repr t q)⟩
      rw [linesOf_eq hitem, List.mem_singleton] at hline
      subst hline
      rw [sampleOf, if_neg (by rw [isComment_name name.valid]; exact Bool.false_ne_true)] at hs
      refine size_le_of_parseLine name.valid hbrace ?_ hs
      rw [List.mem_cons, not_or]
      exact ⟨by decide, quote_notMem (clean_repr t q)⟩
  · rw [linesOf_eq (newline_notMem_plain name.valid q), List.mem_singleton] at hline
    subst hline
    rw [sampleOf_plain name.valid] at hs
    obtain rfl := Option.some.inj hs
    exact ⟨[], rfl, Nat.zero_le _⟩

theorem exists_call_of_mem {ν : Type} {combine : Option ν → ℚ → ν} {item : Text × ν}
    (h : item ∈ collect combine (calls.map Call.entry)) :
    ∃ call ∈ calls, makeKey call.name call.tags = item.1 := by
  have hkey := (Dictionary.mem_keys_collect combine).mp (List.mem_map_of_mem h)
  obtain ⟨entry, hentry, hfst⟩ := List.mem_map.mp hkey
  obtain ⟨call, hcall, rfl⟩ := List.mem_map.mp hentry
  exact ⟨call, hcall, hfst⟩

variable {combine : Option ℚ → ℚ → ℚ}

/-- **Metrics that are all read back** have no tags: the labels of the one with the longest tags
would have to be cut out of a key with tags that are longer. -/
theorem untagged_of_recorded {linesFor : Text × ℚ → List Text}
    (hlines : ∀ item : Text × ℚ, newline ∉ metricNameOf item.1 → Described t item (linesFor item))
    (hread : ∀ line ∈ ((collect combine (calls.map Call.entry)).flatMap linesFor).flatMap linesOf,
      ¬ Unread t line)
    (hrecorded : ∀ call ∈ calls, ∃ s : Sample ℚ, s.labels = call.tags.items ∧
      ∃ line ∈ ((collect combine (calls.map Call.entry)).flatMap linesFor).flatMap linesOf,
        sampleOf t line = some s)
    :
    ∀ call ∈ calls, call.tags.items = [] := by
  intro call hcall
  cases hlongest : calls.argmax fun call => written call.tags with
  | none =>
    rw [List.argmax_eq_none.mp hlongest] at hcall
    cases hcall
  | some longest =>
    -- the sample of the longest tags stands in the lines of some key, perhaps of another one
    obtain ⟨s, hlabels, line, hline, hs⟩ := hrecorded longest (List.argmax_mem hlongest)
    rw [List.flatMap_assoc] at hline hread
    obtain ⟨item, hitem, hline⟩ := List.mem_flatMap.mp hline
    obtain ⟨source, hsource, hkey⟩ := exists_call_of_mem hitem
    have hname : metricNameOf item.1 = source.name.text := by
      rw [← hkey, metricNameOf_makeKey]
    have hdescribed := hlines item (hname ▸ newline_notMem_name source.name.valid)
    have hlast := sampleOf_described hdescribed hline hs
    have hreadlast : ∀ line ∈ linesOf (sampleLine (metricNameOf item.1) (labelsOf item.1)
        (t.repr item.2)), ¬ Unread t line := fun line' hline' =>
      hread line' (List.mem_flatMap.mpr ⟨item, hitem, mem_of_described hdescribed hline'⟩)
    rw [hname, ← hkey] at hlast hreadlast
    obtain ⟨labels, hslabels, hsize⟩ := size_le_of_sampleOf hreadlast hlast hs
    have hlonger : ∀ other ∈ calls, written other.tags ≤ written longest.tags :=
      fun other hother => List.le_of_mem_argmax (f := fun call => written call.tags) hother hlongest
    -- read labels have quotes, and what is cut out of a key has lost a character at least
    have hcut := length_labelsOf_le source.name source.tags
    have hwritten := written_le_size longest.tags (hlabels.symm.trans hslabels)
    have hsourcele := hlonger source hsource
    have hcallle := hlonger call hcall
    exact eq_nil_of_written (by omega)

/-! ## What is read -/

/-- Lines of which each is a comment or a sample, and the samples. -/
def Reads (t : FloatText) (lines : List Text) (samples : List (Sample ℚ)) : Prop :=
  (∀ line ∈ lines.flatMap linesOf, ¬ Unread t line) ∧
    (lines.flatMap linesOf).filterMap (sampleOf t) = samples

theorem Reads.append {lines' : List Text} {samples samples' : List (Sample ℚ)}
    (h : Reads t lines samples) (h' : Reads t lines' samples') :
    Reads t (lines ++ lines') (samples ++ samples') := by
  obtain ⟨hread, rfl⟩ := h
  obtain ⟨hread', rfl⟩ := h'
  unfold Reads
  rw [List.flatMap_append, List.filterMap_append, List.forall_mem_append]
  exact ⟨⟨hread, hread'⟩, rfl⟩

theorem Reads.flatMap {α : Type} {items : List α} {lines : α → List Text} {sample : α → Sample ℚ}
    (h : ∀ item ∈ items, Reads t (lines item) [sample item]) :
    Reads t (items.flatMap lines) (items.map sample) := by
  induction items with
  | nil => exact ⟨List.forall_mem_nil _, rfl⟩
  | cons item items ih =>
    obtain ⟨hitem, hitems⟩ := List.forall_mem_cons.mp h
    exact hitem.append (ih hitems)

theorem reads_remarks {remarks : List Text} (h : ∀ line ∈ remarks, Remark line) :
    Reads t remarks [] := by
  have hlines : remarks.flatMap linesOf = remarks := by
    refine (List.flatMap_congr fun line hline => linesOf_eq (h line hline).1).trans ?_
    exact List.flatMap_singleton' remarks
  unfold Reads
  rw [hlines, List.filterMap_eq_nil_iff]
  refine ⟨fun line hline hunread => ?_, fun line hline => sampleOf_remark (h line hline)⟩
  exact absurd ((h line hline).2.symm.trans hunread.1) (by decide)

def plainSample (item : Text × ℚ) : Sample ℚ := ⟨item.1, 0, item.2⟩

theorem reads_plain (hname : IsName item.1) :
    Reads t [item.1 ++ ' ' :: t.repr item.2] [plainSample item] := by
  have hsample := sampleOf_plain (t := t) hname item.2
  unfold Reads
  rw [List.flatMap_singleton, linesOf_eq (newline_notMem_plain hname item.2),
    List.forall_mem_singleton, List.filterMap_cons_some hsample]
  refine ⟨fun hunread => ?_, rfl⟩
  rw [Unread, hsample] at hunread
  exact nomatch hunread.2

theorem metricNameOf_of_isName {key : Text} (h : IsName key) : metricNameOf key = key :=
  metricNameOf_makeKey ⟨key, h⟩ noTags

theorem labelsOf_of_isName {key : Text} (h : IsName key) : labelsOf key = [] :=
  (labelsOf_makeKey ⟨key, h⟩ noTags).trans (if_pos rfl)

theorem reads_described (hname : IsName item.1) (h : Described t item lines) :
    Reads t lines [plainSample item] := by
  obtain ⟨remarks, hremarks, rfl⟩ := h
  rw [metricNameOf_of_isName hname, labelsOf_of_isName hname, sampleLine,
    if_neg (not_not_intro rfl)]
  exact (reads_remarks hremarks).append (reads_plain hname)

theorem isName_of_mem (huntagged : ∀ call ∈ calls, call.tags.items = [])
    (h : item ∈ collect combine (calls.map Call.entry)) : IsName item.1 := by
  obtain ⟨call, hcall, hkey⟩ := exists_call_of_mem h
  rw [← hkey, makeKey_untagged (huntagged call hcall)]
  exact call.name.valid

theorem reads_table {linesFor : Text × ℚ → List Text}
    (hlines : ∀ item : Text × ℚ, newline ∉ metricNameOf item.1 → Described t item (linesFor item))
    (huntagged : ∀ call ∈ calls, call.tags.items = []) :
    Reads t ((collect combine (calls.map Call.entry)).flatMap linesFor)
      ((collect combine (calls.map Call.entry)).map plainSample) := by
  refine Reads.flatMap fun item hitem => ?_
  have hname := isName_of_mem huntagged hitem
  refine reads_described hname (hlines item ?_)
  rw [metricNameOf_of_isName hname]
  exact newline_notMem_name hname

theorem reads_counters (huntagged : ∀ call ∈ counterCalls run, call.tags.items = []) :
    Reads t ((registryAfter run).counters.flatMap (counterLines t))
      ((registryAfter run).counters.map plainSample) := by
  rw [counters_eq]
  exact reads_table (fun item => described_counterLines) huntagged

theorem reads_gauges (huntagged : ∀ call ∈ gaugeCalls run, call.tags.items = []) :
    Reads t ((registryAfter run).gauges.flatMap (gaugeLines t))
      ((registryAfter run).gauges.map plainSample) := by
  rw [gauges_eq]
  exact reads_table (fun item => described_gaugeLines) huntagged

theorem isName_metadata : IsName "app_metrics_timestamp".toList := by decide

/-- **What is read** of counters and gauges without tags: a sample for each, and the metadata. -/
theorem reads_prometheusLines (now : ℚ)
    (hnone : histogramCalls run = [] ∧ timerCalls run = [])
    (huntagged : ∀ call ∈ counterCalls run ++ gaugeCalls run, call.tags.items = []) :
    Reads t (prometheusLines t now (registryAfter run))
      (((registryAfter run).counters ++ (registryAfter run).gauges ++
        [("app_metrics_timestamp".toList, now)]).map plainSample) := by
  obtain ⟨hcounters, hgauges⟩ := List.forall_mem_append.mp huntagged
  have hhistograms : (registryAfter run).histograms = [] := by rw [histograms_eq, hnone.1]; rfl
  have htimers : (registryAfter run).timers = [] := by rw [timers_eq, hnone.2]; rfl
  have hlines : prometheusLines t now (registryAfter run) =
      (registryAfter run).counters.flatMap (counterLines t) ++
        (registryAfter run).gauges.flatMap (gaugeLines t) ++ metadataLines t now := by
    unfold prometheusLines
    rw [hhistograms, htimers]
    exact congrArg (· ++ _) ((List.append_nil _).trans (List.append_nil _))
  rw [hlines, List.map_append, List.map_append]
  refine ((reads_counters hcounters).append (reads_gauges hgauges)).append ?_
  exact reads_described isName_metadata (described_metadataLines t now)

/-! ## Faithful exports -/

theorem mem_plainSample {table : List (Text × ℚ)} {s : Sample ℚ} :
    s ∈ table.map plainSample ↔ s.labels = 0 ∧ (s.name, s.value) ∈ table := by
  constructor
  · intro h
    obtain ⟨item, hitem, rfl⟩ := List.mem_map.mp h
    exact ⟨rfl, hitem⟩
  · rintro ⟨hlabels, hmem⟩
    refine List.mem_map.mpr ⟨_, hmem, ?_⟩
    rw [plainSample, ← hlabels]

theorem Reads.exists_iff {samples : List (Sample ℚ)} (h : Reads t lines samples) (s : Sample ℚ) :
    (∃ line ∈ lines.flatMap linesOf, sampleOf t line = some s) ↔ s ∈ samples := by
  rw [← h.2, List.mem_filterMap]

theorem valuesOf_labels (huntagged : ∀ call ∈ calls, call.tags.items = [])
    {labels : Multiset (Text × Text)} (h : valuesOf name labels calls ≠ []) : labels = 0 := by
  obtain ⟨value, hvalue⟩ := List.exists_mem_of_ne_nil _ h
  obtain ⟨call, hcall, -⟩ := List.mem_map.mp hvalue
  obtain ⟨hmem, hcall⟩ := List.mem_filter.mp hcall
  rw [← (of_decide_eq_true hcall).2, huntagged call hmem]
  rfl

theorem recordedCounter_iff (huntagged : ∀ call ∈ counterCalls run, call.tags.items = [])
    (s : Sample ℚ) :
    s ∈ (registryAfter run).counters.map plainSample ↔ RecordedCounter run s := by
  rw [counters_eq, mem_plainSample, Dictionary.mem_collect_iff, valuesAt_entries huntagged,
    foldl_addTo]
  unfold RecordedCounter
  constructor
  · rintro ⟨hlabels, hvalue⟩
    rw [hlabels]
    split_ifs at hvalue with hnil
    exact ⟨hnil, (Option.some.inj hvalue).symm⟩
  · rintro ⟨hne, hvalue⟩
    have hlabels := valuesOf_labels huntagged hne
    rw [hlabels] at hne hvalue
    exact ⟨hlabels, by rw [if_neg hne, hvalue]⟩

theorem recordedGauge_iff (huntagged : ∀ call ∈ gaugeCalls run, call.tags.items = [])
    (s : Sample ℚ) :
    s ∈ (registryAfter run).gauges.map plainSample ↔ RecordedGauge run s := by
  rw [gauges_eq, mem_plainSample, Dictionary.mem_collect_iff, valuesAt_entries huntagged,
    foldl_setTo]
  unfold RecordedGauge
  constructor
  · rintro ⟨hlabels, hvalue⟩
    rw [hlabels, hvalue]
  · intro hvalue
    have hne : valuesOf s.name s.labels (gaugeCalls run) ≠ [] := by
      intro hnil
      rw [hnil] at hvalue
      cases hvalue
    have hlabels := valuesOf_labels huntagged hne
    rw [hlabels] at hvalue
    exact ⟨hlabels, hvalue⟩

theorem mem_keys_iff {key : Text} (huntagged : ∀ call ∈ calls, call.tags.items = []) :
    key ∈ keys (collect combine (calls.map Call.entry)) ↔ ∃ call ∈ calls, call.name.text = key := by
  rw [Dictionary.mem_keys_collect, List.map_map, List.mem_map]
  refine exists_congr fun call => and_congr_right fun hcall => ?_
  rw [Function.comp_apply, Call.entry, makeKey_untagged (huntagged call hcall)]

theorem nodup_keys_iff (now : ℚ)
    (huntagged : ∀ call ∈ counterCalls run ++ gaugeCalls run, call.tags.items = []) :
    (keys ((registryAfter run).counters ++ (registryAfter run).gauges ++
        [("app_metrics_timestamp".toList, now)])).Nodup ↔
      (∀ counter ∈ counterCalls run, ∀ gauge ∈ gaugeCalls run,
        counter.name.text ≠ gauge.name.text) ∧
      ∀ call ∈ counterCalls run ++ gaugeCalls run,
        call.name.text ≠ "app_metrics_timestamp".toList := by
  obtain ⟨hcounters, hgauges⟩ := List.forall_mem_append.mp huntagged
  rw [counters_eq, gauges_eq, keys, List.map_append, List.map_append, ← keys, ← keys,
    List.map_singleton, List.nodup_append, List.nodup_append]
  constructor
  · rintro ⟨⟨-, -, hseparate⟩, -, hmetadata⟩
    refine ⟨fun counter hcounter gauge hgauge => ?_, fun call hcall => ?_⟩
    · exact hseparate _ ((mem_keys_iff hcounters).mpr ⟨counter, hcounter, rfl⟩) _
        ((mem_keys_iff hgauges).mpr ⟨gauge, hgauge, rfl⟩)
    · refine hmetadata _ (List.mem_append.mpr ?_) _ (List.mem_singleton_self _)
      refine (List.mem_append.mp hcall).imp (fun hcall => ?_) fun hcall => ?_
      · exact (mem_keys_iff hcounters).mpr ⟨call, hcall, rfl⟩
      · exact (mem_keys_iff hgauges).mpr ⟨call, hcall, rfl⟩
  · rintro ⟨hseparate, hmetadata⟩
    refine ⟨⟨Dictionary.nodup_keys_collect _ _, Dictionary.nodup_keys_collect _ _, ?_⟩,
      List.nodup_singleton _, ?_⟩
    · intro key hkey key' hkey'
      obtain ⟨counter, hcounter, rfl⟩ := (mem_keys_iff hcounters).mp hkey
      obtain ⟨gauge, hgauge, rfl⟩ := (mem_keys_iff hgauges).mp hkey'
      exact hseparate counter hcounter gauge hgauge
    · intro key hkey key' hkey'
      rw [List.mem_singleton.mp hkey']
      rcases List.mem_append.mp hkey with hkey | hkey
      · obtain ⟨counter, hcounter, rfl⟩ := (mem_keys_iff hcounters).mp hkey
        exact hmetadata counter (List.mem_append_left _ hcounter)
      · obtain ⟨gauge, hgauge, rfl⟩ := (mem_keys_iff hgauges).mp hkey
        exact hmetadata gauge (List.mem_append_right _ hgauge)

theorem distinct_iff {table : List (Text × ℚ)} {r : Registry}
    (h : Reads t (prometheusLines t now r) (table.map plainSample)) :
    ((linesOf (content t now r)).filterMap fun line =>
      (sampleOf t line).map fun s => (s.name, s.labels)).Nodup ↔ (keys table).Nodup := by
  have hlast : [([] : Text)].filterMap (sampleOf t) = [] := rfl
  have hpairs : (table.map plainSample).map (fun s => (s.name, s.labels)) =
      (keys table).map fun key => (key, (0 : Multiset (Text × Text))) := by
    rw [keys, List.map_map, List.map_map]
    rfl
  rw [← List.map_filterMap, linesOf_content, List.filterMap_append, h.2, hlast, List.append_nil,
    hpairs, List.nodup_map_iff fun key key' heq => congrArg Prod.fst heq]

theorem exists_recordedCounter {call : Call} (h : call ∈ counterCalls run) :
    ∃ s : Sample ℚ, s.labels = call.tags.items ∧ RecordedCounter run s := by
  refine ⟨⟨call.name.text, call.tags.items,
    (valuesOf call.name.text call.tags.items (counterCalls run)).sum⟩, rfl, ?_, rfl⟩
  exact List.ne_nil_of_mem (List.mem_map_of_mem (List.mem_filter.mpr ⟨h, by simp⟩))

theorem exists_recordedGauge {call : Call} (h : call ∈ gaugeCalls run) :
    ∃ s : Sample ℚ, s.labels = call.tags.items ∧ RecordedGauge run s := by
  have hne : valuesOf call.name.text call.tags.items (gaugeCalls run) ≠ [] :=
    List.ne_nil_of_mem (List.mem_map_of_mem (List.mem_filter.mpr ⟨h, by simp⟩))
  exact ⟨⟨call.name.text, call.tags.items, _⟩, rfl, List.getLast?_eq_some_getLast hne⟩

/-- **The export is faithful** if and only if nothing is measured, nothing has tags, and the names
are all different. -/
theorem faithful_export_iff (t : FloatText) (now : ℚ) (run : List Recording) :
    Faithful t now run ↔ Plain run := by
  constructor
  · intro h
    have hread : ∀ line ∈ linesOf (content t now (registryAfter run)), ¬ Unread t line := by
      rintro line hline ⟨hcomment, hnone⟩
      obtain ⟨s, hs⟩ := h.parses line hline hcomment
      rw [hnone] at hs
      cases hs
    have hnone := noMeasurements_of_read hread
    -- counters and gauges have sections of their own, and each is read by itself
    have huntagged : ∀ call ∈ counterCalls run ++ gaugeCalls run, call.tags.items = [] := by
      rw [linesOf_content, List.forall_mem_append, prometheusLines] at hread
      simp only [List.flatMap_append, List.forall_mem_append] at hread
      obtain ⟨⟨⟨⟨⟨hcounters, hgauges⟩, -⟩, -⟩, -⟩, -⟩ := hread
      rw [counters_eq] at hcounters
      rw [gauges_eq] at hgauges
      refine List.forall_mem_append.mpr ⟨?_, ?_⟩
      · refine untagged_of_recorded (fun item => described_counterLines) hcounters ?_
        intro call hcall
        obtain ⟨s, hlabels, hrecorded⟩ := exists_recordedCounter hcall
        rw [← counters_eq]
        exact ⟨s, hlabels, (h.counters s).mpr hrecorded⟩
      · refine untagged_of_recorded (fun item => described_gaugeLines) hgauges ?_
        intro call hcall
        obtain ⟨s, hlabels, hrecorded⟩ := exists_recordedGauge hcall
        rw [← gauges_eq]
        exact ⟨s, hlabels, (h.gauges s).mpr hrecorded⟩
    have hdistinct := (distinct_iff (reads_prometheusLines now hnone huntagged)).mp h.distinct
    obtain ⟨hseparate, hmetadata⟩ := (nodup_keys_iff now huntagged).mp hdistinct
    exact ⟨hnone, huntagged, hseparate, hmetadata⟩
  · intro h
    have hreads := reads_prometheusLines (t := t) now h.noMeasurements h.untagged
    obtain ⟨hcounters, hgauges⟩ := List.forall_mem_append.mp h.untagged
    refine ⟨?_, ?_, ?_, ?_, fun item _ => ?_⟩
    · intro line hline hcomment
      rw [linesOf_content] at hline
      rcases List.mem_append.mp hline with hline | hline
      · exact Option.ne_none_iff_exists'.mp fun hnone => hreads.1 line hline ⟨hcomment, hnone⟩
      · -- the text ends with a newline, and the empty line behind it is a comment
        rw [List.mem_singleton.mp hline] at hcomment
        cases hcomment
    · have hnames := (nodup_keys_iff now h.untagged).mpr ⟨h.separate, h.notMetadata⟩
      exact (distinct_iff hreads).mpr hnames
    · intro s
      rw [(reads_counters hcounters).exists_iff, recordedCounter_iff hcounters]
    · intro s
      rw [(reads_gauges hgauges).exists_iff, recordedGauge_iff hgauges]
    · exact ⟨drop_timerLines item, bucketCounts_law item.2⟩

/-- Whole numbers as they are written with a point. The text of the others is any that is found
again. -/
def wholeText : FloatText where
  repr q :=
    if q = q.num.toNat then (toString q.num.toNat).toList ++ ".0".toList
    else List.replicate (Encodable.encode q + 1) '1'
  parse text :=
    if '.' ∈ text then some (Nat.ofDigitChars 10 (text.takeWhile Char.isDigit) 0)
    else Encodable.decode (text.length - 1)
  parse_repr q := by
    by_cases hq : q = q.num.toNat
    · have hpoint : '.' ∈ (toString q.num.toNat).toList ++ ".0".toList :=
        List.mem_append_right _ List.mem_cons_self
      have hdigits : ((toString q.num.toNat).toList ++ ".0".toList).takeWhile Char.isDigit =
          (toString q.num.toNat).toList := Text.takeWhile_toString rfl ['0']
      rw [if_pos hq, if_pos hpoint, hdigits, Text.toList_toString, Nat.ofDigitChars_ten_toDigits,
        ← hq]
    · rw [if_neg hq, if_neg fun h => absurd (List.eq_of_mem_replicate h) (by decide),
        List.length_replicate, Nat.add_sub_cancel, Encodable.encodek]
  ne_nil q := by
    split_ifs
    · exact List.append_ne_nil_of_right_ne_nil _ (List.cons_ne_nil _ _)
    · exact List.cons_ne_nil _ _
  chars q c hc := by
    split_ifs at hc
    · rcases List.mem_append.mp hc with hc | hc
      · exact .inl (Text.isDigit_of_mem_toString hc)
      · have hall : ∀ d ∈ ".0".toList, d.isDigit = true ∨ d ∈ ['+', '-', '.', 'e'] :=
          List.forall_iff_forall_mem.mp (by decide)
        exact hall c hc
    · rw [List.eq_of_mem_replicate hc]
      exact .inl rfl

def requests : MetricName := ⟨"requests".toList, by decide⟩

def getTags : Tags := ⟨[("method".toList, "GET".toList)], by decide⟩

/-- The value of a tag is written without quotes, so the counter cannot be read. -/
theorem tagged_counter_not_faithful :
    "requests\x7bmethod=GET\x7d 1.0".toList ∈
        linesOf (content wholeText 0 (registryAfter [.incrementCounter requests 1 getTags])) ∧
      parseLine wholeText.parse "requests\x7bmethod=GET\x7d 1.0".toList = none ∧
      ¬ Faithful wholeText 0 [.incrementCounter requests 1 getTags] := by
  have hmem : "requests\x7bmethod=GET\x7d 1.0".toList ∈
      linesOf (content wholeText 0 (registryAfter [.incrementCounter requests 1 getTags])) := by
    decide +kernel
  have hnone : parseLine wholeText.parse "requests\x7bmethod=GET\x7d 1.0".toList = none := by
    rfl
  refine ⟨hmem, hnone, fun h => ?_⟩
  obtain ⟨s, hs⟩ := h.parses _ hmem (by decide)
  rw [sampleOf, if_neg (by decide), hnone] at hs
  cases hs

end PrometheusExport

end NocIq
