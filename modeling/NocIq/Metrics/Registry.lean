import Mathlib.Algebra.BigOperators.Group.List.Basic
import Mathlib.Algebra.Ring.Rat
import Mathlib.Data.Char
import Mathlib.Data.List.Lex
import Mathlib.Data.List.Sort
import NocIq.Lib.Dictionary
import NocIq.Lib.Exposition

/-!
# NocIq — the registry of metrics

`MetricsRegistry` of `app/services/metrics.py`: counters, gauges, histograms and timers, each in a
dictionary under a key that has the name of the metric and its tags. Values are rational numbers.

* **`registryAfter_eq`** — each dictionary is made by the recordings of its kind.
* **`foldl_addTo` / `foldl_setTo`** — a counter has the sum of its values, a gauge the last one.
* **`valuesAt_entries`** — without tags the values of a metric are those under its name.
-/

namespace NocIq

namespace MetricsRegistry

open Dictionary (collect keys valuesAt)

abbrev Text := List Char

/-- A name in the grammar of metric names. -/
structure MetricName where
  text : Text
  valid : Exposition.IsName text

/-- `Dict[str, str]`. Without tags it is empty. -/
structure Tags where
  items : List (Text × Text)
  names_nodup : (items.map Prod.fst).Nodup

def noTags : Tags := ⟨[], List.nodup_nil⟩

/-! ## Keys -/

def tagText (item : Text × Text) : Text := item.1 ++ '=' :: item.2

/-- `",".join(f"{k}={v}" for k, v in sorted(tags.items()))`. No two tags have one name. -/
def tagString (tags : Tags) : Text :=
  [','].intercalate ((tags.items.insertionSort fun a b => a.1 ≤ b.1).map tagText)

/-- `_make_key`. -/
def makeKey (name : MetricName) (tags : Tags) : Text :=
  if tags.items = [] then name.text else name.text ++ '\x7b' :: (tagString tags ++ ['\x7d'])

/-! ## Recordings -/

inductive Recording where
  | incrementCounter (name : MetricName) (value : ℚ) (tags : Tags)
  | setGauge (name : MetricName) (value : ℚ) (tags : Tags)
  | recordHistogram (name : MetricName) (value : ℚ) (tags : Tags)
  | recordTimer (name : MetricName) (durationMs : ℚ) (tags : Tags)

structure Registry where
  counters : List (Text × ℚ) := []
  gauges : List (Text × ℚ) := []
  histograms : List (Text × List ℚ) := []
  timers : List (Text × List ℚ) := []

/-- `self._counters[key] += value`, of a `defaultdict(float)`. -/
def addTo (old : Option ℚ) (value : ℚ) : ℚ := old.getD 0 + value

/-- `self._gauges[key] = value`. -/
def setTo (_ : Option ℚ) (value : ℚ) : ℚ := value

/-- An append to a list of which the last 1000 values are kept. -/
def appendTo (old : Option (List ℚ)) (value : ℚ) : List ℚ :=
  let values := old.getD [] ++ [value]
  values.drop (values.length - 1000)

def record (r : Registry) : Recording → Registry
  | .incrementCounter name value tags =>
    { r with counters := Dictionary.update addTo r.counters (makeKey name tags, value) }
  | .setGauge name value tags =>
    { r with gauges := Dictionary.update setTo r.gauges (makeKey name tags, value) }
  | .recordHistogram name value tags =>
    { r with histograms := Dictionary.update appendTo r.histograms (makeKey name tags, value) }
  | .recordTimer name durationMs tags =>
    { r with timers := Dictionary.update appendTo r.timers (makeKey name tags, durationMs) }

def registryAfter (run : List Recording) : Registry := run.foldl record {}

/-! ## The dictionaries after a run -/

/-- The call of `_make_key` that a recording makes, and the value. -/
structure Call where
  name : MetricName
  tags : Tags
  value : ℚ

def Call.entry (call : Call) : Text × ℚ := (makeKey call.name call.tags, call.value)

def counterCalls (run : List Recording) : List Call :=
  run.filterMap fun
    | .incrementCounter name value tags => some ⟨name, tags, value⟩
    | _ => none

def gaugeCalls (run : List Recording) : List Call :=
  run.filterMap fun
    | .setGauge name value tags => some ⟨name, tags, value⟩
    | _ => none

def histogramCalls (run : List Recording) : List Call :=
  run.filterMap fun
    | .recordHistogram name value tags => some ⟨name, tags, value⟩
    | _ => none

def timerCalls (run : List Recording) : List Call :=
  run.filterMap fun
    | .recordTimer name durationMs tags => some ⟨name, tags, durationMs⟩
    | _ => none

/-- **Each dictionary** is made by the recordings of its kind. -/
theorem registryAfter_eq (run : List Recording) :
    registryAfter run =
      { counters := collect addTo ((counterCalls run).map Call.entry)
        gauges := collect setTo ((gaugeCalls run).map Call.entry)
        histograms := collect appendTo ((histogramCalls run).map Call.entry)
        timers := collect appendTo ((timerCalls run).map Call.entry) } := by
  induction run using List.reverseRecOn with
  | nil => rfl
  | append_singleton run r ih =>
    rw [registryAfter, List.foldl_append, ← registryAfter, ih]
    cases r <;>
      simp [record, counterCalls, gaugeCalls, histogramCalls, timerCalls, List.filterMap_append,
        Dictionary.collect_concat, Call.entry]

theorem counters_eq (run : List Recording) :
    (registryAfter run).counters = collect addTo ((counterCalls run).map Call.entry) := by
  rw [registryAfter_eq]

theorem gauges_eq (run : List Recording) :
    (registryAfter run).gauges = collect setTo ((gaugeCalls run).map Call.entry) := by
  rw [registryAfter_eq]

theorem histograms_eq (run : List Recording) :
    (registryAfter run).histograms = collect appendTo ((histogramCalls run).map Call.entry) := by
  rw [registryAfter_eq]

theorem timers_eq (run : List Recording) :
    (registryAfter run).timers = collect appendTo ((timerCalls run).map Call.entry) := by
  rw [registryAfter_eq]

/-! ## What is recorded -/

/-- The values of the recordings with a name and tags. -/
def valuesOf (name : Text) (labels : Multiset (Text × Text)) (calls : List Call) : List ℚ :=
  (calls.filter fun call => call.name.text = name ∧ (call.tags.items : Multiset _) = labels).map
    Call.value

/-- The sum of what has been added to a counter. -/
def RecordedCounter (run : List Recording) (s : Exposition.Sample ℚ) : Prop :=
  valuesOf s.name s.labels (counterCalls run) ≠ [] ∧
    s.value = (valuesOf s.name s.labels (counterCalls run)).sum

/-- The last value a gauge has been set to. -/
def RecordedGauge (run : List Recording) (s : Exposition.Sample ℚ) : Prop :=
  (valuesOf s.name s.labels (gaugeCalls run)).getLast? = some s.value

theorem foldl_addTo (values : List ℚ) :
    values.foldl (fun old value => some (addTo old value)) none =
      if values = [] then none else some values.sum := by
  induction values using List.reverseRecOn with
  | nil => rfl
  | append_singleton values value ih =>
    have hne : values ++ [value] ≠ [] := List.append_ne_nil_of_right_ne_nil _ (List.cons_ne_nil _ _)
    rw [List.foldl_append, ih, if_neg hne, List.sum_append, List.sum_singleton]
    by_cases hnil : values = []
    · subst hnil
      rfl
    · rw [if_neg hnil]
      rfl

theorem foldl_setTo (values : List ℚ) :
    values.foldl (fun old value => some (setTo old value)) none = values.getLast? := by
  induction values using List.reverseRecOn with
  | nil => rfl
  | append_singleton values value ih =>
    rw [List.foldl_append, List.getLast?_concat]
    rfl

theorem makeKey_untagged {name : MetricName} {tags : Tags} (h : tags.items = []) :
    makeKey name tags = name.text := if_pos h

theorem valuesAt_entries {calls : List Call} (huntagged : ∀ call ∈ calls, call.tags.items = [])
    (name : Text) : valuesAt name (calls.map Call.entry) = valuesOf name 0 calls := by
  unfold Dictionary.valuesAt valuesOf
  rw [List.filter_map, List.map_map]
  refine congrArg (List.map Call.value) (List.filter_congr fun call hcall => ?_)
  have htags := huntagged call hcall
  simp only [Function.comp_apply, Call.entry, makeKey_untagged htags, htags, Multiset.coe_nil,
    and_true]

end MetricsRegistry

end NocIq
