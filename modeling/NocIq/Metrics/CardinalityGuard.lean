import Mathlib.Data.List.Sort
import NocIq.Lib.Counters

/-!
# NocIq — the cardinality budget of metrics

`CardinalityGuard` of `app/metrics/cardinality_guard.py`: of each metric the series are counted, up
to a budget. A new series for which there is no room left is to make room by an eviction.

`record` asks for an eviction when the series are as many as the budget; `_evict_least_used` evicts
when they are more. They never are, so nothing is evicted and the new series is dropped.

* **`evictLeastUsed_of_le`** — what the eviction does within the budget.
* **`tracks_guardAfter`** — the guard after any calls.
* **`cardinality_budget_iff`** — the runs in which no series is dropped.
-/

namespace NocIq

open Counters

namespace CardinalityGuard

/-- `METRICS_CARDINALITY_BUDGET` and `RATE_LIMIT_EVICT_BATCH_SIZE`. -/
structure Settings where
  budget : Nat := 1000
  evictBatchSize : Nat := 100
  budget_pos : 0 < budget := by decide
  evictBatchSize_pos : 0 < evictBatchSize := by decide

/-- `dict[str, int]`, in the order of insertion. -/
abbrev Series := List (String × Nat)

/-- `_series`. -/
abbrev Guard := String → Option Series

structure Call where
  metricName : String
  labelsKey : String
  deriving DecidableEq, Repr

/-! ## The guard -/

section Functions

variable (s : Settings)

/-- `_evict_least_used`, of a metric that is there. The sort is stable. -/
def evictLeastUsed (series : Series) : Series :=
  if series.length ≤ s.budget then series
  else
    let sortedKeys := keys (series.insertionSort fun a b => a.2 ≤ b.2)
    let evictCount := max (series.length - s.budget) s.evictBatchSize
    series.filter fun item => !(sortedKeys.take evictCount).contains item.1

def record (call : Call) (guard : Guard) : Bool × Guard :=
  let series := (guard call.metricName).getD []
  let put (series : Series) : Guard := Function.update guard call.metricName (some series)
  if call.labelsKey ∈ keys series then (true, put (increment call.labelsKey series))
  else
    let series := if s.budget ≤ series.length then evictLeastUsed s series else series
    if s.budget ≤ series.length then (false, put series)
    else (true, put (increment call.labelsKey series))

/-- `get_cardinality`, of one metric. -/
def cardinality (metricName : String) (guard : Guard) : Option (Nat × Nat) :=
  (guard metricName).map fun series => (series.length, s.budget)

def guardAfter (calls : List Call) : Guard :=
  calls.foldl (fun guard call => (record s call guard).2) fun _ => none

def seriesAfter (calls : List Call) (metricName : String) : Series :=
  (guardAfter s calls metricName).getD []

/-! ## What a budget with eviction promises -/

def Tracked (calls : List Call) (call : Call) : Prop :=
  call.labelsKey ∈ keys (seriesAfter s calls call.metricName)

/-- There are `n` records of the series since it was last admitted. -/
def RecordsSinceAdmission (calls : List Call) (call : Call) (n : Nat) : Prop :=
  ∃ before since, calls = before ++ since ∧ ¬ Tracked s before call ∧
    (∀ part, part <+: since → part ≠ [] → Tracked s (before ++ part) call) ∧ n = since.count call

/-- A series is new, and others that are used least have gone. -/
def AdmittedByEviction (before after : Series) (labelsKey : String) : Prop :=
  ∃ kept : Series, kept.Sublist before ∧ kept ≠ before ∧
    (∀ evicted ∈ before, evicted ∉ kept → ∀ item ∈ kept, evicted.2 ≤ item.2) ∧
    after.Perm (kept ++ [(labelsKey, 1)])

/-- What is promised of one call after others. -/
structure KeepsBudget (calls : List Call) (call : Call) : Prop where
  bounded : ∀ metricName, (seriesAfter s (calls ++ [call]) metricName).length ≤ s.budget
  counted : ∀ tracked, Tracked s (calls ++ [call]) tracked →
    RecordsSinceAdmission s (calls ++ [call]) tracked
      (count tracked.labelsKey (seriesAfter s (calls ++ [call]) tracked.metricName))
  admitted : ¬ Tracked s calls call → s.budget ≤ (seriesAfter s calls call.metricName).length →
    AdmittedByEviction (seriesAfter s calls call.metricName)
      (seriesAfter s (calls ++ [call]) call.metricName) call.labelsKey
  recorded : (record s call (guardAfter s calls)).1 = true

/-- Every call of the run keeps the budget. -/
def MeetsBudget (calls : List Call) : Prop :=
  ∀ before call, before ++ [call] <+: calls → KeepsBudget s before call

/-- The different series of a metric. -/
def labelsOf (calls : List Call) (metricName : String) : Finset String :=
  ((calls.filter fun call => call.metricName = metricName).map Call.labelsKey).toFinset

/-! ## One call -/

/-- **Within the budget nothing is evicted.** -/
theorem evictLeastUsed_of_le {series : Series} (h : series.length ≤ s.budget) :
    evictLeastUsed s series = series := if_pos h

variable {s} {calls : List Call} {call : Call}

theorem guardAfter_concat :
    guardAfter s (calls ++ [call]) = (record s call (guardAfter s calls)).2 := by
  unfold guardAfter
  rw [List.foldl_append]
  rfl

/-- What a call does to a metric that is within its budget. -/
def nextSeries (s : Settings) (call : Call) (series : Series) : Series :=
  if call.labelsKey ∈ keys series ∨ series.length < s.budget then
    increment call.labelsKey series
  else series

theorem record_eq {guard : Guard}
    (hle : ((guard call.metricName).getD []).length ≤ s.budget) :
    record s call guard =
      (decide (call.labelsKey ∈ keys ((guard call.metricName).getD []) ∨
          ((guard call.metricName).getD []).length < s.budget),
        Function.update guard call.metricName
          (some (nextSeries s call ((guard call.metricName).getD [])))) := by
  unfold record nextSeries
  generalize hseries : (guard call.metricName).getD [] = series at hle
  by_cases hmem : call.labelsKey ∈ keys series
  · simp only [hmem, if_true, true_or, decide_true]
  · -- whether or not the eviction is asked for, the series stay as they are
    have hsame : (if s.budget ≤ series.length then evictLeastUsed s series else series) =
        series := by
      rw [evictLeastUsed_of_le s hle, ite_self]
    simp only [hmem, if_false, false_or, hsame]
    by_cases hfull : s.budget ≤ series.length
    · rw [if_pos hfull, if_neg (Nat.not_lt.mpr hfull), decide_eq_false (Nat.not_lt.mpr hfull)]
    · rw [if_neg hfull, if_pos (Nat.not_le.mp hfull), decide_eq_true (Nat.not_le.mp hfull)]

end Functions

/-! ## All calls -/

section Runs

variable {s : Settings} {calls : List Call} {call : Call} {metricName : String}

theorem mem_labelsOf {labelsKey : String} :
    labelsKey ∈ labelsOf calls metricName ↔ ⟨metricName, labelsKey⟩ ∈ calls := by
  unfold labelsOf
  rw [List.mem_toFinset, List.mem_map]
  constructor
  · rintro ⟨call, hcall, rfl⟩
    obtain ⟨hcall, hname⟩ := List.mem_filter.mp hcall
    rw [← of_decide_eq_true hname]
    exact hcall
  · intro hcall
    exact ⟨_, List.mem_filter.mpr ⟨hcall, decide_eq_true rfl⟩, rfl⟩

/-- What the guard has of a metric: its first series, as many as the budget allows, with the number
of their records. -/
structure Tracks (s : Settings) (calls : List Call) (metricName : String) (series : Series) :
    Prop where
  nodup : (keys series).Nodup
  bounded : series.length ≤ s.budget
  recorded : ∀ labelsKey ∈ keys series, labelsKey ∈ labelsOf calls metricName
  counts : ∀ labelsKey ∈ keys series, count labelsKey series = calls.count ⟨metricName, labelsKey⟩
  -- a series is missing only if there has been no room for it
  complete : series.length < s.budget →
    ∀ labelsKey ∈ labelsOf calls metricName, labelsKey ∈ keys series

variable {series : Series}

theorem Tracks.other (h : Tracks s calls metricName series) (hne : metricName ≠ call.metricName) :
    Tracks s (calls ++ [call]) metricName series := by
  have hlabels : labelsOf (calls ++ [call]) metricName = labelsOf calls metricName := by
    ext labelsKey
    rw [mem_labelsOf, mem_labelsOf, List.mem_append, List.mem_singleton]
    constructor
    · rintro (hmem | rfl)
      · exact hmem
      · exact absurd rfl hne
    · exact .inl
  refine ⟨h.nodup, h.bounded, ?_, ?_, ?_⟩
  · rw [hlabels]
    exact h.recorded
  · intro labelsKey hmem
    have hcall : (⟨metricName, labelsKey⟩ : Call) ≠ call := fun heq => hne (by rw [← heq])
    rw [h.counts labelsKey hmem, List.count_append, List.count_singleton,
      if_neg (by simpa using Ne.symm hcall)]
    rfl
  · rw [hlabels]
    exact h.complete

theorem Tracks.increment (h : Tracks s calls call.metricName series)
    (hroom : call.labelsKey ∈ keys series ∨ series.length < s.budget) :
    Tracks s (calls ++ [call]) call.metricName (increment call.labelsKey series) := by
  have hlabels : ∀ labelsKey, labelsKey ∈ labelsOf (calls ++ [call]) call.metricName ↔
      labelsKey ∈ labelsOf calls call.metricName ∨ labelsKey = call.labelsKey := by
    intro labelsKey
    rw [mem_labelsOf, mem_labelsOf, List.mem_append, List.mem_singleton]
    refine or_congr Iff.rfl ?_
    constructor
    · intro heq
      rw [← heq]
    · rintro rfl
      rfl
  refine ⟨nodup_keys_increment h.nodup, ?_, ?_, ?_, ?_⟩
  · rw [length_increment]
    split
    · exact h.bounded
    · rename_i hnew
      exact hroom.resolve_left hnew
  · intro labelsKey hmem
    rw [hlabels]
    exact (mem_keys_increment.mp hmem).imp_left (h.recorded labelsKey)
  · intro labelsKey hmem
    rw [count_increment, List.count_append, List.count_singleton]
    by_cases heq : labelsKey = call.labelsKey
    · rw [if_pos heq, if_pos (by rw [heq]; exact beq_self_eq_true call), heq]
      refine congrArg (· + 1) ?_
      by_cases htracked : call.labelsKey ∈ keys series
      · exact h.counts _ htracked
      · -- there has been room all the time, so the series has not been recorded before
        have hnone : (⟨call.metricName, call.labelsKey⟩ : Call) ∉ calls := fun hcall =>
          htracked (h.complete (hroom.resolve_left htracked) _ (mem_labelsOf.mpr hcall))
        rw [count_of_notMem htracked, List.count_eq_zero_of_not_mem hnone]
    · have hcall : (call == (⟨call.metricName, labelsKey⟩ : Call)) = false :=
        beq_eq_false_iff_ne.mpr fun hcall => heq (by rw [hcall])
      rw [if_neg heq, hcall]
      exact h.counts labelsKey ((mem_keys_increment.mp hmem).resolve_right heq)
  · intro hlt labelsKey hmem
    rw [mem_keys_increment]
    obtain hmem | rfl := (hlabels labelsKey).mp hmem
    · refine .inl (h.complete ?_ labelsKey hmem)
      refine Nat.lt_of_le_of_lt ?_ hlt
      rw [length_increment]
      split
      · exact le_rfl
      · exact Nat.le_succ _
    · exact .inr rfl

theorem Tracks.dropped (h : Tracks s calls call.metricName series)
    (hnew : call.labelsKey ∉ keys series) (hfull : ¬ series.length < s.budget) :
    Tracks s (calls ++ [call]) call.metricName series := by
  refine ⟨h.nodup, h.bounded, ?_, ?_, fun hlt => absurd hlt hfull⟩
  · intro labelsKey hmem
    rw [mem_labelsOf]
    exact List.mem_append_left _ (mem_labelsOf.mp (h.recorded labelsKey hmem))
  · intro labelsKey hmem
    have hcall : (call == (⟨call.metricName, labelsKey⟩ : Call)) = false :=
      beq_eq_false_iff_ne.mpr fun hcall => hnew (by rw [hcall]; exact hmem)
    rw [h.counts labelsKey hmem, List.count_append, List.count_singleton, hcall]
    rfl

theorem seriesAfter_concat_of_le
    (hle : (seriesAfter s calls call.metricName).length ≤ s.budget) (metricName : String) :
    seriesAfter s (calls ++ [call]) metricName =
      if metricName = call.metricName then nextSeries s call (seriesAfter s calls call.metricName)
      else seriesAfter s calls metricName := by
  unfold seriesAfter at hle ⊢
  rw [guardAfter_concat, record_eq hle]
  show (Function.update (guardAfter s calls) call.metricName (some (nextSeries s call
    ((guardAfter s calls call.metricName).getD []))) metricName).getD [] = _
  by_cases heq : metricName = call.metricName
  · rw [if_pos heq, heq, Function.update_self]
    rfl
  · rw [if_neg heq, Function.update_of_ne heq]

/-- **The guard after any calls.** Induction on the calls. -/
theorem tracks_guardAfter (s : Settings) (calls : List Call) (metricName : String) :
    Tracks s calls metricName (seriesAfter s calls metricName) := by
  induction calls using List.reverseRecOn generalizing metricName with
  | nil =>
    exact ⟨List.nodup_nil, Nat.zero_le _, fun _ h => absurd h List.not_mem_nil,
      fun _ h => absurd h List.not_mem_nil,
      fun _ _ h => absurd (mem_labelsOf.mp h) List.not_mem_nil⟩
  | append_singleton calls call ih =>
    rw [seriesAfter_concat_of_le (ih call.metricName).bounded]
    by_cases heq : metricName = call.metricName
    · rw [if_pos heq, heq]
      unfold nextSeries
      split
      · rename_i hroom
        exact (ih call.metricName).increment hroom
      · rename_i hno
        rw [not_or] at hno
        exact (ih call.metricName).dropped hno.1 hno.2
    · rw [if_neg heq]
      exact (ih metricName).other heq

theorem seriesAfter_concat (metricName : String) :
    seriesAfter s (calls ++ [call]) metricName =
      if metricName = call.metricName then nextSeries s call (seriesAfter s calls call.metricName)
      else seriesAfter s calls metricName :=
  seriesAfter_concat_of_le (tracks_guardAfter s calls call.metricName).bounded metricName

theorem recorded_iff :
    (record s call (guardAfter s calls)).1 = true ↔
      Tracked s calls call ∨ (seriesAfter s calls call.metricName).length < s.budget := by
  rw [record_eq (tracks_guardAfter s calls call.metricName).bounded]
  exact decide_eq_true_iff

/-! ## Runs that fit the budget -/

theorem labelsOf_mono {calls' : List Call} (h : calls <+: calls') (metricName : String) :
    labelsOf calls metricName ⊆ labelsOf calls' metricName := by
  intro labelsKey hmem
  exact mem_labelsOf.mpr (h.subset (mem_labelsOf.mp hmem))

theorem toFinset_keys_subset (h : Tracks s calls metricName series) :
    (keys series).toFinset ⊆ labelsOf calls metricName := by
  intro labelsKey hmem
  exact h.recorded labelsKey (List.mem_toFinset.mp hmem)

theorem Tracks.card (h : Tracks s calls metricName series) :
    (keys series).toFinset.card = series.length := by
  rw [List.toFinset_card_of_nodup h.nodup, length_keys]

theorem Tracks.complete_of_fits (h : Tracks s calls metricName series)
    (hfits : (labelsOf calls metricName).card ≤ s.budget) :
    ∀ labelsKey ∈ labelsOf calls metricName, labelsKey ∈ keys series := by
  obtain hlt | hfull := Nat.lt_or_ge series.length s.budget
  · exact h.complete hlt
  · have heq : (keys series).toFinset = labelsOf calls metricName := by
      refine Finset.eq_of_subset_of_card_le (toFinset_keys_subset h) ?_
      rw [h.card]
      exact hfits.trans hfull
    intro labelsKey hmem
    rw [← heq, List.mem_toFinset] at hmem
    exact hmem

theorem tracked_of_fits (hfits : ∀ metricName, (labelsOf calls metricName).card ≤ s.budget)
    (hcall : call ∈ calls) : Tracked s calls call :=
  (tracks_guardAfter s calls call.metricName).complete_of_fits (hfits call.metricName) _
    (mem_labelsOf.mpr hcall)

theorem room_of_fits (hfits : (labelsOf (calls ++ [call]) call.metricName).card ≤ s.budget) :
    Tracked s calls call ∨ (seriesAfter s calls call.metricName).length < s.budget := by
  have h := tracks_guardAfter s calls call.metricName
  by_contra hno
  rw [not_or, Nat.not_lt] at hno
  -- the series tracked and the new one are more than the budget
  have hsubset : insert call.labelsKey (keys (seriesAfter s calls call.metricName)).toFinset ⊆
      labelsOf (calls ++ [call]) call.metricName := by
    refine Finset.insert_subset ?_ ?_
    · exact mem_labelsOf.mpr (List.mem_append_right _ (List.mem_singleton_self _))
    · exact (toFinset_keys_subset h).trans (labelsOf_mono (List.prefix_append _ _) _)
  have hcard := Finset.card_le_card hsubset
  rw [Finset.card_insert_of_notMem fun hmem => hno.1 (List.mem_toFinset.mp hmem), h.card] at hcard
  omega

theorem recordsSinceAdmission_of_fits
    (hfits : ∀ metricName, (labelsOf calls metricName).card ≤ s.budget)
    (htracked : Tracked s calls call) :
    RecordsSinceAdmission s calls call
      (count call.labelsKey (seriesAfter s calls call.metricName)) := by
  have h := tracks_guardAfter s calls call.metricName
  obtain ⟨before, rest, hcalls, hfirst⟩ :=
    List.eq_append_cons_of_mem (mem_labelsOf.mp (h.recorded _ htracked))
  refine ⟨before, call :: rest, hcalls, ?_, ?_, ?_⟩
  · intro hmem
    exact hfirst (mem_labelsOf.mp
      ((tracks_guardAfter s before call.metricName).recorded _ hmem))
  · intro part hpart hne
    have hinitial : before ++ part <+: calls := by
      rw [hcalls]
      exact (List.prefix_append_right_inj before).mpr hpart
    have hmem : call ∈ part := by
      cases part with
      | nil => exact absurd rfl hne
      | cons c part => rw [(List.cons_prefix_cons.mp hpart).1]; exact List.mem_cons_self
    refine tracked_of_fits ?_ (List.mem_append_right before hmem)
    intro metricName
    exact (Finset.card_le_card (labelsOf_mono hinitial metricName)).trans (hfits metricName)
  · have hnone : before.count call = 0 := List.count_eq_zero_of_not_mem hfirst
    rw [h.counts _ htracked, ← Nat.zero_add (List.count _ (call :: rest)), ← hnone,
      ← List.count_append, ← hcalls]

theorem keepsBudget_of_fits
    (hfits : ∀ metricName, (labelsOf (calls ++ [call]) metricName).card ≤ s.budget) :
    KeepsBudget s calls call where
  bounded metricName := (tracks_guardAfter s _ metricName).bounded
  counted _ htracked := recordsSinceAdmission_of_fits hfits htracked
  admitted hnew hfull :=
    absurd hfull (Nat.not_le.mpr ((room_of_fits (hfits call.metricName)).resolve_left hnew))
  recorded := recorded_iff.mpr (room_of_fits (hfits call.metricName))

/-! ## Runs without a dropped series -/

theorem MeetsBudget.of_prefix {calls' : List Call} (h : MeetsBudget s calls')
    (hinitial : calls <+: calls') : MeetsBudget s calls :=
  fun before call hcall => h before call (hcall.trans hinitial)

theorem tracked_concat (hroom : Tracked s calls call ∨
    (seriesAfter s calls call.metricName).length < s.budget) {other : Call}
    (hother : Tracked s calls other ∨ other = call) : Tracked s (calls ++ [call]) other := by
  unfold Tracked at hother hroom ⊢
  rw [seriesAfter_concat]
  by_cases heq : other.metricName = call.metricName
  · rw [if_pos heq, nextSeries, if_pos hroom, mem_keys_increment]
    refine hother.imp ?_ ?_
    · rw [heq]
      exact id
    · exact congrArg Call.labelsKey
  · rw [if_neg heq]
    exact hother.resolve_right fun h => heq (by rw [h])

/-- If no call is dropped, whatever has been recorded is tracked. Induction on the calls. -/
theorem tracked_of_meetsBudget (h : MeetsBudget s calls) : ∀ c ∈ calls, Tracked s calls c := by
  induction calls using List.reverseRecOn with
  | nil =>
    intro c hc
    cases hc
  | append_singleton calls call ih =>
    intro c hc
    refine tracked_concat (recorded_iff.mp (h calls call List.prefix_rfl).recorded) ?_
    rw [List.mem_append, List.mem_singleton] at hc
    exact hc.imp_left (ih (h.of_prefix (List.prefix_append _ _)) c)

/-- **The budget with eviction**, over any calls: it is kept exactly if no metric has more series
than its budget, so that there is nothing to evict. -/
theorem cardinality_budget_iff (s : Settings) (calls : List Call) :
    MeetsBudget s calls ↔ ∀ metricName, (labelsOf calls metricName).card ≤ s.budget := by
  constructor
  · intro h metricName
    have htracks := tracks_guardAfter s calls metricName
    have hsubset : labelsOf calls metricName ⊆
        (keys (seriesAfter s calls metricName)).toFinset := by
      intro labelsKey hmem
      exact List.mem_toFinset.mpr (tracked_of_meetsBudget h _ (mem_labelsOf.mp hmem))
    exact (Finset.card_le_card hsubset).trans (htracks.card.trans_le htracks.bounded)
  · intro hfits before call hinitial
    refine keepsBudget_of_fits ?_
    intro metricName
    exact (Finset.card_le_card (labelsOf_mono hinitial metricName)).trans (hfits metricName)

end Runs

/-! ### A budget of one series -/

def oneSeries : Settings where
  budget := 1
  evictBatchSize := 1

/-- **The second series** of a metric is dropped, and nothing is evicted for it. -/
theorem second_series_is_dropped :
    (record oneSeries ⟨"requests", "path=/b"⟩
        (guardAfter oneSeries [⟨"requests", "path=/a"⟩])).1 = false ∧
      ¬ MeetsBudget oneSeries [⟨"requests", "path=/a"⟩, ⟨"requests", "path=/b"⟩] := by
  constructor
  · decide
  · intro h
    have hrecorded := (h [⟨"requests", "path=/a"⟩] ⟨"requests", "path=/b"⟩ List.prefix_rfl).recorded
    revert hrecorded
    decide

end CardinalityGuard

end NocIq
