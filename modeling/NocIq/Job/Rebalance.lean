import NocIq.Isoformat
import NocIq.Lib.ChangeTracking
import NocIq.Lib.Rounding
import NocIq.Lib.Transfers

/-!
# NocIq — rebalancing the queues

`QueueAnalyzer` of `app/tasks/queue_analyzer.py`: a partition whose depth exceeds a multiple of the
average is a hotspot, and for each hotspot a move to the emptiest partition is suggested.

Every suggestion is computed from the depths as they are, so all of them go to one partition.

* **`suggestRebalance_ok_iff`** — what is suggested.
* **`rebalance_harmless_iff`** — when the suggestions, taken together, harm nothing.
-/

namespace NocIq

open ChangeTracking (setItem setItem_new)
open Rounding (roundTo)
open Transfers

namespace QueueAnalyzer

/-! ## Floats -/

/-- Python's floats: a number is rounded to the nearest one, unless it is too large. -/
structure Doubles where
  round : ℚ → ℚ
  limit : ℚ
  monotone : Monotone round
  round_zero : round 0 = 0
  round_one : round 1 = 1
  str : ℚ → String
  /-- `f"{x:.0f}"` -/
  fixed0 : ℚ → String

inductive RebalanceFault where
  | overflowError
  /-- `min(…)` of nothing -/
  | valueError
  deriving DecidableEq, Repr

/-- The quotient of two integers, or an integer as a float. -/
def Doubles.ofRat (dbl : Doubles) (q : ℚ) : Except RebalanceFault ℚ :=
  if |q| < dbl.limit then .ok (dbl.round q) else .error .overflowError

/-! ## Data -/

structure PartitionDepth where
  partition : String
  depth : Int
  deriving DecidableEq, Repr

structure Hotspot where
  partition : String
  depth : Int
  avgDepth : ℚ
  ratio : ℚ
  deriving DecidableEq, Repr

structure RebalanceSuggestion where
  source : String
  target : String
  moveCount : Int
  reason : String
  deriving DecidableEq, Repr

structure AnalysisResult where
  timestamp : String
  partitions : List PartitionDepth
  totalDepth : Int
  avgDepth : ℚ
  hotspots : List Hotspot
  suggestions : List RebalanceSuggestion
  deriving DecidableEq, Repr

/-! ## The analyzer -/

section Analyzer

variable (dbl : Doubles) (threshold : ℚ)

def totalDepth (depths : List PartitionDepth) : Int := (depths.map PartitionDepth.depth).sum

def averageDepth (depths : List PartitionDepth) : Except RebalanceFault ℚ :=
  if depths = [] then .ok 0 else dbl.ofRat (totalDepth depths / depths.length)

/-- `d.depth / avg if avg > 0 else 0.0`. The quotient of the two floats is not too large: it is at
most about the number of partitions. -/
def depthRatio (avg : ℚ) (depth : Int) : Except RebalanceFault ℚ :=
  if 0 < avg then (dbl.ofRat depth).map fun d => dbl.round (d / avg) else .ok 0

/-- The loop of `get_hotspots`. -/
def hotspotsAbove (avg : ℚ) : List PartitionDepth → Except RebalanceFault (List Hotspot)
  | [] => .ok []
  | d :: depths => do
    let ratio ← depthRatio dbl avg d.depth
    let rest ← hotspotsAbove avg depths
    if threshold < ratio then
      return ⟨d.partition, d.depth, avg, dbl.round (roundTo 2 ratio)⟩ :: rest
    else return rest

def getHotspots (depths : List PartitionDepth) (avg : Option ℚ) :
    Except RebalanceFault (List Hotspot) := do
  let avg ← match avg with
    | some avg => .ok avg
    | none => averageDepth dbl depths
  hotspotsAbove dbl threshold avg depths

/-- `int(x)`: towards zero. -/
def truncate (x : ℚ) : Int := if 0 ≤ x then ⌊x⌋ else ⌈x⌉

def depthMap (depths : List PartitionDepth) : List (String × Int) :=
  depths.foldl (fun m d => setItem d.partition d.depth m) []

/-- `min(items, key=key)`: the first of the least. -/
def leastBy {α β : Type} [LinearOrder β] (key : α → β) (items : List α) : Option α :=
  items.argmin key

/-- `max(0, (depth - int(avg)) // 2)`. -/
def moveCount (avg : ℚ) (depth : Int) : Int := max 0 ((depth - truncate avg) / 2)

def suggestionFor (avg : ℚ) (target : String) (hs : Hotspot) : RebalanceSuggestion where
  source := hs.partition
  target := target
  moveCount := moveCount avg hs.depth
  reason := "Partition '" ++ hs.partition ++ "' depth (" ++ toString hs.depth ++ ") is " ++
    dbl.str hs.ratio ++ "× the average (" ++ dbl.fixed0 avg ++ "). Consider moving ~" ++
    toString (moveCount avg hs.depth) ++ " tasks to '" ++ target ++ "'."

/-- `min(depth_map, key=depth_map.get)`, the first of the emptiest, is looked for once for every
hotspot. -/
def suggestRebalance (depths : List PartitionDepth) (hotspots : Option (List Hotspot)) :
    Except RebalanceFault (List RebalanceSuggestion) := do
  let hotspots ← match hotspots with
    | some hotspots => .ok hotspots
    | none => getHotspots dbl threshold depths none
  let avg ← averageDepth dbl depths
  hotspots.mapM fun hs =>
    match leastBy Prod.snd (depthMap depths) with
    | some entry => .ok (suggestionFor dbl avg entry.1 hs)
    | none => .error .valueError

/-- `analyze`, of the depths that the broker has reported. -/
def analyze (now : Time) (depths : List PartitionDepth) : Except RebalanceFault AnalysisResult := do
  let avg ← averageDepth dbl depths
  let hotspots ← getHotspots dbl threshold depths (some avg)
  let suggestions ← suggestRebalance dbl threshold depths (some hotspots)
  return ⟨(Datetime.now now).isoformat, depths, totalDepth depths, avg, hotspots, suggestions⟩

/-! ## Harm -/

def RebalanceSuggestion.transfer (s : RebalanceSuggestion) : Transfer String :=
  ⟨s.source, s.target, s.moveCount⟩

/-- All suggestions applied together. -/
def rebalanced (suggestions : List RebalanceSuggestion) (depths : List PartitionDepth) :
    List PartitionDepth :=
  depths.map fun d =>
    { d with
      depth := balanceAfter (suggestions.map RebalanceSuggestion.transfer) d.partition d.depth }

/-- The total is kept, no depth negative, none above the largest before, and no hotspot new. -/
structure Harmless (depths after : List PartitionDepth) : Prop where
  total : totalDepth after = totalDepth depths
  nonneg : ∀ d ∈ after, 0 ≤ d.depth
  maximal : ∀ d ∈ after, ∃ d' ∈ depths, d.depth ≤ d'.depth
  hotspots : ∃ before now, getHotspots dbl threshold depths none = .ok before ∧
    getHotspots dbl threshold after none = .ok now ∧
      ∀ hs ∈ now, hs.partition ∈ before.map Hotspot.partition

/-! ## What the floats make of a depth -/

def average (depths : List PartitionDepth) : ℚ :=
  if depths = [] then 0 else dbl.round (totalDepth depths / depths.length)

def ratioOf (avg : ℚ) (depth : Int) : ℚ :=
  if 0 < avg then dbl.round (dbl.round depth / avg) else 0

/-- A hotspot has such a depth. -/
def Hot (depths : List PartitionDepth) (depth : Int) : Prop :=
  threshold < ratioOf dbl (average dbl depths) depth

instance (depths : List PartitionDepth) (depth : Int) :
    Decidable (Hot dbl threshold depths depth) :=
  inferInstanceAs (Decidable (_ < _))

/-- The average and the depths are not too large for a float. -/
structure FloatDepths (depths : List PartitionDepth) : Prop where
  average : depths ≠ [] → |(totalDepth depths / depths.length : ℚ)| < dbl.limit
  depth : 0 < QueueAnalyzer.average dbl depths → ∀ d ∈ depths, |(d.depth : ℚ)| < dbl.limit

/-- What is moved from all hotspots. -/
def excess (depths : List PartitionDepth) : Int :=
  ((depths.filter fun d => Hot dbl threshold depths d.depth).map fun d =>
    max 0 ((d.depth - ⌊average dbl depths⌋) / 2)).sum

/-- The emptiest partition, if there is a hotspot, does not become one with what all hotspots give
away. -/
structure Rebalanceable (depths : List PartitionDepth) : Prop where
  floats : FloatDepths dbl depths
  room : (∃ d ∈ depths, Hot dbl threshold depths d.depth) →
    ∀ m ∈ depths, (∀ d ∈ depths, m.depth ≤ d.depth) →
      ¬ Hot dbl threshold depths (m.depth + excess dbl threshold depths)

variable {dbl threshold} {depths : List PartitionDepth}

theorem average_nonneg (hnonneg : ∀ d ∈ depths, 0 ≤ d.depth) : 0 ≤ average dbl depths := by
  unfold average
  split
  · exact le_refl 0
  · rw [← dbl.round_zero]
    apply dbl.monotone
    have htotal : 0 ≤ totalDepth depths := List.sum_nonneg (by simpa [totalDepth] using hnonneg)
    have htotal' : (0 : ℚ) ≤ totalDepth depths := by exact_mod_cast htotal
    positivity

theorem ratioOf_mono (avg : ℚ) {a b : Int} (hab : a ≤ b) :
    ratioOf dbl avg a ≤ ratioOf dbl avg b := by
  unfold ratioOf
  split
  next hpos =>
    apply dbl.monotone
    have hround : dbl.round a ≤ dbl.round b := dbl.monotone (by exact_mod_cast hab)
    exact div_le_div_of_nonneg_right hround hpos.le
  next => exact le_refl 0

theorem Hot.mono {a b : Int} (ha : Hot dbl threshold depths a) (hab : a ≤ b) :
    Hot dbl threshold depths b :=
  lt_of_lt_of_le ha (ratioOf_mono _ hab)

/-- **A hotspot** is deeper than the average. -/
theorem Hot.lt (hthreshold : 1 ≤ threshold) {a : Int} (ha : Hot dbl threshold depths a) :
    (totalDepth depths / depths.length : ℚ) < a := by
  unfold Hot ratioOf at ha
  split at ha
  next hpos =>
    by_contra hle
    have hne : depths ≠ [] := by
      intro hnil
      rw [average, if_pos hnil] at hpos
      exact lt_irrefl 0 hpos
    -- rounding keeps the order, so a depth up to the average has a ratio up to 1
    have hround : dbl.round a ≤ average dbl depths := by
      rw [average, if_neg hne]
      exact dbl.monotone (not_lt.mp hle)
    have hratio : dbl.round (dbl.round a / average dbl depths) ≤ 1 := by
      rw [← dbl.round_one]
      apply dbl.monotone
      rw [div_le_one hpos]
      exact hround
    exact absurd (lt_of_lt_of_le ha hratio) (not_lt.mpr hthreshold)
  next => exact absurd ha (not_lt.mpr (le_trans zero_le_one hthreshold))

theorem le_average {m : PartitionDepth} (hm : m ∈ depths) (hmin : ∀ d ∈ depths, m.depth ≤ d.depth) :
    (m.depth : ℚ) ≤ totalDepth depths / depths.length := by
  have hlength : 0 < depths.length := List.length_pos_of_mem hm
  have hsum : depths.length * m.depth ≤ totalDepth depths := by
    have hcard := List.card_nsmul_le_sum (depths.map PartitionDepth.depth) m.depth
      (List.forall_mem_map.mpr hmin)
    rw [List.length_map, nsmul_eq_mul] at hcard
    exact hcard
  rw [le_div_iff₀ (by exact_mod_cast hlength), mul_comm]
  exact_mod_cast hsum

theorem not_hot_of_minimal (hthreshold : 1 ≤ threshold) {m : PartitionDepth} (hm : m ∈ depths)
    (hmin : ∀ d ∈ depths, m.depth ≤ d.depth) : ¬ Hot dbl threshold depths m.depth := by
  intro hhot
  exact absurd (hhot.lt hthreshold) (not_lt.mpr (le_average hm hmin))

/-! ## What is found and suggested -/

theorem averageDepth_ok_iff {avg : ℚ} :
    averageDepth dbl depths = .ok avg ↔
      (depths ≠ [] → |(totalDepth depths / depths.length : ℚ)| < dbl.limit) ∧
        avg = average dbl depths := by
  unfold averageDepth average Doubles.ofRat
  by_cases hnil : depths = []
  · simp [hnil, eq_comm]
  · by_cases hfits : |(totalDepth depths / depths.length : ℚ)| < dbl.limit
    · simp [hnil, hfits, eq_comm]
    · simp [hnil, hfits]

theorem depthRatio_ok_iff {avg ratio : ℚ} {depth : Int} :
    depthRatio dbl avg depth = .ok ratio ↔
      (0 < avg → |(depth : ℚ)| < dbl.limit) ∧ ratio = ratioOf dbl avg depth := by
  unfold depthRatio ratioOf Doubles.ofRat
  by_cases hpos : 0 < avg
  · by_cases hfits : |(depth : ℚ)| < dbl.limit
    · simp [hpos, hfits, Except.map, eq_comm]
    · simp [hpos, hfits, Except.map]
  · simp [hpos, eq_comm]

def hotspotOf (dbl : Doubles) (avg : ℚ) (d : PartitionDepth) : Hotspot :=
  ⟨d.partition, d.depth, avg, dbl.round (roundTo 2 (ratioOf dbl avg d.depth))⟩

/-- The loop. Induction on the partitions. -/
theorem hotspotsAbove_ok_iff {avg : ℚ} {hotspots : List Hotspot} :
    hotspotsAbove dbl threshold avg depths = .ok hotspots ↔
      (0 < avg → ∀ d ∈ depths, |(d.depth : ℚ)| < dbl.limit) ∧
        hotspots = (depths.filter fun d => threshold < ratioOf dbl avg d.depth).map
          (hotspotOf dbl avg) := by
  induction depths generalizing hotspots with
  | nil => simp [hotspotsAbove, eq_comm]
  | cons d depths ih =>
    unfold hotspotsAbove
    simp only [except_bind_ok_iff, depthRatio_ok_iff, ih, List.forall_mem_cons]
    constructor
    · intro hrun
      obtain ⟨ratio, ⟨hfits, rfl⟩, rest, ⟨hall, rfl⟩, hok⟩ := hrun
      refine ⟨fun hpos => ⟨hfits hpos, hall hpos⟩, ?_⟩
      by_cases hhot : threshold < ratioOf dbl avg d.depth
      · rw [if_pos hhot] at hok
        rw [List.filter_cons_of_pos (by simpa using hhot)]
        exact (Except.ok.inj hok).symm
      · rw [if_neg hhot] at hok
        rw [List.filter_cons_of_neg (by simpa using hhot)]
        exact (Except.ok.inj hok).symm
    · intro hboth
      obtain ⟨hfits, rfl⟩ := hboth
      refine ⟨_, ⟨fun hpos => (hfits hpos).1, rfl⟩, _, ⟨fun hpos => (hfits hpos).2, rfl⟩, ?_⟩
      by_cases hhot : threshold < ratioOf dbl avg d.depth
      · rw [if_pos hhot, List.filter_cons_of_pos (by simpa using hhot)]
        rfl
      · rw [if_neg hhot, List.filter_cons_of_neg (by simpa using hhot)]
        rfl

theorem getHotspots_ok_iff {hotspots : List Hotspot} :
    getHotspots dbl threshold depths none = .ok hotspots ↔ FloatDepths dbl depths ∧
      hotspots = (depths.filter fun d => Hot dbl threshold depths d.depth).map
        (hotspotOf dbl (average dbl depths)) := by
  show (averageDepth dbl depths >>= fun avg => hotspotsAbove dbl threshold avg depths) = _ ↔ _
  simp only [except_bind_ok_iff, averageDepth_ok_iff, hotspotsAbove_ok_iff]
  constructor
  · intro hrun
    obtain ⟨_, ⟨havg, rfl⟩, hfits, rfl⟩ := hrun
    exact ⟨⟨havg, hfits⟩, rfl⟩
  · intro hboth
    obtain ⟨hfloats, rfl⟩ := hboth
    exact ⟨_, ⟨hfloats.average, rfl⟩, hfloats.depth, rfl⟩

theorem depthMap_eq (hnodup : (depths.map PartitionDepth.partition).Nodup) :
    depthMap depths = depths.map fun d => (d.partition, d.depth) := by
  unfold depthMap
  induction depths using List.reverseRecOn with
  | nil => rfl
  | append_singleton depths d ih =>
    rw [List.map_append, List.nodup_append] at hnodup
    have hnew : d.partition ∉ (depths.map fun d => (d.partition, d.depth)).map Prod.fst := by
      rw [List.map_map]
      intro hmem
      exact hnodup.2.2 _ hmem _ (List.mem_singleton_self _) rfl
    rw [List.foldl_append, ih hnodup.1, List.map_append]
    exact setItem_new d.depth hnew

theorem leastBy_depthMap (hnodup : (depths.map PartitionDepth.partition).Nodup)
    (hne : depths ≠ []) :
    ∃ m ∈ depths, (∀ d ∈ depths, m.depth ≤ d.depth) ∧
      leastBy Prod.snd (depthMap depths) = some (m.partition, m.depth) := by
  rw [depthMap_eq hnodup]
  unfold leastBy
  cases hargmin : (depths.map fun d => (d.partition, d.depth)).argmin Prod.snd with
  | none => exact absurd (List.map_eq_nil_iff.mp (List.argmin_eq_none.mp hargmin)) hne
  | some e =>
    obtain ⟨m, hm, rfl⟩ := List.mem_map.mp (List.argmin_mem hargmin)
    refine ⟨m, hm, ?_, rfl⟩
    intro d hd
    have hmem : (d.partition, d.depth) ∈ depths.map fun d => (d.partition, d.depth) :=
      List.mem_map.mpr ⟨d, hd, rfl⟩
    exact List.le_of_mem_argmin (f := Prod.snd) hmem hargmin

theorem mapM_ok {α β : Type} {f : α → Except RebalanceFault β} {g : α → β} {l : List α}
    (h : ∀ a ∈ l, f a = .ok (g a)) : l.mapM f = .ok (l.map g) := by
  induction l with
  | nil => rfl
  | cons a l ih =>
    rw [List.forall_mem_cons] at h
    rw [List.mapM_cons, h.1, ih h.2]
    rfl

/-- **What is suggested**: from every hotspot to the emptiest partition. -/
theorem suggestRebalance_ok_iff {m : PartitionDepth}
    (hleast : leastBy Prod.snd (depthMap depths) = some (m.partition, m.depth))
    {suggestions : List RebalanceSuggestion} :
    suggestRebalance dbl threshold depths none = .ok suggestions ↔ FloatDepths dbl depths ∧
      suggestions = (depths.filter fun d => Hot dbl threshold depths d.depth).map fun d =>
        suggestionFor dbl (average dbl depths) m.partition
          (hotspotOf dbl (average dbl depths) d) := by
  show (getHotspots dbl threshold depths none >>= fun hotspots =>
    averageDepth dbl depths >>= fun avg => _) = _ ↔ _
  simp only [except_bind_ok_iff, getHotspots_ok_iff, averageDepth_ok_iff]
  rw [hleast]
  constructor
  · intro hrun
    obtain ⟨_, ⟨hfloats, rfl⟩, _, ⟨-, rfl⟩, hok⟩ := hrun
    rw [mapM_ok fun hs _ => rfl, List.map_map] at hok
    exact ⟨hfloats, (Except.ok.inj hok).symm⟩
  · intro hboth
    obtain ⟨hfloats, rfl⟩ := hboth
    refine ⟨_, ⟨hfloats, rfl⟩, _, ⟨hfloats.average, rfl⟩, ?_⟩
    rw [mapM_ok fun hs _ => rfl, List.map_map]
    rfl

/-! ## What the moves do -/

section Moves

variable (dbl threshold depths) in
/-- The moves that are suggested, all of them to `target`. -/
def moves (target : String) : List (Transfer String) :=
  (depths.filter fun d => Hot dbl threshold depths d.depth).map fun d =>
    ⟨d.partition, target, moveCount (average dbl depths) d.depth⟩

variable (hnodup : (depths.map PartitionDepth.partition).Nodup)
  (hnonneg : ∀ d ∈ depths, 0 ≤ d.depth)

include hnodup in
theorem partition_unique {a b : PartitionDepth} (ha : a ∈ depths) (hb : b ∈ depths)
    (heq : a.partition = b.partition) : a = b :=
  List.inj_on_of_nodup_map hnodup ha hb heq

theorem mem_moves {target : String} {t : Transfer String}
    (ht : t ∈ moves dbl threshold depths target) :
    ∃ d ∈ depths, Hot dbl threshold depths d.depth ∧ t.source = d.partition ∧
      t.target = target := by
  obtain ⟨d, hd, rfl⟩ := List.mem_map.mp ht
  obtain ⟨hmem, hhot⟩ := List.mem_filter.mp hd
  exact ⟨d, hmem, of_decide_eq_true hhot, rfl, rfl⟩

include hnodup in
theorem sources_nodup (target : String) :
    ((moves dbl threshold depths target).map Transfer.source).Nodup := by
  unfold moves
  rw [List.map_map]
  exact (List.filter_sublist.map _).nodup hnodup

variable {d : PartitionDepth}

theorem sent_moves_cold (target : String) (hd : d ∈ depths)
    (hnodup : (depths.map PartitionDepth.partition).Nodup)
    (hcold : ¬ Hot dbl threshold depths d.depth) :
    sent (moves dbl threshold depths target) d.partition = 0 := by
  apply sent_eq_zero
  intro t ht heq
  obtain ⟨d', hd', hhot, hsource, -⟩ := mem_moves ht
  rw [partition_unique hnodup hd hd' (heq.symm.trans hsource)] at hcold
  exact hcold hhot

include hnodup in
theorem sent_moves_hot (target : String) (hd : d ∈ depths) (hhot : Hot dbl threshold depths d.depth)
    :
    sent (moves dbl threshold depths target) d.partition =
      moveCount (average dbl depths) d.depth := by
  have hmem : (⟨d.partition, target, moveCount (average dbl depths) d.depth⟩ : Transfer String) ∈
      moves dbl threshold depths target :=
    List.mem_map.mpr ⟨d, List.mem_filter.mpr ⟨hd, decide_eq_true hhot⟩, rfl⟩
  exact sent_of_mem (sources_nodup hnodup target) hmem

theorem received_moves_other {target name : String} (hne : name ≠ target) :
    received (moves dbl threshold depths target) name = 0 := by
  apply received_eq_zero
  intro t ht heq
  obtain ⟨_, _, _, _, htarget⟩ := mem_moves ht
  exact hne (heq.symm.trans htarget)

include hnonneg in
theorem moveCount_eq (depth : Int) :
    moveCount (average dbl depths) depth = max 0 ((depth - ⌊average dbl depths⌋) / 2) := by
  unfold moveCount truncate
  rw [if_pos (average_nonneg hnonneg)]

include hnonneg in
theorem received_moves_target (target : String) :
    received (moves dbl threshold depths target) target = excess dbl threshold depths := by
  rw [received_of_one_target fun t ht => by obtain ⟨_, _, _, _, h⟩ := mem_moves ht; exact h]
  unfold moves excess
  rw [List.map_map]
  congr 1
  apply List.map_congr_left
  intro d _
  exact moveCount_eq hnonneg d.depth

variable (dbl) in
include hnonneg in
theorem moveCount_le (hd : d ∈ depths) :
    0 ≤ moveCount (average dbl depths) d.depth ∧
      moveCount (average dbl depths) d.depth ≤ d.depth := by
  have hfloor : 0 ≤ ⌊average dbl depths⌋ := Int.floor_nonneg.mpr (average_nonneg hnonneg)
  have hdepth := hnonneg d hd
  rw [moveCount_eq hnonneg]
  omega

/-! ### Depths after the moves -/

section Settled

variable {m : PartitionDepth} (hm : m ∈ depths) (hcold : ¬ Hot dbl threshold depths m.depth)

include hnodup hm hcold

variable {d : PartitionDepth}

theorem balanceAfter_hot (hd : d ∈ depths) (hhot : Hot dbl threshold depths d.depth) :
    balanceAfter (moves dbl threshold depths m.partition) d.partition d.depth =
      d.depth - moveCount (average dbl depths) d.depth := by
  -- the target is no hotspot, so a hotspot receives nothing
  have hne : d.partition ≠ m.partition := by
    intro heq
    rw [partition_unique hnodup hd hm heq] at hhot
    exact hcold hhot
  unfold balanceAfter
  rw [sent_moves_hot hnodup _ hd hhot, received_moves_other hne]
  omega

include hnonneg in
theorem balanceAfter_emptiest :
    balanceAfter (moves dbl threshold depths m.partition) m.partition m.depth =
      m.depth + excess dbl threshold depths := by
  unfold balanceAfter
  rw [sent_moves_cold _ hm hnodup hcold, received_moves_target hnonneg]
  omega

omit hcold in
theorem balanceAfter_other (hd : d ∈ depths) (hne : d ≠ m)
    (hdcold : ¬ Hot dbl threshold depths d.depth) :
    balanceAfter (moves dbl threshold depths m.partition) d.partition d.depth = d.depth := by
  have hname : d.partition ≠ m.partition := fun heq => hne (partition_unique hnodup hd hm heq)
  unfold balanceAfter
  rw [sent_moves_cold _ hd hnodup hdcold, received_moves_other hname]
  omega

include hnonneg in
theorem balanceAfter_le (hd : d ∈ depths) (hne : d ≠ m) :
    0 ≤ balanceAfter (moves dbl threshold depths m.partition) d.partition d.depth ∧
      balanceAfter (moves dbl threshold depths m.partition) d.partition d.depth ≤ d.depth := by
  have hmove := moveCount_le dbl hnonneg hd
  have hdepth := hnonneg d hd
  by_cases hhot : Hot dbl threshold depths d.depth
  · rw [balanceAfter_hot hnodup hm hcold hd hhot]
    omega
  · rw [balanceAfter_other hnodup hm hd hne hhot]
    omega

end Settled

end Moves

variable (dbl threshold depths) in
/-- The partitions after all moves to `m`. -/
def moved (m : PartitionDepth) : List PartitionDepth :=
  depths.map fun d =>
    { d with depth := balanceAfter (moves dbl threshold depths m.partition) d.partition d.depth }

theorem rebalanced_eq {suggestions : List RebalanceSuggestion} {m : PartitionDepth}
    (h : suggestions.map RebalanceSuggestion.transfer = moves dbl threshold depths m.partition) :
    rebalanced suggestions depths = moved dbl threshold depths m := by
  unfold rebalanced moved
  rw [h]

theorem totalDepth_moved (hnodup : (depths.map PartitionDepth.partition).Nodup)
    {m : PartitionDepth} (hm : m ∈ depths) :
    totalDepth (moved dbl threshold depths m) = totalDepth depths := by
  unfold totalDepth moved
  rw [List.map_map]
  refine sum_balanceAfter hnodup ?_
  intro t ht
  obtain ⟨d, hd, -, hsource, htarget⟩ := mem_moves ht
  rw [hsource, htarget]
  exact ⟨List.mem_map_of_mem hd, List.mem_map_of_mem hm⟩

section Moved

variable (hnodup : (depths.map PartitionDepth.partition).Nodup)
  (hnonneg : ∀ d ∈ depths, 0 ≤ d.depth) {m : PartitionDepth} (hm : m ∈ depths)
  (hcold : ¬ Hot dbl threshold depths m.depth)

include hnodup hm in
theorem average_moved : average dbl (moved dbl threshold depths m) = average dbl depths := by
  unfold average
  rw [totalDepth_moved hnodup hm, moved, List.length_map]
  simp only [List.map_eq_nil_iff]

include hnodup hm in
theorem hot_moved {depth : Int} :
    Hot dbl threshold (moved dbl threshold depths m) depth ↔ Hot dbl threshold depths depth := by
  unfold Hot
  rw [average_moved hnodup hm]

theorem excess_nonneg : 0 ≤ excess dbl threshold depths := by
  unfold excess
  apply List.sum_nonneg
  simp only [List.mem_map]
  rintro _ ⟨d, -, rfl⟩
  exact le_max_left _ _

include hcold in
theorem emptiest_bound
    (hroom : (∃ d ∈ depths, Hot dbl threshold depths d.depth) →
      ¬ Hot dbl threshold depths (m.depth + excess dbl threshold depths)) (hm : m ∈ depths) :
    ¬ Hot dbl threshold depths (m.depth + excess dbl threshold depths) ∧
      ∃ d ∈ depths, m.depth + excess dbl threshold depths ≤ d.depth := by
  by_cases hexists : ∃ d ∈ depths, Hot dbl threshold depths d.depth
  · have hnot := hroom hexists
    obtain ⟨d, hd, hhot⟩ := hexists
    refine ⟨hnot, d, hd, ?_⟩
    -- deeper than a hotspot it would be one itself
    by_contra hlt
    exact hnot (hhot.mono (by omega))
  · have hzero : excess dbl threshold depths = 0 := by
      unfold excess
      rw [List.filter_eq_nil_iff.mpr fun d hd hhot =>
        hexists ⟨d, hd, of_decide_eq_true hhot⟩]
      rfl
    rw [hzero, add_zero]
    exact ⟨hcold, m, hm, le_refl _⟩

include hnodup hnonneg hm hcold in
/-- **No harm**, if the emptiest partition takes what all hotspots give away. -/
theorem harmless_of_room (hfloats : FloatDepths dbl depths)
    (hroom : (∃ d ∈ depths, Hot dbl threshold depths d.depth) →
      ¬ Hot dbl threshold depths (m.depth + excess dbl threshold depths)) :
    Harmless dbl threshold depths (moved dbl threshold depths m) := by
  obtain ⟨hnot, hbound⟩ := emptiest_bound hcold hroom hm
  -- a partition after the moves: the emptiest one, or another
  have hafter : ∀ d' ∈ moved dbl threshold depths m, 0 ≤ d'.depth ∧
      (∃ d ∈ depths, d'.depth ≤ d.depth) ∧ (Hot dbl threshold depths d'.depth →
        ∃ d ∈ depths, Hot dbl threshold depths d.depth ∧ d.partition = d'.partition) := by
    intro d' hd'
    obtain ⟨d, hd, rfl⟩ := List.mem_map.mp hd'
    dsimp only
    by_cases hdm : d = m
    · rw [hdm, balanceAfter_emptiest hnodup hnonneg hm hcold]
      have hexcess : 0 ≤ excess dbl threshold depths := excess_nonneg
      have hdepth := hnonneg m hm
      exact ⟨by omega, hbound, fun hhot => absurd hhot hnot⟩
    · obtain ⟨hpos, hle⟩ := balanceAfter_le hnodup hnonneg hm hcold hd hdm
      exact ⟨hpos, ⟨d, hd, hle⟩, fun hhot => ⟨d, hd, hhot.mono hle, rfl⟩⟩
  have hfits : FloatDepths dbl (moved dbl threshold depths m) := by
    constructor
    · intro hne
      rw [totalDepth_moved hnodup hm, moved, List.length_map]
      exact hfloats.average (List.ne_nil_of_mem hm)
    · intro hpos d' hd'
      rw [average_moved hnodup hm] at hpos
      obtain ⟨hzero, ⟨d, hd, hle⟩, -⟩ := hafter d' hd'
      have hlimit := hfloats.depth hpos d hd
      rw [abs_of_nonneg (by exact_mod_cast hnonneg d hd)] at hlimit
      rw [abs_of_nonneg (by exact_mod_cast hzero)]
      exact lt_of_le_of_lt (by exact_mod_cast hle) hlimit
  refine ⟨totalDepth_moved hnodup hm, fun d' hd' => (hafter d' hd').1,
    fun d' hd' => (hafter d' hd').2.1, _, _, getHotspots_ok_iff.mpr ⟨hfloats, rfl⟩,
    getHotspots_ok_iff.mpr ⟨hfits, rfl⟩, ?_⟩
  intro hs hmem
  obtain ⟨d', hd', rfl⟩ := List.mem_map.mp hmem
  obtain ⟨hmoved, hhot⟩ := List.mem_filter.mp hd'
  obtain ⟨d, hd, hdhot, hname⟩ :=
    (hafter d' hmoved).2.2 ((hot_moved hnodup hm).mp (of_decide_eq_true hhot))
  rw [List.map_map]
  exact List.mem_map.mpr ⟨d, List.mem_filter.mpr ⟨hd, decide_eq_true hdhot⟩, hname⟩

include hnodup hnonneg hm hcold in
theorem room_of_harmless
    (h : Harmless dbl threshold depths (moved dbl threshold depths m)) :
    ¬ Hot dbl threshold depths (m.depth + excess dbl threshold depths) := by
  intro hhot
  obtain ⟨before, now, hbefore, hnow, hnames⟩ := h.hotspots
  obtain ⟨-, rfl⟩ := getHotspots_ok_iff.mp hbefore
  obtain ⟨-, rfl⟩ := getHotspots_ok_iff.mp hnow
  have hmem : ({ m with depth := m.depth + excess dbl threshold depths } : PartitionDepth) ∈
      moved dbl threshold depths m := by
    refine List.mem_map.mpr ⟨m, hm, ?_⟩
    rw [balanceAfter_emptiest hnodup hnonneg hm hcold]
  have hname := hnames _ (List.mem_map_of_mem
    (List.mem_filter.mpr ⟨hmem, decide_eq_true ((hot_moved hnodup hm).mpr hhot)⟩))
  obtain ⟨hs, hhs, heq⟩ := List.mem_map.mp hname
  obtain ⟨d, hd, rfl⟩ := List.mem_map.mp hhs
  obtain ⟨hdmem, hdhot⟩ := List.mem_filter.mp hd
  -- the hotspot of this name would be the emptiest partition
  rw [partition_unique hnodup hdmem hm heq] at hdhot
  exact hcold (of_decide_eq_true hdhot)

end Moved

/-- **Every list of partitions.** Suggestions are made and harm nothing exactly if the depths are
not too large for a float and the emptiest partition does not become a hotspot. -/
theorem rebalance_harmless_iff (dbl : Doubles) {threshold : ℚ} (hthreshold : 1 ≤ threshold)
    {depths : List PartitionDepth} (hnodup : (depths.map PartitionDepth.partition).Nodup)
    (hnonneg : ∀ d ∈ depths, 0 ≤ d.depth) :
    (∃ suggestions, suggestRebalance dbl threshold depths none = .ok suggestions ∧
        Harmless dbl threshold depths (rebalanced suggestions depths)) ↔
      Rebalanceable dbl threshold depths := by
  by_cases hnil : depths = []
  · subst hnil
    constructor
    · intro _
      exact ⟨⟨fun h => absurd rfl h, fun _ d hd => absurd hd List.not_mem_nil⟩,
        fun _ m hm => absurd hm List.not_mem_nil⟩
    · intro _
      refine ⟨[], rfl, rfl, fun d hd => absurd hd List.not_mem_nil,
        fun d hd => absurd hd List.not_mem_nil, [], [], rfl, rfl, fun hs hmem =>
          absurd hmem List.not_mem_nil⟩
  · obtain ⟨m, hm, hmin, hleast⟩ := leastBy_depthMap hnodup hnil
    have hcold : ¬ Hot dbl threshold depths m.depth := not_hot_of_minimal hthreshold hm hmin
    have hmoved : rebalanced ((depths.filter fun d => Hot dbl threshold depths d.depth).map fun d =>
        suggestionFor dbl (average dbl depths) m.partition
          (hotspotOf dbl (average dbl depths) d)) depths = moved dbl threshold depths m := by
      refine rebalanced_eq ?_
      rw [List.map_map]
      rfl
    constructor
    · intro hsuggested
      obtain ⟨_, hsuggested, hharmless⟩ := hsuggested
      obtain ⟨hfloats, rfl⟩ := (suggestRebalance_ok_iff hleast).mp hsuggested
      rw [hmoved] at hharmless
      refine ⟨hfloats, ?_⟩
      -- all emptiest partitions have one depth
      intro _ m' hm' hmin'
      rw [le_antisymm (hmin' m hm) (hmin m' hm')]
      exact room_of_harmless hnodup hnonneg hm hcold hharmless
    · intro hroom
      refine ⟨_, (suggestRebalance_ok_iff hleast).mpr ⟨hroom.floats, rfl⟩, ?_⟩
      rw [hmoved]
      exact harmless_of_room hnodup hnonneg hm hcold hroom.floats
        fun hexists => hroom.room hexists m hm hmin

end Analyzer

/-! ## Three hotspots -/

/-- The floats, as far as they are exact, and the texts of whole ones. -/
def exactDoubles : Doubles where
  round := id
  limit := 2 ^ 1024 - 2 ^ 970
  monotone := monotone_id
  round_zero := rfl
  round_one := rfl
  str q := toString ⌊q⌋ ++ ".0"
  fixed0 q := toString ⌊q⌋

def defaultPartitions : List PartitionDepth :=
  [⟨"default", 0⟩, ⟨"sla", 16⟩, ⟨"webhooks", 0⟩, ⟨"analytics", 0⟩]

/-- One hotspot gives six of sixteen. -/
theorem one_hotspot_is_harmless :
    ∃ suggestions, suggestRebalance exactDoubles 2 defaultPartitions none = .ok suggestions ∧
      Harmless exactDoubles 2 defaultPartitions (rebalanced suggestions defaultPartitions) := by
  have hroom : ∀ m ∈ defaultPartitions, (∀ d ∈ defaultPartitions, m.depth ≤ d.depth) →
      ¬ Hot exactDoubles 2 defaultPartitions
        (m.depth + excess exactDoubles 2 defaultPartitions) := by decide +kernel
  exact (rebalance_harmless_iff exactDoubles (by norm_num) (by decide) (by decide)).mpr
    ⟨⟨fun _ => by decide +kernel, fun _ => by decide +kernel⟩, fun _ => hroom⟩

/-- Three of twelve partitions hold sixteen tasks each. -/
def shards : List PartitionDepth :=
  (["a", "b", "c"].map fun name => ⟨name, 16⟩) ++
    ["d", "e", "f", "g", "h", "i", "j", "k", "l"].map fun name => ⟨name, 0⟩

/-- Six tasks of each of them are sent to the first of the others, which then holds eighteen. -/
theorem three_hotspots_overload_one :
    ¬ ∃ suggestions, suggestRebalance exactDoubles 2 shards none = .ok suggestions ∧
      Harmless exactDoubles 2 shards (rebalanced suggestions shards) := by
  intro hsuggested
  obtain ⟨suggestions, hsuggested, hharmless⟩ := hsuggested
  have hdeeper : (suggestRebalance exactDoubles 2 shards none).toOption.any (fun suggestions =>
      decide (∃ d ∈ rebalanced suggestions shards, ∀ d' ∈ shards, d'.depth < d.depth)) = true := by
    decide +kernel
  rw [hsuggested] at hdeeper
  obtain ⟨d, hd, hall⟩ := of_decide_eq_true hdeeper
  obtain ⟨d', hd', hle⟩ := hharmless.maximal d hd
  have hlt := hall d' hd'
  omega

end QueueAnalyzer

end NocIq
