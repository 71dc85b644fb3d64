import Mathlib.Data.List.Dedup
import NocIq.Lib.Relational

/-!
# NocIq — the migrations of the latest flag

`0011_sla_latest_uniqueness` creates a partial unique index on `sla_results`, and
`0012_sla_latest_backfill`, the revision after it, takes the flag from all but the last of the
flagged rows of an outage. Where there is something to repair, the index cannot be created.

* **`backfill_eq`** — the second migration alone repairs every table.
* **`repaired_latest`** — and what it leaves has one latest row for each outage.
* **`latest_migrations_iff`** — in revision order only a table without duplicates is migrated.
-/

namespace NocIq

namespace LatestFlag

open Relational

variable {ρ : Type}

/-! ## The table -/

/-- A row of `sla_results`, with its other columns. -/
structure SLAResultRow (ρ : Type) where
  id : Int
  outageId : String
  isLatest : Bool
  other : ρ
  deriving DecidableEq, Repr

/-- The key of `uq_sla_results_outage_latest`. -/
def SLAResultRow.latestKey (r : SLAResultRow ρ) : Option String :=
  if r.isLatest then some r.outageId else none

structure SLAResults (ρ : Type) where
  rows : List (SLAResultRow ρ)
  /-- There is the unique index. -/
  latestIndex : Bool
  ids_nodup : (rows.map (·.id)).Nodup
  latest_unique : latestIndex = true → (rows.filterMap SLAResultRow.latestKey).Nodup

inductive DbError where
  | duplicateTable (name : String)
  | uniqueViolation (name : String)
  deriving DecidableEq, Repr

/-! ## `0011_sla_latest_uniqueness` -/

def latestIndexName : String := "uq_sla_results_outage_latest"

/-- `CREATE UNIQUE INDEX … WHERE is_latest = true`. -/
def uniquenessUpgrade (t : SLAResults ρ) : Except DbError (SLAResults ρ) :=
  if t.latestIndex = true then .error (.duplicateTable latestIndexName)
  else if h : (t.rows.filterMap SLAResultRow.latestKey).Nodup then
    .ok { t with latestIndex := true, latest_unique := fun _ => h }
  else .error (.uniqueViolation latestIndexName)

/-! ## `0012_sla_latest_backfill` -/

def flagged (outageId : String) (rows : List (SLAResultRow ρ)) : List (SLAResultRow ρ) :=
  rows.filter fun r => decide (r.outageId = outageId) && r.isLatest

/-- `duplicates_query`. The database may have the groups in any order. -/
def duplicateOutages (rows : List (SLAResultRow ρ)) : List String :=
  (rows.filterMap SLAResultRow.latestKey).dedup.filter fun outageId =>
    decide (1 < (flagged outageId rows).length)

/-- `SELECT MAX(id)` of the flagged rows of an outage. -/
def maxFlaggedId (outageId : String) (rows : List (SLAResultRow ρ)) : Option Int :=
  ((flagged outageId rows).map (·.id)).max?

/-- What `fix_query` makes of a row. -/
def demoted (outageId : String) (maxId : Option Int) (r : SLAResultRow ρ) : SLAResultRow ρ :=
  if r.outageId = outageId ∧ r.isLatest = true ∧ maxId ≠ some r.id then { r with isLatest := false }
  else r

theorem demoted_id (outageId : String) (maxId : Option Int) (r : SLAResultRow ρ) :
    (demoted outageId maxId r).id = r.id := by
  unfold demoted
  split
  · rfl
  · rfl

theorem demoted_latestKey (outageId : String) (maxId : Option Int) (r : SLAResultRow ρ) :
    (demoted outageId maxId r).latestKey = r.latestKey ∨
      (demoted outageId maxId r).latestKey = none := by
  unfold demoted
  split
  · exact .inr rfl
  · exact .inl rfl

/-- `fix_query`. The index, where there is one, cannot refuse it. -/
def fixOutage (outageId : String) (t : SLAResults ρ) : SLAResults ρ where
  rows := t.rows.map (demoted outageId (maxFlaggedId outageId t.rows))
  latestIndex := t.latestIndex
  ids_nodup := by
    rw [List.map_map]
    have hids : (fun r : SLAResultRow ρ => r.id) ∘ demoted outageId (maxFlaggedId outageId t.rows) =
        fun r => r.id := funext fun r => demoted_id outageId _ r
    rw [hids]
    exact t.ids_nodup
  latest_unique h := (t.latest_unique h).sublist
    (keys_map_sublist fun r _ => demoted_latestKey outageId _ r)

def backfillUpgrade (t : SLAResults ρ) : SLAResults ρ :=
  (duplicateOutages t.rows).foldl (fun t outageId => fixOutage outageId t) t

/-! ## What the two are to do -/

def AtMostOneLatest (rows : List (SLAResultRow ρ)) : Prop :=
  ∀ outageId, (flagged outageId rows).length ≤ 1

/-- A row, with its flag kept if no flagged row of its outage has a higher id. -/
def keepHighest (rows : List (SLAResultRow ρ)) (r : SLAResultRow ρ) : SLAResultRow ρ :=
  { r with
    isLatest := r.isLatest && (flagged r.outageId rows).all fun r' => decide (r'.id ≤ r.id) }

def repaired (rows : List (SLAResultRow ρ)) : List (SLAResultRow ρ) := rows.map (keepHighest rows)

/-- Both migrations succeed in revision order, the rows that come out are those that went in, but
for the flags that are taken away, and no outage has two latest rows. -/
def Migrates (t : SLAResults ρ) : Prop :=
  ∃ indexed, uniquenessUpgrade t = .ok indexed ∧
    (backfillUpgrade indexed).rows = repaired t.rows ∧ AtMostOneLatest (backfillUpgrade indexed).rows

/-! ## Flagged rows -/

section Rows

variable {rows : List (SLAResultRow ρ)} {outageId : String} {r : SLAResultRow ρ}

theorem mem_flagged :
    r ∈ flagged outageId rows ↔ r ∈ rows ∧ r.outageId = outageId ∧ r.isLatest = true := by
  unfold flagged
  rw [List.mem_filter, Bool.and_eq_true, decide_eq_true_iff]

theorem length_flagged :
    (flagged outageId rows).length = (rows.filterMap SLAResultRow.latestKey).count outageId := by
  unfold flagged
  rw [← List.countP_eq_length_filter, List.count_filterMap]
  refine List.countP_congr ?_
  intro r _
  unfold SLAResultRow.latestKey
  cases r.isLatest with
  | true => simp
  | false => simp

theorem atMostOneLatest_iff :
    AtMostOneLatest rows ↔ (rows.filterMap SLAResultRow.latestKey).Nodup := by
  rw [List.nodup_iff_count_le_one]
  unfold AtMostOneLatest
  simp only [length_flagged]

theorem eq_of_length_le_one {α : Type} {l : List α} (h : l.length ≤ 1) {a b : α} (ha : a ∈ l)
    (hb : b ∈ l) : a = b := by
  match l, h with
  | [], _ => cases ha
  | [c], _ => rw [List.mem_singleton.mp ha, List.mem_singleton.mp hb]

theorem length_le_one_of_nodup {α : Type} {l : List α} (hnodup : l.Nodup)
    (h : ∀ a ∈ l, ∀ b ∈ l, a = b) : l.length ≤ 1 := by
  match l with
  | [] => exact Nat.zero_le 1
  | [a] => exact Nat.le_refl 1
  | a :: b :: l =>
    have hab : a = b := h a List.mem_cons_self b (List.mem_cons_of_mem a List.mem_cons_self)
    rw [hab] at hnodup
    exact absurd List.mem_cons_self (List.nodup_cons.mp hnodup).1

theorem keepHighest_of_not_latest (h : r.isLatest = false) : keepHighest rows r = r := by
  unfold keepHighest
  rw [h, Bool.false_and]
  cases r
  cases h
  rfl

/-- **One latest row is left**, as the ids are distinct. -/
theorem repaired_latest (hids : (rows.map (·.id)).Nodup) : AtMostOneLatest (repaired rows) := by
  intro outageId
  have hsame : ∀ r ∈ flagged outageId (repaired rows), ∃ r₀ ∈ flagged outageId rows,
      r₀.id = r.id ∧ ∀ r' ∈ flagged outageId rows, r'.id ≤ r.id := by
    intro r hr
    obtain ⟨hmem, houtage, hlatest⟩ := mem_flagged.mp hr
    obtain ⟨r₀, hr₀, rfl⟩ := List.mem_map.mp hmem
    obtain ⟨hflag, hall⟩ := Bool.and_eq_true_iff.mp hlatest
    have houtage₀ : r₀.outageId = outageId := houtage
    rw [houtage₀, List.all_eq_true] at hall
    exact ⟨r₀, mem_flagged.mpr ⟨hr₀, houtage₀, hflag⟩, rfl,
      fun r' hr' => of_decide_eq_true (hall r' hr')⟩
  have hnodup : ((flagged outageId (repaired rows)).map (·.id)).Nodup := by
    have hmap : (repaired rows).map (·.id) = rows.map (·.id) := by
      unfold repaired
      rw [List.map_map]
      rfl
    refine List.Nodup.sublist (List.Sublist.map _ List.filter_sublist) ?_
    rw [hmap]
    exact hids
  rw [← List.length_map (fun r : SLAResultRow ρ => r.id)]
  refine length_le_one_of_nodup hnodup ?_
  -- each of two latest rows has an id that is not below the other's
  intro a ha b hb
  obtain ⟨r, hr, rfl⟩ := List.mem_map.mp ha
  obtain ⟨r', hr', rfl⟩ := List.mem_map.mp hb
  obtain ⟨r₀, hr₀, hid, hmax⟩ := hsame r hr
  obtain ⟨r₀', hr₀', hid', hmax'⟩ := hsame r' hr'
  refine Int.le_antisymm ?_ ?_
  · show r.id ≤ r'.id
    rw [← hid]
    exact hmax' r₀ hr₀
  · show r'.id ≤ r.id
    rw [← hid']
    exact hmax r₀' hr₀'

theorem keepHighest_of_single (hr : r ∈ rows) (h : (flagged r.outageId rows).length ≤ 1) :
    keepHighest rows r = r := by
  cases hlatest : r.isLatest with
  | false => exact keepHighest_of_not_latest hlatest
  | true =>
    have hmem : r ∈ flagged r.outageId rows := mem_flagged.mpr ⟨hr, rfl, hlatest⟩
    have hall : ((flagged r.outageId rows).all fun r' => decide (r'.id ≤ r.id)) = true := by
      rw [List.all_eq_true]
      intro r' hr'
      rw [eq_of_length_le_one h hr' hmem]
      exact decide_eq_true (Int.le_refl _)
    unfold keepHighest
    rw [hall, Bool.and_true]

/-! ## The backfill -/

theorem demoted_eq_keepHighest (hr : r ∈ rows) :
    demoted r.outageId (maxFlaggedId r.outageId rows) r = keepHighest rows r := by
  cases hlatest : r.isLatest with
  | false =>
    rw [keepHighest_of_not_latest hlatest]
    exact if_neg fun h => Bool.noConfusion (hlatest.symm.trans h.2.1)
  | true =>
    have hmem : r ∈ flagged r.outageId rows := mem_flagged.mpr ⟨hr, rfl, hlatest⟩
    have hmax : maxFlaggedId r.outageId rows = some r.id ↔
        ((flagged r.outageId rows).all fun r' => decide (r'.id ≤ r.id)) = true := by
      unfold maxFlaggedId
      rw [List.max?_eq_some_iff, List.all_eq_true]
      constructor
      · intro h r' hr'
        exact decide_eq_true (h.2 _ (List.mem_map.mpr ⟨r', hr', rfl⟩))
      · intro h
        refine ⟨List.mem_map.mpr ⟨r, hmem, rfl⟩, ?_⟩
        intro b hb
        obtain ⟨r', hr', rfl⟩ := List.mem_map.mp hb
        exact of_decide_eq_true (h r' hr')
    unfold demoted keepHighest
    rw [hlatest, Bool.true_and]
    by_cases h : maxFlaggedId r.outageId rows = some r.id
    · rw [if_neg fun hno => hno.2.2 h, hmax.mp h]
      cases r
      cases hlatest
      rfl
    · rw [if_pos ⟨rfl, rfl, h⟩, Bool.eq_false_iff.mpr fun hall => h (hmax.mpr hall)]

theorem flagged_fix {other : String} {maxId : Option Int} (hne : other ≠ outageId) :
    flagged other (rows.map (demoted outageId maxId)) = flagged other rows := by
  induction rows with
  | nil => rfl
  | cons r rows ih =>
    unfold flagged at ih ⊢
    rw [List.map_cons, List.filter_cons, List.filter_cons, ih]
    by_cases hr : r.outageId = outageId
    · have hother : r.outageId ≠ other := fun h => hne (h.symm.trans hr)
      have hdemoted : (demoted outageId maxId r).outageId = r.outageId := by
        unfold demoted
        split
        · rfl
        · rfl
      rw [hdemoted, decide_eq_false hother, Bool.false_and, Bool.false_and]
      rfl
    · rw [show demoted outageId maxId r = r from if_neg fun h => hr h.1]

/-- Outages that are fixed one after the other do not get in each other's way. Induction on the
outages. -/
theorem foldl_fixOutage {outages : List String} (hnodup : outages.Nodup) (t : SLAResults ρ) :
    (outages.foldl (fun t outageId => fixOutage outageId t) t).rows =
      t.rows.map fun r => if r.outageId ∈ outages then keepHighest t.rows r else r := by
  induction outages generalizing t with
  | nil =>
    have hmap : (t.rows.map fun r => if r.outageId ∈ ([] : List String) then keepHighest t.rows r
        else r) = t.rows.map id :=
      List.map_congr_left fun r _ => if_neg List.not_mem_nil
    rw [hmap, List.map_id]
    rfl
  | cons outageId outages ih =>
    obtain ⟨hnew, hnodup⟩ := List.nodup_cons.mp hnodup
    rw [List.foldl_cons, ih hnodup]
    -- the outage that is fixed first is none of those fixed later
    show (t.rows.map (demoted outageId (maxFlaggedId outageId t.rows))).map _ = _
    rw [List.map_map]
    refine List.map_congr_left ?_
    intro r hr
    show (if (demoted outageId (maxFlaggedId outageId t.rows) r).outageId ∈ outages then _
      else _) = _
    by_cases houtage : r.outageId = outageId
    · have hfixed : demoted outageId (maxFlaggedId outageId t.rows) r = keepHighest t.rows r := by
        rw [← houtage]
        exact demoted_eq_keepHighest hr
      have hlater : (keepHighest t.rows r).outageId ∉ outages := by
        show r.outageId ∉ outages
        rw [houtage]
        exact hnew
      rw [hfixed, if_neg hlater, if_pos (by rw [houtage]; exact List.mem_cons_self)]
    · -- a row of another outage is not touched, and neither is what it is compared with
      have hkept : demoted outageId (maxFlaggedId outageId t.rows) r = r :=
        if_neg fun h => houtage h.1
      have hhighest : keepHighest (fixOutage outageId t).rows r = keepHighest t.rows r := by
        unfold keepHighest
        rw [show flagged r.outageId (fixOutage outageId t).rows = flagged r.outageId t.rows from
          flagged_fix houtage]
      rw [hkept, hhighest]
      by_cases hmem : r.outageId ∈ outages
      · rw [if_pos hmem, if_pos (List.mem_cons_of_mem _ hmem)]
      · rw [if_neg hmem, if_neg fun h => hmem ((List.mem_cons.mp h).resolve_left houtage)]

/-- **The backfill** repairs every table, with or without the index. -/
theorem backfill_eq (t : SLAResults ρ) : (backfillUpgrade t).rows = repaired t.rows := by
  have hnodup : (duplicateOutages t.rows).Nodup := (List.nodup_dedup _).filter _
  unfold backfillUpgrade
  rw [foldl_fixOutage hnodup]
  refine List.map_congr_left ?_
  intro r hr
  by_cases hmem : r.outageId ∈ duplicateOutages t.rows
  · exact if_pos hmem
  · -- an outage that is not among the duplicates has at most one flagged row
    have hsingle : (flagged r.outageId t.rows).length ≤ 1 := by
      by_contra hmany
      refine hmem (List.mem_filter.mpr ⟨?_, decide_eq_true (Nat.not_le.mp hmany)⟩)
      rw [List.mem_dedup, ← List.one_le_count_iff, ← length_flagged]
      omega
    rw [if_neg hmem]
    exact (keepHighest_of_single hr hsingle).symm

/-! ## The two migrations -/

theorem uniquenessUpgrade_ok_iff {t indexed : SLAResults ρ} (hbefore : t.latestIndex = false) :
    uniquenessUpgrade t = .ok indexed ↔
      AtMostOneLatest t.rows ∧ indexed.rows = t.rows ∧ indexed.latestIndex = true := by
  unfold uniquenessUpgrade
  rw [if_neg (by rw [hbefore]; exact Bool.false_ne_true), atMostOneLatest_iff]
  by_cases h : (t.rows.filterMap SLAResultRow.latestKey).Nodup
  · rw [dif_pos h, Except.ok.injEq]
    constructor
    · rintro rfl
      exact ⟨h, rfl, rfl⟩
    · rintro ⟨-, hrows, hindex⟩
      obtain ⟨rows, latestIndex, ids_nodup, latest_unique⟩ := indexed
      cases hrows
      cases hindex
      rfl
  · rw [dif_neg h]
    exact iff_of_false nofun fun hno => h hno.1

theorem uniquenessUpgrade_of_atMostOne {t : SLAResults ρ} (hbefore : t.latestIndex = false)
    (h : AtMostOneLatest t.rows) :
    ∃ indexed, uniquenessUpgrade t = .ok indexed ∧ indexed.rows = t.rows := by
  have hunique := atMostOneLatest_iff.mp h
  refine ⟨{ t with latestIndex := true, latest_unique := fun _ => hunique }, ?_, rfl⟩
  exact (uniquenessUpgrade_ok_iff hbefore).mpr ⟨h, rfl, rfl⟩

/-- **In revision order** a table is migrated exactly if there is nothing to repair. -/
theorem latest_migrations_iff (t : SLAResults ρ) (hbefore : t.latestIndex = false) :
    Migrates t ↔ AtMostOneLatest t.rows := by
  constructor
  · rintro ⟨indexed, hok, -⟩
    exact ((uniquenessUpgrade_ok_iff hbefore).mp hok).1
  · intro h
    obtain ⟨indexed, hok, hrows⟩ := uniquenessUpgrade_of_atMostOne hbefore h
    refine ⟨indexed, hok, ?_, ?_⟩
    · rw [backfill_eq, hrows]
    · rw [backfill_eq]
      exact repaired_latest indexed.ids_nodup

end Rows

/-! ### Two calculations of one outage -/

def calculations (firstIsLatest : Bool) : SLAResults Unit where
  rows := [⟨1, "OUT-1", firstIsLatest, ()⟩, ⟨2, "OUT-1", true, ()⟩]
  latestIndex := false
  ids_nodup := by cases firstIsLatest <;> decide
  latest_unique h := nomatch h

theorem second_calculation_migrates : Migrates (calculations false) := by
  refine (latest_migrations_iff (calculations false) rfl).mpr ?_
  rw [atMostOneLatest_iff]
  decide

/-- **Both are flagged**: the index that is to forbid this cannot be created, and the repair does
not run. -/
theorem two_latest_do_not_migrate : ¬ Migrates (calculations true) := by
  intro h
  obtain ⟨indexed, hok, -⟩ := h
  have hfails : uniquenessUpgrade (calculations true) =
      .error (.uniqueViolation latestIndexName) := rfl
  rw [hfails] at hok
  cases hok

end LatestFlag

end NocIq
