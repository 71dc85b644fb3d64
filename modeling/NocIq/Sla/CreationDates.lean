import NocIq.Sla.AnalyticsCache
import NocIq.Sla.ConcurrentCreate

/-!
# NocIq — the dates of SLA rows

`SLARepository.create` in several server processes, and the two readers that go by `created_at`:
`aggregate_trends` and `list_by_outage`. A row takes its `created_at` from the process that writes
it, which evaluated the default when it imported the model.

Of rows with one `created_at` the database lists any first.

* **`reversed_iff`** — when every descending order of a list by a key is the list reversed.
* **`stamped_createHistory`** — what is in the table after some calls of `create`.
* **`dated_by_creation_iff`** — the calls whose rows are dated by their creation.
-/

namespace NocIq

open SLARepository

/-! ## Descending orders -/

section Orders

variable {ρ ι τ : Type} [LinearOrder τ] {rows : List ρ}

/-- Two elements of a list without repetitions come in one order only. Induction on the list. -/
theorem not_sublist_both {l : List ι} (hnodup : l.Nodup) {x y : ι} (h : [x, y].Sublist l) :
    ¬ [y, x].Sublist l := by
  induction l with
  | nil => cases h
  | cons z l ih =>
    obtain ⟨hz, hl⟩ := List.nodup_cons.mp hnodup
    intro h'
    cases h with
    | cons _ h =>
      cases h' with
      | cons _ h' => exact ih hl h h'
      | cons_cons _ _ => exact hz (h.subset (List.mem_cons_of_mem _ List.mem_cons_self))
    | cons_cons _ h =>
      cases h' with
      | cons _ h' => exact hz (h'.subset (List.mem_cons_of_mem _ List.mem_cons_self))
      | cons_cons _ _ => exact hz (h.subset List.mem_cons_self)

/-- **All descending orders** of rows by a key list them in reverse exactly if the key grows. -/
theorem reversed_iff (key : ρ → τ) (id : ρ → ι) (hnodup : (rows.map id).Nodup) :
    (∀ listed : List ρ, listed.Perm rows → (listed.Pairwise fun a b => key b ≤ key a) →
        listed.map id = (rows.map id).reverse) ↔
      rows.Pairwise fun a b => key a < key b := by
  constructor
  · intro hall
    rw [List.pairwise_iff_forall_sublist]
    intro a b hab
    by_contra hle
    -- a stable sort would keep the two in their order
    have hsort := hall (rows.insertionSort fun a b => key b ≤ key a)
      (List.perm_insertionSort _ _) (List.pairwise_insertionSort _ _)
    have hpair := List.pair_sublist_insertionSort (r := fun a b : ρ => key b ≤ key a)
      (not_lt.mp hle) hab
    have hids := hpair.map id
    rw [hsort] at hids
    have hreversed := List.reverse_sublist.mpr hids
    rw [List.reverse_reverse] at hreversed
    exact not_sublist_both hnodup (hab.map id) hreversed
  · intro hgrows listed hperm hsorted
    have hreverse : rows.reverse.Pairwise fun a b => key b ≤ key a :=
      List.pairwise_reverse.mpr (hgrows.imp le_of_lt)
    have hkeys : (rows.map key).Nodup :=
      List.pairwise_map.mpr (hgrows.imp fun hlt => ne_of_lt hlt)
    have heq : listed = rows.reverse := by
      refine List.Perm.eq_of_pairwise ?_ hsorted hreverse (hperm.trans rows.reverse_perm.symm)
      intro a b ha hb hle hge
      exact List.inj_on_of_nodup_map hkeys (hperm.mem_iff.mp ha) (List.mem_reverse.mp hb)
        (le_antisymm hge hle)
    rw [heq, List.map_reverse]

end Orders

/-! ## Calls of `create` -/

/-- A call of `create` at `now`, in a server process. -/
structure DatedCreate (π : Type) where
  process : π
  payload : SLAResult
  now : Time

/-- The database, and the calls that have returned with what they returned. -/
structure CreateHistory (π : Type) where
  db : Db
  written : List (SLAResult × DatedCreate π) := []

section Processes

variable {π : Type} (started : π → Time)

def CreateHistory.next (h : CreateHistory π) (call : DatedCreate π) : CreateHistory π :=
  let result := create call.payload (started call.process) h.db
  match result.1 with
  | .ok row => { db := result.2, written := h.written ++ [(row, call)] }
  | .error _ => { h with db := result.2 }

/-- Some calls, in processes that have imported the model at `started`. -/
def createHistory (db : Db) (calls : List (DatedCreate π)) : CreateHistory π :=
  calls.foldl (CreateHistory.next started) { db }

/-- The orders in which `list_by_outage` may return the rows. -/
def ListedByOutage (db : Db) (outageId : String) (listed : List SLAResult) : Prop :=
  ∃ rows : List SLAResultORM, rows.Perm (db.slaResults.filter fun r => r.outageId = outageId) ∧
    (rows.Pairwise fun a b => b.createdAt ≤ a.createdAt) ∧ listed = rows.map ormToPydantic

def CreateHistory.ofOutage (h : CreateHistory π) (outageId : String) :
    List (SLAResult × DatedCreate π) :=
  h.written.filter fun e => e.2.payload.outageId = outageId

/-- A row counts in no bucket but that of its call, and the rows of an outage are listed in the
reverse order of their calls. -/
structure DatedByCreation (env : AnalyticsEnv) (bucket tz : String) (h : CreateHistory π) :
    Prop where
  trends : ∀ e ∈ h.written, ∀ r ∈ h.db.slaResults, some r.id = e.1.id →
    ∀ limitDays severity siteId, ∀ g ∈ Groups.limited limitDays (bucketOf env bucket tz)
      (kpiRows severity siteId h.db), r ∈ g.2 → g.1 = env.dateTrunc bucket tz e.2.now
  listing : ∀ outageId listed, ListedByOutage h.db outageId listed →
    listed.map SLAResult.id = ((h.ofOutage outageId).map fun e => e.1.id).reverse

/-! ## What is in the table -/

/-- What the readers look at: the id, the outage and the date of a row. -/
def rowStamp (r : SLAResultORM) : Option Nat × String × Time := (some r.id, r.outageId, r.createdAt)

def callStamp (e : SLAResult × DatedCreate π) : Option Nat × String × Time :=
  (e.1.id, e.2.payload.outageId, started e.2.process)

/-- The rows are those of the calls, in their order, and dated by their processes. -/
structure CreateHistory.Stamped (h : CreateHistory π) : Prop where
  wellFormed : h.db.WellFormed
  stamps : h.db.slaResults.map rowStamp = h.written.map (callStamp started)

theorem rowStamp_demote (outageId : String) (r : SLAResultORM) :
    rowStamp (demote outageId r) = rowStamp r := by
  unfold rowStamp
  rw [demote_id, demote_outageId, demote_createdAt]

variable {started}

/-- **One call**: for a stored outage it writes a row, and otherwise none. -/
theorem CreateHistory.Stamped.next {h : CreateHistory π} (hs : h.Stamped started)
    (call : DatedCreate π) :
    (h.next started call).Stamped started ∧
      (h.next started call).db.outageIds = h.db.outageIds ∧
      (h.next started call).written.map Prod.snd = h.written.map Prod.snd ++
        if call.payload.outageId ∈ h.db.outageIds then [call] else [] := by
  by_cases hout : call.payload.outageId ∈ h.db.outageIds
  · have hcreate := @create_eq h.db call.payload hs.wellFormed (started call.process) hout
    unfold CreateHistory.next
    rw [hcreate, if_pos hout]
    refine ⟨⟨created_wellFormed hs.wellFormed _ hout, ?_⟩, rfl, ?_⟩
    · have hdemoted : (h.db.slaResults.map (demote call.payload.outageId)).map rowStamp =
          h.db.slaResults.map rowStamp := by
        rw [List.map_map]
        exact List.map_congr_left fun r _ => rowStamp_demote _ r
      simp only [created, List.map_append, hdemoted, hs.stamps]
      rfl
    · simp
  · obtain ⟨name, hcreate⟩ := create_unknown_outage hs.wellFormed (started call.process) hout
    unfold CreateHistory.next
    rw [hcreate, if_neg hout]
    exact ⟨⟨wellFormed_seq hs.wellFormed, hs.stamps⟩, rfl, (List.append_nil _).symm⟩

/-- **The table after some calls.** Induction on the calls. -/
theorem stamped_createHistory (started : π → Time) {db : Db} (hdb : db.WellFormed)
    (hempty : db.slaResults = []) (calls : List (DatedCreate π)) :
    (createHistory started db calls).Stamped started ∧
      (createHistory started db calls).db.outageIds = db.outageIds ∧
      (createHistory started db calls).written.map Prod.snd =
        calls.filter fun call => call.payload.outageId ∈ db.outageIds := by
  unfold createHistory
  induction calls using List.reverseRecOn with
  | nil =>
    refine ⟨⟨hdb, ?_⟩, rfl, rfl⟩
    simp [hempty]
  | append_singleton calls call ih =>
    obtain ⟨hs, hids, hwritten⟩ := ih
    obtain ⟨hs', hids', hwritten'⟩ := hs.next call
    rw [List.foldl_append]
    refine ⟨hs', hids'.trans hids, ?_⟩
    rw [List.foldl_cons, List.foldl_nil, hwritten', hwritten, hids, List.filter_append,
      List.filter_singleton]
    simp

/-! ## What the readers make of it -/

namespace CreateHistory.Stamped

variable {h : CreateHistory π}

theorem createdAt_eq (hs : h.Stamped started) {e : SLAResult × DatedCreate π}
    (he : e ∈ h.written) {r : SLAResultORM} (hr : r ∈ h.db.slaResults) (hid : some r.id = e.1.id) :
    r.createdAt = started e.2.process := by
  have hmem : callStamp started e ∈ h.db.slaResults.map rowStamp := by
    rw [hs.stamps]
    exact List.mem_map_of_mem he
  obtain ⟨r', hr', heq⟩ := List.mem_map.mp hmem
  have hid' : some r'.id = e.1.id := congrArg Prod.fst heq
  have hsame : r = r' := row_unique hs.wellFormed.sla hr hr' (Option.some.inj (hid.trans hid'.symm))
  rw [hsame]
  exact congrArg (fun stamp => stamp.2.2) heq

theorem row_of_call (hs : h.Stamped started) {e : SLAResult × DatedCreate π}
    (he : e ∈ h.written) : ∃ r ∈ h.db.slaResults, some r.id = e.1.id := by
  have hmem : callStamp started e ∈ h.db.slaResults.map rowStamp := by
    rw [hs.stamps]
    exact List.mem_map_of_mem he
  obtain ⟨r, hr, heq⟩ := List.mem_map.mp hmem
  exact ⟨r, hr, congrArg Prod.fst heq⟩

theorem stamps_ofOutage (hs : h.Stamped started) (outageId : String) :
    (h.db.slaResults.filter fun r => r.outageId = outageId).map rowStamp =
      (h.ofOutage outageId).map (callStamp started) := by
  have hfiltered := congrArg
    (List.filter fun stamp : Option Nat × String × Time => decide (stamp.2.1 = outageId)) hs.stamps
  rw [List.filter_map, List.filter_map] at hfiltered
  exact hfiltered

/-- **The trends** count a row in the bucket of the start of its process. -/
theorem trends_iff (hs : h.Stamped started) (env : AnalyticsEnv) (bucket tz : String) :
    (∀ e ∈ h.written, ∀ r ∈ h.db.slaResults, some r.id = e.1.id →
      ∀ limitDays severity siteId, ∀ g ∈ Groups.limited limitDays (bucketOf env bucket tz)
        (kpiRows severity siteId h.db), r ∈ g.2 → g.1 = env.dateTrunc bucket tz e.2.now) ↔
      ∀ call ∈ h.written.map Prod.snd,
        env.dateTrunc bucket tz (started call.process) = env.dateTrunc bucket tz call.now := by
  rw [List.forall_mem_map]
  constructor
  · intro hall e he
    obtain ⟨r, hr, hid⟩ := hs.row_of_call he
    rw [← hs.createdAt_eq he hr hid]
    -- without filters and with a limit that selects every bucket, the row counts
    have hkey : bucketOf env bucket tz r ∈
        Groups.keys (bucketOf env bucket tz) (kpiRows none none h.db) :=
      Groups.mem_keys.mpr ⟨r, hr, rfl⟩
    have hnewest : bucketOf env bucket tz r ∈ Groups.newest
        (Groups.keys (bucketOf env bucket tz) (kpiRows none none h.db)).length
        (bucketOf env bucket tz) (kpiRows none none h.db) := by
      unfold Groups.newest
      rw [List.take_length]
      exact hkey
    exact hall e he r hr hid _ none none _ (List.mem_map_of_mem hnewest)
      (List.mem_filter.mpr ⟨hr, decide_eq_true rfl⟩)
  · intro hall e he r hr hid limitDays severity siteId g hg hrg
    obtain ⟨k, -, rfl⟩ := List.mem_map.mp hg
    have hk : bucketOf env bucket tz r = k := of_decide_eq_true (List.mem_filter.mp hrg).2
    have hdate := hs.createdAt_eq he hr hid
    show k = _
    rw [← hk, ← hall e he, ← hdate]
    rfl

/-- **The listing** is in the reverse order of the calls if their processes have been started one
after the other. -/
theorem listing_iff (hs : h.Stamped started) (outageId : String) :
    (∀ listed, ListedByOutage h.db outageId listed →
      listed.map SLAResult.id = ((h.ofOutage outageId).map fun e => e.1.id).reverse) ↔
      (h.ofOutage outageId).Pairwise fun a b =>
        started a.2.process < started b.2.process := by
  have hstamps := hs.stamps_ofOutage outageId
  have hids : (h.ofOutage outageId).map (fun e => e.1.id) =
      (h.db.slaResults.filter fun r => r.outageId = outageId).map fun r => some r.id := by
    have hfst := congrArg (List.map Prod.fst) hstamps
    rw [List.map_map, List.map_map] at hfst
    exact hfst.symm
  have hnodup : ((h.db.slaResults.filter fun r => r.outageId = outageId).map
      fun r => some r.id).Nodup := by
    -- the ids are the primary key
    have hpkey := hs.wellFormed.sla.pkey
    rw [List.filterMap_eq_map'] at hpkey
    have hsome := hpkey.map (Option.some_injective Nat)
    rw [List.map_map] at hsome
    exact (List.filter_sublist.map _).nodup hsome
  have hgrows : (h.ofOutage outageId).Pairwise (fun a b =>
        started a.2.process < started b.2.process) ↔
      (h.db.slaResults.filter fun r => r.outageId = outageId).Pairwise
        fun a b => a.createdAt < b.createdAt := by
    have hdates := congrArg (List.map fun stamp => stamp.2.2) hstamps
    rw [List.map_map, List.map_map] at hdates
    have hdates' : (h.ofOutage outageId).map (fun e => started e.2.process) =
        (h.db.slaResults.filter fun r => r.outageId = outageId).map fun r => r.createdAt :=
      hdates.symm
    rw [← List.pairwise_map (f := fun e : SLAResult × DatedCreate π => started e.2.process),
      hdates', List.pairwise_map]
  rw [hgrows, hids]
  refine Iff.trans ?_ (reversed_iff SLAResultORM.createdAt (fun r : SLAResultORM => some r.id)
    hnodup)
  constructor
  · intro hall rows hperm hsorted
    have hlisted := hall _ ⟨rows, hperm, hsorted, rfl⟩
    rw [List.map_map] at hlisted
    exact hlisted
  · intro hall listed hlisted
    obtain ⟨rows, hperm, hsorted, rfl⟩ := hlisted
    rw [List.map_map]
    exact hall rows hperm hsorted

end CreateHistory.Stamped

theorem pairwise_snd {written : List (SLAResult × DatedCreate π)} :
    (written.Pairwise fun a b => started a.2.process < started b.2.process) ↔
      (written.map Prod.snd).Pairwise fun a b => started a.process < started b.process := by
  rw [List.pairwise_map]

theorem filter_stored {stored : List String} {outageId : String} (hout : outageId ∈ stored)
    {calls : List (DatedCreate π)} :
    ((calls.filter fun call => call.payload.outageId ∈ stored).filter fun call =>
      call.payload.outageId = outageId) =
      calls.filter fun call => call.payload.outageId = outageId := by
  rw [List.filter_filter]
  apply List.filter_congr
  intro call _
  by_cases heq : call.payload.outageId = outageId
  · simp [heq, hout]
  · simp [heq]

theorem filter_unknown {stored : List String} {outageId : String} (hout : outageId ∉ stored)
    {calls : List (DatedCreate π)} :
    ((calls.filter fun call => call.payload.outageId ∈ stored).filter fun call =>
      call.payload.outageId = outageId) = [] := by
  rw [List.filter_filter, List.filter_eq_nil_iff]
  intro call _ hboth
  rw [Bool.and_eq_true, decide_eq_true_iff, decide_eq_true_iff] at hboth
  rw [hboth.1] at hboth
  exact hout hboth.2

/-- **Every run of calls.** The rows are dated by their creation exactly if every call falls in the
bucket of the start of its process, and the processes that settle an outage have been started in the
order of the calls. -/
theorem dated_by_creation_iff (env : AnalyticsEnv) (bucket tz : String) (started : π → Time)
    {db : Db} (hdb : db.WellFormed) (hempty : db.slaResults = [])
    (calls : List (DatedCreate π)) :
    DatedByCreation env bucket tz (createHistory started db calls) ↔
      (∀ call ∈ calls.filter fun call => call.payload.outageId ∈ db.outageIds,
        env.dateTrunc bucket tz (started call.process) = env.dateTrunc bucket tz call.now) ∧
      ∀ outageId ∈ db.outageIds,
        (calls.filter fun call => call.payload.outageId = outageId).Pairwise
          fun a b => started a.process < started b.process := by
  obtain ⟨hs, -, hwritten⟩ := stamped_createHistory started hdb hempty calls
  rw [← hwritten]
  have hlisting : (∀ outageId listed,
      ListedByOutage (createHistory started db calls).db outageId listed →
      listed.map SLAResult.id =
        (((createHistory started db calls).ofOutage outageId).map fun e => e.1.id).reverse) ↔
      ∀ outageId ∈ db.outageIds,
        (calls.filter fun call => call.payload.outageId = outageId).Pairwise
          fun a b => started a.process < started b.process := by
    have hcalls : ∀ outageId, ((createHistory started db calls).ofOutage outageId).map Prod.snd =
        (calls.filter fun call => call.payload.outageId ∈ db.outageIds).filter
          fun call => call.payload.outageId = outageId := by
      intro outageId
      rw [← hwritten, List.filter_map]
      rfl
    constructor
    · intro hall outageId hout
      have hgrows := (hs.listing_iff outageId).mp (hall outageId)
      rw [pairwise_snd, hcalls, filter_stored hout] at hgrows
      exact hgrows
    · intro hall outageId
      rw [hs.listing_iff outageId, pairwise_snd, hcalls]
      -- for an outage that is not stored nothing is written and nothing listed
      by_cases hout : outageId ∈ db.outageIds
      · rw [filter_stored hout]
        exact hall outageId hout
      · rw [filter_unknown hout]
        exact List.Pairwise.nil
  constructor
  · intro hdated
    exact ⟨(hs.trends_iff env bucket tz).mp hdated.trends, hlisting.mp hdated.listing⟩
  · intro hcond
    exact ⟨(hs.trends_iff env bucket tz).mpr hcond.1, hlisting.mpr hcond.2⟩

end Processes

/-! ## Processes that live on -/

/-- The second process is started a second after the first. -/
def twoProcesses : Bool → Time := fun second => if second then 1000000 else 0

theorem storedOutage1_empty : storedOutage1.slaResults = [] := by decide +kernel

/-- Both settle the outage on the day of their start, the first one first. -/
theorem dated_in_order :
    DatedByCreation utcDays "day" "UTC" (createHistory twoProcesses storedOutage1
      [⟨false, lateResult, 2000000⟩, ⟨true, lateResult, 3000000⟩]) := by
  refine (dated_by_creation_iff utcDays "day" "UTC" twoProcesses storedOutage1_wellFormed
    storedOutage1_empty _).mpr ⟨by decide +kernel, ?_⟩
  intro outageId hout
  have hone : outageId = "outage-1" := List.mem_singleton.mp hout
  rw [hone]
  decide +kernel

/-- The first process settles the outage on the second day: the trends count the row on the first
day. And the second process settles it before the first: the older row is listed first. -/
theorem dated_by_the_start :
    ¬ DatedByCreation utcDays "day" "UTC" (createHistory twoProcesses storedOutage1
        [⟨false, lateResult, 86400000000⟩]) ∧
      ¬ DatedByCreation utcDays "day" "UTC" (createHistory twoProcesses storedOutage1
        [⟨true, lateResult, 2000000⟩, ⟨false, lateResult, 3000000⟩]) := by
  constructor
  · intro hdated
    obtain ⟨hs, -, -⟩ := stamped_createHistory twoProcesses storedOutage1_wellFormed
      storedOutage1_empty [⟨false, lateResult, 86400000000⟩]
    exact absurd ((hs.trends_iff utcDays "day" "UTC").mp hdated.trends) (by decide +kernel)
  · intro hdated
    obtain ⟨hs, -, -⟩ := stamped_createHistory twoProcesses storedOutage1_wellFormed
      storedOutage1_empty [⟨true, lateResult, 2000000⟩, ⟨false, lateResult, 3000000⟩]
    exact absurd ((hs.listing_iff "outage-1").mp (hdated.listing "outage-1")) (by decide +kernel)

end NocIq
