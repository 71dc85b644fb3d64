import NocIq.Sla.Analytics
import NocIq.Sla.Effective

/-!
# NocIq — the two notions of "latest"

`aggregate_performance` counts of each outage the row that comes first by `created_at` and `id`;
`get_by_outage` returns the row flagged `is_latest`. A step of a writer keeps the two aligned
exactly if it meets `Aligned`:

* a `create` must not run in a process that started before a row of the outage was stamped;
* a proposal that goes through must run in a process that started *before* some row of the outage
  was stamped, so that the unflagged row does not come first;
* no proposal may be applied.

* **`latestAgrees_iff`** — the readers agree exactly if every flagged row comes first.
* **`flaggedFirst_step_iff`** — what one step does to this.
* **`latest_agrees_of_run`** — and hence which runs keep the readers in agreement throughout.
-/

namespace NocIq

open Relational SLARepository

/-- The rows `aggregate_performance()` counts for an outage. -/
def countedRows (db : Db) (outageId : String) : List SLAResultORM :=
  (performanceRows {} db).filter fun r => decide (r.outageId = outageId)

/-- For every outage with rows, the aggregation counts what `get_by_outage` returns. -/
def LatestAgrees (db : Db) : Prop :=
  ∀ o, (∃ r ∈ db.slaResults, r.outageId = o) →
    (countedRows db o).map ormToPydantic = (getByOutage db o).toList

/-- No row of `r`'s outage comes before `r`. -/
def IsFirst (rows : List SLAResultORM) (r : SLAResultORM) : Prop :=
  ∀ x ∈ rows, x.outageId = r.outageId → before x r = false

def FlaggedFirst (db : Db) : Prop :=
  ∀ r ∈ db.slaResults, r.isLatest = true → IsFirst db.slaResults r

/-! ## What the readers return -/

variable {r : SLAResultORM} {db : Db}

theorem countedRows_eq (h : db.WellFormed) (hr : r ∈ db.slaResults)
    (hfirst : IsFirst db.slaResults r) : countedRows db r.outageId = [r] := by
  unfold countedRows
  rw [performanceRows_eq h]
  exact Window.firsts_partition_eq (before_comparable h) (Window.mem_firsts.mpr ⟨hr, hfirst⟩)

theorem getByOutage_eq (h : db.WellFormed) (hr : r ∈ db.slaResults) (hflag : r.isLatest = true) :
    getByOutage db r.outageId = some (ormToPydantic r) := by
  have hrow : effectiveRow db r.outageId = some r :=
    (effectiveRow_eq_some h).mpr ⟨hr, isEffective_iff.mpr ⟨rfl, hflag⟩⟩
  unfold getByOutage
  rw [hrow]

theorem latestAgrees_iff (h : SlaInvariant db) : LatestAgrees db ↔ FlaggedFirst db := by
  constructor
  · intro hagree r hr hflag
    have heq := hagree r.outageId ⟨r, hr, rfl⟩
    rw [getByOutage_eq h.wellFormed hr hflag, Option.toList_some, List.map_eq_singleton_iff] at heq
    obtain ⟨x, hcounted, hx⟩ := heq
    have hmem : x ∈ countedRows db r.outageId := by
      rw [hcounted]
      exact List.mem_singleton_self x
    have hxfirst := (List.mem_filter.mp hmem).1
    rw [performanceRows_eq h.wellFormed] at hxfirst
    obtain ⟨hxmem, hxfirst⟩ := Window.mem_firsts.mp hxfirst
    -- the pydantic models carry the id, so they are of one row
    have hid : x.id = r.id := by
      have := congrArg SLAResult.id hx
      simpa [ormToPydantic] using this
    rw [← row_unique h.wellFormed.sla hxmem hr hid]
    exact hxfirst
  · intro hfirst o ho
    obtain ⟨x, hx, rfl⟩ := ho
    obtain ⟨i, hi⟩ := Option.isSome_iff_exists.mp (h.effective x hx)
    obtain ⟨e, he, heff, -⟩ := (effectiveId_eq_some h.wellFormed).mp hi
    obtain ⟨hout, hflag⟩ := isEffective_iff.mp heff
    rw [← hout, countedRows_eq h.wellFormed he (hfirst e he hflag),
      getByOutage_eq h.wellFormed he hflag]
    rfl

/-! ## What a step does -/

/-- The steps that keep the readers in agreement. -/
def Aligned (db : Db) : SlaEvent → Prop
  | .storeOutage _ => True
  | .create payload started =>
    ∀ r ∈ db.slaResults, r.outageId = payload.outageId → r.createdAt ≤ started
  | .dispute (.flag ..) => True
  | .dispute (.propose config slaResultId payload started _) =>
    ∀ d b newSla, proposalOf config slaResultId payload db = some (d, b, newSla) →
      ∃ r ∈ db.slaResults, r.outageId = b.outageId ∧ started < r.createdAt
  | .dispute (.resolve slaResultId payload _) =>
    ∀ d p, proposalToApply slaResultId payload db = some (d, p) → ¬ NewestProposal db p

theorem isFirst_map {rows : List SLAResultORM} {f : SLAResultORM → SLAResultORM}
    (hid : ∀ r, (f r).id = r.id) (hout : ∀ r, (f r).outageId = r.outageId)
    (hstamp : ∀ r, (f r).createdAt = r.createdAt) :
    IsFirst (rows.map f) (f r) ↔ IsFirst rows r := by
  have hbefore : ∀ x, before (f x) (f r) = before x r := by
    intro x
    unfold before
    rw [hid, hid, hstamp, hstamp]
  unfold IsFirst
  rw [List.forall_mem_map]
  simp only [hout, hbefore]

theorem isFirst_append {rows : List SLAResultORM} {row : SLAResultORM} :
    IsFirst (rows ++ [row]) r ↔
      IsFirst rows r ∧ (row.outageId = r.outageId → before row r = false) := by
  unfold IsFirst
  simp only [List.mem_append, List.mem_singleton]
  constructor
  · intro h
    exact ⟨fun x hx => h x (.inl hx), h row (.inr rfl)⟩
  · intro h x hx
    rcases hx with hx | rfl
    · exact h.1 x hx
    · exact h.2

theorem flagged_of_demote {o : String} (h : (demote o r).isLatest = true) :
    r.isLatest = true ∧ r.outageId ≠ o := by
  have heff : isEffective r.outageId (demote o r) = true :=
    isEffective_iff.mpr ⟨demote_outageId o r, h⟩
  rw [isEffective_demote, Bool.and_eq_true, decide_eq_true_eq] at heff
  exact ⟨(isEffective_iff.mp heff.1).2, heff.2⟩

theorem flaggedFirst_created_iff (h : db.WellFormed) (hfirst : FlaggedFirst db)
    (payload : SLAResult) (started : Time) :
    FlaggedFirst (created payload started db) ↔
      ∀ r ∈ db.slaResults, r.outageId = payload.outageId → r.createdAt ≤ started := by
  -- a demotion does not move a row in the order
  have hmap : ∀ r, IsFirst (db.slaResults.map (demote payload.outageId))
      (demote payload.outageId r) ↔ IsFirst db.slaResults r := by
    intro r
    exact isFirst_map (demote_id _) (demote_outageId _) (demote_createdAt _)
  constructor
  · intro hafter r hr hout
    have hnew := hafter _ (List.mem_append_right _ (List.mem_singleton_self _)) rfl
    have hr' := (isFirst_append.mp hnew).1 _ (List.mem_map_of_mem hr)
      (by rw [demote_outageId, hout]; rfl)
    rw [before_eq_false_iff, demote_createdAt] at hr'
    rcases hr' with hlt | ⟨heq, -⟩
    · exact le_of_lt hlt
    · exact le_of_eq heq
  · intro hstamps x hx hflag
    rcases List.mem_append.mp hx with hx | hx
    · obtain ⟨y, hy, rfl⟩ := List.mem_map.mp hx
      obtain ⟨hyflag, hne⟩ := flagged_of_demote hflag
      refine isFirst_append.mpr ⟨(hmap y).mpr (hfirst y hy hyflag), ?_⟩
      intro hout
      rw [demote_outageId] at hout
      exact absurd hout.symm hne
    · rw [List.mem_singleton.mp hx]
      refine isFirst_append.mpr ⟨?_, fun _ => before_eq_false_iff.mpr (.inr ⟨rfl, le_rfl⟩)⟩
      intro y hy hout
      obtain ⟨r, hr, rfl⟩ := List.mem_map.mp hy
      rw [before_eq_false_iff, demote_createdAt, demote_id]
      rw [demote_outageId] at hout
      rcases lt_or_eq_of_le (hstamps r hr hout) with hlt | heq
      · exact .inl hlt
      · exact .inr ⟨heq, (h.seq r hr).2.trans (Nat.le_succ _)⟩

theorem flaggedFirst_proposal_iff (h : SlaInvariant db) (hfirst : FlaggedFirst db)
    {newSla : SLAResult} {b : SLAResultORM} (hb : b ∈ db.slaResults)
    (hout : newSla.outageId = b.outageId) (started : Time) (d : SLADispute) (log : DisputeAuditLog)
    :
    FlaggedFirst (withProposal (newRow newSla (db.slaResultsSeq + 1) false started) d log db) ↔
      ∃ r ∈ db.slaResults, r.outageId = b.outageId ∧ started < r.createdAt := by
  set row := newRow newSla (db.slaResultsSeq + 1) false started with hrow
  have hstamp : row.createdAt = started := rfl
  constructor
  · intro hafter
    -- the effective row is still first, although the new row has the larger id
    obtain ⟨i, hi⟩ := Option.isSome_iff_exists.mp (h.effective b hb)
    obtain ⟨e, he, heff, -⟩ := (effectiveId_eq_some h.wellFormed).mp hi
    obtain ⟨heout, hflag⟩ := isEffective_iff.mp heff
    have hefirst := hafter e (List.mem_append_left _ he) hflag
    have hnew := (isFirst_append.mp hefirst).2 (by rw [heout, ← hout]; rfl)
    have hid : row.id = db.slaResultsSeq + 1 := rfl
    have hle := (h.wellFormed.seq e he).2
    rw [before_eq_false_iff, hstamp] at hnew
    rcases hnew with hlt | ⟨-, hidle⟩
    · exact ⟨e, he, heout, hlt⟩
    · omega
  · intro hlater x hx hflag
    obtain ⟨r, hr, hrout, hlt⟩ := hlater
    rcases List.mem_append.mp hx with hx | hx
    · have hxfirst := hfirst x hx hflag
      refine isFirst_append.mpr ⟨hxfirst, ?_⟩
      intro hxout
      have hrx := hxfirst r hr (by rw [hrout, ← hout]; exact hxout)
      have hle : r.createdAt ≤ x.createdAt := by
        rcases before_eq_false_iff.mp hrx with hrx | ⟨hrx, -⟩
        · exact le_of_lt hrx
        · exact le_of_eq hrx
      exact before_eq_false_iff.mpr (.inl (lt_of_lt_of_le hlt hle))
    · rw [List.mem_singleton.mp hx] at hflag
      cases hflag

theorem not_flaggedFirst_applied (h : SlaInvariant db) (hfirst : FlaggedFirst db)
    {slaResultId : Nat} {payload : DisputeResolveRequest} {d d' : SLADispute} {p : SLAResultORM}
    {log : DisputeAuditLog} (hprop : proposalToApply slaResultId payload db = some (d, p)) :
    ¬ FlaggedFirst (withApplied p d' log db) := by
  obtain ⟨-, -, hpend, hdprop, hp⟩ := proposalToApply_eq_some hprop
  obtain ⟨hd, -, hpending⟩ := pendingDispute_mem hpend
  have hpflag := h.proposedIdle d hd hpending p hp hdprop
  obtain ⟨i, hi⟩ := Option.isSome_iff_exists.mp (h.effective p hp)
  obtain ⟨e, he, heff, -⟩ := (effectiveId_eq_some h.wellFormed).mp hi
  obtain ⟨heout, heflag⟩ := isEffective_iff.mp heff
  have hid : e.id ≠ p.id := by
    intro hid
    rw [row_unique h.wellFormed.sla he hp hid, hpflag] at heflag
    cases heflag
  intro hafter
  have hpfirst : IsFirst db.slaResults p := by
    have hflag : (promote p.outageId p.id p).isLatest = true := by simp [promote]
    have := hafter _ (List.mem_map_of_mem hp) hflag
    exact (isFirst_map (promote_id _ _) (promote_outageId _ _) (promote_createdAt _ _)).mp this
  have hefirst := hfirst e he heflag
  -- one of the two rows is before the other, and both would be first
  rcases before_total hid with hep | hpe
  · rw [hpfirst e he heout] at hep
    cases hep
  · rw [hefirst p hp heout.symm] at hpe
    cases hpe

/-- **One step.** From a state in which the readers agree, a step keeps them in agreement exactly
if it is aligned. -/
theorem flaggedFirst_step_iff (h : SlaInvariant db) (hfirst : FlaggedFirst db) (e : SlaEvent) :
    FlaggedFirst (slaStep db e) ↔ Aligned db e := by
  cases e with
  | storeOutage row =>
    obtain ⟨outages, heq, -, -⟩ := storeOutage_eq h.wellFormed row
    simp only [slaStep, Aligned, heq]
    exact iff_of_true hfirst trivial
  | create payload started =>
    simp only [slaStep, Aligned]
    by_cases hout : payload.outageId ∈ db.outageIds
    · rw [create_eq h.wellFormed hout]
      exact flaggedFirst_created_iff h.wellFormed hfirst payload started
    · -- an outage that is not stored has no rows
      obtain ⟨name, hname⟩ := create_unknown_outage h.wellFormed started hout
      rw [hname]
      refine iff_of_true hfirst ?_
      intro r hr hro
      have := h.wellFormed.sla.outageFkey r hr
      rw [hro] at this
      exact absurd this hout
  | dispute req =>
    obtain ⟨heffect, hwf⟩ := disputeStep_effect h.wellFormed req
    simp only [slaStep]
    generalize disputeStep db req = db' at heffect hwf
    cases heffect with
    | refused hidle =>
      -- a refused request proposes nothing, and closes nothing
      refine iff_of_true hfirst ?_
      cases req with
      | flag => trivial
      | propose config slaResultId payload started now =>
        intro d b newSla hprop
        rw [hidle] at hprop
        cases hprop
      | resolve slaResultId payload now => exact hidle
    | flagged log hnone => exact iff_of_true hfirst trivial
    | @proposed config slaResultId payload started now d b newSla log hprop =>
      obtain ⟨-, hb, hcalc⟩ := proposalOf_eq_some hprop
      rw [flaggedFirst_proposal_iff h hfirst hb hcalc.outageId_eq]
      unfold Aligned
      constructor
      · intro hlater d' b' newSla' hprop'
        rw [hprop] at hprop'
        obtain ⟨-, rfl, -⟩ : d = d' ∧ b = b' ∧ newSla = newSla' := by simpa using hprop'
        exact hlater
      · intro haligned
        exact haligned d b newSla hprop
    | closed log hpend hstatus hnone =>
      refine iff_of_true hfirst ?_
      intro d' p hprop
      rw [hnone] at hprop
      cases hprop
    | applied log hprop hnewest =>
      -- an older result becomes the latest one by its flag alone
      refine iff_of_false (not_flaggedFirst_applied h hfirst hprop) ?_
      intro haligned
      exact haligned _ _ hprop hnewest

/-- **The readers over runs.** They agree in every state of a run exactly if all of its steps are
aligned. -/
theorem latest_agrees_of_run {steps : List (Db × SlaEvent)} {t : Db} (hrun : SlaRun {} steps t) :
    ((∀ x ∈ steps, LatestAgrees x.1) ∧ LatestAgrees t) ↔ ∀ x ∈ steps, Aligned x.1 x.2 := by
  have hstep : ∀ s e u, SlaInvariant s → slaStep s e = u → SlaInvariant u := by
    intro s e u hs heq
    rw [← heq]
    exact hs.step e
  refine Runs.Run.forall_iff SlaInvariant.empty ?_ hstep ?_ hrun
  · intro o ho
    obtain ⟨r, hr, -⟩ := ho
    cases hr
  · intro s e u hs hagree heq
    rw [latestAgrees_iff (hstep s e u hs heq), ← heq]
    exact flaggedFirst_step_iff hs ((latestAgrees_iff hs).mp hagree) e

/-- An SLA computed, recomputed by a process that started later, and disputed. -/
def recomputedEvents : List SlaEvent :=
  [.storeOutage outage1, .create lateResult 0, .create lateResult 10,
    .dispute (.flag "dispute-1" 2 flagRequest 20)]

theorem latest_agrees_of_recomputed_run :
    (∀ x ∈ Runs.replay slaStep {} recomputedEvents, LatestAgrees x.1) ∧
      LatestAgrees (recomputedEvents.foldl slaStep {}) := by
  refine (latest_agrees_of_run (Runs.replay_run slaStep {} recomputedEvents)).mpr ?_
  unfold recomputedEvents
  simp only [Runs.replay, List.forall_mem_cons, Aligned, true_and, List.not_mem_nil,
    false_implies, implies_true, and_true]
  decide +kernel

/-- A single process is enough: the proposal it stores comes first, and is not flagged. -/
theorem latest_disagrees_after_proposal :
    SlaRun {} (Runs.replay slaStep {} disputedEvents) (disputedEvents.foldl slaStep {}) ∧
      ¬ LatestAgrees (disputedEvents.foldl slaStep {}) := by
  refine ⟨Runs.replay_run slaStep {} disputedEvents, ?_⟩
  intro hagree
  have hrow : ∃ r ∈ (disputedEvents.foldl slaStep {}).slaResults, r.outageId = "outage-1" := by
    decide +kernel
  have hne : (countedRows (disputedEvents.foldl slaStep {}) "outage-1").map ormToPydantic
      ≠ (getByOutage (disputedEvents.foldl slaStep {}) "outage-1").toList := by decide +kernel
  exact hne (hagree "outage-1" hrow)

end NocIq
