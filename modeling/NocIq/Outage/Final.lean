import NocIq.Outage.Update

/-!
# NocIq — whether a resolution is final

What resolutions and updates can do to an outage that has been resolved. The status stays, but a
resolution with another MTTR is accepted, and an update writes the `resolved_at` it is sent.

* **`resolve_isResolved`** — a resolution resolves.
* **`served_isResolved_iff` / `resolve_isResolved_iff`** — what one operation keeps.
* **`resolution_final_of_run`** — in which runs the resolution is final.
-/

namespace NocIq

open OutageRepository

/-! ## The law -/

/-- The outage is resolved, with this MTTR and this resolution time. -/
def IsResolved (outageId : String) (mttrMinutes : Int) (resolvedAt : Time) (s : OutageStore) :
    Prop :=
  ∃ o, getOrm s outageId = some o ∧ o.status = "resolved" ∧ o.mttrMinutes = some mttrMinutes ∧
    o.resolvedAt = some resolvedAt

inductive ResolutionEvent where
  | resolve (outageId : String) (mttrMinutes : Int) (now : Time)
  | update (method : UpdateMethod) (outageId : String) (payload : OutageUpdate) (now : Time)

def serveResolution (db : OutageDatabase) (s : OutageStore) :
    ResolutionEvent → Except Exc (Option OutageORM) × OutageStore
  | .resolve outageId mttrMinutes now => resolve db outageId mttrMinutes now s
  | .update method outageId payload now => serveUpdate db method outageId payload now s

abbrev ResolutionRun (db : OutageDatabase) :=
  Runs.Run fun (s : OutageStore) e s' => (serveResolution db s e).2 = s'

/-- Resolving the outage again returns it as it is stored if the MTTR is the same, and is rejected
otherwise. -/
def AnswersFinal (db : OutageDatabase) (outageId : String) (mttrMinutes : Int) (s : OutageStore) :
    ResolutionEvent → Prop
  | .resolve outageId' mttrMinutes' now =>
    outageId' = outageId →
      if mttrMinutes' = mttrMinutes then
        (resolve db outageId' mttrMinutes' now s).1 = .ok (getOrm s outageId)
      else ∃ e, (resolve db outageId' mttrMinutes' now s).1 = .error e
  | .update .. => True

/-- The resolution is final in a run that starts in a state where the outage is resolved. -/
structure FinalResolution (db : OutageDatabase) (outageId : String) (mttrMinutes : Int)
    (resolvedAt : Time) (steps : List (OutageStore × ResolutionEvent)) (t : OutageStore) :
    Prop where
  states : ∀ x ∈ steps, IsResolved outageId mttrMinutes resolvedAt x.1
  last : IsResolved outageId mttrMinutes resolvedAt t
  answers : ∀ x ∈ steps, AnswersFinal db outageId mttrMinutes x.1 x.2

/-- The event resolves the outage with its own MTTR only, or with one that the database does not
take, and writes no other resolution time. -/
def KeepsFinal (db : OutageDatabase) (outageId : String) (mttrMinutes : Int) (resolvedAt : Time)
    (s : OutageStore) : ResolutionEvent → Prop
  | .resolve outageId' mttrMinutes' now =>
    outageId' = outageId → mttrMinutes' ≠ mttrMinutes →
      ∀ o, getOrm s outageId = some o → db.refusesUpdate o (resolvedRow o mttrMinutes' now) ≠ none
  | .update method outageId' payload now =>
    outageId' = outageId → ∀ o, getOrm s outageId = some o → method.Takes db o payload now →
      payload.resolvedAt.getD (some resolvedAt) = some resolvedAt

/-! ## One operation -/

variable {db : OutageDatabase} {s : OutageStore} {outageId : String} {mttrMinutes : Int} {resolvedAt : Time}

theorem isResolved_saveOutage {orm : OutageORM} (h : IsResolved outageId mttrMinutes resolvedAt s) :
    IsResolved outageId mttrMinutes resolvedAt (saveOutage orm s) ↔
      (orm.id = outageId → orm.status = "resolved" ∧ orm.mttrMinutes = some mttrMinutes ∧
        orm.resolvedAt = some resolvedAt) := by
  obtain ⟨o, hfind, ho⟩ := h
  unfold IsResolved
  rw [getOrm_saveOutage, hfind]
  by_cases hid : outageId = orm.id
  · rw [if_pos hid, forall_prop_of_true hid.symm]
    simp
  · rw [if_neg hid]
    exact iff_of_true ⟨o, rfl, ho⟩ fun h => absurd h.symm hid

/-- **A resolution resolves** an open outage, and a resolved one with another MTTR, if the database
takes the MTTR. -/
theorem resolve_isResolved {o : OutageORM} (hfind : getOrm s outageId = some o)
    (hstatus : o.status = "open" ∨ o.status = "resolved") (now : Time)
    (hother : ¬ (o.status = "resolved" ∧ o.mttrMinutes = some mttrMinutes))
    (hfits : db.refusesUpdate o (resolvedRow o mttrMinutes now) = none) :
    IsResolved outageId mttrMinutes now (resolve db outageId mttrMinutes now s).2 ∧
      (resolve db outageId mttrMinutes now s).1 = .ok (some (resolvedRow o mttrMinutes now)) := by
  have houtcome := resolve_outcome db outageId mttrMinutes now s
  generalize resolve db outageId mttrMinutes now s = outcome at houtcome ⊢
  cases houtcome with
  | missing hnone =>
    rw [hfind] at hnone
    cases hnone
  | already hfind' hresolved hmttr =>
    rw [hfind] at hfind'
    cases hfind'
    exact absurd ⟨hresolved, hmttr⟩ hother
  | refused hfind' _ hrefused =>
    rw [hfind] at hfind'
    cases hfind'
    rcases hrefused with hunknown | hrefused
    · rcases hstatus with hopen | hresolved
      · exact absurd hopen hunknown.1
      · exact absurd hresolved hunknown.2
    · exact absurd hfits hrefused
  | resolved hfind' =>
    rw [hfind] at hfind'
    cases hfind'
    refine ⟨⟨resolvedRow o mttrMinutes now, ?_, rfl, rfl, rfl⟩, rfl⟩
    have hid : outageId = (resolvedRow o mttrMinutes now).id := (mem_of_getOrm hfind).2.symm
    rw [getOrm_saveOutage, if_pos hid, hfind]
    rfl

/-- **An update keeps the resolution** exactly if it does not write another resolution time. -/
theorem served_isResolved_iff (h : IsResolved outageId mttrMinutes resolvedAt s)
    (method : UpdateMethod) (outageId' : String) (payload : OutageUpdate) (now : Time) :
    IsResolved outageId mttrMinutes resolvedAt (serveUpdate db method outageId' payload now s).2 ↔
      KeepsFinal db outageId mttrMinutes resolvedAt s (.update method outageId' payload now) := by
  have houtcome := serveUpdate_outcome db method outageId' payload now s
  generalize serveUpdate db method outageId' payload now s = outcome at houtcome ⊢
  obtain ⟨o, hfind, hstatus, hmttr, hresolvedAt⟩ := h
  cases houtcome with
  | refused houtages hrefused =>
    refine iff_of_true ⟨o, ?_, hstatus, hmttr, hresolvedAt⟩ ?_
    · rw [← hfind]
      exact getOrm_congr houtages outageId
    · rintro rfl o' ho' htakes
      exact absurd htakes (hrefused o' ho')
  | @updated orm hfind' htakes =>
    show IsResolved outageId mttrMinutes resolvedAt (saveOutage (applied orm payload now) s) ↔ _
    rw [isResolved_saveOutage ⟨o, hfind, hstatus, hmttr, hresolvedAt⟩]
    have hid : (applied orm payload now).id = outageId' := (mem_of_getOrm hfind').2
    rw [hid]
    refine forall_congr' fun hsame => ?_
    subst hsame
    rw [hfind] at hfind'
    cases hfind'
    -- the status of a resolved outage stays, and no update writes the MTTR
    have hstays := htakes.accepts.stays_resolved hstatus
    have hnew : (applied o payload now).resolvedAt =
        payload.resolvedAt.getD (some resolvedAt) := by
      show payload.resolvedAt.getD o.resolvedAt = _
      rw [hresolvedAt]
    constructor
    · rintro ⟨-, -, hkept⟩ o' ho' -
      exact hnew.symm.trans hkept
    · intro hkept
      exact ⟨hstays, hmttr, hnew.trans (hkept o hfind htakes)⟩

/-- **A resolution keeps the earlier one** exactly if it is another outage's, has the same MTTR, or
one that the database does not take; then it is answered as a final one is. -/
theorem resolve_isResolved_iff (h : IsResolved outageId mttrMinutes resolvedAt s)
    (outageId' : String) (mttrMinutes' : Int) (now : Time) :
    (IsResolved outageId mttrMinutes resolvedAt (resolve db outageId' mttrMinutes' now s).2 ↔
      KeepsFinal db outageId mttrMinutes resolvedAt s (.resolve outageId' mttrMinutes' now)) ∧
    (KeepsFinal db outageId mttrMinutes resolvedAt s (.resolve outageId' mttrMinutes' now) →
      AnswersFinal db outageId mttrMinutes s (.resolve outageId' mttrMinutes' now)) := by
  have houtcome := resolve_outcome db outageId' mttrMinutes' now s
  have hstored := h
  obtain ⟨o, hfind, hstatus, hmttr, hresolvedAt⟩ := h
  unfold AnswersFinal KeepsFinal
  by_cases hid : outageId' = outageId
  · subst hid
    simp only [forall_prop_of_true]
    by_cases hsame : mttrMinutes' = mttrMinutes
    · -- the row is returned as it is
      have hreturned : resolve db outageId' mttrMinutes' now s = (.ok (some o), s) := by
        unfold resolve
        rw [hfind]
        exact if_pos ⟨hstatus, by rw [hmttr, hsame]⟩
      rw [hreturned, hfind]
      refine ⟨iff_of_true hstored fun hother => absurd hsame hother, fun _ => ?_⟩
      rw [if_pos hsame]
    · have hother : ¬ (o.status = "resolved" ∧ o.mttrMinutes = some mttrMinutes') := by
        rintro ⟨-, hmttr'⟩
        rw [hmttr] at hmttr'
        exact hsame (Option.some.inj hmttr').symm
      have hrefusal : (mttrMinutes' ≠ mttrMinutes → ∀ row, getOrm s outageId' = some row →
          db.refusesUpdate row (resolvedRow row mttrMinutes' now) ≠ none) ↔
          db.refusesUpdate o (resolvedRow o mttrMinutes' now) ≠ none := by
        rw [forall_prop_of_true hsame, hfind]
        exact ⟨fun h => h o rfl, fun h row hrow => by cases hrow; exact h⟩
      rw [hrefusal, if_neg hsame]
      by_cases hfits : db.refusesUpdate o (resolvedRow o mttrMinutes' now) = none
      · -- the row is written again
        have hwritten := (resolve_isResolved hfind (.inr hstatus) now hother hfits).1
        refine ⟨iff_of_false ?_ (not_not.mpr hfits), fun h => absurd hfits h⟩
        rintro ⟨o₁, hfind₁, -, hmttr₁, -⟩
        obtain ⟨o₂, hfind₂, -, hmttr₂, -⟩ := hwritten
        rw [hfind₁] at hfind₂
        cases hfind₂
        rw [hmttr₁] at hmttr₂
        exact hsame (Option.some.inj hmttr₂).symm
      · -- the commit is refused
        generalize resolve db outageId' mttrMinutes' now s = outcome at houtcome ⊢
        cases houtcome with
        | missing hnone =>
          rw [hfind] at hnone
          cases hnone
        | already hfind' hstatus' hmttr' =>
          rw [hfind] at hfind'
          cases hfind'
          exact absurd ⟨hstatus', hmttr'⟩ hother
        | refused => exact ⟨iff_of_true hstored hfits, fun _ => ⟨_, rfl⟩⟩
        | resolved hfind' _ _ hfits' =>
          rw [hfind] at hfind'
          cases hfind'
          exact absurd hfits' hfits
  · refine ⟨iff_of_true ?_ fun h => absurd h hid, fun _ h => absurd h hid⟩
    generalize resolve db outageId' mttrMinutes' now s = outcome at houtcome ⊢
    cases houtcome with
    | missing => exact hstored
    | already => exact hstored
    | refused => exact hstored
    | @resolved orm hfind' =>
      refine (isResolved_saveOutage hstored).mpr fun hsaved => absurd ?_ hid
      rw [← hsaved]
      exact (mem_of_getOrm hfind').2.symm

/-! ## Over runs -/

/-- **The resolution is final** in a run exactly if every event resolves the outage with its own
MTTR only, or with one that the database does not take, and writes no other resolution time. -/
theorem resolution_final_of_run {t : OutageStore} {steps : List (OutageStore × ResolutionEvent)}
    (hresolved : IsResolved outageId mttrMinutes resolvedAt s) (hrun : ResolutionRun db s steps t) :
    FinalResolution db outageId mttrMinutes resolvedAt steps t ↔
      ∀ x ∈ steps, KeepsFinal db outageId mttrMinutes resolvedAt x.1 x.2 := by
  have hstates : ((∀ x ∈ steps, IsResolved outageId mttrMinutes resolvedAt x.1) ∧
      IsResolved outageId mttrMinutes resolvedAt t) ↔
      ∀ x ∈ steps, KeepsFinal db outageId mttrMinutes resolvedAt x.1 x.2 := by
    refine Runs.Run.forall_iff (I := fun _ => True) trivial hresolved (fun _ _ _ _ _ => trivial) ?_
      hrun
    rintro u e u' - hu rfl
    cases e with
    | resolve outageId' mttrMinutes' now =>
      exact (resolve_isResolved_iff hu outageId' mttrMinutes' now).1
    | update method outageId' payload now =>
      exact served_isResolved_iff hu method outageId' payload now
  constructor
  · intro h
    exact hstates.mp ⟨h.states, h.last⟩
  · intro h
    obtain ⟨hvisited, hlast⟩ := hstates.mpr h
    refine ⟨hvisited, hlast, ?_⟩
    rintro ⟨u, e⟩ hx
    cases e with
    | resolve outageId' mttrMinutes' now =>
      exact (resolve_isResolved_iff (hvisited _ hx) outageId' mttrMinutes' now).2 (h _ hx)
    | update => trivial

/-! ## A resolution that is not final -/

/-- `openOutage`, resolved with an MTTR of 60 minutes at time 1. -/
def resolvedOutages : OutageStore := { outages := [resolvedRow openOutage 60 1] }

/-- The outage is resolved again with the same MTTR and with one that is out of range, and then with
another one. -/
def laterResolutions : List ResolutionEvent :=
  [.resolve "outage-1" 60 2, .resolve "outage-1" 2147483648 3, .resolve "outage-1" 90 4]

theorem resolution_final_of_resolvedOutages :
    let serve := fun s e => (serveResolution declaredDatabase s e).2
    let steps := Runs.replay serve resolvedOutages laterResolutions
    FinalResolution declaredDatabase "outage-1" 60 1 steps
        (laterResolutions.foldl serve resolvedOutages) ↔
      ∀ x ∈ steps, KeepsFinal declaredDatabase "outage-1" 60 1 x.1 x.2 :=
  resolution_final_of_run ⟨resolvedRow openOutage 60 1, by decide, rfl, rfl, rfl⟩
    (Runs.replay_run _ resolvedOutages _)

/-- A second resolution with 90 minutes is accepted and replaces the first; so does a patch of
`resolved_at`. -/
theorem resolution_not_final :
    resolve declaredDatabase "outage-1" 60 1 openOutages =
      (.ok (some (resolvedRow openOutage 60 1)), resolvedOutages) ∧
    (resolve declaredDatabase "outage-1" 90 3 resolvedOutages).1 =
      .ok (some (resolvedRow openOutage 90 3)) ∧
    ¬ IsResolved "outage-1" 60 1 (resolve declaredDatabase "outage-1" 90 3 resolvedOutages).2 ∧
    ¬ IsResolved "outage-1" 60 1
      (serveUpdate declaredDatabase .patch "outage-1" { resolvedAt := some (some 0) } 3
        resolvedOutages).2 := by
  refine ⟨by decide +kernel, by decide +kernel, ?_, ?_⟩
  · rintro ⟨o, hfind, -, hmttr, -⟩
    have hrow : getOrm (resolve declaredDatabase "outage-1" 90 3 resolvedOutages).2 "outage-1" =
        some (resolvedRow openOutage 90 3) := by decide +kernel
    rw [hrow] at hfind
    cases hfind
    exact absurd hmttr (by decide)
  · rintro ⟨o, hfind, -, -, hresolvedAt⟩
    have hrow : getOrm (serveUpdate declaredDatabase .patch "outage-1"
        { resolvedAt := some (some 0) } 3 resolvedOutages).2 "outage-1" =
        some (applied (resolvedRow openOutage 60 1) { resolvedAt := some (some 0) } 3) := by
      decide +kernel
    rw [hrow] at hfind
    cases hfind
    exact absurd hresolvedAt (by decide)

end NocIq
