import NocIq.Outage.Resolution

/-!
# NocIq — what an update and a resolution do

`update` and `resolve` of `NocIq.Outage.Repository`, each with everything it can do: the row it
leaves is the old one with the sent columns replaced, and it is refused exactly for a forbidden
change of the status, a `null` in a column that takes none, or a value that the database does not
take.

* **`assigned_eq_ok`** — the row an update leaves.
* **`update_outcome` / `resolve_outcome`** — the outcomes of the two operations.
* **`serveUpdate_outcome`** — the outcomes of PUT and PATCH.
-/

namespace NocIq

/-- A request that sends `null` for a column that takes none. -/
def OutageUpdate.NullsRequired (payload : OutageUpdate) : Prop :=
  payload.status = some none ∨ payload.siteName = some none ∨ payload.severity = some none ∨
    payload.description = some none ∨ payload.affectedServices = some none

instance (payload : OutageUpdate) : Decidable payload.NullsRequired :=
  inferInstanceAs (Decidable (_ ∨ _))

namespace OutageRepository

/-! ## `update` -/

/-- The row with the sent columns replaced. -/
def applied (orm : OutageORM) (payload : OutageUpdate) (now : Time) : OutageORM :=
  { orm with
    status := (payload.status.join.map (·.value)).getD orm.status
    siteName := payload.siteName.join.getD orm.siteName
    severity := (payload.severity.join.map (·.value)).getD orm.severity
    description := payload.description.join.getD orm.description
    affectedServices := payload.affectedServices.join.getD orm.affectedServices
    resolvedAt := payload.resolvedAt.getD orm.resolvedAt
    affectedSubscribers := payload.affectedSubscribers.getD orm.affectedSubscribers
    assignedTo := payload.assignedTo.getD orm.assignedTo
    createdBy := payload.createdBy.getD orm.createdBy
    location := payload.location.getD orm.location
    updatedAt := now }

theorem setNullable_eq {α : Type} (old : Option α) (sent : Sent α) :
    setNullable old sent = sent.getD old := by
  cases sent with
  | none => rfl
  | some value => rfl

theorem setRequired_eq {α : Type} [DecidableEq α] (column : String) (old : α) (sent : Sent α) :
    setRequired column old sent =
      if sent = some none then .error (.integrityError column) else .ok (sent.join.getD old) := by
  rcases sent with _ | _ | value
  · rfl
  · rfl
  · rfl

theorem setRequired_map {α β : Type} [DecidableEq α] (column : String) (old : β) (f : α → β)
    (sent : Sent α) :
    setRequired column old (sent.map (·.map f)) =
      if sent = some none then .error (.integrityError column)
      else .ok ((sent.join.map f).getD old) := by
  rcases sent with _ | _ | value
  · rfl
  · rfl
  · rfl

variable {orm : OutageORM} {payload : OutageUpdate}

/-- **The row an update leaves.** -/
theorem assigned_eq_ok {orm' : OutageORM} {now : Time} :
    assigned orm payload now = .ok orm' ↔
      ¬ payload.NullsRequired ∧ orm' = applied orm payload now := by
  unfold assigned OutageUpdate.NullsRequired
  simp only [setRequired_map]
  simp only [setRequired_eq, setNullable_eq, bind, Except.bind, pure, Except.pure]
  -- the first `null` of a required column ends the assignment
  by_cases hstatus : payload.status = some none
  · simp [hstatus]
  by_cases hsiteName : payload.siteName = some none
  · simp [hstatus, hsiteName]
  by_cases hseverity : payload.severity = some none
  · simp [hstatus, hsiteName, hseverity]
  by_cases hdescription : payload.description = some none
  · simp [hstatus, hsiteName, hseverity, hdescription]
  by_cases hservices : payload.affectedServices = some none
  · simp [hstatus, hsiteName, hseverity, hdescription, hservices]
  simp only [hstatus, hsiteName, hseverity, hdescription, hservices, if_false, or_self,
    not_false_eq_true, true_and]
  exact ⟨fun h => (Except.ok.inj h).symm, fun h => by rw [h]; rfl⟩

/-- The update that `orm` takes. -/
structure Accepts (db : OutageDatabase) (orm : OutageORM) (payload : OutageUpdate) (now : Time) :
    Prop where
  check : checkStatus orm payload = .ok ()
  required : ¬ payload.NullsRequired
  fits : db.refusesUpdate orm (applied orm payload now) = none

variable {db : OutageDatabase}

/-- The outcomes of `update`, each with the facts that lead to it. -/
inductive UpdateOutcome (db : OutageDatabase) (outageId : String) (payload : OutageUpdate)
    (now : Time) (s : OutageStore) : Except Exc (Option OutageORM) × OutageStore → Prop where
  | missing (hfind : getOrm s outageId = none) :
      UpdateOutcome db outageId payload now s (.ok none, s)
  | refused {orm : OutageORM} {e : Exc} (hfind : getOrm s outageId = some orm)
      (hrefused : ¬ Accepts db orm payload now) :
      UpdateOutcome db outageId payload now s (.error e, s)
  | updated {orm : OutageORM} (hfind : getOrm s outageId = some orm)
      (haccepted : Accepts db orm payload now) :
      UpdateOutcome db outageId payload now s
        (.ok (some (applied orm payload now)), saveOutage (applied orm payload now) s)

/-- **What an update does.** -/
theorem update_outcome (db : OutageDatabase) (outageId : String) (payload : OutageUpdate)
    (now : Time) (s : OutageStore) :
    UpdateOutcome db outageId payload now s (update db outageId payload now s) := by
  unfold update
  cases hfind : getOrm s outageId with
  | none => exact .missing hfind
  | some orm =>
    dsimp only
    cases hcheck : checkStatus orm payload with
    | error e =>
      refine .refused hfind fun haccepted => ?_
      have hok := haccepted.check
      rw [hcheck] at hok
      cases hok
    | ok u =>
      dsimp only
      cases hassigned : assigned orm payload now with
      | error e =>
        refine .refused hfind fun haccepted => ?_
        have hok : assigned orm payload now = .ok (applied orm payload now) :=
          assigned_eq_ok.mpr ⟨haccepted.required, rfl⟩
        rw [hassigned] at hok
        cases hok
      | ok orm' =>
        obtain ⟨hnulls, rfl⟩ := assigned_eq_ok.mp hassigned
        dsimp only
        unfold commitRow
        cases hfits : db.refusesUpdate orm (applied orm payload now) with
        | none => exact .updated hfind ⟨hcheck, hnulls, hfits⟩
        | some e =>
          refine .refused hfind fun haccepted => ?_
          rw [haccepted.fits] at hfits
          cases hfits

theorem Accepts.status {now : Time} (h : Accepts db orm payload now) {target : OutageStatus}
    (hsent : payload.status = some (some target)) :
    (orm.status = "open" ∧ (target.value = "open" ∨ target.value = "resolved")) ∨
      (orm.status = "resolved" ∧ target.value = "resolved") := by
  have hcheck := h.check
  unfold checkStatus at hcheck
  rw [hsent] at hcheck
  exact validateStatusTransition_eq_ok.mp hcheck

theorem Accepts.applied_status {now : Time} (h : Accepts db orm payload now) :
    payload.status = none ∧ (applied orm payload now).status = orm.status ∨
      ∃ target, payload.status = some (some target) ∧
        (applied orm payload now).status = target.value := by
  unfold applied
  rcases hsent : payload.status with _ | _ | target
  · exact .inl ⟨rfl, rfl⟩
  · exact absurd (.inl hsent) h.required
  · exact .inr ⟨target, rfl, rfl⟩

theorem Accepts.stays_resolved {now : Time} (h : Accepts db orm payload now)
    (hresolved : orm.status = "resolved") : (applied orm payload now).status = "resolved" := by
  rcases h.applied_status with ⟨-, hsame⟩ | ⟨target, hsent, hnew⟩
  · exact hsame.trans hresolved
  · rcases h.status hsent with ⟨hopen, -⟩ | ⟨-, htarget⟩
    · rw [hresolved] at hopen
      exact absurd hopen (by decide)
    · exact hnew.trans htarget

/-! ## `resolve` -/

/-- The row `resolve` leaves. -/
def resolvedRow (orm : OutageORM) (mttrMinutes : Int) (now : Time) : OutageORM :=
  { orm with
    status := OutageStatus.resolved.value
    mttrMinutes := some mttrMinutes
    resolvedAt := some now
    updatedAt := now }

/-- The outcomes of `resolve`, each with the facts that lead to it. -/
inductive ResolveOutcome (db : OutageDatabase) (outageId : String) (mttrMinutes : Int) (now : Time)
    (s : OutageStore) : Except Exc (Option OutageORM) × OutageStore → Prop where
  | missing (hfind : getOrm s outageId = none) :
      ResolveOutcome db outageId mttrMinutes now s (.ok none, s)
  | already {orm : OutageORM} (hfind : getOrm s outageId = some orm)
      (hstatus : orm.status = "resolved") (hmttr : orm.mttrMinutes = some mttrMinutes) :
      ResolveOutcome db outageId mttrMinutes now s (.ok (some orm), s)
  | refused {orm : OutageORM} {e : Exc} (hfind : getOrm s outageId = some orm)
      (hother : ¬ (orm.status = "resolved" ∧ orm.mttrMinutes = some mttrMinutes))
      (hrefused : (orm.status ≠ "open" ∧ orm.status ≠ "resolved") ∨
        db.refusesUpdate orm (resolvedRow orm mttrMinutes now) ≠ none) :
      ResolveOutcome db outageId mttrMinutes now s (.error e, s)
  | resolved {orm : OutageORM} (hfind : getOrm s outageId = some orm)
      (hstatus : orm.status = "open" ∨ orm.status = "resolved")
      (hother : ¬ (orm.status = "resolved" ∧ orm.mttrMinutes = some mttrMinutes))
      (hfits : db.refusesUpdate orm (resolvedRow orm mttrMinutes now) = none) :
      ResolveOutcome db outageId mttrMinutes now s
        (.ok (some (resolvedRow orm mttrMinutes now)), saveOutage (resolvedRow orm mttrMinutes now) s)

/-- **What a resolution does.** -/
theorem resolve_outcome (db : OutageDatabase) (outageId : String) (mttrMinutes : Int) (now : Time)
    (s : OutageStore) :
    ResolveOutcome db outageId mttrMinutes now s (resolve db outageId mttrMinutes now s) := by
  unfold resolve
  cases hfind : getOrm s outageId with
  | none => exact .missing hfind
  | some orm =>
    dsimp only
    by_cases hsame : orm.status = OutageStatus.resolved.value ∧ orm.mttrMinutes = some mttrMinutes
    · rw [if_pos hsame]
      exact .already hfind hsame.1 hsame.2
    rw [if_neg hsame]
    cases hcheck : validateStatusTransition orm.status OutageStatus.resolved.value with
    | error e =>
      refine .refused hfind hsame (.inl ?_)
      -- an outage that is open or resolved passes the check
      have hrefused : ¬ validateStatusTransition orm.status OutageStatus.resolved.value = .ok () := by
        rw [hcheck]
        exact nofun
      rw [validateStatusTransition_eq_ok] at hrefused
      exact ⟨fun hopen => hrefused (.inl ⟨hopen, .inr rfl⟩),
        fun hresolved => hrefused (.inr ⟨hresolved, rfl⟩)⟩
    | ok u =>
      dsimp only
      unfold commitRow
      rw [show ({ orm with
        status := OutageStatus.resolved.value
        mttrMinutes := some mttrMinutes
        resolvedAt := some now
        updatedAt := now } : OutageORM) = resolvedRow orm mttrMinutes now from rfl]
      cases hfits : db.refusesUpdate orm (resolvedRow orm mttrMinutes now) with
      | some e => exact .refused hfind hsame (.inr (by rw [hfits]; exact Option.some_ne_none e))
      | none =>
        refine .resolved hfind ?_ hsame hfits
        rcases validateStatusTransition_eq_ok.mp hcheck with ⟨hopen, -⟩ | ⟨hresolved, -⟩
        · exact .inl hopen
        · exact .inr hresolved

/-! ## Rows of the table -/

variable {s : OutageStore}

theorem mem_of_getOrm {outageId : String} (hfind : getOrm s outageId = some orm) :
    orm ∈ s.outages ∧ orm.id = outageId := by
  refine ⟨List.mem_of_find?_eq_some hfind, ?_⟩
  simpa using List.find?_some hfind

theorem mem_saveOutage {o : OutageORM} (h : o ∈ (saveOutage orm s).outages) :
    o = orm ∨ (o ∈ s.outages ∧ o.id ≠ orm.id) := by
  obtain ⟨o', ho', rfl⟩ := List.mem_map.mp h
  unfold replaceOutage
  split
  · exact .inl rfl
  · exact .inr ⟨ho', by assumption⟩

theorem mem_saveOutage_self {o : OutageORM} (ho : o ∈ s.outages) (hid : o.id = orm.id) :
    orm ∈ (saveOutage orm s).outages := by
  refine List.mem_map.mpr ⟨o, ho, ?_⟩
  unfold replaceOutage
  rw [if_pos hid]

/-- The lookup after a save. Induction on the rows. -/
theorem getOrm_saveOutage {outageId : String} :
    getOrm (saveOutage orm s) outageId =
      if outageId = orm.id then (getOrm s outageId).map fun _ => orm else getOrm s outageId := by
  unfold getOrm saveOutage
  dsimp only
  induction s.outages with
  | nil => simp
  | cons o rows ih =>
    rw [List.map_cons, List.find?_cons, List.find?_cons, ih]
    unfold replaceOutage
    by_cases hrow : o.id = orm.id
    · simp only [hrow, if_true]
      by_cases hid : orm.id = outageId
      · simp [hid]
      · simp [hid, Ne.symm hid]
    · simp only [hrow, if_false]
      by_cases hid : o.id = outageId
      · have hother : outageId ≠ orm.id := fun h => hrow (hid.trans h)
        simp [hid, hother]
      · simp [hid]

end OutageRepository

open OutageRepository

/-! ## PUT and PATCH -/

inductive UpdateMethod where
  | put
  | patch
  deriving DecidableEq, Repr

/-- `PUT /outages/{id}` and `PATCH /outages/{id}`. -/
def serveUpdate (db : OutageDatabase) : UpdateMethod → String → OutageUpdate → Time →
    OutageStore → Except Exc (Option OutageORM) × OutageStore
  | .put => updateOutage db
  | .patch => patchOutage db

/-- The updates of `orm` a method takes. PUT asks the state machine too, which lets none of the
repository's transitions pass. -/
def UpdateMethod.Takes (db : OutageDatabase) :
    UpdateMethod → OutageORM → OutageUpdate → Time → Prop
  | .put, orm, payload, now => Accepts db orm payload now ∧ payload.status = none
  | .patch, orm, payload, now => Accepts db orm payload now

variable {db : OutageDatabase}

theorem UpdateMethod.Takes.accepts {method : UpdateMethod} {orm : OutageORM}
    {payload : OutageUpdate} {now : Time} (h : method.Takes db orm payload now) :
    Accepts db orm payload now := by
  cases method with
  | put => exact h.1
  | patch => exact h

/-- The outcomes of the two endpoints, each with the facts that lead to it. A refusal can leave an
audit entry of the state machine. -/
inductive ServedUpdate (db : OutageDatabase) (method : UpdateMethod) (outageId : String)
    (payload : OutageUpdate) (now : Time) (s : OutageStore) :
    Except Exc (Option OutageORM) × OutageStore → Prop where
  | refused {e : Exc} {s' : OutageStore} (houtages : s'.outages = s.outages)
      (hrefused : ∀ orm, getOrm s outageId = some orm → ¬ method.Takes db orm payload now) :
      ServedUpdate db method outageId payload now s (.error e, s')
  | updated {orm : OutageORM} (hfind : getOrm s outageId = some orm)
      (htakes : method.Takes db orm payload now) :
      ServedUpdate db method outageId payload now s
        (.ok (some (applied orm payload now)), saveOutage (applied orm payload now) s)

theorem patchOutage_outcome (outageId : String) (payload : OutageUpdate) (now : Time)
    (s : OutageStore) :
    ServedUpdate db .patch outageId payload now s (patchOutage db outageId payload now s) := by
  unfold patchOutage
  cases hfind : getOrm s outageId with
  | none => exact .refused rfl fun orm h => by rw [hfind] at h; cases h
  | some orm =>
    dsimp only
    have hupdate := update_outcome db outageId payload now s
    generalize update db outageId payload now s = outcome at hupdate ⊢
    cases hupdate with
    | missing hnone =>
      rw [hfind] at hnone
      cases hnone
    | refused hfind' hrefused =>
      refine .refused rfl fun orm' h => ?_
      rw [hfind'] at h
      cases h
      exact hrefused
    | updated hfind' haccepted => exact .updated hfind' haccepted

theorem updateOutage_outcome (outageId : String) (payload : OutageUpdate) (now : Time)
    (s : OutageStore) :
    ServedUpdate db .put outageId payload now s (updateOutage db outageId payload now s) := by
  have hnever : ∀ {target}, payload.status = some (some target) →
      ¬ Accepted (updateOutage db outageId payload now s) :=
    fun hsent => updateOutage_refused hsent outageId now s
  unfold updateOutage at hnever ⊢
  cases hfind : getOrm s outageId with
  | none => exact .refused rfl fun orm h => by rw [hfind] at h; cases h
  | some orm =>
    rw [hfind] at hnever
    dsimp only at hnever ⊢
    by_cases hsends : ∃ target, payload.status = some (some target)
    · -- a status is sent: the two tables agree on none
      obtain ⟨target, hsent⟩ := hsends
      have hrefused : ∀ orm', getOrm s outageId = some orm' →
          ¬ UpdateMethod.put.Takes db orm' payload now := by
        rintro orm' - ⟨-, hnone⟩
        rw [hsent] at hnone
        cases hnone
      have hcheck : checkTransition outageId orm payload now s =
          OutageStateMachine.transition outageId orm.status target.value now s := by
        unfold checkTransition
        rw [hsent]
      rw [hcheck] at hnever ⊢
      rcases transition_cases outageId orm.status target.value now s with
        ⟨e, he⟩ | ⟨-, s', hs', houtages⟩
      · rw [he]
        exact .refused rfl hrefused
      · rw [hs'] at hnever ⊢
        dsimp only at hnever ⊢
        have hupdate := update_outcome db outageId payload now s'
        generalize update db outageId payload now s' = outcome at hupdate hnever ⊢
        cases hupdate with
        | missing hnone =>
          rw [getOrm_congr houtages, hfind] at hnone
          cases hnone
        | refused => exact .refused houtages hrefused
        | updated => exact absurd ⟨_, rfl⟩ (hnever hsent)
    · -- none is sent, so the state machine is not asked; the database refuses a `null`
      have hcheck : checkTransition outageId orm payload now s = (.ok (), s) := by
        unfold checkTransition
        rcases hsent : payload.status with _ | _ | target
        · rfl
        · rfl
        · exact absurd ⟨target, hsent⟩ hsends
      rw [hcheck]
      dsimp only
      have hupdate := update_outcome db outageId payload now s
      generalize update db outageId payload now s = outcome at hupdate ⊢
      cases hupdate with
      | missing hnone =>
        rw [hfind] at hnone
        cases hnone
      | refused hfind' hrefused =>
        refine .refused rfl fun orm' h => ?_
        rw [hfind'] at h
        cases h
        exact fun htakes => hrefused htakes.1
      | updated hfind' haccepted =>
        rcases haccepted.applied_status with ⟨hsent, -⟩ | ⟨target, hsent, -⟩
        · exact .updated hfind' ⟨haccepted, hsent⟩
        · exact absurd ⟨target, hsent⟩ hsends

/-- **What PUT and PATCH do.** -/
theorem serveUpdate_outcome (db : OutageDatabase) (method : UpdateMethod) (outageId : String)
    (payload : OutageUpdate) (now : Time) (s : OutageStore) :
    ServedUpdate db method outageId payload now s
      (serveUpdate db method outageId payload now s) := by
  cases method with
  | put => exact updateOutage_outcome outageId payload now s
  | patch => exact patchOutage_outcome outageId payload now s

end NocIq
