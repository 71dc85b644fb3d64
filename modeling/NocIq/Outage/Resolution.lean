import NocIq.Lib.Runs
import NocIq.Outage.Repository

/-!
# NocIq — resolving an outage

`OutageStateMachine` of `app/core/outage_state_machine.py` and the endpoints that change the status
of an outage: `update_outage` (PUT), `patch_outage` (PATCH) and the checks of `resolve_outage`. Two
tables guard one column. The state machine knows `investigating`, `active` and `resolved`; the
repository knows `open` and `resolved`, and these are what the creation paths store.

* **`no_common_transition`** — no transition is in both tables.
* **`resolution_contract_iff`** — for which outages and targets the endpoints keep their contract.
-/

namespace NocIq

open OutageRepository

/-! ## The state machine -/

namespace OutageStateMachine

def validTransitions : List (String × List String) :=
  [("investigating", ["active", "resolved"]), ("active", ["resolved"]), ("resolved", [])]

def canTransition (fromStatus toStatus : String) : Bool :=
  decide (toStatus ∈ (validTransitions.lookup fromStatus).getD [])

/-- `{VALID_TRANSITIONS[from_status] or '(none)'}`, with the set in the order of the source. -/
def nextStatesText (states : List String) : String :=
  if states = [] then "(none)"
  else "\x7b" ++ ", ".intercalate (states.map fun state => s!"'{state}'") ++ "\x7d"

def validateTransition (fromStatus toStatus : String) : Except Exc Unit :=
  match validTransitions.lookup fromStatus with
  | none => .error (.valueError s!"Unknown outage status: {fromStatus}")
  | some states =>
    if canTransition fromStatus toStatus then .ok ()
    else
      .error (.valueError
        (s!"Invalid transition: {fromStatus} -> {toStatus}. Valid transitions from '{fromStatus}': "
          ++ nextStatesText states))

def transition (outageId fromStatus toStatus : String) (now : Time) (s : OutageStore) :
    Except Exc Unit × OutageStore :=
  match validateTransition fromStatus toStatus with
  | .error e => (.error e, s)
  | .ok () =>
    let details : List (String × DetailValue) :=
      [("outage_id", .str outageId), ("from_status", .str fromStatus), ("to_status", .str toStatus)]
    (.ok (), { s with auditLogs := s.auditLogs ++ [⟨"outage_status_transition", details, now⟩] })

theorem validTransitions_lookup (fromStatus : String) :
    validTransitions.lookup fromStatus =
      if fromStatus = "investigating" then some ["active", "resolved"]
      else if fromStatus = "active" then some ["resolved"]
      else if fromStatus = "resolved" then some [] else none := by
  unfold validTransitions
  by_cases hinvestigating : fromStatus = "investigating"
  · rw [hinvestigating]
    rfl
  rw [if_neg hinvestigating, List.lookup_cons, beq_false_of_ne hinvestigating]
  by_cases hactive : fromStatus = "active"
  · rw [hactive]
    rfl
  rw [if_neg hactive]
  dsimp only
  rw [List.lookup_cons, beq_false_of_ne hactive]
  by_cases hresolved : fromStatus = "resolved"
  · rw [hresolved]
    rfl
  rw [if_neg hresolved]
  dsimp only
  rw [List.lookup_cons, beq_false_of_ne hresolved]
  rfl

theorem allowed_of_validateTransition {fromStatus toStatus : String}
    (h : validateTransition fromStatus toStatus = .ok ()) :
    (fromStatus = "investigating" ∧ (toStatus = "active" ∨ toStatus = "resolved")) ∨
      (fromStatus = "active" ∧ toStatus = "resolved") := by
  have hnext : toStatus ∈ (validTransitions.lookup fromStatus).getD [] := by
    unfold validateTransition canTransition at h
    split at h
    · cases h
    · by_contra hnot
      rw [if_neg (by simpa using hnot)] at h
      cases h
  rw [validTransitions_lookup] at hnext
  by_cases hinvestigating : fromStatus = "investigating"
  · rw [if_pos hinvestigating] at hnext
    exact .inl ⟨hinvestigating, by simpa using hnext⟩
  rw [if_neg hinvestigating] at hnext
  by_cases hactive : fromStatus = "active"
  · rw [if_pos hactive] at hnext
    exact .inr ⟨hactive, by simpa using hnext⟩
  rw [if_neg hactive] at hnext
  split at hnext
  · cases hnext
  · cases hnext

end OutageStateMachine

/-! ## The endpoints -/

/-- `except ValueError as exc: raise HTTPException(status_code=400, detail=str(exc))`. -/
def valueErrorAs400 : Exc → Exc
  | .valueError message => .http 400 message
  | e => e

/-- `PATCH /outages/{id}`. -/
def patchOutage (db : OutageDatabase) (outageId : String) (payload : OutageUpdate) (now : Time)
    (s : OutageStore) : Except Exc (Option OutageORM) × OutageStore :=
  match getOrm s outageId with
  | none => (.error (.http 404 "Outage not found"), s)
  | some _ =>
    match update db outageId payload now s with
    | (.error e, s) => (.error (valueErrorAs400 e), s)
    | (.ok updated, s) => (.ok updated, s)

/-- `if payload.status is not None: OutageStateMachine.transition(…)`. -/
def checkTransition (outageId : String) (existing : OutageORM) (payload : OutageUpdate) (now : Time)
    (s : OutageStore) : Except Exc Unit × OutageStore :=
  match payload.status with
  | some (some status) =>
    OutageStateMachine.transition outageId existing.status status.value now s
  | _ => (.ok (), s)

/-- `PUT /outages/{id}`. -/
def updateOutage (db : OutageDatabase) (outageId : String) (payload : OutageUpdate) (now : Time)
    (s : OutageStore) : Except Exc (Option OutageORM) × OutageStore :=
  match getOrm s outageId with
  | none => (.error (.http 404 "Outage not found"), s)
  | some existing =>
    match checkTransition outageId existing payload now s with
    | (.error e, s) => (.error (valueErrorAs400 e), s)
    | (.ok (), s) =>
      match update db outageId payload now s with
      | (.error e, s) => (.error (valueErrorAs400 e), s)
      | (.ok updated, s) => (.ok updated, s)

/-- `POST /outages/{id}/resolve`, up to the point where the outage is resolved: the advisory lock
is free, and the SLA and the payment come later. -/
def resolveOutage (db : OutageDatabase) (outageId : String) (mttrMinutes : Int) (now : Time)
    (s : OutageStore) : Except Exc (Option OutageORM) × OutageStore :=
  match getOrm s outageId with
  | none => (.error (.http 404 "Outage not found"), s)
  | some outage =>
    match OutageStateMachine.transition outageId outage.status "resolved" now s with
    | (.error e, s) => (.error (valueErrorAs400 e), s)
    | (.ok (), s) =>
      match resolve db outageId mttrMinutes now s with
      | (.error e, s) => (.error (valueErrorAs400 e), s)
      | (.ok none, s) => (.error (.http 404 "Outage not found"), s)
      | (.ok (some outage), s) => (.ok (some outage), s)

def Accepted (outcome : Except Exc (Option OutageORM) × OutageStore) : Prop :=
  ∃ outage, outcome.1 = .ok (some outage)

/-! ## The two tables -/

variable {db : OutageDatabase}

/-- **No transition is in both tables.** -/
theorem no_common_transition {fromStatus toStatus : String}
    (hmachine : OutageStateMachine.validateTransition fromStatus toStatus = .ok ())
    (hrepository : validateStatusTransition fromStatus toStatus = .ok ()) : False := by
  rcases OutageStateMachine.allowed_of_validateTransition hmachine with ⟨rfl, -⟩ | ⟨rfl, -⟩
  · rcases validateStatusTransition_eq_ok.mp hrepository with ⟨h, -⟩ | ⟨h, -⟩
    · exact absurd h (by decide)
    · exact absurd h (by decide)
  · rcases validateStatusTransition_eq_ok.mp hrepository with ⟨h, -⟩ | ⟨h, -⟩
    · exact absurd h (by decide)
    · exact absurd h (by decide)

theorem transition_outages (outageId fromStatus toStatus : String) (now : Time) (s : OutageStore) :
    (OutageStateMachine.transition outageId fromStatus toStatus now s).2.outages = s.outages := by
  unfold OutageStateMachine.transition
  split <;> rfl

theorem getOrm_congr {s s' : OutageStore} (h : s'.outages = s.outages) (outageId : String) :
    getOrm s' outageId = getOrm s outageId := by
  unfold getOrm
  rw [h]

theorem transition_cases (outageId fromStatus toStatus : String) (now : Time) (s : OutageStore) :
    (∃ e, OutageStateMachine.transition outageId fromStatus toStatus now s = (.error e, s)) ∨
      (OutageStateMachine.validateTransition fromStatus toStatus = .ok () ∧
        ∃ s', OutageStateMachine.transition outageId fromStatus toStatus now s = (.ok (), s') ∧
          s'.outages = s.outages) := by
  have houtages := transition_outages outageId fromStatus toStatus now s
  unfold OutageStateMachine.transition at houtages ⊢
  cases h : OutageStateMachine.validateTransition fromStatus toStatus with
  | error e => exact .inl ⟨e, rfl⟩
  | ok u =>
    rw [h] at houtages
    exact .inr ⟨rfl, _, rfl, houtages⟩

theorem resolve_of_transition (db : OutageDatabase) {s : OutageStore} {outageId : String}
    {orm : OutageORM} (hfind : getOrm s outageId = some orm)
    (hmachine : OutageStateMachine.validateTransition orm.status "resolved" = .ok ())
    (mttrMinutes : Int) (now : Time) :
    ∃ e, resolve db outageId mttrMinutes now s = (.error e, s) := by
  have hnot : ¬ (orm.status = OutageStatus.resolved.value ∧ orm.mttrMinutes = some mttrMinutes) := by
    intro hboth
    rw [hboth.1] at hmachine
    rcases OutageStateMachine.allowed_of_validateTransition hmachine with ⟨h, -⟩ | ⟨h, -⟩
    · exact absurd h (by decide)
    · exact absurd h (by decide)
  cases hrepository : validateStatusTransition orm.status OutageStatus.resolved.value with
  | ok u => exact absurd hrepository fun h => no_common_transition hmachine h
  | error e =>
    refine ⟨e, ?_⟩
    unfold resolve
    rw [hfind]
    dsimp only
    rw [if_neg hnot, hrepository]

/-- **`resolve_outage` accepts no outage at all**, whatever its status. -/
theorem resolveOutage_refused (outageId : String) (mttrMinutes : Int) (now : Time)
    (s : OutageStore) : ¬ Accepted (resolveOutage db outageId mttrMinutes now s) := by
  rintro ⟨outage, haccepted⟩
  unfold resolveOutage at haccepted
  cases hfind : getOrm s outageId with
  | none =>
    rw [hfind] at haccepted
    cases haccepted
  | some orm =>
    rw [hfind] at haccepted
    dsimp only at haccepted
    rcases transition_cases outageId orm.status "resolved" now s with
      ⟨e, he⟩ | ⟨hmachine, s', hs', houtages⟩
    · rw [he] at haccepted
      cases haccepted
    · -- the machine let it pass, so the repository does not
      rw [hs'] at haccepted
      dsimp only at haccepted
      have hfind' : getOrm s' outageId = some orm := by rw [getOrm_congr houtages, hfind]
      obtain ⟨e, hresolve⟩ := resolve_of_transition db hfind' hmachine mttrMinutes now
      rw [hresolve] at haccepted
      cases haccepted

/-- **PUT accepts no change of the status.** -/
theorem updateOutage_refused {payload : OutageUpdate} {target : OutageStatus}
    (hstatus : payload.status = some (some target)) (outageId : String) (now : Time)
    (s : OutageStore) : ¬ Accepted (updateOutage db outageId payload now s) := by
  rintro ⟨outage, haccepted⟩
  unfold updateOutage at haccepted
  cases hfind : getOrm s outageId with
  | none =>
    rw [hfind] at haccepted
    cases haccepted
  | some orm =>
    have hcheck : checkTransition outageId orm payload now s =
        OutageStateMachine.transition outageId orm.status target.value now s := by
      unfold checkTransition
      rw [hstatus]
    rw [hfind] at haccepted
    dsimp only at haccepted
    -- the machine refuses, or the repository does: no transition is in both tables
    rcases transition_cases outageId orm.status target.value now s with
      ⟨e, he⟩ | ⟨hmachine, s', hs', houtages⟩
    · rw [hcheck, he] at haccepted
      cases haccepted
    · rw [hcheck, hs'] at haccepted
      dsimp only at haccepted
      have hfind' : getOrm s' outageId = some orm := by rw [getOrm_congr houtages, hfind]
      cases hrepository : validateStatusTransition orm.status target.value with
      | ok u => exact no_common_transition hmachine hrepository
      | error e =>
        have hupdate : update db outageId payload now s' = (.error e, s') := by
          have hcheck : checkStatus orm payload = .error e := by
            unfold checkStatus
            rw [hstatus]
            exact hrepository
          unfold update
          rw [hfind']
          dsimp only
          rw [hcheck]
        rw [hupdate] at haccepted
        cases haccepted

/-- **PATCH accepts what the repository's table has.** -/
theorem patchOutage_accepted_iff (db : OutageDatabase) {s : OutageStore} {outageId : String}
    {orm : OutageORM} (hfind : getOrm s outageId = some orm) (target : OutageStatus) (now : Time) :
    Accepted (patchOutage db outageId (statusUpdate target) now s) ↔
      validateStatusTransition orm.status target.value = .ok () := by
  unfold Accepted patchOutage
  rw [hfind, update_status hfind]
  dsimp only
  cases validateStatusTransition orm.status target.value with
  | ok u => exact iff_of_true ⟨_, rfl⟩ rfl
  | error e =>
    refine iff_of_false ?_ nofun
    rintro ⟨outage, houtage⟩
    cases houtage

/-! ## The contract -/

/-- Resolving the outage is accepted and leaves it resolved with the given MTTR, and doing it again
is accepted and changes no outage. -/
def ResolvesIdempotently (db : OutageDatabase) (s : OutageStore) (outageId : String)
    (mttrMinutes : Int) (now again : Time) : Prop :=
  ∃ outage, (resolveOutage db outageId mttrMinutes now s).1 = .ok (some outage) ∧
    outage.status = "resolved" ∧ outage.mttrMinutes = some mttrMinutes ∧
    getOrm (resolveOutage db outageId mttrMinutes now s).2 outageId = some outage ∧
    (resolveOutage db outageId mttrMinutes again (resolveOutage db outageId mttrMinutes now s).2).1 =
      .ok (some outage) ∧
    (resolveOutage db outageId mttrMinutes again
        (resolveOutage db outageId mttrMinutes now s).2).2.outages =
      (resolveOutage db outageId mttrMinutes now s).2.outages

/-- An open outage can be resolved, repeatedly; and PUT accepts the change to `target` exactly when
PATCH does. -/
def ResolutionContract (db : OutageDatabase) (s : OutageStore) (outage : OutageORM)
    (mttrMinutes : Int) (target : OutageStatus) (now again : Time) : Prop :=
  (outage.status = "open" → ResolvesIdempotently db s outage.id mttrMinutes now again) ∧
    (Accepted (updateOutage db outage.id (statusUpdate target) now s) ↔
      Accepted (patchOutage db outage.id (statusUpdate target) now s))

/-- **The contract of the resolution.** It is kept exactly if the outage is not open, and not
resolved with `resolved` as the target. -/
theorem resolution_contract_iff {s : OutageStore} {outage : OutageORM}
    (hstored : getOrm s outage.id = some outage) (mttrMinutes : Int) (target : OutageStatus)
    (now again : Time) :
    ResolutionContract db s outage mttrMinutes target now again ↔
      outage.status ≠ "open" ∧ ¬ (outage.status = "resolved" ∧ target = .resolved) := by
  have hput : ¬ Accepted (updateOutage db outage.id (statusUpdate target) now s) :=
    updateOutage_refused rfl outage.id now s
  have hpatch := patchOutage_accepted_iff db hstored target now
  rw [validateStatusTransition_eq_ok] at hpatch
  unfold ResolutionContract
  -- PUT never accepts, so agreeing with it is refusing
  rw [iff_false_left hput, hpatch]
  constructor
  · rintro ⟨hresolve, hagree⟩
    refine ⟨?_, ?_⟩
    · intro hopen
      obtain ⟨resolved, haccepted, -⟩ := hresolve hopen
      exact resolveOutage_refused _ _ _ _ ⟨resolved, haccepted⟩
    · rintro ⟨hresolved, rfl⟩
      exact hagree (.inr ⟨hresolved, rfl⟩)
  · rintro ⟨hopen, hresolved⟩
    refine ⟨fun h => absurd h hopen, ?_⟩
    rintro (⟨h, -⟩ | ⟨hstatus, htarget⟩)
    · exact hopen h
    · refine hresolved ⟨hstatus, ?_⟩
      cases target with
      | «open» => exact absurd htarget (by decide)
      | resolved => rfl

/-! ## An open outage -/

/-- An open outage, as `POST /outages/` stores it. -/
def openOutage : OutageORM where
  id := "outage-1"
  siteName := "Site A"
  severity := "high"
  status := OutageStatus.open.value
  detectedAt := 0
  description := "Example outage affecting core API."
  affectedServices := ["core-api"]
  updatedAt := 0

def openOutages : OutageStore := { outages := [openOutage] }

theorem resolution_contract_of_open_outage :
    ResolutionContract declaredDatabase openOutages openOutage 60 .resolved 1 2 ↔
      openOutage.status ≠ "open" ∧ ¬ (openOutage.status = "resolved" ∧
        OutageStatus.resolved = .resolved) :=
  resolution_contract_iff (by decide) 60 .resolved 1 2

/-- The resolution of the open outage is refused, and only PATCH resolves it. -/
theorem resolution_contract_broken :
    (resolveOutage declaredDatabase "outage-1" 60 1 openOutages).1 =
      .error (.http 400 "Unknown outage status: open") ∧
    (updateOutage declaredDatabase "outage-1" (statusUpdate .resolved) 1 openOutages).1 =
      .error (.http 400 "Unknown outage status: open") ∧
    Accepted (patchOutage declaredDatabase "outage-1" (statusUpdate .resolved) 1 openOutages) ∧
    ¬ ResolutionContract declaredDatabase openOutages openOutage 60 .resolved 1 2 := by
  refine ⟨by decide +kernel, by decide +kernel, ⟨_, rfl⟩, ?_⟩
  rintro ⟨hresolve, -⟩
  obtain ⟨outage, haccepted, -⟩ := hresolve rfl
  exact resolveOutage_refused "outage-1" 60 1 openOutages ⟨outage, haccepted⟩

end NocIq
