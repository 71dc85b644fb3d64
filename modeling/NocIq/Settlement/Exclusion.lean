import NocIq.Lib.TransactionLocks
import NocIq.Outage.Timeline
import NocIq.Settlement.PaidOnce

/-!
# NocIq — concurrent settlements of one outage

`app/core/lock.py`, `translate_contract_result`, and the locked section of `resolve_outage` and
`recompute_sla`, up to the end of `create_for_sla_result`. Any number of requests for one outage
take turns, statement by statement; a row lock or an advisory lock lasts until the next commit.

What follows `create_for_sla_result` takes no lock and is left out.

* **`settlement_excludes_iff`** — with any translation of the contract's result, the sections
  exclude each other exactly if no request tries for the lock after the first commit in the section
  of another.
* **`settlement_excludes`** — the translation of the source never returns, so there is no commit.
-/

namespace NocIq

open OutageRepository OutageEventRepository TransactionLocks
open Interleaving (Control)

/-! ## The advisory lock -/

/-- `_lock_id_from_key`: the first eight bytes of the digest, the most significant one first. -/
def lockIdFromKey (sha256 : String → List UInt8) (key : String) : Nat :=
  ((sha256 key).take 8).foldl (fun id byte => id * 256 + byte.toNat) 0

def lockedMessage (key : String) : String :=
  s!"Operation for '{key}' is already in progress. Please retry later."

/-! ## The result of the contract -/

/-- The dictionary `SLAContractAdapter.calculate_sla` returns. -/
structure RawContractResult where
  outageId : String
  status : String
  mttrMinutes : Int
  thresholdMinutes : Int
  amount : Int
  paymentType : String
  rating : String
  deriving DecidableEq, Repr

/-- How a settlement request fails. -/
inductive SettlementFailure where
  | exc (e : Exc)
  | raised (e : Raised)
  | detail (errors : List ImportFieldError)
  /-- a statement of the database fails -/
  | statement

/-- The keyword arguments of `SLAResult(…)`; the model requires all of them but the id, the reason
code and the trace. -/
structure SLAResultArguments where
  outageId : String
  status : SLAStatus
  mttrMinutes : Int
  thresholdMinutes : Int
  amount : Int
  paymentType : PaymentType
  rating : Rating
  policyVersion : Option String := none
  thresholdSource : Option String := none

def SLAResultArguments.toModel (a : SLAResultArguments) : Except Exc SLAResult :=
  match a.policyVersion, a.thresholdSource with
  | some policyVersion, some thresholdSource =>
    .ok
      { outageId := a.outageId
        status := a.status
        mttrMinutes := a.mttrMinutes
        thresholdMinutes := a.thresholdMinutes
        amount := a.amount
        paymentType := a.paymentType
        rating := a.rating
        policyVersion
        thresholdSource }
  | policyVersion, thresholdSource =>
    .error (.validationError
      ((if policyVersion.isNone then ["policy_version"] else []) ++
        if thresholdSource.isNone then ["threshold_source"] else []))

def contractRatings : List (String × Rating) :=
  [("top", .exceptional), ("high", .excellent), ("good", .good), ("poor", .poor)]

def translateContractResult (raw : RawContractResult) : Except SettlementFailure SLAResult :=
  match contractRatings.lookup raw.rating with
  | none => .error (.raised { type := "KeyError", message := s!"'{raw.rating}'" })
  | some rating =>
    let arguments : SLAResultArguments :=
      { outageId := raw.outageId
        status := if raw.status = "viol" then .violated else .met
        mttrMinutes := raw.mttrMinutes
        thresholdMinutes := raw.thresholdMinutes
        amount := raw.amount
        paymentType := if raw.paymentType = "pen" then .penalty else .reward
        rating }
    arguments.toModel.mapError .exc

/-- **The translation never returns**: it gives neither the version of the policy nor the source of
the threshold. -/
theorem translateContractResult_raises (raw : RawContractResult) :
    ∃ e, translateContractResult raw = .error e := by
  unfold translateContractResult
  split
  · exact ⟨_, rfl⟩
  · exact ⟨_, rfl⟩

/-! ## The requests -/

inductive SettlementKind where
  | resolve (mttrMinutes : Int)
  | recompute
  deriving DecidableEq, Repr

/-- A request, with the settings, instants and ids it uses. -/
structure SettlementRequest where
  kind : SettlementKind
  env : SettleEnv
  resolvedEventId : String
  computedEventId : String
  deriving DecidableEq, Repr

/-- The digest of a text, and `SLAContractAdapter.calculate_sla` for the policy version `1.0` and
the threshold source `config`: outage id, severity, MTTR. The class has no such method in the
source. -/
structure SectionEnv where
  sha256 : String → List UInt8
  calculateSla : String → String → Option Int → Except Raised RawContractResult
  timeline : TimelineEnv

structure SettlementStore where
  timeline : TimelineStore := {}
  db : Db := {}

def SettlementStore.outages (s : SettlementStore) : OutageStore := s.timeline.outages

def SettlementStore.setOutages (s : SettlementStore) (outages : OutageStore) : SettlementStore :=
  { s with timeline := { s.timeline with outages } }

inductive SettlementLock where
  | advisory (id : Nat)
  | outageRow
  deriving DecidableEq, Repr

/-- Before which statement a request is; `committed` says whether it has committed since it got the
advisory lock. -/
inductive Position where
  | fetch
  | tryLock (outage : OutageORM)
  | lockRow (outage : OutageORM)
  | locked (outage : OutageORM)
  | recordResolved (outage : OutageORM) (mttrMinutes : Int) (committed : Bool)
  | calculate (outage : OutageORM) (mttrMinutes : Option Int) (committed : Bool)
  | storeSla (outage : OutageORM) (sla : SLAResult) (committed : Bool)
  | recordComputed (outage : OutageORM) (stored : SLAResult) (committed : Bool)
  | pay (outage : OutageORM) (stored : SLAResult) (committed : Bool)
  deriving DecidableEq

abbrev SettlementResult := Except SettlementFailure (SLAResult × PaymentTransaction)

abbrev SectionTurn := Turn Position SettlementResult

def refuse (e : Exc) : SectionTurn := .ends (.error (.exc e))

namespace SettlementRequest

variable (env : SectionEnv) (translate : RawContractResult → Except SettlementFailure SLAResult)
  (outageId : String) (r : SettlementRequest)

def lockKey : String :=
  match r.kind with
  | .resolve _ => s!"resolve:{outageId}"
  | .recompute => s!"recompute:{outageId}"

def lockId : Nat := lockIdFromKey env.sha256 (r.lockKey outageId)

/-- `repo.get`, and the check before the lock. -/
def fetch (s : SettlementStore) : SectionTurn × SettlementStore :=
  match getOrm s.outages outageId with
  | none => (refuse (.http 404 "Outage not found"), s)
  | some outage =>
    match r.kind with
    | .resolve _ =>
      match OutageStateMachine.transition outageId outage.status "resolved" r.env.now s.outages with
      | (.error e, outages) => (refuse (valueErrorAs400 e), s.setOutages outages)
      | (.ok (), outages) => (.goesOn (.tryLock outage), s.setOutages outages)
    | .recompute =>
      if outage.status ≠ OutageStatus.resolved.value then
        (refuse (.http 400 "Outage must be resolved to recompute SLA"), s)
      else (.goesOn (.tryLock outage), s)

/-- `advisory_lock_nowait`. An id that is no `bigint` is sent as a `numeric`, and there is no
`pg_try_advisory_xact_lock(numeric)`. -/
def tryLock (outage : OutageORM) :
    Statement SettlementLock SettlementStore Position SettlementResult :=
  if r.lockId env outageId < 2 ^ 63 then
    .tryLock (.advisory (r.lockId env outageId)) (.lockRow outage)
      (.error (.exc (.http 409 (lockedMessage (r.lockKey outageId)))))
  else .run fun s => (.ends (.error .statement), s)

/-- `repo.resolve` with the row locked, and the audit log. An outage that is already resolved with
this MTTR is returned without a commit. -/
def resolveLocked (mttrMinutes : Int) (s : SettlementStore) : SectionTurn × SettlementStore :=
  let unchanged := (getOrm s.outages outageId).any fun orm =>
    decide (orm.status = OutageStatus.resolved.value ∧ orm.mttrMinutes = some mttrMinutes)
  match resolve env.timeline.db outageId mttrMinutes r.env.now s.outages with
  | (.error e, outages) => (refuse (valueErrorAs400 e), s.setOutages outages)
  | (.ok none, outages) => (refuse (.http 404 "Outage not found"), s.setOutages outages)
  | (.ok (some outage), outages) =>
    let details : List (String × DetailValue) :=
      [("id", .str outage.id), ("mttr", .int mttrMinutes)]
    let s := s.setOutages
      { outages with
        auditLogs := outages.auditLogs ++ [⟨"outage_resolved", details, r.env.now⟩] }
    (if unchanged then .goesOn (.recordResolved outage mttrMinutes false)
      else .commits (.recordResolved outage mttrMinutes true), s)

/-- `repo.get_orm_locked` of a recomputation, and the MTTR of the row. -/
def recomputeLocked (outage : OutageORM) (s : SettlementStore) : SectionTurn × SettlementStore :=
  match getOrm s.outages outageId with
  | none =>
    (.ends (.error (.raised
      { type := "AttributeError"
        message := "'NoneType' object has no attribute 'mttr_minutes'" })), s)
  | some orm => (.goesOn (.calculate outage orm.mttrMinutes false), s)

def locked (outage : OutageORM) (s : SettlementStore) : SectionTurn × SettlementStore :=
  match r.kind with
  | .resolve mttrMinutes => r.resolveLocked env outageId mttrMinutes s
  | .recompute => recomputeLocked outageId outage s

/-- `OutageEventRepository(db).record(…)`, which commits. -/
def recordEvent (eventId eventType : String) (detail : Detail) (next : Position)
    (s : SettlementStore) : SectionTurn × SettlementStore :=
  match record env.timeline eventId outageId eventType (some detail) r.env.now s.timeline with
  | (.ok _, timeline) => (.commits next, { s with timeline })
  | (.invalid errors, timeline) => (.ends (.error (.detail errors)), { s with timeline })
  | (.raised e, timeline) => (.ends (.error (.raised e)), { s with timeline })

def recordResolved (outage : OutageORM) (mttrMinutes : Int) (s : SettlementStore) :
    SectionTurn × SettlementStore :=
  r.recordEvent env outageId r.resolvedEventId "resolved" [("mttr_minutes", .int mttrMinutes)]
    (.calculate outage (some mttrMinutes) true) s

/-- `SLAContractAdapter.calculate_sla` and the translation of its result. -/
def calculate (outage : OutageORM) (mttrMinutes : Option Int) (committed : Bool)
    (s : SettlementStore) : SectionTurn × SettlementStore :=
  match env.calculateSla outage.id outage.severity mttrMinutes with
  | .error e => (.ends (.error (.raised e)), s)
  | .ok raw =>
    match translate raw with
    | .error e => (.ends (.error e), s)
    | .ok sla => (.goesOn (.storeSla outage sla committed), s)

/-- `create_if_changed`. It commits, unless the outage has this very result already. -/
def storeSla (outage : OutageORM) (sla : SLAResult) (committed : Bool) (s : SettlementStore) :
    SectionTurn × SettlementStore :=
  let next (stored : SLAResult) (committed : Bool) : Position :=
    match r.kind with
    | .resolve _ => .recordComputed outage stored committed
    | .recompute => .pay outage stored committed
  match SLARepository.createIfChanged sla r.env.started s.db with
  | (.error e, db) => (refuse e, { s with db })
  | (.ok stored, db) =>
    (if SLARepository.getByOutage s.db sla.outageId = some sla then .goesOn (next stored committed)
      else .commits (next stored true), { s with db })

def recordComputed (outage : OutageORM) (stored : SLAResult) (s : SettlementStore) :
    SectionTurn × SettlementStore :=
  r.recordEvent env outageId r.computedEventId "sla_computed"
    [("status", .str stored.status.value)] (.pay outage stored true) s

/-- `create_for_sla_result`, with which the section ends. -/
def pay (outage : OutageORM) (stored : SLAResult) (s : SettlementStore) :
    SectionTurn × SettlementStore :=
  match PaymentRepository.createForSlaResult r.env.settings r.env.uuidHex r.env.now outage.id stored
      s.db with
  | (.error e, db) => (refuse e, { s with db })
  | (.ok payment, db) => (.ends (.ok (stored, payment)), { s with db })

def statement : Position → Statement SettlementLock SettlementStore Position SettlementResult
  | .fetch => .run (r.fetch outageId)
  | .tryLock outage => r.tryLock env outageId outage
  | .lockRow outage => .lock .outageRow (.locked outage)
  | .locked outage => .run (r.locked env outageId outage)
  | .recordResolved outage mttrMinutes _ => .run (r.recordResolved env outageId outage mttrMinutes)
  | .calculate outage mttrMinutes committed =>
    .run (calculate env translate outage mttrMinutes committed)
  | .storeSla outage sla committed => .run (r.storeSla outage sla committed)
  | .recordComputed outage stored _ => .run (r.recordComputed env outageId outage stored)
  | .pay outage stored _ => .run (r.pay outage stored)

/-- The request as a program, whatever translates the result of the contract. -/
def programWith : Program SettlementLock SettlementStore Position SettlementResult where
  statement := r.statement env translate outageId
  raised := .error .statement

/-- The request as the source has it. -/
def program : Program SettlementLock SettlementStore Position SettlementResult :=
  r.programWith env translateContractResult outageId

end SettlementRequest

/-- The section lies between the lock and the end of `create_for_sla_result`. -/
def Position.zone : Position → Zone
  | .fetch | .tryLock _ => .outside
  | .lockRow _ | .locked _ => .guarded
  | .recordResolved _ _ committed | .calculate _ _ committed | .storeSla _ _ committed
  | .recordComputed _ _ committed | .pay _ _ committed => if committed then .unguarded else .guarded

/-! ## What each statement leads to -/

open SettlementRequest

variable {env : SectionEnv} {translate : RawContractResult → Except SettlementFailure SLAResult}
  {outageId : String} {r : SettlementRequest} {s : SettlementStore} {pc : Position}

/-- The check before the lock. -/
def SettlementKind.Passes (kind : SettlementKind) (outage : OutageORM) : Prop :=
  match kind with
  | .resolve _ => OutageStateMachine.validateTransition outage.status "resolved" = .ok ()
  | .recompute => outage.status = OutageStatus.resolved.value

theorem lockKey_eq_of_passes {r₁ r₂ : SettlementRequest} {outage : OutageORM}
    (h₁ : r₁.kind.Passes outage) (h₂ : r₂.kind.Passes outage) (outageId : String) :
    r₁.lockKey outageId = r₂.lockKey outageId := by
  have hnot : ∀ outage : OutageORM,
      OutageStateMachine.validateTransition outage.status "resolved" = .ok () →
      outage.status ≠ OutageStatus.resolved.value := by
    intro outage hmachine hresolved
    rw [hresolved] at hmachine
    rcases OutageStateMachine.allowed_of_validateTransition hmachine with ⟨h, -⟩ | ⟨h, -⟩
    · exact absurd h (by decide)
    · exact absurd h (by decide)
  unfold SettlementRequest.lockKey
  cases hk₁ : r₁.kind with
  | resolve m₁ =>
    rw [hk₁] at h₁
    cases hk₂ : r₂.kind with
    | resolve m₂ => rfl
    | recompute =>
      rw [hk₂] at h₂
      exact absurd h₂ (hnot outage h₁)
  | recompute =>
    rw [hk₁] at h₁
    cases hk₂ : r₂.kind with
    | resolve m₂ =>
      rw [hk₂] at h₂
      exact absurd h₁ (hnot outage h₂)
    | recompute => rfl

theorem fetch_turn (outageId : String) (r : SettlementRequest) (s : SettlementStore) :
    (∃ outage, (r.fetch outageId s).1 = .goesOn (.tryLock outage) ∧
        getOrm s.outages outageId = some outage ∧ r.kind.Passes outage) ∨
      ∃ result, (r.fetch outageId s).1 = .ends result := by
  unfold SettlementRequest.fetch
  cases hfind : getOrm s.outages outageId with
  | none => exact .inr ⟨_, rfl⟩
  | some outage =>
    dsimp only
    cases hkind : r.kind with
    | resolve mttrMinutes =>
      dsimp only
      rcases transition_cases outageId outage.status "resolved" r.env.now s.outages with
        ⟨e, he⟩ | ⟨hmachine, s', hs', -⟩
      · rw [he]
        exact .inr ⟨_, rfl⟩
      · rw [hs']
        exact .inl ⟨outage, rfl, rfl, hmachine⟩
    | recompute =>
      dsimp only
      by_cases hstatus : outage.status = OutageStatus.resolved.value
      · rw [if_neg (not_not_intro hstatus)]
        exact .inl ⟨outage, rfl, rfl, hstatus⟩
      · rw [if_pos hstatus]
        exact .inr ⟨_, rfl⟩

theorem resolveLocked_turn (env : SectionEnv) (outageId : String) (r : SettlementRequest)
    (mttrMinutes : Int) (s : SettlementStore) :
    (∃ outage, (r.resolveLocked env outageId mttrMinutes s).1 =
        .goesOn (.recordResolved outage mttrMinutes false)) ∨
      (∃ outage, (r.resolveLocked env outageId mttrMinutes s).1 =
        .commits (.recordResolved outage mttrMinutes true)) ∨
      ∃ result, (r.resolveLocked env outageId mttrMinutes s).1 = .ends result := by
  unfold SettlementRequest.resolveLocked
  dsimp only
  generalize resolve env.timeline.db outageId mttrMinutes r.env.now s.outages = outcome
  obtain ⟨e | (_ | outage), outages⟩ := outcome
  · exact .inr (.inr ⟨_, rfl⟩)
  · exact .inr (.inr ⟨_, rfl⟩)
  · dsimp only
    split
    · exact .inl ⟨outage, rfl⟩
    · exact .inr (.inl ⟨outage, rfl⟩)

theorem recomputeLocked_turn (outageId : String) (outage : OutageORM) (s : SettlementStore) :
    (∃ mttrMinutes, (recomputeLocked outageId outage s).1 =
        .goesOn (.calculate outage mttrMinutes false)) ∨
      ∃ result, (recomputeLocked outageId outage s).1 = .ends result := by
  unfold recomputeLocked
  split
  · exact .inr ⟨_, rfl⟩
  · exact .inl ⟨_, rfl⟩

theorem recordEvent_turn (env : SectionEnv) (outageId : String) (r : SettlementRequest)
    (eventId eventType : String) (detail : Detail) (next : Position) (s : SettlementStore) :
    (r.recordEvent env outageId eventId eventType detail next s).1 = .commits next ∨
      ∃ result, (r.recordEvent env outageId eventId eventType detail next s).1 = .ends result := by
  unfold SettlementRequest.recordEvent
  split
  · exact .inl rfl
  · exact .inr ⟨_, rfl⟩
  · exact .inr ⟨_, rfl⟩

theorem calculate_turn (env : SectionEnv)
    (translate : RawContractResult → Except SettlementFailure SLAResult) (outage : OutageORM)
    (mttrMinutes : Option Int) (committed : Bool) (s : SettlementStore) :
    (∃ raw sla, translate raw = .ok sla ∧
        (calculate env translate outage mttrMinutes committed s).1 =
          .goesOn (.storeSla outage sla committed)) ∨
      ∃ result, (calculate env translate outage mttrMinutes committed s).1 = .ends result := by
  unfold calculate
  split
  · exact .inr ⟨_, rfl⟩
  · rename_i raw _
    cases htranslate : translate raw with
    | error e => exact .inr ⟨_, rfl⟩
    | ok sla => exact .inl ⟨raw, sla, htranslate, rfl⟩

/-- Where `create_if_changed` leads. -/
def afterStore (r : SettlementRequest) (outage : OutageORM) (stored : SLAResult)
    (committed : Bool) : Position :=
  match r.kind with
  | .resolve _ => .recordComputed outage stored committed
  | .recompute => .pay outage stored committed

theorem storeSla_turn (r : SettlementRequest) (outage : OutageORM) (sla : SLAResult)
    (committed : Bool) (s : SettlementStore) :
    (∃ stored, (r.storeSla outage sla committed s).1 =
        .goesOn (afterStore r outage stored committed)) ∨
      (∃ stored, (r.storeSla outage sla committed s).1 =
        .commits (afterStore r outage stored true)) ∨
      ∃ result, (r.storeSla outage sla committed s).1 = .ends result := by
  unfold SettlementRequest.storeSla
  dsimp only
  split
  · exact .inr (.inr ⟨_, rfl⟩)
  · rename_i stored _ _
    split
    · exact .inl ⟨stored, rfl⟩
    · exact .inr (.inl ⟨stored, rfl⟩)

theorem pay_turn (r : SettlementRequest) (outage : OutageORM) (stored : SLAResult)
    (s : SettlementStore) : ∃ result, (r.pay outage stored s).1 = .ends result := by
  unfold SettlementRequest.pay
  split
  · exact ⟨_, rfl⟩
  · exact ⟨_, rfl⟩

theorem afterStore_zone (r : SettlementRequest) (outage : OutageORM) (stored : SLAResult)
    (committed : Bool) :
    (afterStore r outage stored committed).zone = if committed then .unguarded else .guarded := by
  unfold afterStore
  cases r.kind <;> rfl

theorem afterCommit_committed (committed : Bool) :
    (if committed then Zone.unguarded else .guarded).afterCommit = .unguarded := by
  cases committed <;> rfl

/-! ## Zones -/

/-- A turn from a position, by the zone it leads to. -/
inductive Leads (pc : Position) : SectionTurn → Prop where
  | goesOn {pc' : Position} (hzone : pc'.zone = pc.zone) : Leads pc (.goesOn pc')
  | commits {pc' : Position} (hzone : pc'.zone = pc.zone.afterCommit) : Leads pc (.commits pc')
  | ends {result : SettlementResult} : Leads pc (.ends result)

theorem locked_leads (env : SectionEnv) (outageId : String) (r : SettlementRequest)
    (outage : OutageORM) (s : SettlementStore) :
    Leads (.locked outage) (r.locked env outageId outage s).1 := by
  unfold SettlementRequest.locked
  cases r.kind with
  | resolve mttrMinutes =>
    rcases resolveLocked_turn env outageId r mttrMinutes s with ⟨_, h⟩ | ⟨_, h⟩ | ⟨_, h⟩
    · exact h ▸ .goesOn rfl
    · exact h ▸ .commits rfl
    · exact h ▸ .ends
  | recompute =>
    rcases recomputeLocked_turn outageId outage s with ⟨_, h⟩ | ⟨_, h⟩
    · exact h ▸ .goesOn rfl
    · exact h ▸ .ends

/-- **Every statement that is no lock follows the zones.** -/
theorem statement_leads
    {effect : SettlementStore → SectionTurn × SettlementStore}
    (h : r.statement env translate outageId pc = .run effect) (s : SettlementStore) :
    Leads pc (effect s).1 := by
  cases pc with
  | fetch =>
    obtain rfl := Statement.run.inj h
    rcases fetch_turn outageId r s with ⟨_, h, -⟩ | ⟨_, h⟩
    · exact h ▸ .goesOn rfl
    · exact h ▸ .ends
  | tryLock outage =>
    change r.tryLock env outageId outage = _ at h
    unfold SettlementRequest.tryLock at h
    split at h
    · cases h
    · obtain rfl := Statement.run.inj h
      exact .ends
  | lockRow outage => cases h
  | locked outage =>
    obtain rfl := Statement.run.inj h
    exact locked_leads env outageId r outage s
  | recordResolved outage mttrMinutes committed =>
    obtain rfl := Statement.run.inj h
    rcases recordEvent_turn env outageId r r.resolvedEventId "resolved" _ _ s with h | ⟨_, h⟩
    · exact h ▸ .commits (afterCommit_committed committed).symm
    · exact h ▸ .ends
  | calculate outage mttrMinutes committed =>
    obtain rfl := Statement.run.inj h
    rcases calculate_turn env translate outage mttrMinutes committed s with ⟨_, _, -, h⟩ | ⟨_, h⟩
    · exact h ▸ .goesOn rfl
    · exact h ▸ .ends
  | storeSla outage sla committed =>
    obtain rfl := Statement.run.inj h
    rcases storeSla_turn r outage sla committed s with ⟨stored, h⟩ | ⟨stored, h⟩ | ⟨_, h⟩
    · exact h ▸ .goesOn (afterStore_zone r outage stored committed)
    · exact h ▸ .commits
        ((afterStore_zone r outage stored true).trans (afterCommit_committed committed).symm)
    · exact h ▸ .ends
  | recordComputed outage stored committed =>
    obtain rfl := Statement.run.inj h
    rcases recordEvent_turn env outageId r r.computedEventId "sla_computed" _ _ s with h | ⟨_, h⟩
    · exact h ▸ .commits (afterCommit_committed committed).symm
    · exact h ▸ .ends
  | pay outage stored committed =>
    obtain rfl := Statement.run.inj h
    obtain ⟨_, h⟩ := pay_turn r outage stored s
    exact h ▸ .ends

section Requests

set_option linter.unusedSectionVars false

variable {τ : Type} [DecidableEq τ] {requests : τ → SettlementRequest}

abbrev SectionState (τ : Type) :=
  TransactionLocks.State τ SettlementLock SettlementStore Position SettlementResult

def advisoryLock (env : SectionEnv) (outageId : String) (r : SettlementRequest) : SettlementLock :=
  .advisory (r.lockId env outageId)

theorem statement_tryLock {l : SettlementLock} {taken : Position} {refused : SettlementResult}
    (h : r.statement env translate outageId pc = .tryLock l taken refused) :
    ∃ outage, pc = .tryLock outage ∧ r.lockId env outageId < 2 ^ 63 ∧
      l = advisoryLock env outageId r ∧ taken = .lockRow outage ∧
      refused = .error (.exc (.http 409 (lockedMessage (r.lockKey outageId)))) := by
  cases pc with
  | tryLock outage =>
    change r.tryLock env outageId outage = _ at h
    unfold SettlementRequest.tryLock at h
    split at h
    · rename_i hid
      obtain ⟨rfl, rfl, rfl⟩ := Statement.tryLock.inj h
      exact ⟨outage, rfl, hid, rfl, rfl, rfl⟩
    · cases h
  | _ => cases h

theorem settlement_guards (env : SectionEnv)
    (translate : RawContractResult → Except SettlementFailure SLAResult) (outageId : String)
    (requests : τ → SettlementRequest) :
    Guards (fun t => (requests t).programWith env translate outageId) Position.zone
      (fun t => advisoryLock env outageId (requests t)) where
  tryLock t pc l taken refused h := by
    obtain ⟨outage, -, -, hlock, htaken, -⟩ := statement_tryLock h
    rw [htaken]
    exact ⟨hlock, rfl⟩
  lock t pc l taken h := by
    cases pc with
    | lockRow outage =>
      obtain ⟨rfl, rfl⟩ := Statement.lock.inj h
      exact ⟨fun _ => nofun, rfl⟩
    | tryLock outage =>
      change (requests t).tryLock env outageId outage = _ at h
      unfold SettlementRequest.tryLock at h
      split at h <;> cases h
    | _ => cases h
  goesOn t pc effect s pc' h hturn := by
    have hleads := statement_leads h s
    rw [hturn] at hleads
    cases hleads with
    | goesOn hzone => exact hzone
  commits t pc effect s pc' h hturn := by
    have hleads := statement_leads h s
    rw [hturn] at hleads
    cases hleads with
    | commits hzone => exact hzone

/-! ## What the requests have seen -/

/-- The request has passed its check for the outage, and its lock has an id PostgreSQL knows. -/
structure Admitted (env : SectionEnv) (outageId : String) (row : Option OutageORM)
    (r : SettlementRequest) (outage : OutageORM) : Prop where
  row : row = some outage
  passes : r.kind.Passes outage
  lockId : r.lockId env outageId < 2 ^ 63

/-- The positions of a request while the row of the outage is `row`: `resolve_outage` does not get
past `repo.resolve`, and a result is stored only if the translation has returned one. -/
inductive Reached (env : SectionEnv)
    (translate : RawContractResult → Except SettlementFailure SLAResult) (outageId : String)
    (row : Option OutageORM) (r : SettlementRequest) : Position → Prop where
  | fetch : Reached env translate outageId row r .fetch
  | tryLock {outage : OutageORM} (hrow : row = some outage) (hpasses : r.kind.Passes outage) :
      Reached env translate outageId row r (.tryLock outage)
  | lockRow {outage : OutageORM} (hadmitted : Admitted env outageId row r outage) :
      Reached env translate outageId row r (.lockRow outage)
  | locked {outage : OutageORM} (hadmitted : Admitted env outageId row r outage) :
      Reached env translate outageId row r (.locked outage)
  | calculate {outage : OutageORM} {mttrMinutes : Option Int}
      (hadmitted : Admitted env outageId row r outage) (hkind : r.kind = .recompute) :
      Reached env translate outageId row r (.calculate outage mttrMinutes false)
  | storeSla {outage : OutageORM} {raw : RawContractResult} {sla : SLAResult}
      (hadmitted : Admitted env outageId row r outage) (hkind : r.kind = .recompute)
      (hsla : translate raw = .ok sla) :
      Reached env translate outageId row r (.storeSla outage sla false)
  | pay {outage : OutageORM} {stored : SLAResult} {committed : Bool} {raw : RawContractResult}
      {sla : SLAResult} (hadmitted : Admitted env outageId row r outage)
      (hsla : translate raw = .ok sla) :
      Reached env translate outageId row r (.pay outage stored committed)

variable {row : Option OutageORM}

theorem Reached.admitted (h : Reached env translate outageId row r pc)
    (hzone : pc.zone ≠ .outside) : ∃ outage, Admitted env outageId row r outage := by
  cases h with
  | fetch => exact absurd rfl hzone
  | tryLock => exact absurd rfl hzone
  | lockRow hadmitted => exact ⟨_, hadmitted⟩
  | locked hadmitted => exact ⟨_, hadmitted⟩
  | calculate hadmitted => exact ⟨_, hadmitted⟩
  | storeSla hadmitted => exact ⟨_, hadmitted⟩
  | pay hadmitted => exact ⟨_, hadmitted⟩

/-- The row of the outage is still `row`. -/
def RowIs (outageId : String) (row : Option OutageORM) (s : SettlementStore) : Prop :=
  getOrm s.outages outageId = row

theorem fetch_row (h : RowIs outageId row s) (r : SettlementRequest) :
    RowIs outageId row (r.fetch outageId s).2 := by
  have htransition : ∀ (outage : OutageORM) (outcome : Except Exc Unit × OutageStore),
      OutageStateMachine.transition outageId outage.status "resolved" r.env.now s.outages =
        outcome → RowIs outageId row (s.setOutages outcome.2) := by
    intro outage outcome houtcome
    have houtages :=
      transition_outages outageId outage.status "resolved" r.env.now s.outages
    rw [houtcome] at houtages
    exact (getOrm_congr houtages outageId).trans h
  unfold SettlementRequest.fetch
  split
  · exact h
  · split
    · split
      · exact htransition _ _ ‹_›
      · exact htransition _ _ ‹_›
    · split <;> exact h

theorem locked_keeps {outage : OutageORM} (hadmitted : Admitted env outageId row r outage)
    (h : RowIs outageId row s) :
    RowIs outageId row (r.locked env outageId outage s).2 ∧
      (r.locked env outageId outage s).1.Reaches (Reached env translate outageId row r) := by
  have hfind : getOrm s.outages outageId = some outage := h.trans hadmitted.row
  have hpasses := hadmitted.passes
  unfold SettlementRequest.locked
  cases hkind : r.kind with
  | resolve mttrMinutes =>
    rw [hkind] at hpasses
    obtain ⟨e, he⟩ :=
      resolve_of_transition env.timeline.db hfind hpasses mttrMinutes r.env.now
    dsimp only
    unfold SettlementRequest.resolveLocked
    rw [he]
    exact ⟨h, trivial⟩
  | recompute =>
    dsimp only
    unfold recomputeLocked
    rw [hfind]
    exact ⟨h, .calculate hadmitted hkind⟩

/-- **Every statement keeps the row and leads where a request can be.** -/
theorem statement_keeps (h : Reached env translate outageId row r pc) :
    (r.statement env translate outageId pc).Keeps (RowIs outageId row)
      (Reached env translate outageId row r) := by
  cases h with
  | fetch =>
    intro s hs
    refine ⟨fetch_row hs r, ?_⟩
    rcases fetch_turn outageId r s with ⟨outage, hturn, hfind, hpasses⟩ | ⟨result, hturn⟩
    · rw [hturn]
      exact .tryLock (hs.symm.trans hfind) hpasses
    · rw [hturn]
      trivial
  | tryLock hrow hpasses =>
    show (r.tryLock env outageId _).Keeps _ _
    unfold SettlementRequest.tryLock
    split
    · rename_i hid
      exact .lockRow ⟨hrow, hpasses, hid⟩
    · exact fun s hs => ⟨hs, trivial⟩
  | lockRow hadmitted => exact .locked hadmitted
  | locked hadmitted => exact fun s hs => locked_keeps hadmitted hs
  | @calculate outage mttrMinutes hadmitted hkind =>
    intro s hs
    -- the calculation reads the row and writes nothing
    have hstore : (calculate env translate outage mttrMinutes false s).2 = s := by
      unfold calculate
      split
      · rfl
      · split <;> rfl
    refine ⟨by rw [hstore]; exact hs, ?_⟩
    rcases calculate_turn env translate outage mttrMinutes false s with
      ⟨raw, sla, hsla, hturn⟩ | ⟨result, hturn⟩
    · rw [hturn]
      exact .storeSla hadmitted hkind hsla
    · rw [hturn]
      trivial
  | @storeSla outage raw sla hadmitted hkind hsla =>
    intro s hs
    -- a recomputation, which is what this position is reached by, pays next
    have hpay : ∀ stored committed,
        Reached env translate outageId row r (afterStore r outage stored committed) := by
      intro stored committed
      unfold afterStore
      rw [hkind]
      exact .pay hadmitted hsla
    have hrow : RowIs outageId row (r.storeSla outage sla false s).2 := by
      unfold SettlementRequest.storeSla
      dsimp only
      split <;> exact hs
    refine ⟨hrow, ?_⟩
    rcases storeSla_turn r outage sla false s with ⟨stored, hturn⟩ | ⟨stored, hturn⟩ | ⟨_, hturn⟩
    · rw [hturn]
      exact hpay stored false
    · rw [hturn]
      exact hpay stored true
    · rw [hturn]
      trivial
  | @pay outage stored committed raw sla hadmitted hsla =>
    intro s hs
    have hrow : RowIs outageId row (r.pay outage stored s).2 := by
      unfold SettlementRequest.pay
      split <;> exact hs
    refine ⟨hrow, ?_⟩
    obtain ⟨result, hturn⟩ := pay_turn r outage stored s
    rw [hturn]
    trivial

/-! ## Exclusion -/

def settlementStart (s : SettlementStore) : SectionState τ where
  shared := s
  holder _ := none
  control _ := .running .fetch

abbrev SectionRun (env : SectionEnv)
    (translate : RawContractResult → Except SettlementFailure SLAResult) (outageId : String)
    (requests : τ → SettlementRequest) :=
  TransactionLocks.Run fun t => (requests t).programWith env translate outageId

/-- The settlements exclude each other in a run: no two requests are between the lock and the end of
`create_for_sla_result` at once, and a request that tries for the lock while another one is there
is answered with 409 by that step. -/
structure SettlementsExclude (env : SectionEnv)
    (translate : RawContractResult → Except SettlementFailure SLAResult) (outageId : String)
    (requests : τ → SettlementRequest)
    (steps : List (SectionState τ × TransactionLocks.Event τ)) (s' : SectionState τ) : Prop where
  visited : ∀ x ∈ steps, Exclusive Position.zone x.1
  last : Exclusive Position.zone s'
  rejected : ∀ x ∈ steps, ∀ t u outage, x.2 = .statement t →
    x.1.control t = .running (.tryLock outage) → u ≠ t → x.1.InSection Position.zone u →
    next (fun t => (requests t).programWith env translate outageId) x.1 x.2 =
      some (x.1.goTo t
        (.ended (.error (.exc (.http 409 (lockedMessage ((requests t).lockKey outageId)))))))

abbrev RequestsStand (env : SectionEnv)
    (translate : RawContractResult → Except SettlementFailure SLAResult) (outageId : String)
    (requests : τ → SettlementRequest) (row : Option OutageORM) (s : SectionState τ) : Prop :=
  Stands (RowIs outageId row) (fun t => Reached env translate outageId row (requests t)) s

theorem RequestsStand.start (s : SettlementStore) :
    RequestsStand env translate outageId requests (getOrm s.outages outageId)
      (settlementStart s) := by
  refine ⟨rfl, ?_⟩
  intro t pc hpc
  obtain rfl := Control.running.inj hpc
  exact .fetch

theorem RequestsStand.admitted {s : SectionState τ}
    (h : RequestsStand env translate outageId requests row s) {u : τ}
    (hin : s.InSection Position.zone u) :
    ∃ outage, Admitted env outageId row (requests u) outage := by
  cases hu : s.control u with
  | running pc =>
    refine (h.position u pc hu).admitted ?_
    unfold State.InSection State.zone at hin
    rw [hu] at hin
    exact hin
  | ended result =>
    unfold State.InSection State.zone at hin
    rw [hu] at hin
    exact absurd rfl hin

theorem RequestsStand.lockKey_eq {s : SectionState τ}
    (h : RequestsStand env translate outageId requests row s) {t u : τ} {outage : OutageORM}
    (ht : s.control t = .running (.tryLock outage)) (hin : s.InSection Position.zone u) :
    (requests t).lockKey outageId = (requests u).lockKey outageId := by
  obtain ⟨outage', hadmitted⟩ := h.admitted hin
  cases h.position t _ ht with
  | tryLock hrow hpasses =>
    have hpasses' := hadmitted.passes
    rw [← Option.some.inj (hrow.symm.trans hadmitted.row)] at hpasses'
    exact lockKey_eq_of_passes hpasses hpasses' outageId

theorem RequestsStand.sameKey {s : SectionState τ}
    (h : RequestsStand env translate outageId requests row s) :
    SameKey (fun t => (requests t).programWith env translate outageId) Position.zone
      (fun t => advisoryLock env outageId (requests t)) s := by
  intro t u hat hin
  obtain ⟨pc, l, taken, refused, hpc, hst⟩ := hat
  obtain ⟨outage, rfl, -⟩ := statement_tryLock hst
  show SettlementLock.advisory (lockIdFromKey env.sha256 ((requests t).lockKey outageId)) =
    SettlementLock.advisory (lockIdFromKey env.sha256 ((requests u).lockKey outageId))
  rw [h.lockKey_eq hpc hin]

/-- **What the exclusion rests on.** Whatever translates the result of the contract: the settlements
exclude each other in a run exactly if no request tries for the lock while another one has committed
in its section and not finished it. -/
theorem settlement_excludes_iff (s₀ : SettlementStore)
    {steps : List (SectionState τ × TransactionLocks.Event τ)} {s' : SectionState τ}
    (hrun : SectionRun env translate outageId requests (settlementStart s₀) steps s') :
    SettlementsExclude env translate outageId requests steps s' ↔
      ∀ x ∈ steps, TriesInTime (fun t => (requests t).programWith env translate outageId)
        Position.zone x.1 x.2 := by
  have hstep : ∀ s e s', RequestsStand env translate outageId requests
      (getOrm s₀.outages outageId) s →
      next (fun t => (requests t).programWith env translate outageId) s e = some s' →
      RequestsStand env translate outageId requests (getOrm s₀.outages outageId) s' :=
    fun s e s' h hnext => h.step (fun t pc hpc => statement_keeps hpc) hnext
  have hstart : RequestsStand env translate outageId requests (getOrm s₀.outages outageId)
      (settlementStart s₀) := RequestsStand.start s₀
  rw [← excludes_iff (settlement_guards env translate outageId requests) hstart hstep
    (fun s h => RequestsStand.sameKey h) (fun t => rfl) hrun]
  constructor
  · intro h
    refine ⟨h.visited, h.last, ?_⟩
    intro x hx t u pc l taken result he hpc hst hne hin
    obtain ⟨outage, rfl, -, -, -, rfl⟩ := statement_tryLock hst
    exact h.rejected x hx t u outage he hpc hne hin
  · intro h
    refine ⟨h.visited, h.last, ?_⟩
    intro x hx t u outage he hpc hne hin
    have hstands := hrun.invariant_steps hstart hstep x hx
    -- the id of the lock is that of the other request, which has it
    obtain ⟨outage', hadmitted⟩ := hstands.admitted hin
    have hid := hadmitted.lockId
    unfold SettlementRequest.lockId at hid
    rw [← hstands.lockKey_eq hpc hin] at hid
    refine h.refused x hx t u (.tryLock outage) (advisoryLock env outageId (requests t))
      (.lockRow outage) _ he hpc ?_ hne hin
    show (requests t).tryLock env outageId outage = _
    unfold SettlementRequest.tryLock
    exact if_pos hid

theorem Reached.zone_ne (hraises : ∀ raw, ∃ e, translate raw = .error e)
    (h : Reached env translate outageId row r pc) : pc.zone ≠ .unguarded := by
  cases h with
  | storeSla hadmitted hkind hsla => exact nofun
  | @pay outage stored committed raw sla hadmitted hsla =>
    obtain ⟨e, he⟩ := hraises raw
    rw [he] at hsla
    cases hsla
  | _ => exact nofun

/-- **The settlements of the source exclude each other** in every run of any requests for one
outage. -/
theorem settlement_excludes (s₀ : SettlementStore)
    {steps : List (SectionState τ × TransactionLocks.Event τ)} {s' : SectionState τ}
    (hrun : SectionRun env translateContractResult outageId requests (settlementStart s₀)
      steps s') :
    SettlementsExclude env translateContractResult outageId requests steps s' := by
  rw [settlement_excludes_iff s₀ hrun]
  intro x hx t he hat u hne hu
  have hstands : RequestsStand env translateContractResult outageId requests
      (getOrm s₀.outages outageId) x.1 :=
    hrun.invariant_steps (RequestsStand.start s₀)
      (fun s e s' h hnext => h.step (fun t pc hpc => statement_keeps hpc) hnext) x hx
  unfold State.zone at hu
  cases hcontrol : x.1.control u with
  | running pc =>
    rw [hcontrol] at hu
    exact (hstands.position u pc hcontrol).zone_ne translateContractResult_raises hu
  | ended result =>
    rw [hcontrol] at hu
    cases hu

end Requests

/-! ## Two recomputations -/

/-- The digests of two keys of `outage-1`, as far as the id goes, and the contract's penalty for a
late resolution. -/
def lateSectionEnv : SectionEnv where
  sha256 key :=
    if key = "recompute:outage-1" then [10, 123, 254, 18, 164, 3, 62, 67]
    else [41, 151, 48, 118, 223, 177, 115, 155]
  calculateSla outageId _ mttrMinutes :=
    .ok
      { outageId
        status := "viol"
        mttrMinutes := mttrMinutes.getD 0
        thresholdMinutes := 30
        amount := -750
        paymentType := "pen"
        rating := "poor" }
  timeline := plainTimelineEnv

/-- `outage-1`, resolved after 45 minutes. -/
def lateStore : SettlementStore where
  timeline :=
    { outages :=
        { outages :=
            [{ openOutage with status := "resolved", mttrMinutes := some 45, severity := "high" }] } }
  db := (storeOutage outage1 {}).2

def twoRecomputations (second : Bool) : SettlementRequest where
  kind := .recompute
  env := if second then settleEnv1 else { settleEnv1 with uuidHex := "0f1e2d3c4b5a" }
  resolvedEventId := "evt_000000000001"
  computedEventId := "evt_000000000002"

/-- The first request gets the lock and the row, the second one comes to the lock, the first one
goes on. -/
def meetingAtTheLock : List (TransactionLocks.Event Bool) :=
  [.statement false, .statement false, .statement false, .statement true, .statement true,
    .statement false, .statement false]

def meetingRun :=
  play (fun t => (twoRecomputations t).program lateSectionEnv "outage-1")
    (settlementStart lateStore) meetingAtTheLock

/-- The second request is answered with 409. -/
theorem settlement_excludes_twoRecomputations :
    meetingRun.2.control true = .ended (.error (.exc (.http 409
      "Operation for 'recompute:outage-1' is already in progress. Please retry later."))) ∧
    SettlementsExclude lateSectionEnv translateContractResult "outage-1" twoRecomputations
      meetingRun.1 meetingRun.2 :=
  ⟨rfl, settlement_excludes lateStore (play_run _ _ _)⟩

/-- With a translation that returns, the first request would commit its result, and the second one
get the lock before the payment. -/
example : ¬ Exclusive Position.zone
    (play (fun t => (twoRecomputations t).programWith lateSectionEnv (fun _ => .ok lateResult)
      "outage-1") (settlementStart lateStore)
      (.replicate 6 (.statement false) ++ .replicate 2 (.statement true))).2 := by
  intro h
  refine h false true nofun ?_ ?_
  · show State.zone _ _ _ ≠ _
    decide +kernel
  · show State.zone _ _ _ ≠ _
    decide +kernel

end NocIq
