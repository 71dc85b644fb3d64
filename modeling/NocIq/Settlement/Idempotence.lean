import NocIq.Settlement.PaidOnce
import NocIq.Settlement.Reachable

/-!
# NocIq — repeating a settlement

What `recompute_sla`, or a repeated resolve, does while nothing has changed: the settlement of the
same calculated result, again and again.

* **`settle_returns_iff`** — one settlement returns exactly if no payment has its outage and type.
* **`settle_grows`** — and then it has stored a row, whatever is stored already.
* **`settlement_idempotent_iff`** — so a repetition is never without effect.
-/

namespace NocIq

open Relational SLARepository PaymentRepository

/-! ## The property -/

/-- The repetitions return what the first settlement returned and leave both tables alone. -/
def RepeatsAs (outageId : String) (r : SLAResult) (result : SLAResult × PaymentTransaction) :
    List SettleEnv → Db → Prop
  | [], _ => True
  | env :: rest, db =>
    (settle env outageId r db).1 = .ok result ∧
      (settle env outageId r db).2.slaResults = db.slaResults ∧
      (settle env outageId r db).2.paymentTransactions = db.paymentTransactions ∧
      RepeatsAs outageId r result rest (settle env outageId r db).2

/-- The settlement of `r`, once and then once more for each element of `rest`: no call raises, and
the later ones have no effect. -/
def SettlementIdempotent (outageId : String) (r : SLAResult) (first : SettleEnv)
    (rest : List SettleEnv) (db : Db) : Prop :=
  ∃ result, (settle first outageId r db).1 = .ok result ∧
    RepeatsAs outageId r result rest (settle first outageId r db).2

/-- No payment has the outage and the type, and the generated payment id is not taken. -/
def Payable (env : SettleEnv) (outageId : String) (r : SLAResult) (db : Db) : Prop :=
  ∀ p ∈ db.paymentTransactions, p.id ≠ (settledPayment env outageId r db).id ∧
    ¬ (p.outageId = outageId ∧ p.type = r.paymentType.value)

instance (env : SettleEnv) (outageId : String) (r : SLAResult) (db : Db) :
    Decidable (Payable env outageId r db) := by
  unfold Payable; infer_instance

/-! ## One settlement -/

theorem settled_satisfies_iff {db : Db} (h : TablesInvariant db) (env : SettleEnv)
    {outageId : String} {r : SLAResult} (hr : r.outageId = outageId)
    (hout : outageId ∈ db.outageIds) :
    Satisfies schema (settled env outageId r db) ↔ Payable env outageId r db := by
  have hout' : r.outageId ∈ db.outageIds := by rw [hr]; exact hout
  have hcreated := created_wellFormed h.wellFormed env.started hout'
  constructor
  · intro hsat
    have hpay := ((satisfies_schema_iff _).mp hsat).2.2
    obtain ⟨-, hfree, -⟩ := inserted_payment_valid_iff.mp hpay
    intro p hp
    exact ⟨hfree.id p hp, hfree.outageType p hp⟩
  · intro hpayable
    have hkeys := keys_free h env outageId r hpayable
    refine (satisfies_schema_iff _).mpr ⟨hcreated.sla, hcreated.disputes, ?_⟩
    refine inserted_payment_valid_iff.mpr ⟨hcreated.payments, hkeys, hout, ?_⟩
    -- the payment refers to the row the settlement has just appended
    intro i hi
    have hnext : db.slaResultsSeq + 1 = i := Option.some.inj hi
    exact List.mem_map.mpr ⟨_, List.mem_append_right _ (List.mem_singleton_self _), hnext⟩

/-- **One settlement** returns exactly if its payment can be stored. -/
theorem settle_returns_iff {db : Db} (h : TablesInvariant db) (env : SettleEnv)
    {outageId : String} {r : SLAResult} (hcalc : r.Calculated outageId)
    (hout : outageId ∈ db.outageIds) :
    (∃ result, (settle env outageId r db).1 = .ok result) ↔ Payable env outageId r db := by
  have houtcome := settle_outcome h.wellFormed env outageId hcalc.id_eq
  rw [← settled_satisfies_iff h env hcalc.outageId_eq hout]
  generalize settle env outageId r db = outcome at houtcome
  cases houtcome with
  | unknownOutage hunknown =>
    rw [hcalc.outageId_eq] at hunknown
    exact absurd hout hunknown
  | unpaid _ hviolates =>
    refine iff_of_false ?_ hviolates
    intro hreturns
    obtain ⟨result, hresult⟩ := hreturns
    cases hresult
  | paid _ hsat => exact iff_of_true ⟨_, rfl⟩ hsat

theorem settle_grows {db : Db} (h : db.WellFormed) {env : SettleEnv} {outageId : String}
    {r : SLAResult} (hid : r.id = none) {result : SLAResult × PaymentTransaction}
    (hok : (settle env outageId r db).1 = .ok result) :
    (settle env outageId r db).2.slaResults.length = db.slaResults.length + 1 := by
  have hpair : settle env outageId r db = (.ok result, (settle env outageId r db).2) :=
    Prod.ext hok rfl
  obtain ⟨-, hdb, -⟩ := settle_eq_ok h hid hpair
  rw [hdb]
  show (db.slaResults.map _ ++ [_]).length = _
  rw [List.length_append, List.length_map, List.length_singleton]

/-! ## Repetitions -/

/-- **Idempotence of the settlement**, in the states the system reaches. It holds exactly if there
is no repetition and the one settlement can be paid. -/
theorem settlement_idempotent_iff {d : Deployment} {steps : List (Server × SystemEvent)}
    {t : Server} (hrun : SystemRun d { db := {} } steps t) {outageId : String}
    (hout : outageId ∈ t.db.outageIds) {r : SLAResult} (hcalc : r.Calculated outageId)
    (first : SettleEnv) (rest : List SettleEnv) :
    SettlementIdempotent outageId r first rest t.db ↔
      rest = [] ∧ Payable first outageId r t.db := by
  have hinv := SystemRun.invariant hrun
  rw [← settle_returns_iff hinv first hcalc hout]
  constructor
  · intro hidem
    obtain ⟨result, hresult, hrest⟩ := hidem
    refine ⟨?_, result, hresult⟩
    cases rest with
    | nil => rfl
    | cons env rest =>
      -- the second settlement would have returned and left the rows as they were
      have hwf : (settle first outageId r t.db).2.WellFormed :=
        (hinv.settle first hcalc.id_eq).wellFormed
      obtain ⟨hsecond, hsame, -, -⟩ := hrest
      have hgrows := settle_grows hwf hcalc.id_eq hsecond
      rw [hsame] at hgrows
      omega
  · intro honce
    obtain ⟨hnil, result, hresult⟩ := honce
    rw [hnil]
    exact ⟨result, hresult, trivial⟩

/-! ## A late resolution -/

def freshServer : Server where
  db := (storeOutage outage1 {}).2

theorem freshServer_run :
    SystemRun openDeployment { db := {} } [({ db := {} }, .sla (.storeOutage outage1))]
      freshServer := by
  have hstep : SystemStep openDeployment { db := {} } (.sla (.storeOutage outage1)) freshServer := rfl
  exact .snoc .nil hstep

theorem settlement_idempotent_once :
    SettlementIdempotent "outage-1" lateResult settleEnv1 [] freshServer.db :=
  (settlement_idempotent_iff freshServer_run (by decide +kernel) lateResult_calculated
    settleEnv1 []).mpr ⟨rfl, by decide +kernel⟩

/-- The recomputation of a settled outage stores a second row, and raises on its payment. -/
theorem settlement_repeated :
    SystemRun openDeployment { db := {} } [({ db := {} }, .sla (.storeOutage outage1))] freshServer ∧
      "outage-1" ∈ freshServer.db.outageIds ∧ lateResult.Calculated "outage-1" ∧
      ¬ SettlementIdempotent "outage-1" lateResult settleEnv1
        [{ settleEnv1 with uuidHex := "0f1e2d3c4b5a" }] freshServer.db := by
  refine ⟨freshServer_run, by decide +kernel, lateResult_calculated, ?_⟩
  intro hidem
  obtain ⟨result, -, hsecond, -⟩ := hidem
  have hraises : (settle { settleEnv1 with uuidHex := "0f1e2d3c4b5a" } "outage-1" lateResult
      (settle settleEnv1 "outage-1" lateResult freshServer.db).2).1
      = .error (.integrityError "uq_payment_outage_type") := by
    decide +kernel
  rw [hraises] at hsecond
  cases hsecond

end NocIq
