import NocIq.Settlement.Exclusion

/-!
# NocIq — the contract bridge and the local calculator

`translate_contract_result` against `SLACalculator.calculate`: the codes of the contract for a
calculated result, and what becomes of them.

* **`translateContractResult_encoding`** — every calculated result fails in the bridge, for the two
  fields it does not fill.
* **`parity_iff`** — so the bridge keeps its word for what no calculation returns.
-/

namespace NocIq

/-! ## The codes of the contract -/

def SLAStatus.contractCode : SLAStatus → String
  | .violated => "viol"
  | .met => "met"

def PaymentType.contractCode : PaymentType → String
  | .penalty => "pen"
  | .reward => "rew"

def Rating.contractCode : Rating → String
  | .exceptional => "top"
  | .excellent => "high"
  | .good => "good"
  | .poor => "poor"

def SLAResult.contractEncoding (r : SLAResult) : RawContractResult where
  outageId := r.outageId
  status := r.status.contractCode
  mttrMinutes := r.mttrMinutes
  thresholdMinutes := r.thresholdMinutes
  amount := r.amount
  paymentType := r.paymentType.contractCode
  rating := r.rating.contractCode

/-- One of the codes is none of the contract's. -/
def RawContractResult.HasUnknownCode (raw : RawContractResult) : Prop :=
  (∀ status : SLAStatus, raw.status ≠ status.contractCode) ∨
    (∀ paymentType : PaymentType, raw.paymentType ≠ paymentType.contractCode) ∨
      ∀ rating : Rating, raw.rating ≠ rating.contractCode

/-- The fields the contract knows. -/
structure SLAResult.AgreesWith (r r' : SLAResult) : Prop where
  outageId : r.outageId = r'.outageId
  status : r.status = r'.status
  mttrMinutes : r.mttrMinutes = r'.mttrMinutes
  thresholdMinutes : r.thresholdMinutes = r'.thresholdMinutes
  amount : r.amount = r'.amount
  paymentType : r.paymentType = r'.paymentType
  rating : r.rating = r'.rating

theorem lookup_contractCode (rating : Rating) :
    contractRatings.lookup rating.contractCode = some rating := by
  cases rating <;> rfl

/-! ## The bridge -/

/-- **Every encoded result** is refused: `SLAResult` requires two fields that are not given. -/
theorem translateContractResult_encoding (r : SLAResult) :
    translateContractResult r.contractEncoding =
      .error (.exc (.validationError ["policy_version", "threshold_source"])) := by
  unfold translateContractResult
  rw [show r.contractEncoding.rating = r.rating.contractCode from rfl, lookup_contractCode]
  rfl

/-- What the bridge is for: the encoding of a calculated result is translated back, and another
code is refused. -/
def Parity (raw : RawContractResult) : Prop :=
  (∀ outageId r, SLAResult.Calculated outageId r → r.contractEncoding = raw →
    ∃ r', translateContractResult raw = .ok r' ∧ r'.AgreesWith r) ∧
  (raw.HasUnknownCode → ∃ e, translateContractResult raw = .error e)

/-- **The bridge keeps its word** for what is not the encoding of a calculated result, and for
nothing else. -/
theorem parity_iff (raw : RawContractResult) :
    Parity raw ↔ ¬ ∃ outageId r, SLAResult.Calculated outageId r ∧ r.contractEncoding = raw := by
  constructor
  · rintro ⟨hagrees, -⟩ ⟨outageId, r, hr, rfl⟩
    obtain ⟨r', hr', -⟩ := hagrees outageId r hr rfl
    rw [translateContractResult_encoding] at hr'
    cases hr'
  · intro hnone
    refine ⟨?_, fun _ => translateContractResult_raises raw⟩
    intro outageId r hr hencoding
    exact absurd ⟨outageId, r, hr, hencoding⟩ hnone

/-- A violated critical outage, as the tests translate one. -/
theorem calculated_not_translated :
    SLAResult.Calculated "out_1"
        (SLACalculator.violatedResult ⟨15, 100, 750⟩ "out_1" 999 "1.0" "config") ∧
      ¬ Parity (SLACalculator.violatedResult ⟨15, 100, 750⟩ "out_1" 999 "1.0"
        "config").contractEncoding := by
  have hcalculated : SLAResult.Calculated "out_1"
      (SLACalculator.violatedResult ⟨15, 100, 750⟩ "out_1" 999 "1.0" "config") :=
    ⟨slaConfig, "critical", 999, "1.0", "config", by decide +kernel⟩
  refine ⟨hcalculated, ?_⟩
  rintro ⟨hagrees, -⟩
  obtain ⟨r', hr', -⟩ := hagrees "out_1" _ hcalculated rfl
  rw [translateContractResult_encoding] at hr'
  cases hr'

end NocIq
