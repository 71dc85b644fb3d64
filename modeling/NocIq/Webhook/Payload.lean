import NocIq.JsonText
import NocIq.Payment.Repository

/-!
# NocIq — the data of a webhook call

What `resolve_outage` and `recompute_sla` pass to `trigger_sla_violation_webhooks`: the dumps of an
SLA result and of a payment, as Python values. `_redact_payload` masks some of their fields, and
`json.dumps` has no text for a `datetime`.

* **`toJson_redactMembers_isSome_iff`** — the flat data that has a text once it is redacted.
* **`toJson_slaData_isSome_iff`** — the data of the callers has one exactly if the redaction masks
  every datetime of the payment.
-/

namespace NocIq

/-- The values of `model_dump()`. -/
inductive PyValue where
  | none
  | bool (b : Bool)
  | int (n : Int)
  | float (q : ℚ)
  | str (s : String)
  | datetime (t : Time)
  | list (items : List PyValue)
  | dict (members : List (String × PyValue))

namespace PyValue

def optional {α : Type} (value : α → PyValue) : Option α → PyValue
  | .none => .none
  | .some a => value a

mutual
/-- The JSON value that `json.dumps` writes; `none` where it raises a `TypeError`. -/
def toJson : PyValue → Option Json.Value
  | .none => some .null
  | .bool b => some (.bool b)
  | .int n => some (.int n)
  | .float q => some (.float q)
  | .str s => some (.str s)
  | .datetime _ => Option.none
  | .list items => (toJsonItems items).map .arr
  | .dict members => (toJsonMembers members).map .obj

def toJsonItems : List PyValue → Option (List Json.Value)
  | [] => some []
  | v :: items => do
    let value ← toJson v
    let values ← toJsonItems items
    some (value :: values)

def toJsonMembers : List (String × PyValue) → Option (List (String × Json.Value))
  | [] => some []
  | (name, v) :: members => do
    let value ← toJson v
    let values ← toJsonMembers members
    some ((name, value) :: values)
end

/-- `json.dumps`. -/
def dumps (t : Json.FloatText) (v : PyValue) : Option String := v.toJson.map (Json.dumps t)

end PyValue

/-- `str.lower`. Of its Unicode tables only what is common to all of them is used: on ASCII it is
`String.toLower`, and a text in lower case stays as it is. -/
structure Lowercase where
  lower : String → String
  lower_ascii : ∀ text : String, (text.toList.all fun c => decide (c.toNat < 128)) = true →
    lower text = text.toLower
  lower_lower : ∀ text, lower (lower text) = lower text

/-- What `Char.toLower` has moved is above the capitals. -/
theorem toLower_char_toLower (c : Char) : c.toLower.toLower = c.toLower := by
  by_cases h : c.val ≥ 'A'.val ∧ c.val ≤ 'Z'.val
  · have hmoved : c.toLower.val = c.val + ('a'.val - 'A'.val) := by
      unfold Char.toLower
      rw [dif_pos h]
    refine dif_neg fun hcapital => ?_
    rw [hmoved] at hcapital
    simp only [ge_iff_le, UInt32.le_iff_toNat_le, UInt32.toNat_add] at h hcapital
    have hlow : 'A'.val.toNat = 65 := rfl
    have hhigh : 'Z'.val.toNat = 90 := rfl
    have hstep : ('a'.val - 'A'.val).toNat = 32 := rfl
    omega
  · have hsame : c.toLower = c := dif_neg h
    rw [hsame, hsame]

theorem toLower_eq_iff {text lower : String} :
    text.toLower = lower ↔ text.toList.map Char.toLower = lower.toList := by
  rw [← String.toList_inj]
  show (text.map Char.toLower).toList = lower.toList ↔ _
  rw [String.toList_map]

theorem toLower_toLower (text : String) : text.toLower.toLower = text.toLower := by
  rw [toLower_eq_iff]
  show (text.map Char.toLower).toList.map Char.toLower = (text.map Char.toLower).toList
  simp only [String.toList_map, List.map_map]
  refine List.map_congr_left ?_
  intro c _
  exact toLower_char_toLower c

def Lowercase.ascii : Lowercase where
  lower := String.toLower
  lower_ascii _ _ := rfl
  lower_lower := toLower_toLower

/-- `fields` is what `_init_redaction_config` reads from `WEBHOOK_REDACTED_FIELDS`. -/
structure RedactionSettings where
  enabled : Bool := true
  fields : List String :=
    ["seed", "secret_seed", "private_key", "mnemonic", "password", "token", "access_token",
      "refresh_token", "signing_key", "wallet_secret"]
  mask : String := "[REDACTED]"
  lowercase : Lowercase := .ascii

def maxRedactionDepth : Nat := 10

mutual
/-- `_redact_payload`, with the redaction enabled. -/
def redactValue (r : RedactionSettings) (depth : Nat) : PyValue → PyValue
  | .dict members =>
    if depth > maxRedactionDepth then .dict members
    else .dict (redactMembers r depth members)
  | .list items =>
    if depth > maxRedactionDepth then .list items
    else .list (redactItems r depth items)
  | v => v

def redactItems (r : RedactionSettings) (depth : Nat) : List PyValue → List PyValue
  | [] => []
  | v :: items => redactValue r (depth + 1) v :: redactItems r depth items

def redactMembers (r : RedactionSettings) (depth : Nat) :
    List (String × PyValue) → List (String × PyValue)
  | [] => []
  | (name, v) :: members =>
    (name, if r.lowercase.lower name ∈ r.fields then .str r.mask
        else redactValue r (depth + 1) v) ::
      redactMembers r depth members
end

def redactPayload (r : RedactionSettings) (v : PyValue) : PyValue :=
  if r.enabled then redactValue r 0 v else v

/-! ## The data of the callers -/

/-- `stored_sla.model_dump()`. -/
def SLAResult.modelDump (sla : SLAResult) : PyValue :=
  .dict
    [("id", .optional (fun n : Nat => .int n) sla.id), ("outage_id", .str sla.outageId),
      ("status", .str sla.status.value), ("mttr_minutes", .int sla.mttrMinutes),
      ("threshold_minutes", .int sla.thresholdMinutes), ("amount", .int sla.amount),
      ("payment_type", .str sla.paymentType.value), ("rating", .str sla.rating.value),
      ("policy_version", .str sla.policyVersion), ("threshold_source", .str sla.thresholdSource),
      ("reason_code", .optional .str sla.reasonCode),
      ("decision_trace", .optional .str sla.decisionTrace)]

/-- `payment.model_dump()`. -/
def PaymentTransaction.modelDump (payment : PaymentTransaction) : PyValue :=
  .dict
    [("id", .str payment.id), ("transaction_hash", .str payment.transactionHash),
      ("type", .str payment.type), ("amount", .float payment.amount),
      ("asset_code", .str payment.assetCode), ("from_address", .str payment.fromAddress),
      ("to_address", .str payment.toAddress), ("status", .str payment.status),
      ("outage_id", .str payment.outageId),
      ("sla_result_id", .optional (fun n : Nat => .int n) payment.slaResultId),
      ("created_at", .datetime payment.createdAt),
      ("confirmed_at", .optional .datetime payment.confirmedAt),
      ("retry_count", .int payment.retryCount),
      ("last_retried_at", .optional .datetime payment.lastRetriedAt),
      ("failure_taxonomy", .optional .str payment.failureTaxonomy),
      ("idempotency_key", .optional .str payment.idempotencyKey),
      ("dead_letter_reason", .optional .str payment.deadLetterReason),
      ("dead_lettered_at", .optional .datetime payment.deadLetteredAt),
      ("residual", .float payment.residual)]

/-- The `sla_data` of `resolve_outage` and of `recompute_sla`. -/
def slaData (outageId : String) (sla : SLAResult) (payment : PaymentTransaction) : PyValue :=
  .dict [("outage_id", .str outageId), ("sla", sla.modelDump), ("payment", payment.modelDump)]

/-! ## What has a text -/

open PyValue

theorem toJsonMembers_isSome_iff (members : List (String × PyValue)) :
    (toJsonMembers members).isSome ↔ ∀ m ∈ members, m.2.toJson.isSome := by
  induction members with
  | nil => simp [toJsonMembers]
  | cons m members ih =>
    obtain ⟨name, v⟩ := m
    rw [List.forall_mem_cons, ← ih]
    cases hv : v.toJson with
    | none => simp [toJsonMembers, hv]
    | some value => cases hrest : toJsonMembers members <;> simp [toJsonMembers, hv, hrest]

theorem toJson_dict_isSome_iff (members : List (String × PyValue)) :
    (PyValue.dict members).toJson.isSome ↔ ∀ m ∈ members, m.2.toJson.isSome := by
  rw [← toJsonMembers_isSome_iff]
  unfold toJson
  rw [Option.isSome_map]

theorem mem_redactMembers {r : RedactionSettings} {depth : Nat}
    {members : List (String × PyValue)} {P : String × PyValue → Prop} :
    (∀ m ∈ redactMembers r depth members, P m) ↔
      ∀ m ∈ members, P (m.1, if r.lowercase.lower m.1 ∈ r.fields then .str r.mask
        else redactValue r (depth + 1) m.2) := by
  induction members with
  | nil => simp [redactMembers]
  | cons m members ih =>
    obtain ⟨name, v⟩ := m
    unfold redactMembers
    rw [List.forall_mem_cons, List.forall_mem_cons, ih]

/-- Not a dictionary and not a list. -/
def PyValue.isScalar : PyValue → Bool
  | .list _ => false
  | .dict _ => false
  | _ => true

theorem redactValue_scalar (r : RedactionSettings) (depth : Nat) {v : PyValue}
    (h : v.isScalar = true) : redactValue r depth v = v := by
  cases v <;> first | rfl | cases h

/-- **Redacted flat data** has a text exactly if every value without one is masked. -/
theorem toJson_redactMembers_isSome_iff {r : RedactionSettings} {depth : Nat}
    {members : List (String × PyValue)} (hscalar : ∀ m ∈ members, m.2.isScalar = true) :
    (PyValue.dict (redactMembers r depth members)).toJson.isSome ↔
      ∀ m ∈ members, m.2.toJson.isSome ∨ r.lowercase.lower m.1 ∈ r.fields := by
  rw [toJson_dict_isSome_iff, mem_redactMembers (P := fun m => m.2.toJson.isSome = true)]
  refine forall₂_congr ?_
  intro m hm
  dsimp only
  rw [redactValue_scalar r _ (hscalar m hm)]
  split
  · rename_i hmasked
    exact iff_of_true rfl (.inr hmasked)
  · rename_i hplain
    exact (or_iff_left hplain).symm

/-! ## The text of a call's data -/

def PaymentTransaction.datetimeFields (payment : PaymentTransaction) : List String :=
  "created_at" ::
    ((if payment.confirmedAt.isSome then ["confirmed_at"] else []) ++
      ((if payment.lastRetriedAt.isSome then ["last_retried_at"] else []) ++
        if payment.deadLetteredAt.isSome then ["dead_lettered_at"] else []))

/-- The redaction masks the payment, or each of its datetimes. -/
def Masked (r : RedactionSettings) (payment : PaymentTransaction) : Prop :=
  r.enabled = true ∧ ("payment" ∈ r.fields ∨ ∀ name ∈ payment.datetimeFields, name ∈ r.fields)

instance (r : RedactionSettings) (payment : PaymentTransaction) : Decidable (Masked r payment) :=
  inferInstanceAs (Decidable (_ ∧ (_ ∨ _)))

section Optional

variable {α : Type} {value : α → PyValue}

theorem toJson_optional_isSome (h : ∀ a, (value a).toJson.isSome = true) (o : Option α) :
    (optional value o).toJson.isSome = true := by
  cases o with
  | none => simp [PyValue.optional, toJson]
  | some a => exact h a

theorem isScalar_optional (h : ∀ a, (value a).isScalar = true) (o : Option α) :
    (optional value o).isScalar = true := by
  cases o with
  | none => rfl
  | some a => exact h a

end Optional

@[simp] theorem toJson_int_isSome (n : Int) : (PyValue.int n).toJson.isSome = true := by
  simp [toJson]

@[simp] theorem toJson_float_isSome (q : ℚ) : (PyValue.float q).toJson.isSome = true := by
  simp [toJson]

@[simp] theorem toJson_str_isSome (text : String) : (PyValue.str text).toJson.isSome = true := by
  simp [toJson]

@[simp] theorem toJson_datetime_isSome (t : Time) : (PyValue.datetime t).toJson.isSome = false := by
  simp [toJson]

@[simp] theorem toJson_optionalInt_isSome (o : Option Nat) :
    (optional (fun n : Nat => .int n) o).toJson.isSome = true :=
  toJson_optional_isSome (fun _ => toJson_int_isSome _) o

@[simp] theorem toJson_optionalStr_isSome (o : Option String) :
    (optional .str o).toJson.isSome = true :=
  toJson_optional_isSome toJson_str_isSome o

@[simp] theorem toJson_optionalDatetime_isSome (o : Option Time) :
    (optional .datetime o).toJson.isSome = o.isNone := by
  cases o <;> simp [PyValue.optional, toJson]

@[simp] theorem isScalar_optionalInt (o : Option Nat) :
    (optional (fun n : Nat => .int n) o).isScalar = true :=
  isScalar_optional (fun _ => rfl) o

@[simp] theorem isScalar_optionalStr (o : Option String) : (optional .str o).isScalar = true :=
  isScalar_optional (fun _ => rfl) o

@[simp] theorem isScalar_optionalDatetime (o : Option Time) :
    (optional .datetime o).isScalar = true :=
  isScalar_optional (fun _ => rfl) o

/-- An SLA result has no datetime, so it has a text however it is redacted. -/
theorem toJson_sla_isSome (r : RedactionSettings) (depth : Nat) (sla : SLAResult) :
    (redactValue r depth sla.modelDump).toJson.isSome = true := by
  have hdump : sla.modelDump.toJson.isSome = true := by
    unfold SLAResult.modelDump
    rw [toJson_dict_isSome_iff]
    simp
  unfold SLAResult.modelDump at hdump ⊢
  unfold redactValue
  split
  · exact hdump
  · rw [toJson_redactMembers_isSome_iff]
    · rw [toJson_dict_isSome_iff] at hdump
      intro m hm
      exact .inl (hdump m hm)
    · simp only [List.forall_mem_cons, isScalar_optionalInt, isScalar_optionalStr]
      simp [isScalar]

theorem Lowercase.lower_eq (l : Lowercase) {name : String}
    (hascii : (name.toList.all fun c => decide (c.toNat < 128)) = true)
    (h : name.toList.map Char.toLower = name.toList) : l.lower name = name := by
  rw [l.lower_ascii name hascii, toLower_eq_iff]
  exact h

theorem toJson_payment_isSome_iff (r : RedactionSettings) (payment : PaymentTransaction) :
    (redactValue r 1 payment.modelDump).toJson.isSome ↔
      ∀ name ∈ payment.datetimeFields, name ∈ r.fields := by
  have hcreated : r.lowercase.lower "created_at" = "created_at" := r.lowercase.lower_eq (by decide) (by decide)
  have hconfirmed : r.lowercase.lower "confirmed_at" = "confirmed_at" := r.lowercase.lower_eq (by decide) (by decide)
  have hretried : r.lowercase.lower "last_retried_at" = "last_retried_at" := r.lowercase.lower_eq (by decide) (by decide)
  have hdead : r.lowercase.lower "dead_lettered_at" = "dead_lettered_at" := r.lowercase.lower_eq (by decide) (by decide)
  unfold PaymentTransaction.modelDump redactValue
  rw [if_neg (by decide), toJson_redactMembers_isSome_iff]
  · unfold PaymentTransaction.datetimeFields
    simp only [List.forall_mem_cons, toJson_str_isSome, toJson_float_isSome, toJson_int_isSome,
      toJson_datetime_isSome, toJson_optionalInt_isSome, toJson_optionalStr_isSome,
      toJson_optionalDatetime_isSome, hcreated, hconfirmed, hretried, hdead]
    cases payment.confirmedAt <;> cases payment.lastRetriedAt <;> cases payment.deadLetteredAt <;>
      simp
  · simp only [List.forall_mem_cons, isScalar_optionalInt, isScalar_optionalStr,
      isScalar_optionalDatetime]
    simp [isScalar]

/-- **The data of a call has a text** exactly if the redaction masks its payment's datetimes. -/
theorem toJson_slaData_isSome_iff (r : RedactionSettings) (outageId : String) (sla : SLAResult)
    (payment : PaymentTransaction) :
    (redactPayload r (slaData outageId sla payment)).toJson.isSome ↔ Masked r payment := by
  have hpayment : r.lowercase.lower "payment" = "payment" := r.lowercase.lower_eq (by decide) (by decide)
  unfold redactPayload Masked
  cases r.enabled with
  | false =>
    refine iff_of_false ?_ fun h => by cases h.1
    rw [if_neg Bool.false_ne_true]
    unfold slaData
    rw [toJson_dict_isSome_iff]
    intro hall
    have hdump := hall ("payment", payment.modelDump) (by simp)
    unfold PaymentTransaction.modelDump at hdump
    rw [toJson_dict_isSome_iff] at hdump
    have hcreated := hdump ("created_at", .datetime payment.createdAt) (by simp)
    cases hcreated
  | true =>
    rw [if_pos rfl, and_iff_right rfl]
    unfold slaData
    unfold redactValue
    rw [if_neg (by decide), toJson_dict_isSome_iff,
      mem_redactMembers (P := fun m => m.2.toJson.isSome = true)]
    simp only [List.forall_mem_cons]
    rw [hpayment, and_iff_right, and_iff_right, and_iff_left]
    · split
      · rename_i hmasked
        exact iff_of_true (toJson_str_isSome _) (.inl hmasked)
      · rename_i hplain
        rw [or_iff_right hplain]
        exact toJson_payment_isSome_iff r payment
    · exact fun _ h => absurd h List.not_mem_nil
    · split
      · exact toJson_str_isSome _
      · exact toJson_sla_isSome r 1 sla
    · split
      · exact toJson_str_isSome _
      · rw [redactValue_scalar r 1 rfl]
        exact toJson_str_isSome _

end NocIq
