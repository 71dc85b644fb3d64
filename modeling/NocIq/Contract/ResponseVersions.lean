import NocIq.Outage.Rows

/-!
# NocIq — the versions of a bridge response

`app/services/contracts/response_versioning.py`. A response of the target version is validated as
it is. One of the other version is copied member by member, with a default for each that is absent,
and the copy is validated.

The last two lines of `normalize_response`, for a target that is neither version, are left out.

* **`isOk_modelValidateV1` / `isOk_modelValidateV2`** — what the two classes accept.
* **`isOk_copiedV1` / `isOk_copiedV2`** — what a copy asks of the response.
* **`invents_nothing_iff`** — the responses that are normalised without making anything up.
-/

namespace NocIq.Contract

/-! ## The responses -/

inductive SchemaVersion where
  | v1
  | v2
  deriving DecidableEq, Repr

structure BridgeResponseV1 (φ : Type) where
  status : String
  amount : φ
  assetCode : String
  fromAddress : String
  toAddress : String
  txHash : Option String
  error : Option String
  deriving Repr

structure BridgeResponseV2 (φ : Type) where
  status : String
  amount : φ
  assetCode : String
  fromAddress : String
  toAddress : String
  txHash : Option String
  error : Option String
  network : Option String
  blockNumber : Option Int
  metadata : OutageCreate.Members
  deriving Repr

inductive BridgeResponse (φ : Type) where
  | v1 (response : BridgeResponseV1 φ)
  | v2 (response : BridgeResponseV2 φ)
  deriving Repr

def BridgeResponse.shared {φ : Type} : BridgeResponse φ → BridgeResponseV1 φ
  | .v1 r => r
  | .v2 r => ⟨r.status, r.amount, r.assetCode, r.fromAddress, r.toAddress, r.txHash, r.error⟩

def sharedMembers : List String :=
  ["status", "amount", "asset_code", "from_address", "to_address", "tx_hash", "error"]

def requiredMembers : List String :=
  ["status", "amount", "asset_code", "from_address", "to_address"]

/-! ## Validation -/

/-- What pydantic reads a number from, of the floats `φ`. -/
structure BridgePydantic (φ : Type) where
  toFloat : Json.Value → Except (String × String) φ
  toInt : Json.Value → Except (String × String) Int

namespace BridgePydantic

variable {φ : Type} (pyd : BridgePydantic φ)

def checkFloat (loc : String) (value : Json.Value) : Checked φ :=
  OutageCreate.converted loc (pyd.toFloat value)

def checkInt (loc : String) (value : Json.Value) : Checked Int :=
  OutageCreate.converted loc (pyd.toInt value)

end BridgePydantic

/-- `dict[str, Any]`. -/
def checkDict (loc : String) : Json.Value → Checked OutageCreate.Members
  | .obj members => .ok members
  | _ => fieldError loc "dict_type" "Input should be a valid dictionary"

/-- A field with a default, which is not validated. -/
def defaulted {α : Type} (check : String → Json.Value → Checked α) (default : α)
    (members : OutageCreate.Members) (name : String) : Checked α :=
  match members.lookup name with
  | none => .ok default
  | some value => check name value

section Validation

variable {φ : Type} (pyd : BridgePydantic φ) (raw : OutageCreate.Members)

def BridgeResponseV1.modelValidate : Checked (BridgeResponseV1 φ) :=
  (Checked.ok BridgeResponseV1.mk)
    |>.ap (OutageCreate.required OutageCreate.checkStr raw "status")
    |>.ap (OutageCreate.required pyd.checkFloat raw "amount")
    |>.ap (OutageCreate.required OutageCreate.checkStr raw "asset_code")
    |>.ap (OutageCreate.required OutageCreate.checkStr raw "from_address")
    |>.ap (OutageCreate.required OutageCreate.checkStr raw "to_address")
    |>.ap (OutageCreate.optional OutageCreate.checkStr raw "tx_hash")
    |>.ap (OutageCreate.optional OutageCreate.checkStr raw "error")

def BridgeResponseV2.modelValidate : Checked (BridgeResponseV2 φ) :=
  (Checked.ok BridgeResponseV2.mk)
    |>.ap (OutageCreate.required OutageCreate.checkStr raw "status")
    |>.ap (OutageCreate.required pyd.checkFloat raw "amount")
    |>.ap (OutageCreate.required OutageCreate.checkStr raw "asset_code")
    |>.ap (OutageCreate.required OutageCreate.checkStr raw "from_address")
    |>.ap (OutageCreate.required OutageCreate.checkStr raw "to_address")
    |>.ap (OutageCreate.optional OutageCreate.checkStr raw "tx_hash")
    |>.ap (OutageCreate.optional OutageCreate.checkStr raw "error")
    |>.ap (OutageCreate.optional OutageCreate.checkStr raw "network")
    |>.ap (OutageCreate.optional pyd.checkInt raw "block_number")
    |>.ap (defaulted checkDict [] raw "metadata")

end Validation

/-! ## Normalisation -/

section Normalisation

variable {φ : Type} (pyd : BridgePydantic φ)

def detectVersion (raw : OutageCreate.Members) : SchemaVersion :=
  match raw.lookup "bridge_schema_version" with
  | some (.str "v1") => .v1
  | some (.str "v2") => .v2
  | _ =>
    if (raw.lookup "network").isSome || (raw.lookup "block_number").isSome ||
        (raw.lookup "metadata").isSome then .v2
    else .v1

/-- The keyword arguments of the `BridgeResponseV1` that is made of a response of version 2. -/
def copiedV1 (raw : OutageCreate.Members) : OutageCreate.Members :=
  [("status", (raw.lookup "status").getD (.str "")),
    ("amount", (raw.lookup "amount").getD (.int 0)),
    ("asset_code", (raw.lookup "asset_code").getD (.str "")),
    ("from_address", (raw.lookup "from_address").getD (.str "")),
    ("to_address", (raw.lookup "to_address").getD (.str "")),
    ("tx_hash", (raw.lookup "tx_hash").getD .null),
    ("error", (raw.lookup "error").getD .null)]

/-- The keyword arguments of the `BridgeResponseV2` that is made of a response of version 1. -/
def copiedV2 (raw : OutageCreate.Members) : OutageCreate.Members :=
  copiedV1 raw ++
    [("network", (raw.lookup "network").getD .null),
      ("block_number", (raw.lookup "block_number").getD .null),
      ("metadata", (raw.lookup "metadata").getD (.obj []))]

/-- `configured` is the setting `BRIDGE_RESPONSE_VERSION`. -/
def normalizeResponse (configured : SchemaVersion) (raw : OutageCreate.Members)
    (targetVersion : Option SchemaVersion) : Checked (BridgeResponse φ) :=
  match detectVersion raw, targetVersion.getD configured with
  | .v2, .v2 => (BridgeResponseV2.modelValidate pyd raw).map .v2
  | .v1, .v1 => (BridgeResponseV1.modelValidate pyd raw).map .v1
  | .v1, .v2 => (BridgeResponseV2.modelValidate pyd (copiedV2 raw)).map .v2
  | .v2, .v1 => (BridgeResponseV1.modelValidate pyd (copiedV1 raw)).map .v1

end Normalisation

/-! ## What is asked -/

/-- The value is accepted. -/
def IsOk {α : Type} (x : Checked α) : Prop := ∃ a, x = .ok a

section Asked

variable {φ : Type} (pyd : BridgePydantic φ)

/-- The members of a normalised response that both versions have are those of the raw one. -/
structure FromRaw (raw : OutageCreate.Members) (r : BridgeResponseV1 φ) : Prop where
  status : OutageCreate.required OutageCreate.checkStr raw "status" = .ok r.status
  amount : OutageCreate.required pyd.checkFloat raw "amount" = .ok r.amount
  assetCode : OutageCreate.required OutageCreate.checkStr raw "asset_code" = .ok r.assetCode
  fromAddress : OutageCreate.required OutageCreate.checkStr raw "from_address" = .ok r.fromAddress
  toAddress : OutageCreate.required OutageCreate.checkStr raw "to_address" = .ok r.toAddress
  txHash : OutageCreate.optional OutageCreate.checkStr raw "tx_hash" = .ok r.txHash
  error : OutageCreate.optional OutageCreate.checkStr raw "error" = .ok r.error

structure InventsNothing (configured : SchemaVersion) (raw : OutageCreate.Members) : Prop where
  required : ∀ targetVersion r, normalizeResponse pyd configured raw targetVersion = .ok r →
    ∀ name ∈ requiredMembers, (raw.lookup name).isSome
  shared : ∀ targetVersion r, normalizeResponse pyd configured raw targetVersion = .ok r →
    FromRaw pyd raw r.shared
  downgrade : IsOk (normalizeResponse pyd configured raw (some .v2)) →
    IsOk (normalizeResponse pyd configured raw (some .v1))

/-- A member whose value its field takes. -/
def WellFormed (name : String) (value : Json.Value) : Prop :=
  match name with
  | "amount" => IsOk (pyd.checkFloat name value)
  | "tx_hash" | "error" | "network" => value = .null ∨ IsOk (OutageCreate.checkStr name value)
  | "block_number" => value = .null ∨ IsOk (pyd.checkInt name value)
  | "metadata" => IsOk (checkDict name value)
  | _ => IsOk (OutageCreate.checkStr name value)

/-- The members that are copied out of a response of this version into one of the other. -/
def SchemaVersion.copied : SchemaVersion → List String
  | .v1 => sharedMembers ++ ["network", "block_number", "metadata"]
  | .v2 => sharedMembers

def MembersFit (raw : OutageCreate.Members) (names : List String) : Prop :=
  ∀ name ∈ names, ∀ value, raw.lookup name = some value → WellFormed pyd name value

end Asked

/-! ## What the classes accept -/

section Accepted

variable {α β φ : Type} {check : String → Json.Value → Checked α}
  {members raw : OutageCreate.Members} {name : String} {pyd : BridgePydantic φ}

theorem isOk_ok (a : α) : IsOk (Checked.ok a) := ⟨a, rfl⟩

theorem isOk_ap {f : Checked (α → β)} {x : Checked α} : IsOk (f.ap x) ↔ IsOk f ∧ IsOk x := by
  constructor
  · rintro ⟨b, h⟩
    obtain ⟨g, a, hf, hx, -⟩ := Checked.ap_eq_ok.mp h
    exact ⟨⟨g, hf⟩, ⟨a, hx⟩⟩
  · rintro ⟨⟨g, hf⟩, ⟨a, hx⟩⟩
    exact ⟨g a, Checked.ap_eq_ok.mpr ⟨g, a, hf, hx, rfl⟩⟩

theorem isOk_map {f : α → β} {x : Checked α} : IsOk (x.map f) ↔ IsOk x := by
  constructor
  · rintro ⟨b, h⟩
    obtain ⟨a, hx, -⟩ := Checked.map_eq_ok.mp h
    exact ⟨a, hx⟩
  · rintro ⟨a, hx⟩
    exact ⟨f a, Checked.map_eq_ok.mpr ⟨a, hx, rfl⟩⟩

theorem isOk_required :
    IsOk (OutageCreate.required check members name) ↔
      (members.lookup name).isSome ∧
        ∀ value, members.lookup name = some value → IsOk (check name value) := by
  unfold OutageCreate.required
  cases members.lookup name with
  | none => simp [IsOk, fieldError]
  | some value => simp

theorem isOk_optional :
    IsOk (OutageCreate.optional check members name) ↔
      ∀ value, members.lookup name = some value → value = .null ∨ IsOk (check name value) := by
  unfold OutageCreate.optional
  cases members.lookup name with
  | none => simp [isOk_ok]
  | some value =>
    cases value with
    | null => simp [isOk_ok]
    | bool | int | float | nonFinite | str | loneStr | arr | obj | loneObj => simp [isOk_map]

theorem isOk_defaulted {default : α} :
    IsOk (defaulted check default members name) ↔
      ∀ value, members.lookup name = some value → IsOk (check name value) := by
  unfold defaulted
  cases members.lookup name with
  | none => simp [isOk_ok]
  | some value => simp

theorem isOk_modelValidateV1 :
    IsOk (BridgeResponseV1.modelValidate pyd raw) ↔
      (∀ name ∈ requiredMembers, (raw.lookup name).isSome) ∧ MembersFit pyd raw sharedMembers := by
  unfold BridgeResponseV1.modelValidate MembersFit requiredMembers sharedMembers
  simp only [isOk_ap, isOk_ok, isOk_required, isOk_optional, List.forall_mem_cons, WellFormed,
    true_and]
  tauto

theorem isOk_modelValidateV2 :
    IsOk (BridgeResponseV2.modelValidate pyd raw) ↔
      (∀ name ∈ requiredMembers, (raw.lookup name).isSome) ∧
        MembersFit pyd raw (SchemaVersion.copied .v1) := by
  unfold BridgeResponseV2.modelValidate MembersFit requiredMembers SchemaVersion.copied
    sharedMembers
  simp only [isOk_ap, isOk_ok, isOk_required, isOk_optional, isOk_defaulted, List.cons_append,
    List.nil_append, List.forall_mem_cons, WellFormed, true_and]
  tauto

end Accepted

/-! ## What a copy asks -/

/-- The value that the copies give to a member that is absent. -/
def copyDefault : String → Json.Value
  | "amount" => .int 0
  | "tx_hash" | "error" | "network" | "block_number" => .null
  | "metadata" => .obj []
  | _ => .str ""

section Copies

variable {α φ : Type} {check : String → Json.Value → Checked α}
  {raw copied : OutageCreate.Members} {names : List String} {name : String}
  {pyd : BridgePydantic φ}

theorem lookup_copiedV1 (raw : OutageCreate.Members) :
    ∀ name ∈ sharedMembers,
      (copiedV1 raw).lookup name = some ((raw.lookup name).getD (copyDefault name)) := by
  simp [sharedMembers, copiedV1, copyDefault, List.lookup_cons]

theorem lookup_copiedV2 (raw : OutageCreate.Members) :
    ∀ name ∈ SchemaVersion.copied .v1,
      (copiedV2 raw).lookup name = some ((raw.lookup name).getD (copyDefault name)) := by
  simp [SchemaVersion.copied, sharedMembers, copiedV2, copiedV1, copyDefault, List.lookup_cons]

theorem wellFormed_copyDefault (hzero : ∃ zero, pyd.toFloat (.int 0) = .ok zero) :
    ∀ name ∈ SchemaVersion.copied .v1, WellFormed pyd name (copyDefault name) := by
  obtain ⟨zero, hzero⟩ := hzero
  simp [SchemaVersion.copied, sharedMembers, copyDefault, WellFormed, BridgePydantic.checkFloat,
    hzero, OutageCreate.converted, OutageCreate.checkStr, checkDict, isOk_ok]

theorem membersFit_copied
    (hcopy : ∀ name ∈ names, copied.lookup name = some ((raw.lookup name).getD (copyDefault name)))
    (hdefault : ∀ name ∈ names, WellFormed pyd name (copyDefault name)) :
    MembersFit pyd copied names ↔ MembersFit pyd raw names := by
  refine forall₂_congr fun name hname => ?_
  rw [hcopy name hname]
  cases raw.lookup name with
  | none => simp [hdefault name hname]
  | some value => simp

theorem isOk_copiedV1 (hzero : ∃ zero, pyd.toFloat (.int 0) = .ok zero) :
    IsOk (BridgeResponseV1.modelValidate pyd (copiedV1 raw)) ↔
      MembersFit pyd raw (SchemaVersion.copied .v2) := by
  have hshared : ∀ name ∈ sharedMembers, name ∈ SchemaVersion.copied .v1 := by decide
  have hrequired : ∀ name ∈ requiredMembers, name ∈ sharedMembers := by decide
  have hdefault := fun name hname => wellFormed_copyDefault hzero name (hshared name hname)
  rw [isOk_modelValidateV1, membersFit_copied (lookup_copiedV1 raw) hdefault]
  refine and_iff_right ?_
  intro name hname
  rw [lookup_copiedV1 raw name (hrequired name hname)]
  rfl

theorem isOk_copiedV2 (hzero : ∃ zero, pyd.toFloat (.int 0) = .ok zero) :
    IsOk (BridgeResponseV2.modelValidate pyd (copiedV2 raw)) ↔
      MembersFit pyd raw (SchemaVersion.copied .v1) := by
  have hrequired : ∀ name ∈ requiredMembers, name ∈ SchemaVersion.copied .v1 := by decide
  rw [isOk_modelValidateV2,
    membersFit_copied (lookup_copiedV2 raw) (wellFormed_copyDefault hzero)]
  refine and_iff_right ?_
  intro name hname
  rw [lookup_copiedV2 raw name (hrequired name hname)]
  rfl

/-! ### Where the members come from -/

theorem fromRaw_of_V1 {r : BridgeResponseV1 φ}
    (h : BridgeResponseV1.modelValidate pyd raw = .ok r) : FromRaw pyd raw r := by
  obtain ⟨_, error, h₁, herror, rfl⟩ := Checked.ap_eq_ok.mp h
  obtain ⟨_, txHash, h₂, htxHash, rfl⟩ := Checked.ap_eq_ok.mp h₁
  obtain ⟨_, toAddress, h₃, htoAddress, rfl⟩ := Checked.ap_eq_ok.mp h₂
  obtain ⟨_, fromAddress, h₄, hfromAddress, rfl⟩ := Checked.ap_eq_ok.mp h₃
  obtain ⟨_, assetCode, h₅, hassetCode, rfl⟩ := Checked.ap_eq_ok.mp h₄
  obtain ⟨_, amount, h₆, hamount, rfl⟩ := Checked.ap_eq_ok.mp h₅
  obtain ⟨_, status, h₇, hstatus, rfl⟩ := Checked.ap_eq_ok.mp h₆
  cases h₇
  exact ⟨hstatus, hamount, hassetCode, hfromAddress, htoAddress, htxHash, herror⟩

theorem fromRaw_of_V2 {r : BridgeResponseV2 φ}
    (h : BridgeResponseV2.modelValidate pyd raw = .ok r) :
    FromRaw pyd raw (BridgeResponse.v2 r).shared := by
  obtain ⟨_, metadata, h₁, -, rfl⟩ := Checked.ap_eq_ok.mp h
  obtain ⟨_, blockNumber, h₂, -, rfl⟩ := Checked.ap_eq_ok.mp h₁
  obtain ⟨_, network, h₃, -, rfl⟩ := Checked.ap_eq_ok.mp h₂
  obtain ⟨_, error, h₄, herror, rfl⟩ := Checked.ap_eq_ok.mp h₃
  obtain ⟨_, txHash, h₅, htxHash, rfl⟩ := Checked.ap_eq_ok.mp h₄
  obtain ⟨_, toAddress, h₆, htoAddress, rfl⟩ := Checked.ap_eq_ok.mp h₅
  obtain ⟨_, fromAddress, h₇, hfromAddress, rfl⟩ := Checked.ap_eq_ok.mp h₆
  obtain ⟨_, assetCode, h₈, hassetCode, rfl⟩ := Checked.ap_eq_ok.mp h₇
  obtain ⟨_, amount, h₉, hamount, rfl⟩ := Checked.ap_eq_ok.mp h₈
  obtain ⟨_, status, h₁₀, hstatus, rfl⟩ := Checked.ap_eq_ok.mp h₉
  cases h₁₀
  exact ⟨hstatus, hamount, hassetCode, hfromAddress, htoAddress, htxHash, herror⟩

theorem required_copied
    (hcopy : copied.lookup name = some ((raw.lookup name).getD (copyDefault name)))
    (hpresent : (raw.lookup name).isSome) :
    OutageCreate.required check copied name = OutageCreate.required check raw name := by
  obtain ⟨value, hvalue⟩ := Option.isSome_iff_exists.mp hpresent
  unfold OutageCreate.required
  rw [hcopy, hvalue]
  rfl

theorem optional_copied (hcopy : copied.lookup name = some ((raw.lookup name).getD .null)) :
    OutageCreate.optional check copied name = OutageCreate.optional check raw name := by
  unfold OutageCreate.optional
  rw [hcopy]
  cases raw.lookup name with
  | none => rfl
  | some value => rfl

theorem FromRaw.of_copied {r : BridgeResponseV1 φ} (h : FromRaw pyd copied r)
    (hcopy : ∀ name ∈ sharedMembers,
      copied.lookup name = some ((raw.lookup name).getD (copyDefault name)))
    (hpresent : ∀ name ∈ requiredMembers, (raw.lookup name).isSome) : FromRaw pyd raw r where
  status := by
    rw [← h.status, required_copied (hcopy _ (by decide)) (hpresent _ (by decide))]
  amount := by
    rw [← h.amount, required_copied (hcopy _ (by decide)) (hpresent _ (by decide))]
  assetCode := by
    rw [← h.assetCode, required_copied (hcopy _ (by decide)) (hpresent _ (by decide))]
  fromAddress := by
    rw [← h.fromAddress, required_copied (hcopy _ (by decide)) (hpresent _ (by decide))]
  toAddress := by
    rw [← h.toAddress, required_copied (hcopy _ (by decide)) (hpresent _ (by decide))]
  txHash := by
    rw [← h.txHash, optional_copied (hcopy "tx_hash" (by decide))]
  error := by
    rw [← h.error, optional_copied (hcopy "error" (by decide))]

end Copies

/-! ## Normalised responses -/

section Normalised

variable {φ : Type} {pyd : BridgePydantic φ} {configured : SchemaVersion}
  {raw : OutageCreate.Members}

/-- What is normalised comes from the raw response. The cases are the four pairs of versions; the
condition is used by the two that copy. -/
theorem fromRaw_of_normalize (hzero : ∃ zero, pyd.toFloat (.int 0) = .ok zero)
    (hcond : (∀ name ∈ requiredMembers, (raw.lookup name).isSome) ∨
      ¬ MembersFit pyd raw (detectVersion raw).copied)
    {targetVersion : Option SchemaVersion} {r : BridgeResponse φ}
    (h : normalizeResponse pyd configured raw targetVersion = .ok r) :
    (∀ name ∈ requiredMembers, (raw.lookup name).isSome) ∧ FromRaw pyd raw r.shared := by
  unfold normalizeResponse at h
  split at h
  · obtain ⟨r', hr, rfl⟩ := Checked.map_eq_ok.mp h
    exact ⟨(isOk_modelValidateV2.mp ⟨r', hr⟩).1, fromRaw_of_V2 hr⟩
  · obtain ⟨r', hr, rfl⟩ := Checked.map_eq_ok.mp h
    exact ⟨(isOk_modelValidateV1.mp ⟨r', hr⟩).1, fromRaw_of_V1 hr⟩
  · rename_i hsource _
    obtain ⟨r', hr, rfl⟩ := Checked.map_eq_ok.mp h
    -- the copy gives absent members a default, so only the condition says that they are there
    have hfit := (isOk_copiedV2 hzero).mp ⟨r', hr⟩
    rw [hsource] at hcond
    have hpresent := hcond.resolve_right (not_not_intro hfit)
    have hshared : ∀ name ∈ sharedMembers, name ∈ SchemaVersion.copied .v1 := by decide
    refine ⟨hpresent, (fromRaw_of_V2 hr).of_copied ?_ hpresent⟩
    intro name hname
    exact lookup_copiedV2 raw name (hshared name hname)
  · rename_i hsource _
    obtain ⟨r', hr, rfl⟩ := Checked.map_eq_ok.mp h
    have hfit := (isOk_copiedV1 hzero).mp ⟨r', hr⟩
    rw [hsource] at hcond
    have hpresent := hcond.resolve_right (not_not_intro hfit)
    exact ⟨hpresent, (fromRaw_of_V1 hr).of_copied (lookup_copiedV1 raw) hpresent⟩

theorem MembersFit.shared (h : MembersFit pyd raw (SchemaVersion.copied .v1)) :
    MembersFit pyd raw sharedMembers := by
  intro name hname
  exact h name (List.mem_append_left _ hname)

theorem isOk_downgrade (hzero : ∃ zero, pyd.toFloat (.int 0) = .ok zero)
    (hcond : (∀ name ∈ requiredMembers, (raw.lookup name).isSome) ∨
      ¬ MembersFit pyd raw (detectVersion raw).copied)
    (h : IsOk (normalizeResponse pyd configured raw (some .v2))) :
    IsOk (normalizeResponse pyd configured raw (some .v1)) := by
  unfold normalizeResponse at h ⊢
  cases hsource : detectVersion raw with
  | v1 =>
    rw [hsource] at h hcond
    -- version 1 does not copy its own responses: it asks for every required member
    have hfit := (isOk_copiedV2 hzero).mp (isOk_map.mp h)
    have hpresent := hcond.resolve_right (not_not_intro hfit)
    exact isOk_map.mpr (isOk_modelValidateV1.mpr ⟨hpresent, hfit.shared⟩)
  | v2 =>
    rw [hsource] at h
    have hfit := (isOk_modelValidateV2.mp (isOk_map.mp h)).2
    exact isOk_map.mpr ((isOk_copiedV1 hzero).mpr hfit.shared)

theorem exists_copied (hzero : ∃ zero, pyd.toFloat (.int 0) = .ok zero)
    (hfit : MembersFit pyd raw (detectVersion raw).copied) :
    ∃ targetVersion, IsOk (normalizeResponse pyd configured raw targetVersion) := by
  unfold normalizeResponse
  cases hsource : detectVersion raw with
  | v1 =>
    rw [hsource] at hfit
    exact ⟨some .v2, isOk_map.mpr ((isOk_copiedV2 hzero).mpr hfit)⟩
  | v2 =>
    rw [hsource] at hfit
    exact ⟨some .v1, isOk_map.mpr ((isOk_copiedV1 hzero).mpr hfit)⟩

/-- **Normalisation that invents nothing.** Either all required members are there, or one that is
copied into the other version is malformed, so that there is no copy. -/
theorem invents_nothing_iff (pyd : BridgePydantic φ) (configured : SchemaVersion)
    (raw : OutageCreate.Members) (hzero : ∃ zero, pyd.toFloat (.int 0) = .ok zero) :
    InventsNothing pyd configured raw ↔
      (∀ name ∈ requiredMembers, (raw.lookup name).isSome) ∨
        ¬ MembersFit pyd raw (detectVersion raw).copied := by
  constructor
  · intro h
    by_cases hfit : MembersFit pyd raw (detectVersion raw).copied
    · -- the copy into the other version is accepted, and would have invented the members
      obtain ⟨targetVersion, r, hr⟩ := exists_copied hzero hfit
      exact Or.inl (h.required targetVersion r hr)
    · exact Or.inr hfit
  · intro hcond
    exact ⟨fun _ _ hr => (fromRaw_of_normalize hzero hcond hr).1,
      fun _ _ hr => (fromRaw_of_normalize hzero hcond hr).2, isOk_downgrade hzero hcond⟩

end Normalised

/-! ### Two responses -/

def numbers : BridgePydantic ℚ where
  toFloat
    | .int n => .ok n
    | .float q => .ok q
    | _ => .error ("float_type", "Input should be a valid number")
  toInt
    | .int n => .ok n
    | _ => .error ("int_type", "Input should be a valid integer")

/-- A response of version 1 with the required members. -/
def confirmedResponse : OutageCreate.Members :=
  [("status", .str "confirmed"), ("amount", .int 50), ("asset_code", .str "USDC"),
    ("from_address", .str "GABC"), ("to_address", .str "GDEF")]

theorem confirmed_invents_nothing : InventsNothing numbers .v2 confirmedResponse :=
  (invents_nothing_iff numbers .v2 confirmedResponse ⟨0, rfl⟩).mpr (Or.inl (by decide))

/-- **The empty response** is normalised to a transfer of nothing to nobody, and only for the other
version. -/
theorem empty_response_is_accepted :
    normalizeResponse numbers .v2 [] none =
        .ok (.v2 ⟨"", 0, "", "", "", none, none, none, none, []⟩) ∧
      ¬ IsOk (normalizeResponse numbers .v2 [] (some .v1)) ∧
      ¬ InventsNothing numbers .v2 [] := by
  have haccepted : normalizeResponse numbers .v2 [] none =
      .ok (.v2 ⟨"", 0, "", "", "", none, none, none, none, []⟩) := rfl
  refine ⟨haccepted, ?_, ?_⟩
  · intro h
    have hstrict : IsOk ((BridgeResponseV1.modelValidate numbers []).map BridgeResponse.v1) := h
    have hpresent := (isOk_modelValidateV1.mp (isOk_map.mp hstrict)).1 "status" (by decide)
    cases hpresent
  · intro h
    have hpresent := h.required none _ haccepted "status" (by decide)
    cases hpresent

end NocIq.Contract
