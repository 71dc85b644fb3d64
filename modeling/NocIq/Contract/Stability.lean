import NocIq.Contract.Canonicalization

/-!
# NocIq — the stability of canonical requests

Params that differ in the order of keys, in the representation of numbers, and in members that are
empty are `Related`. What the two passes make of them is equal if they are `Stable`: integers stay
integers, and what is inserted is empty after one removal.

* **`form_obj`** — the two passes as one.
* **`form_eq_iff`** — related values have one canonical form exactly if they are stable.
* **`canonical_stable`** — hence one hash.
-/

namespace NocIq.Contract

variable {φ : Type} {floats : Floats φ}

/-! ## Numbers and empty values -/

/-- The decimal that `normalizeNumeric` makes of a value. -/
def decimalOf (floats : Floats φ) : Value φ → Option Decimal
  | .float x =>
    if floats.isFinite x then
      match toDecimal (floats.str x) with
      | some (.finite d) => some d
      | _ => none
    else none
  | .str text =>
    match toDecimal text with
    | some (.finite d) => some d
    | _ => none
  | _ => none

/-- The number that a value represents; a float is the number of its text. -/
def number (floats : Floats φ) : Value φ → Option ℚ
  | .int n => some n
  | v => (decimalOf floats v).map Decimal.value

def SameNumber (floats : Floats φ) (v v' : Value φ) : Prop :=
  ∃ q, number floats v = some q ∧ number floats v' = some q

mutual

/-- A value that is null, an empty string, an empty list, or an object whose members are all such
values. -/
def Value.isRemovable : Value φ → Bool
  | .null => true
  | .str text => decide (text = "")
  | .arr items => items.isEmpty
  | .obj members => areRemovable members
  | .bool _ | .int _ | .float _ => false

def areRemovable : List (String × Value φ) → Bool
  | [] => true
  | (_, v) :: ms => v.isRemovable && areRemovable ms

end

/-- A value that the passes drop: an object is so if its members are empty as they are. -/
def Value.isDropped : Value φ → Bool
  | .obj members => members.all fun m => m.2.isEmpty
  | v => v.isEmpty

/-! ## Params that differ -/

mutual

/-- Permuted keys, other representations of numbers, and inserted members. -/
inductive Related (floats : Floats φ) : Value φ → Value φ → Prop where
  | same (v : Value φ) : Related floats v v
  | number {v v' : Value φ} (h : SameNumber floats v v') : Related floats v v'
  | arr {items items' : List (Value φ)} (h : RelatedItems floats items items') :
    Related floats (.arr items) (.arr items')
  | obj {members permuted members' : List (String × Value φ)}
    (hkeys : (members.map Prod.fst).Nodup) (hkeys' : (members'.map Prod.fst).Nodup)
    (hperm : members.Perm permuted) (h : RelatedMembers floats permuted members') :
    Related floats (.obj members) (.obj members')

inductive RelatedItems (floats : Floats φ) : List (Value φ) → List (Value φ) → Prop where
  | nil : RelatedItems floats [] []
  | cons {v v' : Value φ} {vs vs' : List (Value φ)} (h : Related floats v v')
    (hrest : RelatedItems floats vs vs') : RelatedItems floats (v :: vs) (v' :: vs')

inductive RelatedMembers (floats : Floats φ) :
    List (String × Value φ) → List (String × Value φ) → Prop where
  | nil : RelatedMembers floats [] []
  | cons {key : String} {v v' : Value φ} {ms ms' : List (String × Value φ)}
    (h : Related floats v v') (hrest : RelatedMembers floats ms ms') :
    RelatedMembers floats ((key, v) :: ms) ((key, v') :: ms')
  | insert {key : String} {v' : Value φ} {ms ms' : List (String × Value φ)}
    (h : v'.isRemovable = true) (hrest : RelatedMembers floats ms ms') :
    RelatedMembers floats ms ((key, v') :: ms')

end

/-- Equal values, or decimals of one value and sign, which are not too large to be normalized. -/
def Alike (floats : Floats φ) (v v' : Value φ) : Prop :=
  v = v' ∨ ∃ d d', decimalOf floats v = some d ∧ decimalOf floats v' = some d' ∧
    d.value = d'.value ∧ d.negative = d'.negative ∧ (d.normalize decimalContext).isSome = true

mutual

/-- Params that differ, and are canonicalized alike: no integer is represented in another way, and
of two corresponding members both are dropped or none is. -/
inductive Stable (floats : Floats φ) : Value φ → Value φ → Prop where
  | same (v : Value φ) : Stable floats v v
  | number {v v' : Value φ} (h : SameNumber floats v v') (halike : Alike floats v v') :
    Stable floats v v'
  | arr {items items' : List (Value φ)} (h : StableItems floats items items') :
    Stable floats (.arr items) (.arr items')
  | obj {members permuted members' : List (String × Value φ)}
    (hkeys : (members.map Prod.fst).Nodup) (hkeys' : (members'.map Prod.fst).Nodup)
    (hperm : members.Perm permuted) (h : StableMembers floats permuted members') :
    Stable floats (.obj members) (.obj members')

inductive StableItems (floats : Floats φ) : List (Value φ) → List (Value φ) → Prop where
  | nil : StableItems floats [] []
  | cons {v v' : Value φ} {vs vs' : List (Value φ)} (h : Stable floats v v')
    (hrest : StableItems floats vs vs') : StableItems floats (v :: vs) (v' :: vs')

inductive StableMembers (floats : Floats φ) :
    List (String × Value φ) → List (String × Value φ) → Prop where
  | nil : StableMembers floats [] []
  | kept {key : String} {v v' : Value φ} {ms ms' : List (String × Value φ)}
    (h : Stable floats v v') (hv : v.isDropped = false) (hv' : v'.isDropped = false)
    (hrest : StableMembers floats ms ms') :
    StableMembers floats ((key, v) :: ms) ((key, v') :: ms')
  | dropped {key : String} {v v' : Value φ} {ms ms' : List (String × Value φ)}
    (h : Related floats v v') (hv : v.isDropped = true) (hv' : v'.isDropped = true)
    (hrest : StableMembers floats ms ms') :
    StableMembers floats ((key, v) :: ms) ((key, v') :: ms')
  | insert {key : String} {v' : Value φ} {ms ms' : List (String × Value φ)}
    (h : v'.isRemovable = true) (hv' : v'.isDropped = true)
    (hrest : StableMembers floats ms ms') :
    StableMembers floats ms ((key, v') :: ms')

end

/-! ## The passes as one -/

/-- What becomes of a member or an item. -/
def form (floats : Floats φ) (v : Value φ) : Value φ :=
  canonicalizeWith floats (fun v => normalizeNumeric floats (normalizeNumeric floats v))
    (removeNullsAndEmpty v)

/-- The members that are left, before they are sorted. -/
def formMembers (floats : Floats φ) (members : List (String × Value φ)) :
    List (String × Value φ) :=
  members.filterMap fun m => if m.2.isDropped then none else some (m.1, form floats m.2)

variable {v : Value φ}

theorem isDropped_of_isEmpty (h : v.isEmpty = true) : v.isDropped = true := by
  cases v with
  | obj members =>
    cases members with
    | nil => rfl
    | cons => cases h
  | null | bool | int | float | str | arr => exact h

theorem isEmpty_removeMembers (members : List (String × Value φ)) :
    (removeMembers members).isEmpty = members.all fun m => m.2.isEmpty := by
  induction members with
  | nil => rfl
  | cons m ms ih =>
    obtain ⟨key, v⟩ := m
    rw [removeMembers, List.all_cons]
    cases hv : v.isEmpty with
    | false => rfl
    | true => exact ih

theorem isEmpty_removeNullsAndEmpty (v : Value φ) :
    (removeNullsAndEmpty v).isEmpty = v.isDropped := by
  cases v with
  | obj members =>
    rw [removeNullsAndEmpty]
    exact isEmpty_removeMembers members
  | arr items =>
    rw [removeNullsAndEmpty]
    cases items with
    | nil => rfl
    | cons v vs =>
      rw [removeItems]
      rfl
  | null | bool | int | float | str =>
    rw [removeNullsAndEmpty_leaf rfl]
    rfl

theorem form_leaf (h : v.isLeaf = true) :
    form floats v = normalizeNumeric floats (normalizeNumeric floats v) := by
  unfold form
  rw [removeNullsAndEmpty_leaf h, canonicalizeWith_leaf floats _ h]

theorem canonicalizeItems_removeItems (items : List (Value φ)) :
    canonicalizeItems floats (removeItems items) = items.map (form floats) := by
  induction items with
  | nil =>
    rw [removeItems, canonicalizeItems]
    rfl
  | cons v vs ih =>
    rw [removeItems, canonicalizeItems, ih]
    rfl

theorem canonicalizeMembers_removeMembers (members : List (String × Value φ)) :
    canonicalizeMembers floats (removeMembers members) = formMembers floats members := by
  induction members with
  | nil =>
    rw [removeMembers, canonicalizeMembers]
    rfl
  | cons m ms ih =>
    obtain ⟨key, v⟩ := m
    rw [removeMembers]
    unfold formMembers at ih ⊢
    rw [List.filterMap_cons]
    dsimp only
    cases hempty : v.isEmpty with
    | true =>
      rw [if_pos rfl, isDropped_of_isEmpty hempty, ih]
      rfl
    | false =>
      rw [if_neg Bool.false_ne_true, canonicalizeMembers, isEmpty_removeNullsAndEmpty, ih]
      cases v.isDropped with
      | true => rfl
      | false => rfl

theorem form_arr (items : List (Value φ)) :
    form floats (.arr items) = .arr (items.map (form floats)) := by
  unfold form
  rw [removeNullsAndEmpty, canonicalizeWith, canonicalizeItems_removeItems]
  rfl

theorem form_obj (members : List (String × Value φ)) :
    form floats (.obj members) = .obj (sortMembers (formMembers floats members)) := by
  unfold form
  rw [removeNullsAndEmpty, canonicalizeWith, canonicalizeMembers_removeMembers]

theorem build_eq_form (env : Env φ) (params : List (String × Value φ))
    (builder : CanonicalRequestBuilder φ) :
    (builder.build env params).1 = form env.floats (.obj params) := by
  show canonicalize env.floats (removeNullsAndEmpty (.obj params)) = _
  rw [form_obj]
  unfold canonicalize
  rw [removeNullsAndEmpty, canonicalizeWith, canonicalizeMembers_removeMembers]

/-! ## Sorted members -/

theorem keys_formMembers_sublist (members : List (String × Value φ)) :
    ((formMembers floats members).map Prod.fst).Sublist (members.map Prod.fst) := by
  induction members with
  | nil => exact List.Sublist.refl _
  | cons m ms ih =>
    unfold formMembers at ih ⊢
    rw [List.filterMap_cons]
    cases m.2.isDropped with
    | true => exact ih.cons _
    | false => exact ih.cons_cons _

theorem sortMembers_perm (members : List (String × Value φ)) :
    (sortMembers members).Perm members :=
  List.perm_insertionSort _ members

theorem sortMembers_eq_of_perm {members members' : List (String × Value φ)}
    (hkeys : (members.map Prod.fst).Nodup) (hperm : members.Perm members') :
    sortMembers members = sortMembers members' := by
  have htotal : Std.Total fun m m' : String × Value φ => m.1 ≤ m'.1 :=
    ⟨fun m m' => le_total m.1 m'.1⟩
  have htrans : IsTrans (String × Value φ) fun m m' => m.1 ≤ m'.1 :=
    ⟨fun _ _ _ => le_trans⟩
  refine List.Perm.eq_of_pairwise ?_ (List.pairwise_insertionSort _ members)
    (List.pairwise_insertionSort _ members')
    ((sortMembers_perm members).trans (hperm.trans (sortMembers_perm members').symm))
  intro m m' hm hm' hle hle'
  have hmem : m ∈ members := (sortMembers_perm members).subset hm
  have hmem' : m' ∈ members := hperm.symm.subset ((sortMembers_perm members').subset hm')
  exact List.inj_on_of_nodup_map hkeys hmem hmem' (le_antisymm hle hle')

/-! ## The forms of numbers -/

variable {d : Decimal}

theorem normalizeText_of_finite {text : String} (h : toDecimal text = some (.finite d)) :
    normalizeText text = (d.normalize decimalContext).map fun d => stripTrailingZeros d.text := by
  unfold normalizeText
  rw [h]
  show ((d.normalize decimalContext).map Numeral.finite).map _ = _
  rw [Option.map_map]
  rfl

theorem decimalOf_cases (h : decimalOf floats v = some d) :
    (∃ text, v = .str text ∧ toDecimal text = some (.finite d)) ∨
      ∃ x, v = .float x ∧ floats.isFinite x = true ∧
        toDecimal (floats.str x) = some (.finite d) := by
  unfold decimalOf at h
  split at h
  · rename_i x
    split at h
    · rename_i hisFinite
      split at h
      · rename_i hfinite
        exact .inr ⟨x, rfl, hisFinite, Option.some.inj h ▸ hfinite⟩
      · cases h
    · cases h
  · rename_i text
    split at h
    · rename_i hfinite
      exact .inl ⟨text, rfl, Option.some.inj h ▸ hfinite⟩
    · cases h
  · cases h

theorem isLeaf_of_decimalOf (h : decimalOf floats v = some d) : v.isLeaf = true := by
  obtain ⟨text, rfl, -⟩ | ⟨x, rfl, -⟩ := decimalOf_cases h
  · rfl
  · rfl

theorem normalizeNumeric_of_normalize {n : Decimal} (h : decimalOf floats v = some d)
    (hn : d.normalize decimalContext = some n) :
    normalizeNumeric floats v = .str (stripTrailingZeros n.text) := by
  obtain ⟨text, rfl, hfinite⟩ | ⟨x, rfl, hisFinite, hfinite⟩ := decimalOf_cases h
  · unfold normalizeNumeric
    dsimp only
    rw [normalizeText_of_finite hfinite, hn]
    rfl
  · unfold normalizeNumeric
    dsimp only
    rw [if_pos hisFinite, normalizeText_of_finite hfinite, hn]
    rfl

theorem form_of_normalize_none (h : decimalOf floats v = some d)
    (hnone : d.normalize decimalContext = none) : form floats v = v ∧ ∃ text, v = .str text := by
  obtain ⟨text, rfl, hfinite⟩ | ⟨x, rfl, hisFinite, hfinite⟩ := decimalOf_cases h
  · have hkept : normalizeNumeric floats (.str text) = .str text := by
      unfold normalizeNumeric
      dsimp only
      rw [normalizeText_of_finite hfinite, hnone]
      rfl
    refine ⟨?_, text, rfl⟩
    rw [form_leaf rfl, hkept, hkept]
  · obtain ⟨d', hfinite', hsome⟩ := floats.str_finite x hisFinite
    rw [hfinite] at hfinite'
    rw [← Numeral.finite.inj (Option.some.inj hfinite'), hnone] at hsome
    cases hsome

theorem form_of_normalize {n : Decimal} (h : decimalOf floats v = some d)
    (hn : d.normalize decimalContext = some n) :
    form floats v = normalizeNumeric floats (.str (stripTrailingZeros n.text)) := by
  rw [form_leaf (isLeaf_of_decimalOf h), normalizeNumeric_of_normalize h hn]

theorem form_ne_int (h : decimalOf floats v = some d) (n : Int) : form floats v ≠ .int n := by
  cases hn : d.normalize decimalContext with
  | none =>
    obtain ⟨hform, text, rfl⟩ := form_of_normalize_none h hn
    rw [hform]
    simp
  | some m =>
    rw [form_of_normalize h hn]
    unfold normalizeNumeric
    simp

theorem form_int (n : Int) : form floats (.int n) = .int n := by
  rw [form_leaf rfl]
  rfl

theorem form_zero (h : decimalOf floats v = some d) (hzero : d.value = 0) :
    form floats v = .str (if d.negative then "-0" else "0") := by
  have hn := Decimal.normalize_zero decimalContext (Decimal.coefficient_eq_zero hzero)
  have htexts : ∀ negative, normalizeText (stripTrailingZeros (Decimal.text ⟨negative, 0, 0⟩)) =
      some (if negative then "-0" else "0") := by decide
  rw [form_of_normalize h hn]
  unfold normalizeNumeric
  dsimp only
  rw [htexts]
  rfl

theorem number_cases {q : ℚ} (h : number floats v = some q) :
    (∃ n : Int, v = .int n ∧ (n : ℚ) = q) ∨
      ∃ d, decimalOf floats v = some d ∧ d.value = q := by
  unfold number at h
  split at h
  · rename_i n
    exact .inl ⟨n, rfl, Option.some.inj h⟩
  · exact .inr (Option.map_eq_some_iff.mp h)

theorem number_of_decimalOf (h : decimalOf floats v = some d) : number floats v = some d.value := by
  obtain ⟨text, rfl, -⟩ | ⟨x, rfl, -⟩ := decimalOf_cases h
  · show (decimalOf floats (.str text)).map Decimal.value = some d.value
    rw [h]
    rfl
  · show (decimalOf floats (.float x)).map Decimal.value = some d.value
    rw [h]
    rfl

variable {v' : Value φ}

theorem sameNumber_of_decimals {d' : Decimal} (hd : decimalOf floats v = some d)
    (hd' : decimalOf floats v' = some d') (hvalue : d.value = d'.value) :
    SameNumber floats v v' :=
  ⟨d.value, number_of_decimalOf hd, by rw [number_of_decimalOf hd', hvalue]⟩

theorem alike_of_form_eq {d' : Decimal} (hd : decimalOf floats v = some d)
    (hd' : decimalOf floats v' = some d') (hvalue : d.value = d'.value)
    (hform : form floats v = form floats v') : Alike floats v v' := by
  have hnegative : d.negative = d'.negative := by
    by_cases hzero : d.value = 0
    · -- zeros of different signs have different forms
      rw [form_zero hd hzero, form_zero hd' (hvalue ▸ hzero)] at hform
      cases hsign : d.negative <;> cases hsign' : d'.negative <;> simp_all
    · exact Decimal.negative_eq hvalue hzero
  have hnormalize := Decimal.normalize_congr decimalContext hnegative hvalue
  cases hn : d.normalize decimalContext with
  | some n => exact .inr ⟨d, d', hd, hd', hvalue, hnegative, by rw [hn]; rfl⟩
  | none =>
    -- both are too large, and stay as they are
    rw [(form_of_normalize_none hd hn).1, (form_of_normalize_none hd' (hnormalize ▸ hn)).1] at hform
    exact .inl hform

/-- **Representations of one number** have one form exactly if they are alike. -/
theorem form_eq_iff_alike (h : SameNumber floats v v') :
    form floats v = form floats v' ↔ Alike floats v v' := by
  constructor
  · intro hform
    obtain ⟨q, hq, hq'⟩ := h
    rcases number_cases hq with ⟨n, rfl, hn⟩ | ⟨d, hd, hvalue⟩
    · rcases number_cases hq' with ⟨n', rfl, hn'⟩ | ⟨d', hd', -⟩
      · rw [form_int, form_int] at hform
        exact .inl hform
      · rw [form_int] at hform
        exact absurd hform.symm (form_ne_int hd' n)
    · rcases number_cases hq' with ⟨n', rfl, hn'⟩ | ⟨d', hd', hvalue'⟩
      · rw [form_int] at hform
        exact absurd hform (form_ne_int hd n')
      · exact alike_of_form_eq hd hd' (hvalue.trans hvalue'.symm) hform
  · rintro (rfl | ⟨d, d', hd, hd', hvalue, hnegative, hsome⟩)
    · rfl
    · obtain ⟨n, hn⟩ := Option.isSome_iff_exists.mp hsome
      have hn' : d'.normalize decimalContext = some n := by
        rw [← Decimal.normalize_congr decimalContext hnegative hvalue]
        exact hn
      rw [form_of_normalize hd hn, form_of_normalize hd' hn']

/-! ## Stable params -/

mutual

theorem form_eq_of_stable {v v' : Value φ} : Stable floats v v' → form floats v = form floats v'
  | .same v => rfl
  | .number h halike => (form_eq_iff_alike h).mpr halike
  | .arr h => by rw [form_arr, form_arr, map_form_eq_of_stable h]
  | .obj hkeys hkeys' hperm h => by
    -- permuted members leave permuted members, which are sorted alike
    have hleft := hperm.filterMap fun m =>
      if m.2.isDropped then none else some (m.1, form floats m.2)
    have hsorted := sortMembers_eq_of_perm ((keys_formMembers_sublist _).nodup hkeys) hleft
    rw [form_obj, form_obj, ← formMembers_eq_of_stable h]
    exact congrArg Value.obj hsorted

theorem map_form_eq_of_stable {items items' : List (Value φ)} :
    StableItems floats items items' → items.map (form floats) = items'.map (form floats)
  | .nil => rfl
  | .cons h hrest => by
    rw [List.map_cons, List.map_cons, form_eq_of_stable h, map_form_eq_of_stable hrest]

theorem formMembers_eq_of_stable {members members' : List (String × Value φ)} :
    StableMembers floats members members' →
      formMembers floats members = formMembers floats members'
  | .nil => rfl
  | .kept h hv hv' hrest => by
    unfold formMembers
    rw [List.filterMap_cons, List.filterMap_cons, hv, hv', form_eq_of_stable h]
    exact congrArg _ (formMembers_eq_of_stable hrest)
  | .dropped _ hv hv' hrest => by
    unfold formMembers
    rw [List.filterMap_cons, List.filterMap_cons, hv, hv']
    exact formMembers_eq_of_stable hrest
  | .insert _ hv' hrest => by
    unfold formMembers
    rw [List.filterMap_cons, hv']
    exact formMembers_eq_of_stable hrest

end

/-! ## Related params -/

variable {key : String}

theorem cons_perm_cons {ms ms' : List (String × Value φ)} (hkey' : key ∉ ms'.map Prod.fst)
    (h : ((key, v) :: ms).Perm ((key, v') :: ms')) : v = v' ∧ ms.Perm ms' := by
  have hmem : (key, v) ∈ (key, v') :: ms' := h.subset List.mem_cons_self
  rcases List.mem_cons.mp hmem with heq | hmem
  · obtain rfl : v = v' := (Prod.mk.inj heq).2
    exact ⟨rfl, h.cons_inv⟩
  · exact absurd (List.mem_map_of_mem hmem) hkey'

theorem not_perm_cons {ms ms' : List (String × Value φ)} (hkey' : key ∉ ms'.map Prod.fst) :
    ¬ ((key, v) :: ms).Perm ms' := by
  intro h
  have hmem : (key, v) ∈ ms' := h.subset List.mem_cons_self
  exact hkey' (List.mem_map_of_mem hmem)

theorem not_mem_keys_formMembers (floats : Floats φ) {members : List (String × Value φ)}
    (h : key ∉ members.map Prod.fst) : key ∉ (formMembers floats members).map Prod.fst :=
  fun hmem => h ((keys_formMembers_sublist members).subset hmem)

theorem keys_subset_of_related {members members' : List (String × Value φ)} :
    RelatedMembers floats members members' →
      ∀ key ∈ members.map Prod.fst, key ∈ members'.map Prod.fst
  | .nil => fun _ h => h
  | .cons _ hrest => fun key hkey => by
    rcases List.mem_cons.mp hkey with rfl | hkey
    · exact List.mem_cons_self
    · exact List.mem_cons_of_mem _ (keys_subset_of_related hrest key hkey)
  | .insert _ hrest => fun key hkey =>
    List.mem_cons_of_mem _ (keys_subset_of_related hrest key hkey)

theorem formMembers_cons (key : String) (v : Value φ) (members : List (String × Value φ)) :
    formMembers floats ((key, v) :: members) =
      if v.isDropped then formMembers floats members
      else (key, form floats v) :: formMembers floats members := by
  unfold formMembers
  rw [List.filterMap_cons]
  cases v.isDropped <;> rfl

mutual

theorem stable_of_form_eq {v v' : Value φ} :
    Related floats v v' → form floats v = form floats v' → Stable floats v v'
  | .same v, _ => .same v
  | .number h, hform => .number h ((form_eq_iff_alike h).mp hform)
  | .arr h, hform => by
    rw [form_arr, form_arr] at hform
    exact .arr (stableItems_of_map_form_eq h (Value.arr.inj hform))
  | .obj hkeys hkeys' hperm h, hform => by
    rw [form_obj, form_obj] at hform
    refine .obj hkeys hkeys' hperm (stableMembers_of_perm h ?_ hkeys' ?_)
    · exact (hperm.map Prod.fst).nodup_iff.mp hkeys
    · have hleft := hperm.filterMap fun m =>
        if m.2.isDropped then none else some (m.1, form floats m.2)
      -- sorting only permutes what is left
      have hsorted := (sortMembers_perm _).symm.trans
        ((List.Perm.of_eq (Value.obj.inj hform)).trans (sortMembers_perm _))
      exact hleft.symm.trans hsorted

theorem stableItems_of_map_form_eq {items items' : List (Value φ)} :
    RelatedItems floats items items' → items.map (form floats) = items'.map (form floats) →
      StableItems floats items items'
  | .nil, _ => .nil
  | .cons h hrest, hforms => by
    rw [List.map_cons, List.map_cons] at hforms
    obtain ⟨hform, hrestForms⟩ := List.cons.inj hforms
    exact .cons (stable_of_form_eq h hform) (stableItems_of_map_form_eq hrest hrestForms)

theorem stableMembers_of_perm {members members' : List (String × Value φ)} :
    RelatedMembers floats members members' → (members.map Prod.fst).Nodup →
      (members'.map Prod.fst).Nodup →
      (formMembers floats members).Perm (formMembers floats members') →
      StableMembers floats members members'
  | .nil, _, _, _ => .nil
  | @RelatedMembers.cons _ _ key v v' ms ms' h hrest, hkeys, hkeys', hforms => by
    obtain ⟨hkey, hkeys⟩ := List.nodup_cons.mp hkeys
    obtain ⟨hkey', hkeys'⟩ := List.nodup_cons.mp hkeys'
    have hkey := not_mem_keys_formMembers floats hkey
    have hkey' := not_mem_keys_formMembers floats hkey'
    rw [formMembers_cons, formMembers_cons] at hforms
    -- the key is in neither rest: a member that one side alone keeps is left over
    cases hv : v.isDropped with
    | true =>
      cases hv' : v'.isDropped with
      | true =>
        rw [hv, hv'] at hforms
        exact .dropped h hv hv' (stableMembers_of_perm hrest hkeys hkeys' hforms)
      | false =>
        rw [hv, hv'] at hforms
        exact absurd hforms.symm (not_perm_cons hkey)
    | false =>
      cases hv' : v'.isDropped with
      | true =>
        rw [hv, hv'] at hforms
        exact absurd hforms (not_perm_cons hkey')
      | false =>
        rw [hv, hv'] at hforms
        obtain ⟨hform, hforms⟩ := cons_perm_cons hkey' hforms
        exact .kept (stable_of_form_eq h hform) hv hv'
          (stableMembers_of_perm hrest hkeys hkeys' hforms)
  | @RelatedMembers.insert _ _ key v' ms ms' h hrest, hkeys, hkeys', hforms => by
    obtain ⟨hkey', hkeys'⟩ := List.nodup_cons.mp hkeys'
    have hkey := not_mem_keys_formMembers floats
      (fun hmem => hkey' (keys_subset_of_related hrest _ hmem))
    rw [formMembers_cons] at hforms
    -- the other side has no member of this key at all
    cases hv' : v'.isDropped with
    | true =>
      rw [hv'] at hforms
      exact .insert h hv' (stableMembers_of_perm hrest hkeys hkeys' hforms)
    | false =>
      rw [hv'] at hforms
      exact absurd hforms.symm (not_perm_cons hkey)

end

/-- **Related values** have one canonical form exactly if they are stable. -/
theorem form_eq_iff {v v' : Value φ} (h : Related floats v v') :
    form floats v = form floats v' ↔ Stable floats v v' :=
  ⟨stable_of_form_eq h, form_eq_of_stable⟩

/-! ## Canonical requests -/

/-- **Canonical requests are stable** under what keeps integers and drops what is inserted: one
canonical form, one hash, and `verify` accepts either with the hash of the other. -/
theorem canonical_stable (env : Env φ) {params params' : List (String × Value φ)}
    (h : Stable env.floats (.obj params) (.obj params'))
    {builder builder' : CanonicalRequestBuilder φ} (hsalt : builder.salt = builder'.salt) :
    (builder.build env params).1 = (builder'.build env params').1 ∧
      (builder.build env params).2.hash env = (builder'.build env params').2.hash env ∧
      ∀ digest, (builder.build env params).2.hash env = .ok digest →
        (builder'.verify env params' digest).1 = .ok true := by
  have hform : (builder.build env params).1 = (builder'.build env params').1 := by
    rw [build_eq_form, build_eq_form]
    exact form_eq_of_stable h
  exact ⟨hform, CanonicalRequestBuilder.verify_of_build_eq env hsalt hform⟩

/-- One float, which is `1.5`. -/
def oneFloat : Floats Unit where
  isFinite _ := true
  str _ := "1.5"
  str_finite _ _ := ⟨⟨false, 15, -1⟩, by decide, by decide⟩

def oneFloatEnv : Env Unit where
  floats := oneFloat
  salt := "salt"
  dumps _ := "canonical"
  sha256 text := text

theorem form_of_trailing_zeros :
    form oneFloat (.float ()) = form oneFloat (.str "1.500") ↔
      Stable oneFloat (.float ()) (.str "1.500") := by
  have hvalue : Decimal.value ⟨false, 15, -1⟩ = Decimal.value ⟨false, 1500, -3⟩ := by
    unfold Decimal.value
    norm_num
  exact form_eq_iff (.number (sameNumber_of_decimals rfl rfl hvalue))

/-- A payout whose keys are in another order, with another text of its amount and an empty memo. -/
theorem canonical_stable_payout :
    let builder : CanonicalRequestBuilder Unit := CanonicalRequestBuilder.new oneFloatEnv none
    (builder.build oneFloatEnv [("amount", .float ()), ("to", .str "GABC")]).1 =
      (builder.build oneFloatEnv
        [("to", .str "GABC"), ("memo", .str ""), ("amount", .str "1.500")]).1 := by
  intro builder
  have hd : decimalOf oneFloat (.float ()) = some ⟨false, 15, -1⟩ := by rfl
  have hd' : decimalOf oneFloat (.str "1.500") = some ⟨false, 1500, -3⟩ := by rfl
  have hvalue : Decimal.value ⟨false, 15, -1⟩ = Decimal.value ⟨false, 1500, -3⟩ := by
    unfold Decimal.value
    norm_num
  have hamount : Stable oneFloat (.float ()) (.str "1.500") :=
    .number (sameNumber_of_decimals hd hd' hvalue)
      (.inr ⟨_, _, hd, hd', hvalue, rfl, by decide⟩)
  have hmembers : StableMembers oneFloat [("to", .str "GABC"), ("amount", .float ())]
      [("to", .str "GABC"), ("memo", .str ""), ("amount", .str "1.500")] :=
    .kept (.same _) rfl rfl (.insert rfl rfl (.kept hamount rfl rfl .nil))
  have hparams : Stable oneFloat (.obj [("amount", .float ()), ("to", .str "GABC")])
      (.obj [("to", .str "GABC"), ("memo", .str ""), ("amount", .str "1.500")]) :=
    .obj (by decide) (by decide) (.swap _ _ _) hmembers
  exact (canonical_stable oneFloatEnv hparams (rfl : builder.salt = builder.salt)).1

theorem form_single (h : v.isDropped = false) :
    form floats (.obj [(key, v)]) = .obj [(key, form floats v)] := by
  rw [form_obj, formMembers_cons, h]
  rfl

/-- Params that are related, and have different canonical forms. -/
def Diverge (params params' : List (String × Value Unit)) : Prop :=
  Related oneFloat (.obj params) (.obj params') ∧
    ((CanonicalRequestBuilder.new oneFloatEnv none).build oneFloatEnv params).1 ≠
      ((CanonicalRequestBuilder.new oneFloatEnv none).build oneFloatEnv params').1

theorem diverge_single {v v' : Value Unit} (hnumber : SameNumber oneFloat v v')
    (hv : v.isDropped = false) (hv' : v'.isDropped = false)
    (hform : form oneFloat v ≠ form oneFloat v') : Diverge [(key, v)] [(key, v')] := by
  refine ⟨.obj (by simp) (by simp) (.refl _) (.cons (.number hnumber) .nil), ?_⟩
  rw [build_eq_form, build_eq_form]
  intro heq
  rw [form_single hv, form_single hv'] at heq
  simp only [Value.obj.injEq, List.cons.injEq, Prod.mk.injEq, true_and, and_true] at heq
  exact hform heq

/-- **An integer and a decimal** of one value, members that are empty only after more than one
removal, zeros of different signs, and numbers that are too large to be normalized. -/
theorem related_params_diverge :
    Diverge [("amount", .int 100)] [("amount", .str "100.00")] ∧
      Diverge [] [("memo", .obj [("note", .obj [("text", .null)])])] ∧
      Diverge [("amount", .str "0")] [("amount", .str "-0.0")] ∧
      Diverge [("amount", .str "1E+1000000")] [("amount", .str "1.0E+1000000")] := by
  refine ⟨?_, ?_, ?_, ?_⟩
  · have hd : decimalOf oneFloat (.str "100.00") = some ⟨false, 10000, -2⟩ := by rfl
    refine diverge_single ⟨100, rfl, ?_⟩ rfl rfl ?_
    · rw [number_of_decimalOf hd]
      unfold Decimal.value
      norm_num
    · rw [form_int]
      exact (form_ne_int hd 100).symm
  · refine ⟨.obj (by simp) (by simp) (.refl _) (.insert rfl .nil), ?_⟩
    rw [build_eq_form, build_eq_form]
    intro heq
    rw [form_obj, form_single rfl] at heq
    cases heq
  · have hd : decimalOf oneFloat (.str "0") = some ⟨false, 0, 0⟩ := by rfl
    have hd' : decimalOf oneFloat (.str "-0.0") = some ⟨true, 0, -1⟩ := by rfl
    have hzero : Decimal.value ⟨false, 0, 0⟩ = 0 := Decimal.value_zero rfl
    have hzero' : Decimal.value ⟨true, 0, -1⟩ = 0 := Decimal.value_zero rfl
    refine diverge_single (sameNumber_of_decimals hd hd' (hzero.trans hzero'.symm)) rfl rfl ?_
    rw [form_zero hd hzero, form_zero hd' hzero']
    simp
  · have hd : decimalOf oneFloat (.str "1E+1000000") = some ⟨false, 1, 1000000⟩ := by rfl
    have hd' : decimalOf oneFloat (.str "1.0E+1000000") = some ⟨false, 10, 999999⟩ := by rfl
    have hvalue : Decimal.value ⟨false, 1, 1000000⟩ = Decimal.value ⟨false, 10, 999999⟩ :=
      (Decimal.value_scale ⟨false, 1, 1000000⟩).symm
    refine diverge_single (sameNumber_of_decimals hd hd' hvalue) rfl rfl ?_
    rw [(form_of_normalize_none hd (by decide)).1, (form_of_normalize_none hd' (by decide)).1]
    simp

end NocIq.Contract
