import NocIq.Contract.Trimming

/-!
# NocIq — requests with one canonical form

Two numbers or numerals collide if they become one numeral: they are rounded to 28 digits, and if
the rounded number has more than one digit and is written with an exponent, the zeros at the end of
the exponent are lost, so that `1.5E+10` becomes 15.

* **`form_eq_iff_confused`** — values have one canonical form just when they are confused.
* **`canonical_unambiguous`** — requests that differ in a number or a string, at a path.
-/

namespace NocIq.Contract

variable {φ : Type} {floats : Floats φ}

/-! ## Confusion -/

/-- The values become one numeral. -/
def Collide (floats : Floats φ) (v v' : Value φ) : Prop :=
  ∃ n, canonicalNumeral floats v = some n ∧ canonicalNumeral floats v' = some n

/-- The members that are left. -/
def kept (members : List (String × Value φ)) : List (String × Value φ) :=
  members.filter fun m => !m.2.isDropped

mutual

/-- The same up to numerals that collide, members that are dropped, and the order of members. -/
inductive Confused (floats : Floats φ) : Value φ → Value φ → Prop where
  | same (v : Value φ) : Confused floats v v
  | collide {v v' : Value φ} (h : Collide floats v v') : Confused floats v v'
  | arr {items items' : List (Value φ)} (h : ConfusedItems floats items items') :
    Confused floats (.arr items) (.arr items')
  | obj {members members' matched : List (String × Value φ)} (hperm : (kept members').Perm matched)
    (h : ConfusedMembers floats (kept members) matched) :
    Confused floats (.obj members) (.obj members')

inductive ConfusedItems (floats : Floats φ) : List (Value φ) → List (Value φ) → Prop where
  | nil : ConfusedItems floats [] []
  | cons {v v' : Value φ} {vs vs' : List (Value φ)} (h : Confused floats v v')
    (hrest : ConfusedItems floats vs vs') : ConfusedItems floats (v :: vs) (v' :: vs')

inductive ConfusedMembers (floats : Floats φ) :
    List (String × Value φ) → List (String × Value φ) → Prop where
  | nil : ConfusedMembers floats [] []
  | cons {key : String} {v v' : Value φ} {ms ms' : List (String × Value φ)}
    (h : Confused floats v v') (hrest : ConfusedMembers floats ms ms') :
    ConfusedMembers floats ((key, v) :: ms) ((key, v') :: ms')

end

mutual

def Value.DistinctKeys : Value φ → Prop
  | .arr items => DistinctKeysItems items
  | .obj members => (members.map Prod.fst).Nodup ∧ DistinctKeysMembers members
  | .null | .bool _ | .int _ | .float _ | .str _ => True

def DistinctKeysItems : List (Value φ) → Prop
  | [] => True
  | v :: vs => v.DistinctKeys ∧ DistinctKeysItems vs

def DistinctKeysMembers : List (String × Value φ) → Prop
  | [] => True
  | (_, v) :: ms => v.DistinctKeys ∧ DistinctKeysMembers ms

end

theorem formMembers_eq_map (members : List (String × Value φ)) :
    formMembers floats members = (kept members).map fun m => (m.1, form floats m.2) := by
  induction members with
  | nil => rfl
  | cons m ms ih =>
    obtain ⟨key, v⟩ := m
    rw [formMembers_cons]
    unfold kept
    cases hdropped : v.isDropped with
    | true =>
      rw [List.filter_cons_of_neg (by simp [hdropped]), if_pos rfl, ih]
      rfl
    | false =>
      rw [List.filter_cons_of_pos (by simp [hdropped]), if_neg (by simp), ih]
      rfl

variable {v v' : Value φ}

theorem form_eq_of_collide (h : Collide floats v v') : form floats v = form floats v' := by
  obtain ⟨n, hn, hn'⟩ := h
  rw [form_of_canonicalNumeral hn, form_of_canonicalNumeral hn']

theorem not_form_eq_of_none {n : Numeral} (hn : canonicalNumeral floats v = some n)
    (hleaf : v'.isLeaf = true) (hnone : canonicalNumeral floats v' = none) :
    form floats v ≠ form floats v' := by
  rw [form_of_canonicalNumeral hn, form_of_none hleaf hnone]
  rintro rfl
  rw [canonicalNumeral_text hn] at hnone
  cases hnone

theorem collide_of_form_eq (hleaf : v.isLeaf = true) (hleaf' : v'.isLeaf = true)
    (h : form floats v = form floats v') : v = v' ∨ Collide floats v v' := by
  cases hn : canonicalNumeral floats v with
  | some n =>
    cases hn' : canonicalNumeral floats v' with
    | some n' =>
      rw [form_of_canonicalNumeral hn, form_of_canonicalNumeral hn'] at h
      have hreadable := readable_of_normal (normalNumeral_of_canonicalNumeral hn)
      have hreadable' := readable_of_normal (normalNumeral_of_canonicalNumeral hn')
      obtain rfl := Numeral.text_inj readsDigits hreadable hreadable' (Value.str.inj h)
      exact .inr ⟨n, hn, hn'⟩
    | none => exact absurd h (not_form_eq_of_none hn hleaf' hn')
  | none =>
    cases hn' : canonicalNumeral floats v' with
    | some n' => exact absurd h.symm (not_form_eq_of_none hn' hleaf hn)
    | none =>
      rw [form_of_none hleaf hn, form_of_none hleaf' hn'] at h
      exact .inl h

theorem isLeaf_form (h : v.isLeaf = true) : (form floats v).isLeaf = true := by
  rw [form_leaf h]
  exact isLeaf_normalizeNumeric floats (isLeaf_normalizeNumeric floats h)

/-- A list that is what becomes of another one, member by member. Induction on the permutation. -/
theorem exists_matched {α β : Type} {f : α → β} {l : List β} {l' : List α}
    (h : l.Perm (l'.map f)) : ∃ matched, l'.Perm matched ∧ l = matched.map f := by
  generalize hm : l'.map f = m at h
  induction h generalizing l' with
  | nil => exact ⟨[], by rw [List.map_eq_nil_iff.mp hm], rfl⟩
  | cons x _ ih =>
    cases l' with
    | nil => cases hm
    | cons a l' =>
      obtain ⟨rfl, hrest⟩ := List.cons.inj hm
      obtain ⟨matched, hperm, rfl⟩ := ih hrest
      exact ⟨a :: matched, hperm.cons a, rfl⟩
  | swap x y l =>
    match l', hm with
    | a :: b :: l', hm =>
      obtain ⟨rfl, hrest⟩ := List.cons.inj hm
      obtain ⟨rfl, rfl⟩ := List.cons.inj hrest
      exact ⟨b :: a :: l', .swap b a l', rfl⟩
  | trans _ _ ih ih' =>
    obtain ⟨middle, hperm, rfl⟩ := ih' hm
    obtain ⟨matched, hperm', rfl⟩ := ih rfl
    exact ⟨matched, hperm.trans hperm', rfl⟩

variable {members : List (String × Value φ)}

theorem distinctKeys_kept (h : DistinctKeysMembers members) :
    DistinctKeysMembers (kept members) := by
  induction members with
  | nil => exact h
  | cons m ms ih =>
    obtain ⟨hv, hrest⟩ := h
    unfold kept
    cases hdropped : m.2.isDropped with
    | true =>
      rw [List.filter_cons_of_neg (by simp [hdropped])]
      exact ih hrest
    | false =>
      rw [List.filter_cons_of_pos (by simp [hdropped])]
      exact ⟨hv, ih hrest⟩

theorem keys_formMembers_nodup (h : (members.map Prod.fst).Nodup) :
    ((formMembers floats members).map Prod.fst).Nodup :=
  (keys_formMembers_sublist members).nodup h

/-! ## Confused values have one canonical form -/

mutual

theorem form_eq_of_confused {v v' : Value φ} :
    Confused floats v v' → v.DistinctKeys → form floats v = form floats v'
  | .same v, _ => rfl
  | .collide h, _ => form_eq_of_collide h
  | .arr h, hkeys => by
    rw [form_arr, form_arr, map_form_eq_of_confused h (by simpa only [Value.DistinctKeys] using hkeys)]
  | @Confused.obj _ _ members members' matched hperm h, hkeys => by
    rw [Value.DistinctKeys] at hkeys
    have hmatched := map_members_eq_of_confused h (distinctKeys_kept hkeys.2)
    have hforms : (formMembers floats members).Perm (formMembers floats members') := by
      rw [formMembers_eq_map, formMembers_eq_map, hmatched]
      exact (hperm.map _).symm
    rw [form_obj, form_obj, sortMembers_eq_of_perm (keys_formMembers_nodup hkeys.1) hforms]

theorem map_form_eq_of_confused {items items' : List (Value φ)} :
    ConfusedItems floats items items' → DistinctKeysItems items →
      items.map (form floats) = items'.map (form floats)
  | .nil, _ => rfl
  | .cons h hrest, hkeys => by
    rw [DistinctKeysItems] at hkeys
    rw [List.map_cons, List.map_cons, form_eq_of_confused h hkeys.1,
      map_form_eq_of_confused hrest hkeys.2]

theorem map_members_eq_of_confused {members members' : List (String × Value φ)} :
    ConfusedMembers floats members members' → DistinctKeysMembers members →
      members.map (fun m => (m.1, form floats m.2)) = members'.map fun m => (m.1, form floats m.2)
  | .nil, _ => rfl
  | .cons h hrest, hkeys => by
    rw [DistinctKeysMembers] at hkeys
    rw [List.map_cons, List.map_cons, form_eq_of_confused h hkeys.1,
      map_members_eq_of_confused hrest hkeys.2]

end

/-! ## One canonical form, and what the values are -/

theorem isLeaf_of_form (hleaf : v'.isLeaf = false) (h : form floats v = v') : v.isLeaf = false := by
  cases hv : v.isLeaf with
  | false => rfl
  | true =>
    have hform : (form floats v).isLeaf = true := isLeaf_form hv
    rw [h, hleaf] at hform
    cases hform

theorem eq_arr_of_form {items : List (Value φ)} (h : form floats v = .arr items) :
    ∃ items', v = .arr items' ∧ items'.map (form floats) = items := by
  have hleaf := isLeaf_of_form rfl h
  cases v with
  | arr items' =>
    rw [form_arr] at h
    exact ⟨items', rfl, Value.arr.inj h⟩
  | obj members =>
    rw [form_obj] at h
    cases h
  | null | bool | int | float | str => cases hleaf

theorem eq_obj_of_form (h : form floats v = .obj members) :
    ∃ members', v = .obj members' ∧ sortMembers (formMembers floats members') = members := by
  have hleaf := isLeaf_of_form rfl h
  cases v with
  | arr items =>
    rw [form_arr] at h
    cases h
  | obj members' =>
    rw [form_obj] at h
    exact ⟨members', rfl, Value.obj.inj h⟩
  | null | bool | int | float | str => cases hleaf

theorem isLeaf_of_form_eq (hleaf : v.isLeaf = true) (h : form floats v = form floats v') :
    v'.isLeaf = true := by
  cases hv' : v'.isLeaf with
  | true => rfl
  | false =>
    have hform : (form floats v).isLeaf = true := isLeaf_form hleaf
    rw [h] at hform
    cases v' with
    | arr items =>
      rw [form_arr] at hform
      cases hform
    | obj members =>
      rw [form_obj] at hform
      cases hform
    | null | bool | int | float | str => cases hv'

theorem formMembers_perm {members' : List (String × Value φ)}
    (h : form floats (.obj members) = form floats (.obj members')) :
    (formMembers floats members).Perm (formMembers floats members') := by
  rw [form_obj, form_obj] at h
  have hsorted := Value.obj.inj h
  refine (sortMembers_perm _).symm.trans ?_
  rw [hsorted]
  exact sortMembers_perm _

theorem confused_of_leaf (hleaf : v.isLeaf = true) (h : form floats v = form floats v') :
    Confused floats v v' := by
  obtain rfl | hcollide := collide_of_form_eq hleaf (isLeaf_of_form_eq hleaf h) h
  · exact .same v
  · exact .collide hcollide

theorem kept_cons (key : String) (v : Value φ) (ms : List (String × Value φ)) :
    kept ((key, v) :: ms) = if v.isDropped then kept ms else (key, v) :: kept ms := by
  unfold kept
  cases hdropped : v.isDropped with
  | true => rw [List.filter_cons_of_neg (by simp [hdropped]), if_pos rfl]
  | false => rw [List.filter_cons_of_pos (by simp [hdropped]), if_neg (by simp)]

mutual

theorem confused_of_form_eq {v : Value φ} (v' : Value φ) (h : form floats v = form floats v') :
    Confused floats v v' := by
  cases v with
  | arr items =>
    obtain ⟨items', rfl, hitems⟩ := eq_arr_of_form ((form_arr items).symm.trans h).symm
    exact .arr (confused_of_map_form_eq items' hitems.symm)
  | obj members =>
    obtain ⟨members', rfl, -⟩ := eq_obj_of_form ((form_obj members).symm.trans h).symm
    have hperm := formMembers_perm h
    rw [formMembers_eq_map, formMembers_eq_map] at hperm
    obtain ⟨matched, hmatched, heq⟩ := exists_matched hperm
    exact .obj hmatched (confused_of_map_members_eq matched heq)
  | null | bool | int | float | str => exact confused_of_leaf rfl h

theorem confused_of_map_form_eq {items : List (Value φ)} (items' : List (Value φ))
    (h : items.map (form floats) = items'.map (form floats)) :
    ConfusedItems floats items items' := by
  cases items with
  | nil =>
    cases items' with
    | nil => exact .nil
    | cons => cases h
  | cons v vs =>
    cases items' with
    | nil => cases h
    | cons v' vs' =>
      obtain ⟨hv, hvs⟩ := List.cons.inj h
      exact .cons (confused_of_form_eq v' hv) (confused_of_map_form_eq vs' hvs)

theorem confused_of_map_members_eq {members : List (String × Value φ)}
    (matched : List (String × Value φ))
    (h : (kept members).map (fun m => (m.1, form floats m.2)) =
      matched.map fun m => (m.1, form floats m.2)) :
    ConfusedMembers floats (kept members) matched := by
  cases members with
  | nil =>
    cases matched with
    | nil => exact .nil
    | cons => cases h
  | cons m ms =>
    obtain ⟨key, v⟩ := m
    rw [kept_cons] at h ⊢
    cases hdropped : v.isDropped with
    | true =>
      rw [hdropped, if_pos rfl] at h
      rw [if_pos rfl]
      exact confused_of_map_members_eq matched h
    | false =>
      rw [hdropped, if_neg (by simp)] at h
      rw [if_neg (by simp)]
      cases matched with
      | nil => cases h
      | cons m' ms' =>
        obtain ⟨key', v'⟩ := m'
        obtain ⟨hm, hms⟩ := List.cons.inj h
        obtain ⟨rfl, hv⟩ := Prod.mk.inj hm
        exact .cons (confused_of_form_eq v' hv) (confused_of_map_members_eq ms' hms)

end

/-- **One canonical form** have just the values that are confused. -/
theorem form_eq_iff_confused (hkeys : v.DistinctKeys) :
    form floats v = form floats v' ↔ Confused floats v v' :=
  ⟨confused_of_form_eq v', fun h => form_eq_of_confused h hkeys⟩

/-! ## Paths -/

inductive PathStep where
  | key (key : String)
  | index (index : Nat)

def member (key : String) (members : List (String × Value φ)) : Option (Value φ) :=
  (members.find? fun m => decide (m.1 = key)).map Prod.snd

/-- The value at a path; `none` if it is not present. -/
def valueAt : List PathStep → Value φ → Option (Value φ)
  | [], v => some v
  | .key key :: path, .obj members => (member key members).bind (valueAt path)
  | .index index :: path, .arr items => (items[index]?).bind (valueAt path)
  | _ :: _, _ => none

/-- Numbers that denote different rationals, or different strings of which `Decimal` does not read
both. -/
def Different (floats : Floats φ) (v v' : Value φ) : Prop :=
  (∃ q q', number floats v = some q ∧ number floats v' = some q' ∧ q ≠ q') ∨
    ∃ text text', v = .str text ∧ v' = .str text' ∧ text ≠ text' ∧
      (toDecimal text = none ∨ toDecimal text' = none)

theorem isLeaf_of_number {q : ℚ} (h : number floats v = some q) : v.isLeaf = true := by
  obtain ⟨n, rfl, -⟩ | ⟨d, hd, -⟩ := number_cases h
  · rfl
  · exact isLeaf_of_decimalOf hd

theorem Different.isLeaf (h : Different floats v v') : v.isLeaf = true ∧ v'.isLeaf = true := by
  obtain ⟨q, q', hq, hq', -⟩ | ⟨text, text', rfl, rfl, -⟩ := h
  · exact ⟨isLeaf_of_number hq, isLeaf_of_number hq'⟩
  · exact ⟨rfl, rfl⟩

theorem Different.ne (h : Different floats v v') : v ≠ v' := by
  rintro rfl
  obtain ⟨q, q', hq, hq', hne⟩ | ⟨text, text', rfl, htext, hne, -⟩ := h
  · exact hne (Option.some.inj (hq.symm.trans hq'))
  · exact hne (Value.str.inj htext)

theorem not_isEmpty_of_number {q : ℚ} (h : number floats v = some q) : v.isEmpty = false := by
  obtain ⟨n, rfl, -⟩ | ⟨d, hd, -⟩ := number_cases h
  · rfl
  · obtain ⟨text, rfl, htext⟩ | ⟨x, rfl, -⟩ := decimalOf_cases hd
    · refine decide_eq_false ?_
      rintro rfl
      cases htext
    · rfl

theorem Different.not_isEmpty (h : Different floats v v') :
    ¬ (v.isEmpty = true ∧ v'.isEmpty = true) := by
  rintro ⟨hempty, hempty'⟩
  obtain ⟨q, q', hq, -⟩ | ⟨text, text', rfl, rfl, hne, -⟩ := h
  · rw [not_isEmpty_of_number hq] at hempty
    cases hempty
  · exact hne ((of_decide_eq_true hempty).trans (of_decide_eq_true hempty').symm)

variable {key : String}

theorem mem_of_member (h : member key members = some v) : (key, v) ∈ members := by
  obtain ⟨m, hm, rfl⟩ := Option.map_eq_some_iff.mp h
  have hkey : m.1 = key := by simpa using List.find?_some hm
  rw [← hkey]
  exact List.mem_of_find?_eq_some hm

theorem isEmpty_of_isDropped {w : Value φ} {path : List PathStep} (hdropped : v.isDropped = true)
    (hleaf : w.isLeaf = true) (h : valueAt path v = some w) : w.isEmpty = true := by
  have hnothing : ∀ {path : List PathStep} {u : Value φ}, u.isEmpty = true →
      valueAt path u = some w → w.isEmpty = true := by
    intro path u hempty hu
    cases path with
    | nil => exact Option.some.inj hu ▸ hempty
    | cons step path =>
      cases u with
      | arr items =>
        obtain rfl := List.isEmpty_iff.mp hempty
        cases step with
        | key => cases hu
        | index index => simp [valueAt] at hu
      | obj members =>
        obtain rfl := List.isEmpty_iff.mp hempty
        cases step with
        | key => cases hu
        | index index => cases hu
      | null | str => cases step <;> cases hu
      | bool | int | float => cases hempty
  cases v with
  | obj members =>
    cases path with
    | nil =>
      obtain rfl := Option.some.inj h
      cases hleaf
    | cons step path =>
      cases step with
      | index index => cases h
      | key key =>
        obtain ⟨u, hu, hw⟩ := Option.bind_eq_some_iff.mp h
        exact hnothing (List.all_eq_true.mp hdropped _ (mem_of_member hu)) hw
  | null | bool | int | float | str | arr =>
    refine hnothing ?_ h
    exact hdropped

theorem mem_formMembers (hmem : (key, v) ∈ members) (hdropped : v.isDropped = false) :
    (key, form floats v) ∈ formMembers floats members := by
  rw [formMembers_eq_map]
  exact List.mem_map.mpr ⟨(key, v), List.mem_filter.mpr ⟨hmem, by simp [hdropped]⟩, rfl⟩

theorem form_eq_of_kept {members' : List (String × Value φ)}
    (hperm : (formMembers floats members).Perm (formMembers floats members'))
    (hkeys' : (members'.map Prod.fst).Nodup) (hv : member key members = some v)
    (hv' : member key members' = some v') (hdropped : v.isDropped = false) :
    v'.isDropped = false ∧ form floats v = form floats v' := by
  have hmem := hperm.subset (mem_formMembers (mem_of_member hv) hdropped)
  rw [formMembers_eq_map] at hmem
  obtain ⟨⟨key', u⟩, hu, heq⟩ := List.mem_map.mp hmem
  obtain ⟨hmem', hleft⟩ := List.mem_filter.mp hu
  obtain ⟨hkey, hform⟩ := Prod.mk.inj heq
  have hsame : (key', u) = (key, v') :=
    List.inj_on_of_nodup_map hkeys' hmem' (mem_of_member hv') hkey
  obtain ⟨rfl, rfl⟩ := Prod.mk.inj hsame
  exact ⟨by simpa using hleft, hform.symm⟩

theorem distinctKeys_of_mem (h : DistinctKeysMembers members) (hmem : (key, v) ∈ members) :
    v.DistinctKeys := by
  induction members with
  | nil => cases hmem
  | cons m ms ih =>
    obtain rfl | hmem := List.mem_cons.mp hmem
    · exact h.1
    · exact ih h.2 hmem

theorem distinctKeys_of_getElem {items : List (Value φ)} (h : DistinctKeysItems items) {i : Nat}
    (hv : items[i]? = some v) : v.DistinctKeys := by
  induction items generalizing i with
  | nil => cases hv
  | cons u us ih =>
    cases i with
    | zero =>
      obtain rfl := Option.some.inj hv
      exact h.1
    | succ i => exact ih h.2 hv

/-- **Values of one canonical form** that differ at a path collide there. Induction on the path. -/
theorem collide_of_valueAt {path : List PathStep} {u u' : Value φ} (hkeys : u.DistinctKeys)
    (hkeys' : u'.DistinctKeys) (hv : valueAt path u = some v) (hv' : valueAt path u' = some v')
    (hdifferent : Different floats v v') (hform : form floats u = form floats u') :
    Collide floats v v' := by
  induction path generalizing u u' with
  | nil =>
    obtain rfl := Option.some.inj hv
    obtain rfl := Option.some.inj hv'
    obtain ⟨hleaf, hleaf'⟩ := hdifferent.isLeaf
    exact (collide_of_form_eq hleaf hleaf' hform).resolve_left hdifferent.ne
  | cons step path ih =>
    cases step with
    | key key =>
      cases u with
      | obj members =>
        cases u' with
        | obj members' =>
          obtain ⟨w, hw, hwv⟩ := Option.bind_eq_some_iff.mp hv
          obtain ⟨w', hw', hwv'⟩ := Option.bind_eq_some_iff.mp hv'
          rw [Value.DistinctKeys] at hkeys hkeys'
          have hperm := formMembers_perm hform
          have hin := distinctKeys_of_mem hkeys.2 (mem_of_member hw)
          have hin' := distinctKeys_of_mem hkeys'.2 (mem_of_member hw')
          cases hdropped : w.isDropped with
          | false =>
            exact ih hin hin' hwv hwv' (form_eq_of_kept hperm hkeys'.1 hw hw' hdropped).2
          | true =>
            cases hdropped' : w'.isDropped with
            | false =>
              obtain ⟨hleft, -⟩ := form_eq_of_kept hperm.symm hkeys.1 hw' hw hdropped'
              rw [hdropped] at hleft
              cases hleft
            | true =>
              -- both are dropped, and with them what is at the path
              obtain ⟨hleaf, hleaf'⟩ := hdifferent.isLeaf
              exact absurd ⟨isEmpty_of_isDropped hdropped hleaf hwv,
                isEmpty_of_isDropped hdropped' hleaf' hwv'⟩ hdifferent.not_isEmpty
        | null | bool | int | float | str | arr => cases hv'
      | null | bool | int | float | str | arr => cases hv
    | index index =>
      cases u with
      | arr items =>
        cases u' with
        | arr items' =>
          obtain ⟨w, hw, hwv⟩ := Option.bind_eq_some_iff.mp hv
          obtain ⟨w', hw', hwv'⟩ := Option.bind_eq_some_iff.mp hv'
          rw [Value.DistinctKeys] at hkeys hkeys'
          rw [form_arr, form_arr] at hform
          have hitem := congrArg (·[index]?) (Value.arr.inj hform)
          simp only [List.getElem?_map, hw, hw', Option.map_some, Option.some.injEq] at hitem
          exact ih (distinctKeys_of_getElem hkeys hw) (distinctKeys_of_getElem hkeys' hw') hwv hwv'
            hitem
        | null | bool | int | float | str | obj => cases hv'
      | null | bool | int | float | str | obj => cases hv

/-! ## Canonical requests -/

theorem hash_ne_iff {env : Env φ} (hsha256 : Function.Injective env.sha256)
    (hdumps : Function.Injective env.dumps) {params params' : List (String × Value φ)}
    {builder builder' : CanonicalRequestBuilder φ} (hsalt : builder.salt = builder'.salt) :
    (builder.build env params).2.hash env ≠ (builder'.build env params').2.hash env ↔
      (builder.build env params).1 ≠ (builder'.build env params').1 := by
  rw [CanonicalRequestBuilder.hash_build, CanonicalRequestBuilder.hash_build, hsalt]
  refine not_congr ⟨?_, ?_⟩
  · intro h
    have htext := hsha256 (Except.ok.inj h)
    have hlist := congrArg String.toList htext
    rw [String.toList_append, String.toList_append] at hlist
    exact hdumps (String.toList_inj.mp (List.append_cancel_left hlist))
  · intro h
    rw [h]

/-- **Requests that differ** at a path in a number or a string have different canonical forms, and
so different hashes, just when what they have there does not collide or they differ elsewhere in
what is not confused. -/
theorem canonical_unambiguous (env : Env φ) {params params' : List (String × Value φ)}
    (hkeys : (Value.obj params).DistinctKeys) (hkeys' : (Value.obj params').DistinctKeys)
    {path : List PathStep} {v v' : Value φ} (hv : valueAt path (.obj params) = some v)
    (hv' : valueAt path (.obj params') = some v') (hdifferent : Different env.floats v v')
    (builder builder' : CanonicalRequestBuilder φ) :
    ((builder.build env params).1 ≠ (builder'.build env params').1 ↔
      ¬ Collide env.floats v v' ∨ ¬ Confused env.floats (.obj params) (.obj params')) ∧
    (builder.salt = builder'.salt → Function.Injective env.sha256 → Function.Injective env.dumps →
      ((builder.build env params).2.hash env ≠ (builder'.build env params').2.hash env ↔
        ¬ Collide env.floats v v' ∨ ¬ Confused env.floats (.obj params) (.obj params'))) := by
  have hforms : (builder.build env params).1 ≠ (builder'.build env params').1 ↔
      ¬ Collide env.floats v v' ∨ ¬ Confused env.floats (.obj params) (.obj params') := by
    rw [build_eq_form, build_eq_form, Ne, form_eq_iff_confused hkeys]
    constructor
    · exact Or.inr
    · rintro (hcollide | hconfused) heq
      · have hform := (form_eq_iff_confused hkeys).mpr heq
        exact hcollide (collide_of_valueAt hkeys hkeys' hv hv' hdifferent hform)
      · exact hconfused heq
  refine ⟨hforms, ?_⟩
  intro hsalt hsha256 hdumps
  rw [hash_ne_iff hsha256 hdumps hsalt]
  exact hforms

/-- An amount and a larger one. -/
theorem canonical_unambiguous_amounts :
    let builder : CanonicalRequestBuilder Unit := CanonicalRequestBuilder.new oneFloatEnv none
    (builder.build oneFloatEnv [("amount", .float ())]).1 ≠
      (builder.build oneFloatEnv [("amount", .str "2.00")]).1 := by
  intro builder
  have hd : decimalOf oneFloat (.float ()) = some ⟨false, 15, -1⟩ := by rfl
  have hd' : decimalOf oneFloat (.str "2.00") = some ⟨false, 200, -2⟩ := by rfl
  have hdifferent : Different oneFloat (.float ()) (.str "2.00") := by
    refine .inl ⟨_, _, number_of_decimalOf hd, number_of_decimalOf hd', ?_⟩
    unfold Decimal.value
    norm_num
  have hcollide : ¬ Collide oneFloat (.float ()) (.str "2.00") := by
    rintro ⟨n, hn, hn'⟩
    have hone : canonicalNumeral oneFloat (.float ()) = some (.finite ⟨false, 15, -1⟩) := by rfl
    have htwo : canonicalNumeral oneFloat (.str "2.00") = some (.finite ⟨false, 2, 0⟩) := by rfl
    rw [hone] at hn
    rw [htwo, ← hn] at hn'
    cases hn'
  have hkeys : ∀ v : Value Unit, v.DistinctKeys → (Value.obj [("amount", v)]).DistinctKeys := by
    intro v hv
    simpa [Value.DistinctKeys, DistinctKeysMembers] using hv
  have hv : ∀ v : Value Unit, valueAt [.key "amount"] (.obj [("amount", v)]) = some v :=
    fun _ => rfl
  refine (canonical_unambiguous oneFloatEnv (hkeys _ ?_) (hkeys _ ?_) (hv _) (hv _) hdifferent
    builder builder).1.mpr (.inl hcollide)
  · simp [Value.DistinctKeys]
  · simp [Value.DistinctKeys]

/-- **Fifteen thousand million** and fifteen have one canonical form, and one hash. -/
theorem canonical_amounts_collide :
    let builder : CanonicalRequestBuilder Unit := CanonicalRequestBuilder.new oneFloatEnv none
    number oneFloat (.str "1.5E+10") = some 15000000000 ∧ number oneFloat (.str "15") = some 15 ∧
      (builder.build oneFloatEnv [("amount", .str "1.5E+10")]).1 =
        (builder.build oneFloatEnv [("amount", .str "15")]).1 ∧
      (builder.build oneFloatEnv [("amount", .str "1.5E+10")]).2.hash oneFloatEnv =
        (builder.build oneFloatEnv [("amount", .str "15")]).2.hash oneFloatEnv := by
  intro builder
  have hd : decimalOf oneFloat (.str "1.5E+10") = some ⟨false, 15, 9⟩ := by rfl
  have hd' : decimalOf oneFloat (.str "15") = some ⟨false, 15, 0⟩ := by rfl
  have hcollide : Collide oneFloat (.str "1.5E+10") (.str "15") :=
    ⟨.finite ⟨false, 15, 0⟩, by rfl, by rfl⟩
  have hforms : (builder.build oneFloatEnv [("amount", .str "1.5E+10")]).1 =
      (builder.build oneFloatEnv [("amount", .str "15")]).1 := by
    rw [build_eq_form, build_eq_form, form_single rfl, form_single rfl]
    show Value.obj [("amount", form oneFloat _)] = Value.obj [("amount", form oneFloat _)]
    rw [form_eq_of_collide hcollide]
  refine ⟨?_, ?_, hforms, ?_⟩
  · rw [number_of_decimalOf hd]
    unfold Decimal.value
    norm_num
  · rw [number_of_decimalOf hd']
    unfold Decimal.value
    norm_num
  · rw [CanonicalRequestBuilder.hash_build, CanonicalRequestBuilder.hash_build, hforms]

end NocIq.Contract
