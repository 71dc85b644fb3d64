import NocIq.Lib.Places
import NocIq.Webhook.Payload

/-!
# NocIq — redaction at depth

`_redact_payload` descends into objects and lists, and stops below ten levels. A key is looked up in
lower case, the configured names as they are written.

* **`redactValue_descent`** — what it masks: the keys of objects with at most ten levels above them
  whose lower case is a configured name.
* **`redactValue_idem`** — a payload that has been redacted stays as it is.
* **`redaction_within_depth`** — the names written in lower case are masked, and nothing changes
  away from the configured names.
-/

namespace NocIq

/-! ## Places in a Python value -/

inductive PyStep where
  | key (name : String)
  | index (i : Nat)
  deriving DecidableEq

inductive PyShape where
  | scalar (v : PyValue)
  | list (length : Nat)
  | dict (names : List String)

namespace PyValue

def child : PyValue → PyStep → Option PyValue
  | .dict members, .key name => members.lookup name
  | .list items, .index i => items[i]?
  | _, _ => Option.none

def shape : PyValue → PyShape
  | .list items => .list items.length
  | .dict members => .dict (members.map Prod.fst)
  | v => .scalar v

/-- Python values, entered by keys and indices. -/
def tree : Places.Tree PyValue PyStep PyShape where
  child := child
  shape := shape

end PyValue

/-! ## The names that are masked -/

section Names

variable (r : RedactionSettings)

/-- The name equals a configured one, ignoring case. -/
def RedactionSettings.Configured (name : String) : Prop :=
  ∃ field ∈ r.fields, r.lowercase.lower name = r.lowercase.lower field

/-- The name equals, ignoring case, a configured one that is written in lower case. -/
def RedactionSettings.ConfiguredLower (name : String) : Prop :=
  ∃ field ∈ r.fields, r.lowercase.lower field = field ∧
    r.lowercase.lower name = r.lowercase.lower field

variable {r}

theorem configuredLower_iff {name : String} :
    r.ConfiguredLower name ↔ r.lowercase.lower name ∈ r.fields := by
  constructor
  · rintro ⟨field, hfield, hlower, hname⟩
    rw [hname, hlower]
    exact hfield
  · intro hname
    have hlower := r.lowercase.lower_lower name
    exact ⟨r.lowercase.lower name, hname, hlower, hlower.symm⟩

theorem RedactionSettings.ConfiguredLower.configured {name : String} (h : r.ConfiguredLower name) :
    r.Configured name := by
  obtain ⟨field, hfield, _, hname⟩ := h
  exact ⟨field, hfield, hname⟩

end Names

def KeyPlace (P : String → Prop) (place : List PyStep) : Prop :=
  ∃ above name, place = above ++ [.key name] ∧ P name

/-- … in an object that has at most ten levels above it. -/
def KeyPlaceWithin (P : String → Prop) (place : List PyStep) : Prop :=
  ∃ above name, place = above ++ [.key name] ∧ above.length ≤ maxRedactionDepth ∧ P name

theorem keyPlace_concat {P : String → Prop} {above : List PyStep} {s : PyStep} :
    KeyPlace P (above ++ [s]) ↔ ∃ name, s = .key name ∧ P name := by
  constructor
  · rintro ⟨above', name, heq, hP⟩
    obtain ⟨-, hs⟩ := List.append_inj' heq rfl
    exact ⟨name, (List.cons.inj hs).1, hP⟩
  · rintro ⟨name, rfl, hP⟩
    exact ⟨above, name, rfl, hP⟩

theorem keyPlaceWithin_concat {P : String → Prop} {above : List PyStep} {s : PyStep} :
    KeyPlaceWithin P (above ++ [s]) ↔
      above.length ≤ maxRedactionDepth ∧ ∃ name, s = .key name ∧ P name := by
  constructor
  · rintro ⟨above', name, heq, hdepth, hP⟩
    obtain ⟨rfl, hs⟩ := List.append_inj' heq rfl
    exact ⟨hdepth, name, (List.cons.inj hs).1, hP⟩
  · rintro ⟨hdepth, name, rfl, hP⟩
    exact ⟨above, name, rfl, hdepth, hP⟩

/-! ## One level -/

section Level

variable {r : RedactionSettings} {depth : Nat}

theorem redactValue_deep (h : maxRedactionDepth < depth) (v : PyValue) :
    redactValue r depth v = v := by
  cases v with
  | dict members =>
    unfold redactValue
    rw [if_pos h]
  | list items =>
    unfold redactValue
    rw [if_pos h]
  | _ => rfl

theorem redactValue_dict (h : depth ≤ maxRedactionDepth) (members : List (String × PyValue)) :
    redactValue r depth (.dict members) = .dict (redactMembers r depth members) := by
  unfold redactValue
  exact if_neg (Nat.not_lt.mpr h)

theorem redactValue_list (h : depth ≤ maxRedactionDepth) (items : List PyValue) :
    redactValue r depth (.list items) = .list (redactItems r depth items) := by
  unfold redactValue
  exact if_neg (Nat.not_lt.mpr h)

theorem lookup_redactMembers (members : List (String × PyValue)) (name : String) :
    (redactMembers r depth members).lookup name =
      (members.lookup name).map fun v =>
        if r.lowercase.lower name ∈ r.fields then .str r.mask else redactValue r (depth + 1) v := by
  induction members with
  | nil => rfl
  | cons m members ih =>
    obtain ⟨key, v⟩ := m
    unfold redactMembers
    rw [List.lookup_cons, List.lookup_cons]
    cases hkey : name == key with
    | true =>
      obtain rfl := eq_of_beq hkey
      rfl
    | false => exact ih

theorem getElem?_redactItems (items : List PyValue) (i : Nat) :
    (redactItems r depth items)[i]? = items[i]?.map (redactValue r (depth + 1)) := by
  induction items generalizing i with
  | nil => rfl
  | cons v items ih =>
    unfold redactItems
    cases i with
    | zero => rfl
    | succ i => exact ih i

theorem redactMembers_names (members : List (String × PyValue)) :
    (redactMembers r depth members).map Prod.fst = members.map Prod.fst := by
  induction members with
  | nil => rfl
  | cons m members ih =>
    unfold redactMembers
    rw [List.map_cons, List.map_cons, ih]

theorem redactItems_length (items : List PyValue) :
    (redactItems r depth items).length = items.length := by
  induction items with
  | nil => rfl
  | cons v items ih =>
    unfold redactItems
    rw [List.length_cons, List.length_cons, ih]

theorem redactValue_shape (v : PyValue) : (redactValue r depth v).shape = v.shape := by
  cases v with
  | dict members =>
    unfold redactValue
    split
    · rfl
    · exact congrArg PyShape.dict (redactMembers_names members)
  | list items =>
    unfold redactValue
    split
    · rfl
    · exact congrArg PyShape.list (redactItems_length items)
  | _ => rfl

theorem redactValue_child (hdepth : depth ≤ maxRedactionDepth) (v : PyValue) (s : PyStep) :
    (redactValue r depth v).child s =
      (v.child s).map fun u =>
        match s with
        | .key name =>
          if r.lowercase.lower name ∈ r.fields then .str r.mask else redactValue r (depth + 1) u
        | .index _ => redactValue r (depth + 1) u := by
  cases v with
  | dict members =>
    rw [redactValue_dict hdepth]
    cases s with
    | key name => exact lookup_redactMembers members name
    | index i => rfl
  | list items =>
    rw [redactValue_list hdepth]
    cases s with
    | key name => rfl
    | index i => exact getElem?_redactItems items i
  | _ => rfl

end Level

/-! ## Every level -/

/-- **What `_redact_payload` masks.** -/
theorem redactValue_descent (r : RedactionSettings) :
    Places.Descent PyValue.tree (KeyPlaceWithin fun name => r.lowercase.lower name ∈ r.fields)
      (.str r.mask) fun place => redactValue r place.length := by
  constructor
  · rintro ⟨above, name, heq, -⟩
    exact List.append_ne_nil_of_right_ne_nil above (List.cons_ne_nil _ []) heq.symm
  · exact fun place v => redactValue_shape v
  · intro place s v hmarked
    obtain ⟨hdepth, name, rfl, hname⟩ := keyPlaceWithin_concat.mp hmarked
    refine (redactValue_child hdepth v (.key name)).trans ?_
    congr 1
    funext u
    exact if_pos hname
  · intro place s v hplain
    rw [List.length_append, List.length_singleton]
    obtain hdeep | hdepth := Nat.lt_or_ge maxRedactionDepth place.length
    · -- below the limit nothing is touched, here and further down
      rw [redactValue_deep hdeep]
      have hsame : redactValue r (place.length + 1) = id :=
        funext fun u => redactValue_deep (Nat.lt_succ_of_lt hdeep) u
      rw [hsame, Option.map_id]
      rfl
    · refine (redactValue_child hdepth v s).trans ?_
      congr 1
      funext u
      cases s with
      | index i => rfl
      | key name =>
        refine if_neg fun hname => hplain ?_
        exact keyPlaceWithin_concat.mpr ⟨hdepth, name, rfl, hname⟩

mutual

theorem redactValue_idem (r : RedactionSettings) (depth : Nat) :
    ∀ v, redactValue r depth (redactValue r depth v) = redactValue r depth v
  | .dict members => by
    obtain hdeep | hdepth := Nat.lt_or_ge maxRedactionDepth depth
    · rw [redactValue_deep hdeep, redactValue_deep hdeep]
    · rw [redactValue_dict hdepth, redactValue_dict hdepth, redactMembers_idem r depth members]
  | .list items => by
    obtain hdeep | hdepth := Nat.lt_or_ge maxRedactionDepth depth
    · rw [redactValue_deep hdeep, redactValue_deep hdeep]
    · rw [redactValue_list hdepth, redactValue_list hdepth, redactItems_idem r depth items]
  | .none => rfl
  | .bool _ => rfl
  | .int _ => rfl
  | .float _ => rfl
  | .str _ => rfl
  | .datetime _ => rfl

theorem redactItems_idem (r : RedactionSettings) (depth : Nat) :
    ∀ items, redactItems r depth (redactItems r depth items) = redactItems r depth items
  | [] => rfl
  | v :: items => by
    simp only [redactItems]
    rw [redactValue_idem r (depth + 1) v, redactItems_idem r depth items]

theorem redactMembers_idem (r : RedactionSettings) (depth : Nat) :
    ∀ members, redactMembers r depth (redactMembers r depth members) =
      redactMembers r depth members
  | [] => rfl
  | (name, v) :: members => by
    simp only [redactMembers]
    rw [redactMembers_idem r depth members]
    by_cases hname : r.lowercase.lower name ∈ r.fields
    · rw [if_pos hname, if_pos hname]
    · rw [if_neg hname, if_neg hname, redactValue_idem r (depth + 1) v]

end

theorem redactPayload_idem (r : RedactionSettings) (v : PyValue) :
    redactPayload r (redactPayload r v) = redactPayload r v := by
  unfold redactPayload
  split
  · exact redactValue_idem r 0 v
  · rfl

/-- **Redaction within its depth**: the keys of objects with at most ten levels above them that are
configured in lower case hold the mask; away from the configured keys nothing changes; and a second
redaction changes nothing. -/
theorem redaction_within_depth (r : RedactionSettings) (henabled : r.enabled = true) (v : PyValue) :
    Places.Redacts PyValue.tree (KeyPlaceWithin r.ConfiguredLower) (KeyPlaceWithin r.Configured)
        (.str r.mask) v (redactPayload r v) ∧
      redactPayload r (redactPayload r v) = redactPayload r v := by
  refine ⟨?_, redactPayload_idem r v⟩
  unfold redactPayload
  rw [if_pos henabled]
  refine ((redactValue_descent r).redacts v).weaken ?_ ?_
  · intro place
    unfold KeyPlaceWithin
    simp only [configuredLower_iff]
  · rintro place ⟨above, name, heq, hdepth, hname⟩
    exact ⟨above, name, heq, hdepth, (configuredLower_iff.mpr hname).configured⟩

def nestedPassword : Nat → PyValue
  | 0 => .dict [("password", .str "hunter2")]
  | n + 1 => .dict [("data", nestedPassword n)]

def passwordPlace (n : Nat) : List PyStep := List.replicate n (.key "data") ++ [.key "password"]

theorem nestedPassword_at (n : Nat) :
    PyValue.tree.at (nestedPassword n) (passwordPlace n) = some (.str "hunter2") := by
  induction n with
  | zero => rfl
  | succ n ih => exact ih

theorem redacted_nestedPassword_at {depth n : Nat} (hdeep : maxRedactionDepth < depth + n) :
    PyValue.tree.at (redactValue {} depth (nestedPassword n)) (passwordPlace n) =
      some (.str "hunter2") := by
  have hdata : Lowercase.ascii.lower "data" = "data" :=
    Lowercase.ascii.lower_eq (by decide) (by decide)
  induction n generalizing depth with
  | zero =>
    rw [Nat.add_zero] at hdeep
    rw [redactValue_deep hdeep]
    rfl
  | succ n ih =>
    obtain hlimit | hdepth := Nat.lt_or_ge maxRedactionDepth depth
    · rw [redactValue_deep hlimit]
      exact nestedPassword_at (n + 1)
    · show ((redactValue {} depth (nestedPassword (n + 1))).child (.key "data")).bind _ = _
      rw [redactValue_child hdepth]
      show PyValue.tree.at (if Lowercase.ascii.lower "data" ∈ _ then _ else _) _ = _
      rw [hdata, if_neg (by decide)]
      exact ih (by omega)

/-- In twelve objects, `password` has eleven levels above it, and it is sent. -/
theorem password_sent_in_depth :
    ¬ ∀ (r : RedactionSettings) (v : PyValue), r.enabled = true →
      Places.Redacts PyValue.tree (KeyPlace r.Configured) (KeyPlace r.Configured) (.str r.mask) v
          (redactPayload r v) ∧
        redactPayload r (redactPayload r v) = redactPayload r v := by
  intro hall
  have hpassword : RedactionSettings.Configured {} "password" := ⟨"password", by decide, rfl⟩
  have hdata : ¬ RedactionSettings.Configured {} "data" := by
    have hlower : "data".toLower = "data" := toLower_eq_iff.mpr (by decide)
    show ¬ ∃ field ∈ RedactionSettings.fields {}, "data".toLower = field.toLower
    simp only [hlower, eq_comm (a := "data"), toLower_eq_iff]
    decide
  have htop : Places.Topmost (KeyPlace (RedactionSettings.Configured {})) (passwordPlace 11) := by
    refine Places.topmost_concat.mpr ⟨⟨_, "password", rfl, hpassword⟩, ?_⟩
    rintro q hq ⟨above, name, rfl, hname⟩
    have hmem : PyStep.key name ∈ List.replicate 11 (PyStep.key "data") :=
      hq.subset (List.mem_append_right above (List.mem_singleton_self _))
    obtain rfl := PyStep.key.inj (List.eq_of_mem_replicate hmem)
    exact hdata hname
  have hmasked := (hall {} (nestedPassword 11) rfl).1.masked (passwordPlace 11) htop rfl
  have hsent := @redacted_nestedPassword_at 0 11 (by decide)
  have hsame := PyValue.str.inj (Option.some.inj (hsent.symm.trans hmasked))
  exact absurd hsame (by decide)

def userPassword : PyValue :=
  .dict [("users", .list [.dict [("Password", .str "hunter2")]]), ("count", .int 1)]

theorem redaction_within_depth_users :
    Places.Redacts PyValue.tree (KeyPlaceWithin (RedactionSettings.ConfiguredLower {}))
        (KeyPlaceWithin (RedactionSettings.Configured {})) (.str "[REDACTED]") userPassword
        (redactPayload {} userPassword) ∧
      redactPayload {} (redactPayload {} userPassword) = redactPayload {} userPassword :=
  redaction_within_depth {} rfl userPassword

end NocIq
