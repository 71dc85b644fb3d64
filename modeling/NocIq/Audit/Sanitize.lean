import NocIq.Lib.Rounding
import NocIq.Webhook.Redaction

/-!
# NocIq — what the audit log stores of its details

`app/services/audit_log.py`. `_sanitize` masks the keys of `_SENSITIVE_KEYS` where they stand as
they are written, at the top level of the details; `log_event`, `log` and `log_bridge_event` all
store what it leaves.

* **`get_sanitize`** — what becomes of each key.
* **`Carries`** — how the details passed to any of the three calls reach the entry.
* **`audit_details_protected_iff`** — the details whose secrets are all masked.
-/

namespace NocIq

/-! ## Dictionaries -/

namespace PyDict

/-- `d[key] = value`. -/
def setMember (key : String) (value : PyValue) :
    List (String × PyValue) → List (String × PyValue)
  | [] => [(key, value)]
  | m :: members => if m.1 = key then (key, value) :: members else m :: setMember key value members

theorem lookup_setMember (key : String) (value : PyValue) (members : List (String × PyValue))
    (name : String) :
    (setMember key value members).lookup name =
      if name = key then some value else members.lookup name := by
  induction members with
  | nil =>
    unfold setMember
    rw [List.lookup_cons, List.lookup_nil]
    by_cases hname : name = key
    · rw [if_pos hname, beq_iff_eq.mpr hname]
    · rw [if_neg hname, beq_eq_false_iff_ne.mpr hname]
  | cons m members ih =>
    obtain ⟨other, v⟩ := m
    unfold setMember
    by_cases hother : other = key
    · rw [if_pos hother, List.lookup_cons, List.lookup_cons, hother]
      by_cases hname : name = key
      · rw [if_pos hname, beq_iff_eq.mpr hname]
      · rw [if_neg hname, beq_eq_false_iff_ne.mpr hname]
    · rw [if_neg hother, List.lookup_cons, List.lookup_cons, ih]
      by_cases hname : name = other
      · subst hname
        rw [beq_self_eq_true]
        exact (if_neg hother).symm
      · rw [beq_eq_false_iff_ne.mpr hname]

theorem setMember_names (key : String) (value : PyValue) (members : List (String × PyValue)) :
    (setMember key value members).map Prod.fst =
      if key ∈ members.map Prod.fst then members.map Prod.fst
      else members.map Prod.fst ++ [key] := by
  induction members with
  | nil => rfl
  | cons m members ih =>
    unfold setMember
    by_cases hkey : m.1 = key
    · rw [if_pos hkey, List.map_cons, List.map_cons, hkey, if_pos List.mem_cons_self]
    · rw [if_neg hkey, List.map_cons, List.map_cons, ih]
      simp only [List.mem_cons, Ne.symm hkey, false_or]
      split <;> rfl

theorem setMember_nodup {members : List (String × PyValue)} (key : String) (value : PyValue)
    (h : (members.map Prod.fst).Nodup) : ((setMember key value members).map Prod.fst).Nodup := by
  rw [setMember_names]
  split
  · exact h
  · next hnew => exact List.nodup_append_comm.mp (List.nodup_cons.mpr ⟨hnew, h⟩)

end PyDict

/-- A dictionary with texts as keys. -/
structure PyDict where
  members : List (String × PyValue) := []
  distinct : (members.map Prod.fst).Nodup := by decide

namespace PyDict

def value (d : PyDict) : PyValue := .dict d.members

def get (d : PyDict) (name : String) : Option PyValue := d.members.lookup name

def setItem (key : String) (v : PyValue) (d : PyDict) : PyDict where
  members := setMember key v d.members
  distinct := setMember_nodup key v d.distinct

/-- `d.update(other)`. -/
def update (d other : PyDict) : PyDict :=
  other.members.foldl (fun d m => d.setItem m.1 m.2) d

@[simp] theorem get_setItem (key : String) (v : PyValue) (d : PyDict) (name : String) :
    (d.setItem key v).get name = if name = key then some v else d.get name :=
  lookup_setMember key v d.members name

@[simp] theorem child_value (d : PyDict) (name : String) :
    PyValue.tree.child d.value (.key name) = d.get name := rfl

theorem get_eq_some_iff {d : PyDict} {name : String} {v : PyValue} :
    d.get name = some v ↔ (name, v) ∈ d.members := by
  obtain ⟨members, hdistinct⟩ := d
  show members.lookup name = some v ↔ (name, v) ∈ members
  induction members with
  | nil => simp
  | cons m members ih =>
    obtain ⟨other, u⟩ := m
    obtain ⟨hnew, hrest⟩ := List.nodup_cons.mp hdistinct
    rw [List.lookup_cons, List.mem_cons]
    by_cases hname : name = other
    · subst hname
      rw [beq_self_eq_true]
      constructor
      · intro heq
        exact .inl (Prod.ext rfl (Option.some.inj heq).symm)
      · rintro (heq | hmem)
        · exact congrArg some (Prod.mk.inj heq).2.symm
        · exact absurd (List.mem_map_of_mem hmem) hnew
    · rw [beq_eq_false_iff_ne.mpr hname]
      refine (ih hrest).trans (or_iff_right fun heq => hname (Prod.mk.inj heq).1).symm

theorem get_update (d other : PyDict) (name : String) :
    (d.update other).get name = (other.get name).or (d.get name) := by
  obtain ⟨members, hdistinct⟩ := other
  show (members.foldl (fun d m => d.setItem m.1 m.2) d).get name =
    (members.lookup name).or (d.get name)
  induction members generalizing d with
  | nil => rfl
  | cons m members ih =>
    obtain ⟨key, v⟩ := m
    obtain ⟨hnew, hrest⟩ := List.nodup_cons.mp hdistinct
    rw [List.foldl_cons, ih _ hrest, get_setItem, List.lookup_cons]
    by_cases hname : name = key
    · subst hname
      have hnone : members.lookup name = none := by
        rw [List.lookup_eq_none_iff]
        intro m hm
        refine bne_iff_ne.mpr ?_
        rintro rfl
        exact hnew (List.mem_map.mpr ⟨m, hm, rfl⟩)
      rw [hnone, if_pos rfl, beq_self_eq_true]
      rfl
    · rw [if_neg hname, beq_eq_false_iff_ne.mpr hname]

end PyDict

/-- `bool(v)`. -/
def PyValue.truthy : PyValue → Bool
  | .none => false
  | .bool b => b
  | .int n => decide (n ≠ 0)
  | .float q => decide (q ≠ 0)
  | .str s => decide (s ≠ "")
  | .datetime _ => true
  | .list items => !items.isEmpty
  | .dict members => !members.isEmpty

namespace AuditLogService

/-- `_SENSITIVE_KEYS`. -/
def sensitiveKeys : List String :=
  ["password", "token", "access_token", "refresh_token", "secret", "secret_key", "seed",
    "secret_seed", "private_key", "mnemonic", "signing_key", "wallet_secret"]

def redacted : PyValue := .str "[REDACTED]"

/-- One round of the loop in `_sanitize`. -/
def sanitizeKey (safe : PyDict) (key : String) : PyDict :=
  if (safe.get key).isSome then safe.setItem key redacted else safe

/-- `_sanitize`; no details are the empty ones. -/
def sanitize (details : Option PyDict) : PyDict :=
  match details with
  | none => {}
  | some d => sensitiveKeys.foldl sanitizeKey d

/-- A row of `audit_logs`. -/
structure Entry where
  eventType : String
  email : Option String
  actorId : Option String
  correlationId : Option String
  details : PyDict
  createdAt : Time

/-- What a call reads beside its arguments: the correlation id of the request, the clock, and the
SHA-256 digest of the JSON text of a value (`none` where it has none). -/
structure Env where
  contextCorrelationId : Option String
  now : Time
  digest : PyValue → Option String

variable (env : Env)

def redactedDigest (data : PyValue) : Option String :=
  if data.truthy then env.digest data else none

/-- The `AuditLogORM` that `log_event` builds. -/
def auditEntry (eventType : String) (email actorId : Option String) (details : Option PyDict)
    (correlationId : Option String) : Entry where
  eventType
  email
  actorId
  correlationId := correlationId.or env.contextCorrelationId
  details := sanitize details
  createdAt := env.now

@[simp] theorem auditEntry_details (eventType : String) (email actorId : Option String)
    (details : Option PyDict) (correlationId : Option String) :
    (auditEntry env eventType email actorId details correlationId).details = sanitize details := rfl

/-- `db.add` and `db.commit`. The JSON column takes only details that have a text. -/
def store (entry : Entry) (rows : List Entry) : Except Exc Unit × List Entry :=
  if entry.details.value.toJson.isSome then (.ok (), rows ++ [entry])
  else (.error (.typeError "Object of type datetime is not JSON serializable"), rows)

def logEvent (eventType : String) (email actorId : Option String) (details : Option PyDict)
    (correlationId : Option String) (rows : List Entry) : Except Exc Unit × List Entry :=
  store (auditEntry env eventType email actorId details correlationId) rows

def log (eventType : String) (details : Option PyDict) (actorId email : Option String)
    (rows : List Entry) : Except Exc Unit × List Entry :=
  logEvent env eventType email actorId details none rows

/-- The details of a bridge event, before `extra`. -/
def bridgeDetails (mode outcomeClass : String) (latencyMs : ℚ)
    (requestData responseData : PyValue) : PyDict where
  members :=
    [("mode", .str mode), ("outcome_class", .str outcomeClass),
      ("latency_ms", .float (Rounding.roundTo 3 latencyMs)),
      ("request_digest", .optional .str (redactedDigest env requestData)),
      ("response_digest", .optional .str (redactedDigest env responseData))]
  distinct := by
    show ["mode", "outcome_class", "latency_ms", "request_digest", "response_digest"].Nodup
    decide

def logBridgeEvent (eventType mode outcomeClass : String) (latencyMs : ℚ)
    (requestData responseData : PyValue) (actorId : Option String) (extra : Option PyDict)
    (rows : List Entry) : Except Exc Unit × List Entry :=
  let details := bridgeDetails env mode outcomeClass latencyMs requestData responseData
  log env eventType (some (details.update (sanitize extra))) actorId none rows

/-! ## What becomes of the details -/

theorem get_sanitizeKey (safe : PyDict) (key name : String) :
    (sanitizeKey safe key).get name =
      (safe.get name).map fun v => if name = key then redacted else v := by
  unfold sanitizeKey
  by_cases hname : name = key
  · subst hname
    cases hget : safe.get name with
    | none => rw [Option.isSome_none, if_neg Bool.false_ne_true, hget, Option.map_none]
    | some v =>
      rw [Option.isSome_some, if_pos rfl, PyDict.get_setItem, if_pos rfl, Option.map_some,
        if_pos rfl]
  · simp only [hname, if_false, Option.map_id']
    split
    · rw [PyDict.get_setItem, if_neg hname]
    · rfl

theorem get_foldl_sanitizeKey (keys : List String) (d : PyDict) (name : String) :
    (keys.foldl sanitizeKey d).get name =
      (d.get name).map fun v => if name ∈ keys then redacted else v := by
  induction keys generalizing d with
  | nil => simp
  | cons key keys ih =>
    rw [List.foldl_cons, ih, get_sanitizeKey, Option.map_map]
    congr 1
    funext v
    simp only [Function.comp_apply, List.mem_cons]
    by_cases hname : name = key <;> simp [hname]

theorem get_sanitize (d : PyDict) (name : String) :
    (sanitize (some d)).get name =
      (d.get name).map fun v => if name ∈ sensitiveKeys then redacted else v :=
  get_foldl_sanitizeKey sensitiveKeys d name

/-- Every member of `details` has become a member of `stored`, masked if `_sanitize` knows its key;
what else is stored has a JSON text. -/
structure Carries (details stored : PyDict) : Prop where
  member : ∀ name v, details.get name = some v →
    stored.get name = some (if name ∈ sensitiveKeys then redacted else v)
  others : ∀ name v, details.get name = none → stored.get name = some v → v.toJson.isSome = true

theorem carries_sanitize (d : PyDict) : Carries d (sanitize (some d)) := by
  constructor
  · intro name v hget
    rw [get_sanitize, hget, Option.map_some]
  · intro name v hnone hstored
    rw [get_sanitize, hnone] at hstored
    cases hstored

theorem Carries.sanitize_update {base : PyDict}
    (hbase : ∀ name v, base.get name = some v → v.toJson.isSome = true) {d stored : PyDict}
    (h : Carries d stored) : Carries d (sanitize (some (base.update stored))) := by
  constructor
  · intro name v hget
    rw [get_sanitize, PyDict.get_update, h.member name v hget, Option.some_or, Option.map_some]
    split <;> rfl
  · intro name v hnone hstored
    rw [get_sanitize, PyDict.get_update] at hstored
    obtain ⟨u, hu, rfl⟩ := Option.map_eq_some_iff.mp hstored
    have hjson : u.toJson.isSome = true := by
      cases hget : stored.get name with
      | some w =>
        rw [hget] at hu
        exact h.others name u hnone (hget.trans hu)
      | none =>
        rw [hget] at hu
        exact hbase name u hu
    split
    · exact toJson_str_isSome _
    · exact hjson

/-! ## Secrets -/

section Secrets

variable (l : Lowercase)

/-- The name equals a sensitive key, ignoring case. -/
def Sensitive (name : String) : Prop := ∃ key ∈ sensitiveKeys, l.lower name = l.lower key

/-- Each member of the details reaches the entry: a sensitive one as the mask, another one with the
mask at its sensitive places and nothing else changed. -/
def Protects (details stored : PyDict) : Prop :=
  ∀ name v, details.get name = some v → ∃ u, stored.get name = some u ∧
    (Sensitive l name → u = redacted) ∧
    (¬ Sensitive l name → Places.Redacts PyValue.tree (KeyPlace (Sensitive l))
      (KeyPlace (Sensitive l)) redacted v u)

/-- Every sensitive place that is not below another one is a key of the details themselves as
`_SENSITIVE_KEYS` writes it, or has the mask already. -/
def Covered (details : PyDict) : Prop :=
  ∀ place, Places.Topmost (KeyPlace (Sensitive l)) place →
    (PyValue.tree.at details.value place).isSome = true →
      (∃ key ∈ sensitiveKeys, place = [.key key]) ∨
        PyValue.tree.at details.value place = some redacted

/-- What is stored of the details has a JSON text. -/
def Storable (details : PyDict) : Prop :=
  ∀ name v, details.get name = some v → name ∈ sensitiveKeys ∨ v.toJson.isSome = true

variable {l} {name : String}

theorem sensitive_of_mem (h : name ∈ sensitiveKeys) : Sensitive l name :=
  ⟨name, h, rfl⟩

variable {P : String → Prop}

theorem not_keyPlace_nil : ¬ KeyPlace P [] := by
  rintro ⟨above, name, heq, -⟩
  exact List.append_ne_nil_of_right_ne_nil above (List.cons_ne_nil _ []) heq.symm

theorem keyPlace_cons (s : PyStep) (place : List PyStep) (hne : place ≠ []) :
    KeyPlace P (s :: place) ↔ KeyPlace P place := by
  obtain ⟨above, last, rfl⟩ := (List.eq_nil_or_concat' place).resolve_left hne
  rw [← List.cons_append, keyPlace_concat, keyPlace_concat]

theorem keyPlace_singleton : KeyPlace P [.key name] ↔ P name := by
  have hconcat : KeyPlace P [.key name] ↔ ∃ name', PyStep.key name = .key name' ∧ P name' :=
    @keyPlace_concat P [] (.key name)
  refine hconcat.trans ⟨?_, fun h => ⟨name, rfl, h⟩⟩
  rintro ⟨name', heq, hP⟩
  rw [PyStep.key.inj heq]
  exact hP

theorem topmost_key : Places.Topmost (KeyPlace P) [.key name] ↔ P name := by
  refine (@Places.topmost_concat _ (KeyPlace P) [] (.key name)).trans ?_
  refine (and_iff_left ?_).trans keyPlace_singleton
  intro q hq
  rw [List.prefix_nil.mp hq]
  exact not_keyPlace_nil

theorem topmost_key_cons {place : List PyStep} (hne : place ≠ []) :
    Places.Topmost (KeyPlace P) (.key name :: place) ↔
      ¬ P name ∧ Places.Topmost (KeyPlace P) place := by
  rw [Places.topmost_cons not_keyPlace_nil keyPlace_cons hne, keyPlace_singleton]

theorem at_value {d : PyDict} {place : List PyStep} (hne : place ≠ [])
    (hpresent : (PyValue.tree.at d.value place).isSome = true) :
    ∃ name v rest, place = .key name :: rest ∧ d.get name = some v ∧
      PyValue.tree.at d.value place = PyValue.tree.at v rest := by
  obtain ⟨s, rest, rfl⟩ := List.exists_cons_of_ne_nil hne
  rw [PyValue.tree.at_cons] at hpresent ⊢
  cases s with
  | index i => cases hpresent
  | key name =>
    rw [PyDict.child_value] at hpresent ⊢
    cases hget : d.get name with
    | none =>
      rw [hget] at hpresent
      cases hpresent
    | some v => exact ⟨name, v, rest, rfl, hget, rfl⟩

variable {details stored : PyDict}

theorem Carries.covered (h : Carries details stored) (hprotects : Protects l details stored) :
    Covered l details := by
  intro place htop hpresent
  have hne : place ≠ [] := by
    rintro rfl
    exact not_keyPlace_nil htop.1
  obtain ⟨name, v, rest, rfl, hget, hat⟩ := at_value hne hpresent
  obtain ⟨u, hu, hmask, hrest⟩ := hprotects name v hget
  rw [h.member name v hget] at hu
  -- a listed key masks its member itself; any other is left to what is under it
  by_cases hkey : name ∈ sensitiveKeys
  · refine .inl ⟨name, hkey, ?_⟩
    by_cases hnil : rest = []
    · rw [hnil]
    · exact absurd (sensitive_of_mem hkey) ((topmost_key_cons hnil).mp htop).1
  · rw [if_neg hkey] at hu
    obtain rfl := Option.some.inj hu
    rw [hat] at hpresent ⊢
    by_cases hnil : rest = []
    · rw [hnil] at htop ⊢
      exact .inr (congrArg some (hmask (topmost_key.mp htop)))
    · obtain ⟨hplain, htop⟩ := (topmost_key_cons hnil).mp htop
      exact .inr ((hrest hplain).masked rest htop hpresent)

theorem Carries.protects (h : Carries details stored) (hcovered : Covered l details) :
    Protects l details stored := by
  intro name v hget
  refine ⟨_, h.member name v hget, ?_, ?_⟩
  · intro hsensitive
    split
    · rfl
    · next hkey =>
      have hat : PyValue.tree.at details.value [.key name] = some v := by
        rw [PyValue.tree.at_cons, PyDict.child_value, hget]
        rfl
      obtain ⟨key, hmem, heq⟩ | hmasked :=
        hcovered [.key name] (topmost_key.mpr hsensitive) (by rw [hat]; rfl)
      · rw [PyStep.key.inj (List.cons.inj heq).1] at hkey
        exact absurd hmem hkey
      · exact Option.some.inj (hat.symm.trans hmasked)
  · intro hplain
    rw [if_neg fun hkey => hplain (sensitive_of_mem hkey), Places.redacts_self_iff]
    intro rest htop hpresent
    have hnil : rest ≠ [] := by
      rintro rfl
      exact not_keyPlace_nil htop.1
    have hat : PyValue.tree.at details.value (.key name :: rest) = PyValue.tree.at v rest := by
      rw [PyValue.tree.at_cons, PyDict.child_value, hget]
      rfl
    obtain ⟨key, -, heq⟩ | hmasked := hcovered (.key name :: rest)
      ((topmost_key_cons hnil).mpr ⟨hplain, htop⟩) (by rw [hat]; exact hpresent)
    · exact absurd (List.cons.inj heq).2 hnil
    · exact hat.symm.trans hmasked

theorem Carries.protects_iff (h : Carries details stored) :
    Protects l details stored ↔ Covered l details :=
  ⟨h.covered, h.protects⟩

theorem Carries.toJson_isSome_iff (h : Carries details stored) :
    stored.value.toJson.isSome = true ↔ Storable details := by
  refine (toJson_dict_isSome_iff stored.members).trans ?_
  constructor
  · intro hall name v hget
    have hmem := PyDict.get_eq_some_iff.mp (h.member name v hget)
    by_cases hkey : name ∈ sensitiveKeys
    · exact .inl hkey
    · have hjson := hall _ hmem
      rw [if_neg hkey] at hjson
      exact .inr hjson
  · rintro hstorable ⟨name, u⟩ hmem
    have hu := PyDict.get_eq_some_iff.mpr hmem
    cases hget : details.get name with
    | none => exact h.others name u hget hu
    | some v =>
      rw [h.member name v hget] at hu
      obtain rfl := Option.some.inj hu
      split
      · exact toJson_str_isSome _
      · next hkey => exact (hstorable name v hget).resolve_left hkey

end Secrets

/-! ## The calls -/

inductive Call where
  | logEvent (eventType : String) (email actorId : Option String) (details : Option PyDict)
      (correlationId : Option String)
  | log (eventType : String) (details : Option PyDict) (actorId email : Option String)
  | logBridgeEvent (eventType mode outcomeClass : String) (latencyMs : ℚ)
      (requestData responseData : PyValue) (actorId : Option String) (extra : Option PyDict)

def Call.run : Call → List Entry → Except Exc Unit × List Entry
  | .logEvent eventType email actorId details correlationId =>
    AuditLogService.logEvent env eventType email actorId details correlationId
  | .log eventType details actorId email =>
    AuditLogService.log env eventType details actorId email
  | .logBridgeEvent eventType mode outcomeClass latencyMs requestData responseData actorId extra =>
    AuditLogService.logBridgeEvent env eventType mode outcomeClass latencyMs requestData
      responseData actorId extra

/-- The dictionary passed to the call; none is the empty one. -/
def Call.details : Call → PyDict
  | .logEvent _ _ _ details _ => details.getD {}
  | .log _ details _ _ => details.getD {}
  | .logBridgeEvent _ _ _ _ _ _ _ extra => extra.getD {}

def Call.Protected (l : Lowercase) (call : Call) (rows : List Entry) : Prop :=
  ∃ entry, call.run env rows = (.ok (), rows ++ [entry]) ∧ Protects l call.details entry.details

theorem carries_given (details : Option PyDict) : Carries (details.getD {}) (sanitize details) := by
  cases details with
  | none =>
    constructor
    · intro name v hget
      cases hget
    · intro name v _ hget
      cases hget
  | some d => exact carries_sanitize d

theorem bridgeDetails_json (mode outcomeClass : String) (latencyMs : ℚ)
    (requestData responseData : PyValue) (name : String) (v : PyValue)
    (hget : (bridgeDetails env mode outcomeClass latencyMs requestData responseData).get name =
      some v) : v.toJson.isSome = true := by
  have hmem := PyDict.get_eq_some_iff.mp hget
  have hall : ∀ m ∈ (bridgeDetails env mode outcomeClass latencyMs requestData
      responseData).members, m.2.toJson.isSome = true := by
    unfold bridgeDetails
    simp only [List.forall_mem_cons, toJson_str_isSome, toJson_float_isSome,
      toJson_optionalStr_isSome, true_and]
    exact fun _ h => absurd h List.not_mem_nil
  exact hall _ hmem

theorem Call.run_eq (call : Call) (rows : List Entry) :
    ∃ entry, Carries call.details entry.details ∧ call.run env rows = store entry rows := by
  cases call with
  | logEvent eventType email actorId details correlationId =>
    exact ⟨auditEntry env eventType email actorId details correlationId, carries_given details, rfl⟩
  | log eventType details actorId email =>
    exact ⟨auditEntry env eventType email actorId details none, carries_given details, rfl⟩
  | logBridgeEvent eventType mode outcomeClass latencyMs requestData responseData actorId extra =>
    have hbase := bridgeDetails_json env mode outcomeClass latencyMs requestData responseData
    have hcarries := (carries_given extra).sanitize_update hbase
    refine ⟨auditEntry env eventType none actorId (some (PyDict.update
      (bridgeDetails env mode outcomeClass latencyMs requestData responseData)
      (sanitize extra))) none, ?_, rfl⟩
    rw [auditEntry_details]
    exact hcarries

theorem store_eq_ok_iff {entry stored : Entry} {rows : List Entry} :
    store entry rows = (.ok (), rows ++ [stored]) ↔
      entry.details.value.toJson.isSome = true ∧ stored = entry := by
  unfold store
  split
  · next hjson =>
    refine ⟨fun heq => ⟨hjson, ?_⟩, fun h => by rw [h.2]⟩
    exact (List.cons.inj (List.append_cancel_left (Prod.mk.inj heq).2)).1.symm
  · next hjson => exact iff_of_false (fun heq => nomatch (Prod.mk.inj heq).1) fun h => hjson h.1

theorem Call.Protected.covered {l : Lowercase} {call : Call} {rows : List Entry}
    (h : call.Protected env l rows) : Covered l call.details := by
  obtain ⟨entry, hcarries, hrun⟩ := call.run_eq env rows
  obtain ⟨stored, heq, hprotects⟩ := h
  rw [hrun, store_eq_ok_iff] at heq
  rw [heq.2] at hprotects
  exact hcarries.protects_iff.mp hprotects

/-- **Audit details are protected** exactly if they have a text, and no secret is left that
`_sanitize` does not know by its spelling at the top level. -/
theorem audit_details_protected_iff (l : Lowercase) (call : Call) (rows : List Entry) :
    call.Protected env l rows ↔ Storable call.details ∧ Covered l call.details := by
  obtain ⟨entry, hcarries, hrun⟩ := call.run_eq env rows
  constructor
  · intro h
    refine ⟨?_, h.covered⟩
    obtain ⟨stored, heq, -⟩ := h
    rw [hrun, store_eq_ok_iff] at heq
    exact hcarries.toJson_isSome_iff.mp heq.1
  · rintro ⟨hstorable, hcovered⟩
    refine ⟨entry, ?_, hcarries.protects_iff.mpr hcovered⟩
    rw [hrun, store_eq_ok_iff]
    exact ⟨hcarries.toJson_isSome_iff.mpr hstorable, rfl⟩

/-- A key with a capital letter, and a key in a dump of a request. -/
def requestDump : PyDict where
  members :=
    [("Token", .str "eyJhbGciOiJIUzI1NiJ9"), ("request", .dict [("password", .str "hunter2")])]

theorem audit_stores_secrets :
    ¬ ∀ (env : Env) (l : Lowercase) (call : Call) (rows : List Entry),
      call.Protected env l rows := by
  intro hall
  have hcovered := (hall ⟨none, 0, fun _ => none⟩ .ascii
    (.log "request_received" (some requestDump) none none) []).covered
  have htoken : Sensitive .ascii "Token" := by
    have hlower : "Token".toLower = "token" := toLower_eq_iff.mpr (by decide)
    have hsame : "token".toLower = "token" := toLower_eq_iff.mpr (by decide)
    exact ⟨"token", by decide, hlower.trans hsame.symm⟩
  obtain ⟨key, hkey, heq⟩ | hmasked := hcovered [.key "Token"] (topmost_key.mpr htoken) rfl
  · rw [← PyStep.key.inj (List.cons.inj heq).1] at hkey
    exact absurd hkey (by decide)
  · exact absurd (PyValue.str.inj (Option.some.inj hmasked)) (by decide)

end AuditLogService

end NocIq
