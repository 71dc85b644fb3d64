import NocIq.Lib.Dictionary
import NocIq.Lib.JsonValues
import NocIq.Sla.ConfigHistory

/-!
# NocIq — differences of SLA configurations

`computeDiff` of `src/sla-config-history`: the keys whose texts differ, each with the value before
and after, or `null` where there is none. Texts have the members of an inner object in their order,
which `JSONB` does not keep.

* **`computeDiff_eq_nil_iff`** — nothing is told of configurations that are the same in every key.
* **`lookup_storedDiff`** — what is told of a key.
* **`computeDiff_history`** — the history tells the same.
* **`faithful_iff`** — a difference is faithful unless equal values are written differently, or a
  value is taken away.
-/

namespace NocIq

namespace ConfigDiff

open JsonValues

variable {N : Type}

/-! ## `computeDiff` -/

/-- `Record<string, unknown>`, as it comes from JSON. An assignment to `__proto__` makes no member,
so no difference tells of one; there is none. -/
structure ConfigMap (N : Type) where
  members : List (String × Value N)
  wellFormed : (Value.object members).WellFormed
  noProto : "__proto__" ∉ members.map (·.1)

def ConfigMap.toJson (config : ConfigMap N) : Value N := .object config.members

/-- The methods of `Object.prototype`. -/
def inherited : List String :=
  ["constructor", "__defineGetter__", "__defineSetter__", "hasOwnProperty", "__lookupGetter__",
    "__lookupSetter__", "isPrototypeOf", "propertyIsEnumerable", "toString", "valueOf",
    "toLocaleString"]

/-- What is read of an object. -/
inductive Property (N : Type) where
  | undefined
  | function
  | value (v : Value N)

/-- `config[key]`. -/
def ConfigMap.get (config : ConfigMap N) (key : String) : Property N :=
  match config.members.lookup key with
  | some v => .value v
  | none => if key ∈ inherited then .function else .undefined

/-- `JSON.stringify`: neither `undefined` nor a function has a text. -/
def Property.stringify (t : NumberText N) : Property N → Option (List Char)
  | .value v => some (JsonValues.stringify t v)
  | .undefined | .function => none

/-- `property ?? null`. -/
def Property.orNull : Property N → Property N
  -- an inherited method is neither `undefined` nor `null`, and stays
  | .undefined => .value .null
  | property => property

structure Change (N : Type) where
  fromValue : Property N
  toValue : Property N

/-- `new Set([...Object.keys(previous), ...Object.keys(next)])`. -/
def allKeys (previous next : ConfigMap N) : List String :=
  previous.members.map (·.1) ++
    (next.members.map (·.1)).filter fun key => key ∉ previous.members.map (·.1)

def computeDiff (t : NumberText N) (previous next : ConfigMap N) : List (String × Change N) :=
  (allKeys previous next).filterMap fun key =>
    let prev := previous.get key
    let curr := next.get key
    let changed := prev.stringify t ≠ curr.stringify t
    if changed then some (key, { fromValue := prev.orNull, toValue := curr.orNull }) else none

/-! ## The column `diff` -/

/-- A function is left out where a member is written. -/
def Property.value? : Property N → Option (Value N)
  | .value v => some v
  | .undefined | .function => none

def Change.toJson (change : Change N) : Value N :=
  .object (
    (change.fromValue.value?.map fun v => ("from", v)).toList ++
      (change.toValue.value?.map fun v => ("to", v)).toList)

/-- The value of `JSON.stringify(dto.diff)`. -/
def storedDiff (t : NumberText N) (previous next : ConfigMap N) : List (String × Value N) :=
  (computeDiff t previous next).map fun (key, change) => (key, change.toJson)

/-- The difference is empty only between equal configurations, and tells the next one. -/
structure Faithful (t : NumberText N) (previous next : ConfigMap N) : Prop where
  empty_iff : computeDiff t previous next = [] ↔ Equal previous.toJson next.toJson
  determines : ∀ next' : ConfigMap N,
    Equal (.object (storedDiff t previous next)) (.object (storedDiff t previous next')) →
      Equal next.toJson next'.toJson

/-- Equal configurations have each value with its members in the same order, and what has had a
value still has one. -/
structure Told (previous next : ConfigMap N) : Prop where
  sameOrder : Equal previous.toJson next.toJson →
    ∀ key, previous.members.lookup key = next.members.lookup key
  kept : ∀ key v, previous.members.lookup key = some v → v ≠ .null → key ∉ inherited →
    ∃ w, next.members.lookup key = some w ∧ w ≠ .null

variable {t : NumberText N} {previous next next' : ConfigMap N} {key : String}

/-! ## What is told of a key -/

/-- The texts of a key differ. -/
def Changed (t : NumberText N) (previous next : ConfigMap N) (key : String) : Prop :=
  (previous.get key).stringify t ≠ (next.get key).stringify t

instance : Decidable (Changed t previous next key) := inferInstanceAs (Decidable (_ ≠ _))

theorem stringify_get (config : ConfigMap N) (key : String) :
    (config.get key).stringify t = (config.members.lookup key).map (JsonValues.stringify t) := by
  unfold ConfigMap.get
  cases config.members.lookup key with
  | some v => rfl
  | none =>
    dsimp only
    split_ifs <;> rfl

theorem not_changed_iff :
    ¬ Changed t previous next key ↔ previous.members.lookup key = next.members.lookup key := by
  rw [Changed, not_not, stringify_get, stringify_get]
  exact (Option.map_injective (stringify_injective t)).eq_iff

theorem mem_allKeys : key ∈ allKeys previous next ↔
    key ∈ previous.members.map (·.1) ∨ key ∈ next.members.map (·.1) := by
  rw [allKeys, List.mem_append, List.mem_filter, decide_eq_true_iff]
  by_cases h : key ∈ previous.members.map (·.1)
  · exact iff_of_true (.inl h) (.inl h)
  · rw [or_iff_right h, or_iff_right h, and_iff_left h]

theorem mem_allKeys_of_changed (h : Changed t previous next key) :
    key ∈ allKeys previous next := by
  by_contra hkey
  rw [mem_allKeys, not_or] at hkey
  refine absurd h (not_changed_iff.mpr ?_)
  rw [Dictionary.lookup_eq_none_iff.mpr hkey.1, Dictionary.lookup_eq_none_iff.mpr hkey.2]

/-- What a difference would tell of a key. -/
def change (previous next : ConfigMap N) (key : String) : Change N where
  fromValue := (previous.get key).orNull
  toValue := (next.get key).orNull

theorem computeDiff_eq (t : NumberText N) (previous next : ConfigMap N) :
    computeDiff t previous next = (allKeys previous next).filterMap fun key =>
      (if Changed t previous next key then some (change previous next key) else none).map
        (key, ·) := by
  refine List.filterMap_congr fun key _ => ?_
  by_cases hkey : Changed t previous next key
  · rw [if_pos hkey]
    exact if_pos hkey
  · rw [if_neg hkey]
    exact if_neg hkey

/-- **An empty difference**: every key has one value, written in one way. -/
theorem computeDiff_eq_nil_iff :
    computeDiff t previous next = [] ↔
      ∀ key, previous.members.lookup key = next.members.lookup key := by
  rw [computeDiff_eq, List.filterMap_eq_nil_iff]
  constructor
  · intro h key
    rw [← not_changed_iff (t := t)]
    intro hchanged
    have hentry := h key (mem_allKeys_of_changed hchanged)
    rw [if_pos hchanged] at hentry
    cases hentry
  · intro h key _
    rw [if_neg (not_changed_iff.mpr (h key))]
    rfl

theorem lookup_filterMap {β : Type} {entry : String → Option β} (keys : List String) :
    (keys.filterMap fun k => (entry k).map (k, ·)).lookup key =
      if key ∈ keys then entry key else none := by
  induction keys with
  | nil => rfl
  | cons k keys ih =>
    by_cases hk : key = k
    · subst hk
      rw [if_pos List.mem_cons_self]
      cases hentry : entry key with
      | none =>
        rw [List.filterMap_cons_none (by rw [hentry]; rfl), ih, hentry, ite_self]
      | some v =>
        rw [List.filterMap_cons_some (by rw [hentry]; rfl), List.lookup_cons_self]
    · have hmem : key ∈ k :: keys ↔ key ∈ keys := by rw [List.mem_cons, or_iff_right hk]
      rw [if_congr hmem rfl rfl, ← ih]
      cases hentry : entry k with
      | none => rw [List.filterMap_cons_none (by rw [hentry]; rfl)]
      | some v =>
        rw [List.filterMap_cons_some (by rw [hentry]; rfl), List.lookup_cons, beq_false_of_ne hk]

/-- **What is told of a key**, if its texts differ. -/
theorem lookup_storedDiff :
    (storedDiff t previous next).lookup key =
      if Changed t previous next key then some (change previous next key).toJson else none := by
  have hentries : storedDiff t previous next = (allKeys previous next).filterMap fun k =>
      ((if Changed t previous next k then some (change previous next k) else none).map
        Change.toJson).map (k, ·) := by
    rw [storedDiff, computeDiff_eq, List.map_filterMap]
    refine List.filterMap_congr fun k _ => ?_
    rw [Option.map_map, Option.map_map]
    rfl
  rw [hentries, lookup_filterMap]
  by_cases hkey : Changed t previous next key
  · rw [if_pos (mem_allKeys_of_changed hkey), if_pos hkey, if_pos hkey]
    rfl
  · rw [if_neg hkey, if_neg hkey, Option.map_none, ite_self]

theorem lookup_to (change : Change N) :
    ((change.fromValue.value?.map fun v => ("from", v)).toList ++
      (change.toValue.value?.map fun v => ("to", v)).toList).lookup "to" =
        change.toValue.value? := by
  cases change.fromValue.value? <;> cases change.toValue.value? <;> rfl

variable {config : ConfigMap N} {v : Value N}

theorem value?_get_some (h : config.members.lookup key = some v) :
    (config.get key).orNull.value? = some v := by
  unfold ConfigMap.get
  rw [h]
  cases v <;> rfl

theorem value?_get_none (h : config.members.lookup key = none) :
    (config.get key).orNull.value? = if key ∈ inherited then none else some .null := by
  unfold ConfigMap.get
  rw [h]
  dsimp only
  split_ifs <;> rfl

/-! ### The difference of a history -/

theorem value?_get (hkey : key ∉ inherited) :
    (config.get key).orNull.value? = some ((config.members.lookup key).getD .null) := by
  cases hvalue : config.members.lookup key with
  | none => rw [value?_get_none hvalue, if_neg hkey, Option.getD_none]
  | some v => rw [value?_get_some hvalue, Option.getD_some]

/-- **What a history stores** of a key that `Object.prototype` does not have. There, a configuration
is what its keys have, and values are whatever the column takes. -/
theorem computeDiff_history (col : SlaConfigHistory.JsonColumn (Value N)) (hnull : col.null = .null)
    (hstringify : ∀ v, col.stringify v = String.ofList (JsonValues.stringify t v))
    (hkey : key ∉ inherited) :
    (SlaConfigHistory.computeDiff col (previous.members.lookup ·) (next.members.lookup ·) key).map
        (fun change => Value.object [("from", change.fromValue), ("to", change.toValue)]) =
      (storedDiff t previous next).lookup key := by
  have hinjective : Function.Injective col.stringify := by
    intro v w h
    rw [hstringify, hstringify, String.ofList_inj] at h
    exact stringify_injective t h
  have hchanged : (previous.members.lookup key).map col.stringify ≠
      (next.members.lookup key).map col.stringify ↔ Changed t previous next key := by
    rw [Ne, (Option.map_injective hinjective).eq_iff, ← not_changed_iff (t := t), not_not]
  unfold SlaConfigHistory.computeDiff
  rw [lookup_storedDiff, if_congr hchanged rfl rfl]
  split
  · rw [Option.map_some, hnull]
    unfold change Change.toJson
    dsimp only
    rw [value?_get hkey, value?_get hkey]
    rfl
  · rfl

/-! ## Differences that are alike -/

/-- Differences that are alike tell of the same keys, and of values after the change that are
equal. -/
theorem alike (h : Equal (.object (storedDiff t previous next))
    (.object (storedDiff t previous next'))) (key : String) :
    (¬ Changed t previous next key ∧ ¬ Changed t previous next' key) ∨
      (Changed t previous next key ∧ Changed t previous next' key ∧
        Option.Rel Equal (next.get key).orNull.value? (next'.get key).orNull.value?) := by
  have hkey := Equal.object_iff.mp h key
  rw [lookup_storedDiff, lookup_storedDiff] at hkey
  -- a key that only one of the differences has is looked up in them with different results
  by_cases hnext : Changed t previous next key <;> by_cases hnext' : Changed t previous next' key
  · rw [if_pos hnext, if_pos hnext'] at hkey
    cases hkey with
    | some hchange =>
      have hto := Equal.object_iff.mp hchange "to"
      rw [lookup_to, lookup_to] at hto
      exact .inr ⟨hnext, hnext', hto⟩
  · rw [if_pos hnext, if_neg hnext'] at hkey
    cases hkey
  · rw [if_neg hnext, if_pos hnext'] at hkey
    cases hkey
  · exact .inl ⟨hnext, hnext'⟩

/-- A key that changes to `null` and changes when it is taken away has had a value. -/
theorem had_value {absent present : ConfigMap N} (habsent : absent.members.lookup key = none)
    (hpresent : present.members.lookup key = some .null)
    (hchanged : Changed t previous absent key) (hchanged' : Changed t previous present key) :
    ∃ v, previous.members.lookup key = some v ∧ v ≠ .null := by
  cases hprevious : previous.members.lookup key with
  | none => exact absurd hchanged (not_changed_iff.mpr (by rw [hprevious, habsent]))
  | some v =>
    refine ⟨v, rfl, ?_⟩
    rintro rfl
    exact absurd hchanged' (not_changed_iff.mpr (by rw [hprevious, hpresent]))

/-- **What is kept is told.** By the keys: where the next values are not told apart there is one
that is `null` and one that is absent, in the place of a value. -/
theorem determines_of_kept (htold : Told previous next)
    (h : Equal (.object (storedDiff t previous next)) (.object (storedDiff t previous next'))) :
    Equal next.toJson next'.toJson := by
  refine Equal.object_iff.mpr fun key => ?_
  rcases alike h key with ⟨hsame, hsame'⟩ | ⟨hchanged, hchanged', hrel⟩
  · rw [← not_changed_iff.mp hsame, ← not_changed_iff.mp hsame']
    exact Equal.rel_refl _
  · cases hnext : next.members.lookup key with
    | none =>
      cases hnext' : next'.members.lookup key with
      | none => exact .none
      | some w =>
        rw [value?_get_none hnext, value?_get_some hnext'] at hrel
        split_ifs at hrel with hinherited
        · cases hrel
        · -- both are told as `null`, so `w` is, and the value before has not been kept
          cases hrel with
          | some hequal =>
            cases hequal
            obtain ⟨u, hu, hne⟩ := had_value hnext hnext' hchanged hchanged'
            obtain ⟨v, hv, -⟩ := htold.kept key u hu hne hinherited
            rw [hnext] at hv
            cases hv
    | some v =>
      cases hnext' : next'.members.lookup key with
      | none =>
        rw [value?_get_some hnext, value?_get_none hnext'] at hrel
        split_ifs at hrel with hinherited
        · cases hrel
        · cases hrel with
          | some hequal =>
            cases hequal
            obtain ⟨u, hu, hne⟩ := had_value hnext' hnext hchanged' hchanged
            obtain ⟨v, hv, hnull⟩ := htold.kept key u hu hne hinherited
            rw [hnext, Option.some.injEq] at hv
            exact absurd hv.symm hnull
      | some w =>
        rw [value?_get_some hnext, value?_get_some hnext'] at hrel
        exact hrel

/-! ## What has no value any more -/

theorem lookup_append_ne (members : List (String × Value N)) (v : Value N) {k : String}
    (hk : k ≠ key) : (members ++ [(key, v)]).lookup k = members.lookup k := by
  rw [List.lookup_append, List.lookup_cons, beq_false_of_ne hk]
  exact Option.or_none

theorem lookup_filter_ne (members : List (String × Value N)) {k : String} (hk : k ≠ key) :
    (members.filter fun m => m.1 ≠ key).lookup k = members.lookup k := by
  induction members with
  | nil => rfl
  | cons m members ih =>
    by_cases hm : m.1 = key
    · rw [List.filter_cons_of_neg (by simpa using hm), ih, List.lookup_cons,
        beq_false_of_ne (hm ▸ hk)]
    · rw [List.filter_cons_of_pos (by simpa using hm), List.lookup_cons, List.lookup_cons, ih]

theorem lookup_filter_self (members : List (String × Value N)) (key : String) :
    (members.filter fun m => m.1 ≠ key).lookup key = none := by
  refine Dictionary.lookup_eq_none_iff.mpr fun hkey => ?_
  obtain ⟨m, hm, heq⟩ := List.mem_map.mp hkey
  exact absurd heq (of_decide_eq_true (List.mem_filter.mp hm).2)

/-- The same configuration, with `null` for a key it does not have. -/
def ConfigMap.withNull (config : ConfigMap N) (key : String) (hproto : key ≠ "__proto__")
    (hkey : key ∉ config.members.map (·.1)) : ConfigMap N where
  members := config.members ++ [(key, .null)]
  wellFormed := by
    cases config.wellFormed with
    | object hnames hmembers =>
      refine .object ?_ fun m hm => ?_
      · rw [List.map_append]
        exact hnames.append (List.nodup_singleton _) (List.disjoint_singleton.mpr hkey)
      · rcases List.mem_append.mp hm with hm | hm
        · exact hmembers m hm
        · rw [List.mem_singleton.mp hm]
          exact .null
  noProto := by
    rw [List.map_append, List.mem_append, not_or]
    exact ⟨config.noProto, fun hm => hproto (List.mem_singleton.mp hm).symm⟩

def ConfigMap.without (config : ConfigMap N) (key : String) : ConfigMap N where
  members := config.members.filter fun m => m.1 ≠ key
  wellFormed := by
    cases config.wellFormed with
    | object hnames hmembers =>
      exact .object (hnames.sublist (List.filter_sublist.map _)) fun m hm =>
        hmembers m (List.mem_of_mem_filter hm)
  noProto := fun hm => config.noProto ((List.filter_sublist.map _).subset hm)

theorem get_congr {config' : ConfigMap N}
    (h : config.members.lookup key = config'.members.lookup key) :
    config.get key = config'.get key := by
  unfold ConfigMap.get
  rw [h]

/-- The difference does not tell a key that has had a value from one that is `null` now. -/
theorem lookup_storedDiff_eq {absent present : ConfigMap N}
    (habsent : absent.members.lookup key = none)
    (hpresent : present.members.lookup key = some .null)
    (hother : ∀ k, k ≠ key → absent.members.lookup k = present.members.lookup k)
    (hprevious : previous.members.lookup key = some v) (hne : v ≠ .null)
    (hinherited : key ∉ inherited) (k : String) :
    (storedDiff t previous absent).lookup k = (storedDiff t previous present).lookup k := by
  rw [lookup_storedDiff, lookup_storedDiff]
  by_cases hk : k = key
  · -- both differ from the value before, and `?? null` makes them alike
    subst hk
    have hchanged : Changed t previous absent k := fun hsame => by
      have heq := not_changed_iff.mp (not_not.mpr hsame)
      rw [hprevious, habsent] at heq
      cases heq
    have hchanged' : Changed t previous present k := fun hsame => by
      have heq := not_changed_iff.mp (not_not.mpr hsame)
      rw [hprevious, hpresent, Option.some.injEq] at heq
      exact hne heq
    have hnull : (absent.get k).orNull = .value .null := by
      unfold ConfigMap.get
      rw [habsent]
      dsimp only
      rw [if_neg hinherited]
      rfl
    have hnull' : (present.get k).orNull = .value .null := by
      unfold ConfigMap.get
      rw [hpresent]
      rfl
    rw [if_pos hchanged, if_pos hchanged', change, change, hnull, hnull']
  · have hsame := get_congr (hother k hk)
    have hchanged : Changed t previous absent k ↔ Changed t previous present k := by
      rw [Changed, Changed, hsame]
    exact if_congr hchanged (by rw [change, change, hsame]) rfl

/-- So a next configuration that has lost a value has another one beside it: with `null` if the key
is gone, and without the key if it is `null`. -/
theorem kept_of_determines
    (h : ∀ next' : ConfigMap N, Equal (.object (storedDiff t previous next))
      (.object (storedDiff t previous next')) → Equal next.toJson next'.toJson)
    (hprevious : previous.members.lookup key = some v) (hne : v ≠ .null)
    (hinherited : key ∉ inherited) : ∃ w, next.members.lookup key = some w ∧ w ≠ .null := by
  have hproto : key ≠ "__proto__" := by
    rintro rfl
    exact previous.noProto (List.mem_map_of_mem (mem_of_lookup hprevious))
  cases hnext : next.members.lookup key with
  | none =>
    have hkey : key ∉ next.members.map (·.1) := Dictionary.lookup_eq_none_iff.mp hnext
    have hnull : (next.withNull key hproto hkey).members.lookup key = some .null := by
      show (next.members ++ [(key, Value.null)]).lookup key = some Value.null
      rw [List.lookup_append, hnext, Option.none_or, List.lookup_cons_self]
    have hother := fun k (hk : k ≠ key) => (lookup_append_ne next.members .null hk).symm
    have hequal := h (next.withNull key hproto hkey) (Equal.object_iff.mpr fun k => by
      rw [lookup_storedDiff_eq hnext hnull hother hprevious hne hinherited]
      exact Equal.rel_refl _)
    have hrel := Equal.object_iff.mp hequal key
    rw [hnext, hnull] at hrel
    cases hrel
  | some w =>
    refine ⟨w, rfl, ?_⟩
    rintro rfl
    have hgone : (next.without key).members.lookup key = none := lookup_filter_self _ key
    have hother := fun k (hk : k ≠ key) => lookup_filter_ne next.members hk
    have hequal := h (next.without key) (Equal.object_iff.mpr fun k => by
      rw [lookup_storedDiff_eq hgone hnext hother hprevious hne hinherited]
      exact Equal.rel_refl _)
    have hrel := Equal.object_iff.mp hequal key
    rw [hnext, hgone] at hrel
    cases hrel

/-- **A difference is faithful** just when equal configurations are written alike, and no value is
taken away. -/
theorem faithful_iff (t : NumberText N) (previous next : ConfigMap N) :
    Faithful t previous next ↔ Told previous next := by
  constructor
  · intro hfaithful
    exact
      { sameOrder := fun hequal =>
          computeDiff_eq_nil_iff.mp (hfaithful.empty_iff.mpr hequal)
        kept := fun key v hv hne hinherited =>
          kept_of_determines hfaithful.determines hv hne hinherited }
  · intro htold
    refine ⟨?_, fun next' h => determines_of_kept htold h⟩
    rw [computeDiff_eq_nil_iff]
    constructor
    · intro hsame
      exact Equal.object_iff.mpr fun key => hsame key ▸ Equal.rel_refl _
    · exact htold.sameOrder

/-! ## Differences that are not faithful -/

def digits : NumberText Nat where
  text := Nat.toDigits 10
  injective m n h := by
    rw [← Nat.ofDigitChars_ten_toDigits (n := m), h, Nat.ofDigitChars_ten_toDigits]
  ne_nil _ := Nat.toDigits_ne_nil
  isNumberChar n c hc := by
    rw [JsonValues.isNumberChar, Nat.isDigit_of_mem_toDigits (by decide) (by decide) hc,
      Bool.true_or]

def single (name : String) (v : Value N) (hv : v.WellFormed) (hname : name ≠ "__proto__") :
    ConfigMap N where
  members := [(name, v)]
  wellFormed := .object (List.nodup_singleton _) fun m hm => by rwa [List.mem_singleton.mp hm]
  noProto := fun hm => hname (List.mem_singleton.mp hm).symm

/-- `{"limits": {"critical": 1, "major": 2}}`. -/
def before : ConfigMap Nat :=
  single "limits" (.object [("critical", .number 1), ("major", .number 2)])
    (.object (by decide) (by simp [Value.WellFormed.number])) (by decide)

/-- The same value, with its members in another order. -/
def reordered : ConfigMap Nat :=
  single "limits" (.object [("major", .number 2), ("critical", .number 1)])
    (.object (by decide) (by simp [Value.WellFormed.number])) (by decide)

def limitsNull : ConfigMap Nat := single "limits" .null .null (by decide)

def empty : ConfigMap Nat where
  members := []
  wellFormed := .object List.nodup_nil nofun
  noProto := nofun

theorem equal_swap {a b : String} (hab : a ≠ b) (v w : Value N) :
    Equal (.object [(a, v), (b, w)]) (.object [(b, w), (a, v)]) := by
  refine Equal.object_iff.mpr fun name => ?_
  have hsame : [(a, v), (b, w)].lookup name = [(b, w), (a, v)].lookup name := by
    simp only [List.lookup_cons, List.lookup_nil]
    by_cases ha : name = a
    · rw [ha, beq_self_eq_true, beq_false_of_ne hab]
    · rw [beq_false_of_ne ha]
  rw [hsame]
  exact Equal.rel_refl _

theorem equal_single {name : String} {w : Value N} (h : Equal v w) :
    Equal (.object [(name, v)]) (.object [(name, w)]) := by
  refine Equal.object_iff.mpr fun k => ?_
  rw [List.lookup_cons, List.lookup_cons]
  cases k == name
  · exact .none
  · exact .some h

/-- A value whose members have another order is told as a change, and one that is `null` now is told
like one that is gone. -/
theorem reordered_and_null_not_faithful :
    (Equal before.toJson reordered.toJson ∧ computeDiff digits before reordered ≠ []) ∧
    (storedDiff digits before limitsNull = storedDiff digits before empty ∧
      ¬ Equal limitsNull.toJson empty.toJson) := by
  refine ⟨⟨equal_single (equal_swap (by decide) _ _), ?_⟩, ?_, ?_⟩
  · rw [Ne, computeDiff_eq_nil_iff]
    intro h
    have hlimits := h "limits"
    simp [before, reordered, single] at hlimits
  · rfl
  · intro h
    cases Equal.object_iff.mp h "limits"

end ConfigDiff

end NocIq
