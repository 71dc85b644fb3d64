import Mathlib.Data.List.MinMax
import NocIq.Lib.Runs

/-!
# NocIq — the history of an SLA configuration

`src/sla-config-history`: `recordChange` reads the latest version of a configuration, computes the
difference to the new one, reads the highest version number, and inserts. These are three queries
without a transaction, so the queries of other calls can come in between.

* **`changed_stored_iff`** — a difference to the new configuration is one to what is stored of it,
  unless the two are written differently.
* **`Linear.insert`** — an insertion after the version that has been compared keeps the history
  linear.
* **`sla_config_history_linear`** — in every run whose calls insert before another does.
-/

namespace NocIq

namespace SlaConfigHistory

/-- `Record<string, unknown>`. -/
abbrev Config (V : Type) := String → Option V

/-- The JSON values a JSONB column takes. `JSON.stringify` writes them; the column has its own way
of writing a text it is given (it orders the members of objects), and keeps to it. -/
structure JsonColumn (V : Type) where
  null : V
  stringify : V → String
  jsonb : String → V
  jsonb_stringify : ∀ text, jsonb (stringify (jsonb text)) = jsonb text

structure Change (V : Type) where
  fromValue : V
  toValue : V

/-- A row of `sla_config_versions` of the configuration, without its id and its time. -/
structure SlaConfigVersion (V : Type) where
  version : Nat
  changedBy : String
  configSnapshot : Config V
  diff : String → Option (Change V)
  changeReason : Option String

structure RecordConfigChangeInput (V : Type) where
  changedBy : String
  newConfig : Config V
  changeReason : Option String := none

section Functions

variable {V : Type} (col : JsonColumn V)

/-- A value that has been written to the column and read back. -/
def JsonColumn.stored (v : V) : V := col.jsonb (col.stringify v)

def JsonColumn.storedConfig (config : Config V) : Config V := fun key => (config key).map col.stored

def Change.stored (change : Change V) : Change V where
  fromValue := col.stored change.fromValue
  toValue := col.stored change.toValue

/-- The keys of neither record have no text on either side. -/
def computeDiff (previous next : Config V) (key : String) : Option (Change V) :=
  if (previous key).map col.stringify ≠ (next key).map col.stringify then
    some { fromValue := (previous key).getD col.null, toValue := (next key).getD col.null }
  else none

/-! ## The queries -/

/-- `ORDER BY version DESC LIMIT 1`. -/
def findLatest (rows : List (SlaConfigVersion V)) : Option (SlaConfigVersion V) :=
  rows.argmax (·.version)

/-- `COALESCE(MAX(version), 0)`. -/
def getLatestVersion (rows : List (SlaConfigVersion V)) : Nat :=
  (rows.map (·.version)).foldl max 0

inductive PgError where
  /-- a text is too long for its `VARCHAR(255)` -/
  | stringDataRightTruncation
  /-- a number is too large for an `INTEGER` -/
  | numericValueOutOfRange
  /-- `UNIQUE (config_id, version)` -/
  | uniqueViolation
  deriving DecidableEq

/-- The `INSERT` of `create`. -/
def insertVersion (configId : String) (input : RecordConfigChangeInput V)
    (diff : String → Option (Change V)) (nextVersion : Nat) (rows : List (SlaConfigVersion V)) :
    Except PgError (SlaConfigVersion V) :=
  if 255 < configId.length ∨ 255 < input.changedBy.length then .error .stringDataRightTruncation
  else if 2147483647 < nextVersion then .error .numericValueOutOfRange
  else if nextVersion ∈ rows.map (·.version) then .error .uniqueViolation
  else
    .ok
      { version := nextVersion, changedBy := input.changedBy
        configSnapshot := col.storedConfig input.newConfig
        diff := fun key => (diff key).map (Change.stored col)
        changeReason := input.changeReason }

/-! ## Calls that take turns -/

/-- Where a call of `recordChange` is. -/
inductive Position (V : Type) where
  | findLatest
  | getLatestVersion (latest : Option (SlaConfigVersion V)) (diff : String → Option (Change V))
  | insert (latest : Option (SlaConfigVersion V)) (diff : String → Option (Change V))
      (nextVersion : Nat)
  | returned (row : SlaConfigVersion V)
  | failed (e : PgError)

structure RecordChange (V : Type) where
  input : RecordConfigChangeInput V
  position : Position V := .findLatest

/-- `latest?.config_snapshot ?? {}`. -/
def snapshotOf (latest : Option (SlaConfigVersion V)) : Config V :=
  (latest.map (·.configSnapshot)).getD fun _ => none

/-- One query of `recordChange`, and what follows it up to the next. -/
def RecordChange.query (configId : String) (call : RecordChange V)
    (rows : List (SlaConfigVersion V)) : RecordChange V × List (SlaConfigVersion V) :=
  match call.position with
  | .findLatest =>
    let latest := SlaConfigHistory.findLatest rows
    let diff := computeDiff col (snapshotOf latest) call.input.newConfig
    ({ call with position := .getLatestVersion latest diff }, rows)
  | .getLatestVersion latest diff =>
    let nextVersion := SlaConfigHistory.getLatestVersion rows + 1
    ({ call with position := .insert latest diff nextVersion }, rows)
  | .insert _ diff nextVersion =>
    match insertVersion col configId call.input diff nextVersion rows with
    | .ok row => ({ call with position := .returned row }, rows ++ [row])
    | .error e => ({ call with position := .failed e }, rows)
  | .returned _ => (call, rows)
  | .failed _ => (call, rows)

structure State (V : Type) where
  versions : List (SlaConfigVersion V)
  calls : List (RecordChange V)

/-- The turn of the `i`-th call. -/
def State.turn (configId : String) (s : State V) (i : Nat) : State V :=
  match s.calls[i]? with
  | some call =>
    { versions := (call.query col configId s.versions).2
      calls := s.calls.set i (call.query col configId s.versions).1 }
  | none => s

abbrev Run (configId : String) :=
  Runs.Run fun (s : State V) (i : Nat) s' => s.turn col configId i = s'

/-- Nothing is stored, and no call has begun. -/
def State.start (inputs : List (RecordConfigChangeInput V)) : State V where
  versions := []
  calls := inputs.map fun input => { input }

end Functions

/-! ## Linear histories -/

section Linear

variable {V : Type} {col : JsonColumn V} {configId : String} {rows : List (SlaConfigVersion V)}

/-- The snapshot before the `k`-th row: that of the row before it, the empty object for the
first. -/
def snapshotBefore (rows : List (SlaConfigVersion V)) : Nat → Config V
  | 0 => fun _ => none
  | k + 1 => snapshotOf rows[k]?

/-- The versions are 1, 2, … without a gap, each with the difference of its snapshot to the one
before. -/
structure Linear (col : JsonColumn V) (rows : List (SlaConfigVersion V)) : Prop where
  versions : rows.map (·.version) = List.range' 1 rows.length
  diffs : ∀ k row, rows[k]? = some row → ∀ key, row.diff key =
    (computeDiff col (snapshotBefore rows k) row.configSnapshot key).map (Change.stored col)
  -- what has been read from the column is written as it was
  snapshots : ∀ row ∈ rows, ∀ key v, row.configSnapshot key = some v → col.stored v = v

def Position.hasReturned : Position V → Bool
  | .returned _ => true
  | _ => false

/-- All calls succeed: none has failed, and each that has returned has added one version. -/
structure AllRecorded (col : JsonColumn V) (s : State V) : Prop where
  succeeded : ∀ call ∈ s.calls, ∀ e, call.position ≠ .failed e
  count : s.versions.length = s.calls.countP fun call => call.position.hasReturned
  linear : Linear col s.versions

/-! ## Reading a linear history -/

theorem foldl_max_range' (n : Nat) : (List.range' 1 n).foldl max 0 = n := by
  induction n with
  | zero => rfl
  | succ n ih =>
    rw [List.range'_1_concat, List.foldl_append, ih]
    show max n (1 + n) = n + 1
    omega

theorem Linear.getLatestVersion (h : Linear col rows) :
    SlaConfigHistory.getLatestVersion rows = rows.length := by
  unfold SlaConfigHistory.getLatestVersion
  rw [h.versions]
  exact foldl_max_range' rows.length

variable {row : SlaConfigVersion V}

theorem Linear.version (h : Linear col rows) {k : Nat} (hrow : rows[k]? = some row) :
    row.version = k + 1 := by
  have hversion : (rows.map (·.version))[k]? = some row.version := by
    rw [List.getElem?_map, hrow]
    rfl
  rw [h.versions] at hversion
  obtain ⟨hk, heq⟩ := List.getElem?_eq_some_iff.mp hversion
  rw [List.getElem_range'] at heq
  omega

theorem Linear.findLatest (h : Linear col rows) :
    SlaConfigHistory.findLatest rows = rows.getLast? := by
  unfold SlaConfigHistory.findLatest
  obtain rfl | ⟨before, last, rfl⟩ := List.eq_nil_or_concat' rows
  · rfl
  · rw [List.argmax_concat, List.getLast?_concat]
    cases hbefore : List.argmax (·.version) before with
    | none => rfl
    | some row =>
      obtain ⟨k, hk, hrow⟩ := List.getElem_of_mem (List.argmax_mem hbefore)
      have hfirst : (before ++ [last])[k]? = some row := by
        rw [List.getElem?_append_left hk, List.getElem?_eq_getElem hk, hrow]
      have hlast : (before ++ [last])[before.length]? = some last := List.getElem?_concat_length
      have hlt : row.version < last.version := by
        rw [h.version hfirst, h.version hlast]
        omega
      exact if_pos hlt

theorem snapshotBefore_append {k : Nat} (hk : k ≤ rows.length) :
    snapshotBefore (rows ++ [row]) k = snapshotBefore rows k := by
  cases k with
  | zero => rfl
  | succ k =>
    show snapshotOf (rows ++ [row])[k]? = snapshotOf rows[k]?
    rw [List.getElem?_append_left hk]

theorem snapshotBefore_length : snapshotBefore rows rows.length = snapshotOf rows.getLast? := by
  obtain rfl | ⟨before, last, rfl⟩ := List.eq_nil_or_concat' rows
  · rfl
  · rw [List.length_append, List.length_singleton, List.getLast?_concat]
    show snapshotOf (before ++ [last])[before.length]? = _
    rw [List.getElem?_concat_length]

/-- **The next version**, with the difference to the latest one. -/
theorem Linear.insert (h : Linear col rows) (hversion : row.version = rows.length + 1)
    (hdiff : ∀ key, row.diff key =
      (computeDiff col (snapshotOf rows.getLast?) row.configSnapshot key).map (Change.stored col))
    (hsnapshot : ∀ key v, row.configSnapshot key = some v → col.stored v = v) :
    Linear col (rows ++ [row]) := by
  constructor
  · rw [List.map_append, List.map_singleton, h.versions, hversion, List.length_append,
      List.length_singleton, List.range'_1_concat, Nat.add_comm 1]
  · intro k row' hrow' key
    obtain hk | hk := Nat.lt_or_ge k rows.length
    · rw [List.getElem?_append_left hk] at hrow'
      rw [snapshotBefore_append (Nat.le_of_lt hk)]
      exact h.diffs k row' hrow' key
    · obtain ⟨hlt, hget⟩ := List.getElem?_eq_some_iff.mp hrow'
      rw [List.length_append, List.length_singleton] at hlt
      obtain rfl : k = rows.length := by omega
      rw [List.getElem?_concat_length] at hrow'
      rw [snapshotBefore_append le_rfl, snapshotBefore_length, ← Option.some.inj hrow']
      exact hdiff key
  · intro row' hrow'
    obtain hrow' | hrow' := List.mem_append.mp hrow'
    · exact h.snapshots row' hrow'
    · rw [List.mem_singleton.mp hrow']
      exact hsnapshot

theorem linear_nil : Linear col [] where
  versions := rfl
  diffs _ _ hrow := by cases hrow
  snapshots _ hrow := absurd hrow List.not_mem_nil

/-! ## Differences, before and after the column -/

theorem stored_stored (col : JsonColumn V) (v : V) : col.stored (col.stored v) = col.stored v :=
  col.jsonb_stringify (col.stringify v)

theorem stored_of_storedConfig {config : Config V} {key : String} {v : V}
    (h : col.storedConfig config key = some v) : col.stored v = v := by
  obtain ⟨u, -, rfl⟩ := Option.map_eq_some_iff.mp h
  exact stored_stored col u

/-- A value of the new configuration that is stored as the previous snapshot has it is also
written so. -/
def WrittenAlike (col : JsonColumn V) (previous next : Config V) : Prop :=
  ∀ key v, next key = some v → previous key = some (col.stored v) →
    col.stringify v = col.stringify (col.stored v)

/-- With values from the column on the left, only a value that is written differently from what is
stored of it can seem to be changed. -/
theorem changed_stored_iff {previous next : Config V}
    (hprevious : ∀ key v, previous key = some v → col.stored v = v)
    (halike : WrittenAlike col previous next) (key : String) :
    (previous key).map col.stringify ≠ (col.storedConfig next key).map col.stringify ↔
      (previous key).map col.stringify ≠ (next key).map col.stringify := by
  refine not_congr ?_
  unfold JsonColumn.storedConfig
  cases hnext : next key with
  | none => rfl
  | some v =>
    cases hkey : previous key with
    | none => exact iff_of_false nofun nofun
    | some u =>
      simp only [Option.map_some, Option.some.injEq]
      have hu := hprevious key u hkey
      constructor
      · intro heq
        -- the texts decide what is stored
        have hsame : u = col.stored v := by
          rw [← hu, ← stored_stored col v]
          exact congrArg col.jsonb heq
        rw [halike key v hnext (hkey.trans (congrArg some hsame)), heq]
      · intro heq
        have hsame : u = col.stored v := by
          rw [← hu]
          exact congrArg col.jsonb heq
        rw [hsame]

theorem computeDiff_stored {previous next : Config V}
    (hprevious : ∀ key v, previous key = some v → col.stored v = v)
    (halike : WrittenAlike col previous next) (key : String) :
    (computeDiff col previous (col.storedConfig next) key).map (Change.stored col) =
      (computeDiff col previous next key).map (Change.stored col) := by
  unfold computeDiff
  simp only [changed_stored_iff hprevious halike key]
  split
  · unfold JsonColumn.storedConfig Change.stored
    cases next key with
    | none => rfl
    | some v => simp only [Option.map_some, Option.getD_some, stored_stored]
  · rfl

end Linear

/-! ## Runs -/

section Runs

variable {V : Type} {col : JsonColumn V} {configId : String} {s s' : State V}

/-- The version that the call has compared with is still the latest when it inserts, and the new
configuration fits the columns. -/
structure Undisturbed (col : JsonColumn V) (configId : String) (s : State V) (call : RecordChange V)
    (latest : Option (SlaConfigVersion V)) : Prop where
  current : findLatest s.versions = latest
  alike : WrittenAlike col (snapshotOf latest) call.input.newConfig
  configIdFits : configId.length ≤ 255
  changedByFits : call.input.changedBy.length ≤ 255
  versionFits : s.versions.length < 2147483647

def InsertsUndisturbed (col : JsonColumn V) (configId : String) (s : State V) (i : Nat) : Prop :=
  ∀ call latest diff nextVersion, s.calls[i]? = some call →
    call.position = .insert latest diff nextVersion → Undisturbed col configId s call latest

/-- The version number of the latest version, as `COALESCE` has it. -/
def versionOf (latest : Option (SlaConfigVersion V)) : Nat := (latest.map (·.version)).getD 0

/-- What a call that has not failed knows: its difference is the one to the version it has read, and
its version number was the next one at some time since. -/
def Asserts (col : JsonColumn V) (rows : List (SlaConfigVersion V)) (call : RecordChange V) :
    Prop :=
  match call.position with
  | .findLatest => True
  | .getLatestVersion latest diff =>
    versionOf latest ≤ rows.length ∧ diff = computeDiff col (snapshotOf latest) call.input.newConfig
  | .insert latest diff nextVersion =>
    versionOf latest < nextVersion ∧ nextVersion ≤ rows.length + 1 ∧
      diff = computeDiff col (snapshotOf latest) call.input.newConfig
  | .returned _ => True
  | .failed _ => False

variable {call : RecordChange V}

theorem Asserts.mono {rows rows' : List (SlaConfigVersion V)} (h : Asserts col rows call)
    (hle : rows.length ≤ rows'.length) : Asserts col rows' call := by
  unfold Asserts at h ⊢
  split
  · trivial
  · next latest diff hposition =>
    rw [hposition] at h
    exact ⟨h.1.trans hle, h.2⟩
  · next latest diff nextVersion hposition =>
    rw [hposition] at h
    exact ⟨h.1, h.2.1.trans (Nat.succ_le_succ hle), h.2.2⟩
  · trivial
  · next e hposition =>
    rw [hposition] at h
    exact h

theorem Linear.versionOf_findLatest {rows : List (SlaConfigVersion V)} (h : Linear col rows) :
    versionOf (SlaConfigHistory.findLatest rows) = rows.length := by
  rw [h.findLatest]
  obtain rfl | ⟨before, last, rfl⟩ := List.eq_nil_or_concat' rows
  · rfl
  · rw [List.getLast?_concat, List.length_append, List.length_singleton]
    exact h.version List.getElem?_concat_length

structure Invariant (col : JsonColumn V) (s : State V) : Prop where
  linear : Linear col s.versions
  asserts : ∀ call ∈ s.calls, Asserts col s.versions call
  count : s.versions.length = s.calls.countP fun call => call.position.hasReturned

theorem Invariant.allRecorded (h : Invariant col s) : AllRecorded col s := by
  refine ⟨?_, h.count, h.linear⟩
  intro call hcall e hposition
  have hasserts := h.asserts call hcall
  unfold Asserts at hasserts
  rw [hposition] at hasserts
  exact hasserts

theorem Invariant.start (col : JsonColumn V) (inputs : List (RecordConfigChangeInput V)) :
    Invariant col (State.start inputs) := by
  refine ⟨linear_nil, ?_, ?_⟩
  · intro call hcall
    obtain ⟨input, -, rfl⟩ := List.mem_map.mp hcall
    trivial
  · refine (List.countP_eq_zero.mpr ?_).symm
    intro call hcall
    obtain ⟨input, -, rfl⟩ := List.mem_map.mp hcall
    exact Bool.false_ne_true

theorem Invariant.set (h : Invariant col s) {i : Nat} {call' : RecordChange V}
    (hcall : s.calls[i]? = some call) (hrunning : call.position.hasReturned = false)
    {rows : List (SlaConfigVersion V)} (hle : s.versions.length ≤ rows.length)
    (hlinear : Linear col rows) (hasserts : Asserts col rows call')
    (hcount : rows.length = s.versions.length + if call'.position.hasReturned then 1 else 0) :
    Invariant col { versions := rows, calls := s.calls.set i call' } := by
  obtain ⟨hi, hget⟩ := List.getElem?_eq_some_iff.mp hcall
  refine ⟨hlinear, ?_, ?_⟩
  · intro other hother
    obtain hother | rfl := List.mem_or_eq_of_mem_set hother
    · exact (h.asserts other hother).mono hle
    · exact hasserts
  · show rows.length = _
    rw [List.countP_set hi, hget, hrunning, ← h.count, hcount]
    rfl

theorem Linear.stored_snapshotOf_findLatest (h : Linear col rows) (key : String) (v : V)
    (hv : snapshotOf (SlaConfigHistory.findLatest rows) key = some v) : col.stored v = v := by
  cases hrow : SlaConfigHistory.findLatest rows with
  | none =>
    rw [hrow] at hv
    cases hv
  | some row =>
    rw [hrow] at hv
    exact h.snapshots row (List.argmax_mem hrow) key v hv

/-- **An undisturbed insertion.** The number is the next one, so the row is taken, and it has the
difference to the row before it. -/
theorem Invariant.insert (h : Invariant col s) {latest : Option (SlaConfigVersion V)}
    {diff : String → Option (Change V)} {nextVersion : Nat} (hasserts : Asserts col s.versions call)
    (hposition : call.position = .insert latest diff nextVersion)
    (hundisturbed : Undisturbed col configId s call latest) :
    ∃ row, insertVersion col configId call.input diff nextVersion s.versions = .ok row ∧
      Linear col (s.versions ++ [row]) := by
  unfold Asserts at hasserts
  rw [hposition] at hasserts
  obtain ⟨hafter, hbefore, hdiff⟩ := hasserts
  have hlatest : versionOf latest = s.versions.length := by
    rw [← hundisturbed.current]
    exact h.linear.versionOf_findLatest
  obtain rfl : nextVersion = s.versions.length + 1 := by omega
  have htexts : ¬ (255 < configId.length ∨ 255 < call.input.changedBy.length) := by
    rintro (hlong | hlong)
    · exact absurd hundisturbed.configIdFits (Nat.not_le.mpr hlong)
    · exact absurd hundisturbed.changedByFits (Nat.not_le.mpr hlong)
  have hrange : ¬ 2147483647 < s.versions.length + 1 := Nat.not_lt.mpr hundisturbed.versionFits
  have hnew : s.versions.length + 1 ∉ s.versions.map (·.version) := by
    rw [h.linear.versions, List.mem_range'_1]
    omega
  unfold insertVersion
  rw [if_neg htexts, if_neg hrange, if_neg hnew]
  refine ⟨_, rfl, h.linear.insert rfl ?_ fun key v => stored_of_storedConfig⟩
  intro key
  rw [← h.linear.findLatest, hundisturbed.current, hdiff]
  refine (computeDiff_stored ?_ hundisturbed.alike key).symm
  rw [← hundisturbed.current]
  exact h.linear.stored_snapshotOf_findLatest

/-- **The step lemma.** -/
theorem Invariant.turn (h : Invariant col s) {i : Nat}
    (hturn : InsertsUndisturbed col configId s i) :
    Invariant col (s.turn col configId i) := by
  unfold State.turn
  cases hcall : s.calls[i]? with
  | none => exact h
  | some call =>
    have hasserts := h.asserts call (List.mem_of_getElem? hcall)
    dsimp only
    unfold RecordChange.query
    cases hposition : call.position with
    | findLatest =>
      refine h.set hcall (by rw [hposition]; rfl) le_rfl h.linear ⟨?_, rfl⟩ rfl
      exact Nat.le_of_eq h.linear.versionOf_findLatest
    | getLatestVersion latest diff =>
      unfold Asserts at hasserts
      rw [hposition] at hasserts
      refine h.set hcall (by rw [hposition]; rfl) le_rfl h.linear ⟨?_, ?_, hasserts.2⟩ rfl
      · rw [h.linear.getLatestVersion]
        exact Nat.lt_succ_of_le hasserts.1
      · rw [h.linear.getLatestVersion]
    | insert latest diff nextVersion =>
      obtain ⟨row, hinsert, hlinear⟩ := h.insert hasserts hposition
        (hturn call latest diff nextVersion hcall hposition)
      dsimp only
      rw [hinsert]
      refine h.set hcall (by rw [hposition]; rfl) ?_ hlinear trivial ?_
      · exact (List.sublist_append_left _ _).length_le
      · exact List.length_append
    | returned row =>
      -- a call that has returned takes no more turns that change anything
      dsimp only
      obtain ⟨hi, rfl⟩ := List.getElem?_eq_some_iff.mp hcall
      rw [List.set_getElem_self]
      exact h
    | failed e =>
      -- no call fails while all insertions are undisturbed
      unfold Asserts at hasserts
      rw [hposition] at hasserts
      exact hasserts.elim

/-- **The history is linear** in every state of a run whose insertions are undisturbed. -/
theorem sla_config_history_linear (inputs : List (RecordConfigChangeInput V))
    {steps : List (State V × Nat)} (hrun : Run col configId (State.start inputs) steps s)
    (hundisturbed : ∀ x ∈ steps, InsertsUndisturbed col configId x.1 x.2) :
    ∀ u ∈ Runs.visited steps s, AllRecorded col u := by
  have hinvariant := (hrun.restrict hundisturbed).invariant_visited
    (I := Invariant col) (Invariant.start col inputs) ?_
  · exact fun u hu => (hinvariant u hu).allRecorded
  · rintro t i u ht ⟨rfl, hturn⟩
    exact ht.turn hturn

end Runs

/-! ### Two changes of one configuration -/

def flagText : Option Bool → String
  | none => "null"
  | some true => "true"
  | some false => "false"

def flagOfText (text : String) : Option Bool :=
  if text = "true" then some true else if text = "false" then some false else none

theorem flagOfText_flagText (flag : Option Bool) : flagOfText (flagText flag) = flag := by
  rcases flag with _ | _ | _ <;> rfl

/-- `null`, `true` and `false`. -/
def flagColumn : JsonColumn (Option Bool) where
  null := none
  stringify := flagText
  jsonb := flagOfText
  jsonb_stringify text := flagOfText_flagText (flagOfText text)

def flagInput (value : Bool) : RecordConfigChangeInput (Option Bool) where
  changedBy := "ops@example.com"
  newConfig key := if key = "escalate" then some (some value) else none

def flagInputs : List (RecordConfigChangeInput (Option Bool)) := [flagInput true, flagInput false]

def flagRun (turns : List Nat) : List (State (Option Bool) × Nat) :=
  Runs.replay (State.turn flagColumn "critical") (State.start flagInputs) turns

def flagState (turns : List Nat) : State (Option Bool) :=
  turns.foldl (State.turn flagColumn "critical") (State.start flagInputs)

theorem flagRun_run (turns : List Nat) :
    Run flagColumn "critical" (State.start flagInputs) (flagRun turns) (flagState turns) :=
  Runs.replay_run _ _ turns

theorem flagColumn_writtenAlike (previous next : Config (Option Bool)) :
    WrittenAlike flagColumn previous next := by
  intro key v _ _
  exact congrArg flagText (flagOfText_flagText v).symm

/-- One after the other. -/
theorem sla_config_history_linear_serial :
    (Runs.visited (flagRun [0, 0, 0, 1, 1, 1]) (flagState [0, 0, 0, 1, 1, 1])).Forall
      (AllRecorded flagColumn) := by
  refine List.forall_iff_forall_mem.mpr
    (sla_config_history_linear flagInputs (flagRun_run _) ?_)
  intro x hx call latest diff nextVersion hcall hposition
  have hx' : x ∈ [(flagState [], 0), (flagState [0], 0), (flagState [0, 0], 0),
    (flagState [0, 0, 0], 1), (flagState [0, 0, 0, 1], 1), (flagState [0, 0, 0, 1, 1], 1)] := hx
  simp only [List.mem_cons, List.not_mem_nil, or_false] at hx'
  rcases hx' with rfl | rfl | rfl | rfl | rfl | rfl
  · obtain rfl := Option.some.inj hcall
    cases hposition
  · obtain rfl := Option.some.inj hcall
    cases hposition
  · obtain rfl := Option.some.inj hcall
    cases hposition
    exact ⟨rfl, flagColumn_writtenAlike _ _, by decide, by decide, by decide⟩
  · obtain rfl := Option.some.inj hcall
    cases hposition
  · obtain rfl := Option.some.inj hcall
    cases hposition
  · obtain rfl := Option.some.inj hcall
    cases hposition
    exact ⟨rfl, flagColumn_writtenAlike _ _, by decide, by decide, by decide⟩

/-- Both read the number 0 before either inserts: the second INSERT violates the constraint. -/
theorem concurrent_changes_collide :
    ¬ ∀ (V : Type) (col : JsonColumn V) (configId : String)
        (inputs : List (RecordConfigChangeInput V)) (steps : List (State V × Nat)) (s : State V),
      Run col configId (State.start inputs) steps s →
        ∀ u ∈ Runs.visited steps s, AllRecorded col u := by
  intro hall
  have hrecorded := hall _ flagColumn "critical" flagInputs _ _ (flagRun_run [0, 0, 1, 1, 0, 1])
    (flagState [0, 0, 1, 1, 0, 1]) (List.mem_append_right _ (List.mem_singleton_self _))
  have hcall : (flagState [0, 0, 1, 1, 0, 1]).calls[1]? =
      some { input := flagInput false, position := .failed .uniqueViolation } := rfl
  exact hrecorded.succeeded _ (List.mem_of_getElem? hcall) _ rfl

end SlaConfigHistory

end NocIq
