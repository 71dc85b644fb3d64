import Mathlib.Data.List.Perm.Basic

/-!
# NocIq — shadow-table migrations

`app/migrations/shadow_table.py`. A database is a map from names to tables and views. A migration
copies a table into its shadow, gives the name of the table to a view on the shadow, and in the end
cleans up. Each step runs in one transaction: one that raises leaves the database as it was.

* **`migrateBatches_eq`** — the batches copy every row once.
* **`switchReadTraffic_ok`** — after the switch the name reads the shadow, and the rows that were
  copied stay under the backup name.
* **`cleanupShadow_ok`** — the clean-up gives the name back to the backup.
* **`shadow_migration_preserves_iff`** — so what is written between the two is lost.
-/

namespace NocIq

namespace ShadowTable

variable {ρ : Type}

abbrev Name := String

/-! ## Databases -/

/-- What the columns of a table allow: types, not null, the primary key. -/
structure ColumnRules (ρ : Type) where
  ok : List ρ → Bool
  sublist : ∀ {l₁ l₂ : List ρ}, l₁.Sublist l₂ → ok l₂ = true → ok l₁ = true

structure Table (ρ : Type) where
  rules : ColumnRules ρ
  rows : List ρ
  valid : rules.ok rows = true

inductive Relation (ρ : Type) where
  | table (t : Table ρ)
  | view (source : Name)

abbrev Database (ρ : Type) := Name → Option (Relation ρ)

inductive DbError where
  | noSuchTable (name : Name)
  | notAView (name : Name)
  | notATable (name : Name)
  | alreadyExists (name : Name)
  | integrityError
  deriving DecidableEq

def Table.emptyCopy (t : Table ρ) : Table ρ where
  rules := t.rules
  rows := []
  valid := t.rules.sublist (List.nil_sublist _) t.valid

/-- `INSERT` of several rows, which the rules refuse as a whole. -/
def Table.insert (rows : List ρ) (t : Table ρ) : Option (Table ρ) :=
  if h : t.rules.ok (t.rows ++ rows) = true then
    some { rules := t.rules, rows := t.rows ++ rows, valid := h }
  else none

/-- A view is on a table here. -/
def Database.readable (name : Name) (db : Database ρ) : Option (List ρ) :=
  match db name with
  | some (.table t) => some t.rows
  | some (.view source) =>
    match db source with
    | some (.table t) => some t.rows
    | _ => none
  | none => none

namespace Database

def dropViewIfExists (name : Name) (db : Database ρ) : Except DbError (Database ρ) :=
  match db name with
  | none => .ok db
  | some (.view _) => .ok (Function.update db name none)
  | some (.table _) => .error (.notAView name)

def dropTableIfExists (name : Name) (db : Database ρ) : Except DbError (Database ρ) :=
  match db name with
  | none => .ok db
  | some (.table _) => .ok (Function.update db name none)
  | some (.view _) => .error (.notATable name)

/-- A view on a table that is renamed stays on it. -/
def retarget (old new : Name) : Relation ρ → Relation ρ
  | .table t => .table t
  | .view source => .view (if source = old then new else source)

/-- `ALTER TABLE old RENAME TO new`. -/
def renameTable (old new : Name) (db : Database ρ) : Except DbError (Database ρ) :=
  match db old, db new with
  | some (.table t), none =>
    .ok (Function.update (Function.update (fun name => (db name).map (retarget old new)) old none)
      new (some (.table t)))
  | some (.table _), some _ => .error (.alreadyExists new)
  | _, _ => .error (.noSuchTable old)

/-- `CREATE VIEW name AS SELECT * FROM source`. -/
def createView (name source : Name) (db : Database ρ) : Except DbError (Database ρ) :=
  match db name, db source with
  | none, some _ => .ok (Function.update db name (some (.view source)))
  | none, none => .error (.noSuchTable source)
  | some _, _ => .error (.alreadyExists name)

end Database

/-! ## The four steps -/

/-- `MIGRATION_SHADOW_SUFFIX` and `MIGRATION_BATCH_SIZE`. -/
structure Settings where
  suffix : String := "_shadow"
  batchSize : Nat := 500
  suffix_ne_empty : suffix ≠ "" := by decide
  suffix_ne_backup : suffix ≠ "_view_backup" := by decide
  batchSize_pos : 0 < batchSize := by decide

def shadowName (s : Settings) (originalTable : Name) : Name := originalTable ++ s.suffix

def backupName (tableName : Name) : Name := tableName ++ "_view_backup"

/-- Only tables are reflected; `checkfirst` keeps what already has the name of the shadow. -/
def createShadowTable (s : Settings) (originalTableName : Name) (db : Database ρ) :
    Except DbError (Name × Database ρ) :=
  match db originalTableName with
  | some (.table original) =>
    match db (shadowName s originalTableName) with
    | none =>
      .ok (shadowName s originalTableName,
        Function.update db (shadowName s originalTableName) (some (.table original.emptyCopy)))
    | some _ => .ok (shadowName s originalTableName, db)
  | _ => .error (.noSuchTable originalTableName)

/-- The loop of `migrate_data`, with `total` rows copied so far. -/
def migrateBatches (batchSize : Nat) (source : List ρ) (total : Nat) (target : Table ρ) :
    Except DbError (Nat × Table ρ) :=
  if _hrows : (source.drop total).take batchSize = [] then .ok (total, target)
  else
    match target.insert ((source.drop total).take batchSize) with
    | some target =>
      migrateBatches batchSize source (total + ((source.drop total).take batchSize).length) target
    | none => .error .integrityError
termination_by source.length - total
decreasing_by
  have hlength := List.length_pos_iff.mpr _hrows
  rw [List.length_take, List.length_drop] at hlength ⊢
  omega

/-- `batch_size or settings.MIGRATION_BATCH_SIZE`. -/
def effectiveBatchSize (s : Settings) (batchSize : Option Nat) : Nat :=
  (batchSize.filter fun n => decide (n ≠ 0)).getD s.batchSize

def migrateData (s : Settings) (sourceTableName targetTableName : Name) (batchSize : Option Nat)
    (db : Database ρ) : Except DbError (Nat × Database ρ) :=
  match db sourceTableName, db targetTableName with
  | some (.table source), some (.table target) => do
    let (total, target) ← migrateBatches (effectiveBatchSize s batchSize) source.rows 0 target
    .ok (total, Function.update db targetTableName (some (.table target)))
  | some (.table _), _ => .error (.noSuchTable targetTableName)
  | _, _ => .error (.noSuchTable sourceTableName)

def switchReadTraffic (s : Settings) (tableName : Name) (shadow : Option Name) (db : Database ρ) :
    Except DbError (Database ρ) := do
  let db ← db.dropViewIfExists (backupName tableName)
  let db ← db.renameTable tableName (backupName tableName)
  db.createView tableName ((shadow.filter fun n => decide (n ≠ "")).getD (shadowName s tableName))

def cleanupShadow (s : Settings) (tableName : Name) (db : Database ρ) :
    Except DbError (Database ρ) := do
  let db ← db.dropViewIfExists tableName
  let db ← db.renameTable (backupName tableName) tableName
  db.dropTableIfExists (shadowName s tableName)

/-! ## Writes of the application -/

inductive Write (ρ : Type) where
  | insert (row : ρ)
  | update (selects : ρ → Bool) (set : ρ → ρ)
  | delete (selects : ρ → Bool)

def Write.on (rows : List ρ) : Write ρ → List ρ
  | .insert row => rows ++ [row]
  | .update selects set => rows.map fun row => if selects row then set row else row
  | .delete selects => rows.filter fun row => !selects row

/-- A statement that the rules refuse changes nothing. -/
def Table.write (t : Table ρ) (w : Write ρ) : Table ρ :=
  if h : t.rules.ok (w.on t.rows) = true then { rules := t.rules, rows := w.on t.rows, valid := h }
  else t

/-- Through a view, a statement goes to the table under it. -/
def Database.write (name : Name) (db : Database ρ) (w : Write ρ) : Database ρ :=
  match db name with
  | some (.table t) => Function.update db name (some (.table (t.write w)))
  | some (.view source) =>
    match db source with
    | some (.table t) => Function.update db source (some (.table (t.write w)))
    | _ => db
  | none => db

/-- A migration up to its clean-up, with what the application writes after the switch. -/
def migrateAndWrite (s : Settings) (tableName : Name) (batchSize : Option Nat)
    (writes : List (Write ρ)) (db : Database ρ) : Except DbError (Database ρ) := do
  let (shadow, db) ← createShadowTable s tableName db
  let (_, db) ← migrateData s tableName shadow batchSize db
  let db ← switchReadTraffic s tableName (some shadow) db
  .ok (writes.foldl (Database.write tableName) db)

/-- The migration runs through, and its clean-up leaves the rows that could be read before. -/
def Preserves (s : Settings) (tableName : Name) (batchSize : Option Nat) (writes : List (Write ρ))
    (db : Database ρ) : Prop :=
  ∃ before after, migrateAndWrite s tableName batchSize writes db = .ok before ∧
    cleanupShadow s tableName before = .ok after ∧
    ∃ rows rows', before.readable tableName = some rows ∧ after.readable tableName = some rows' ∧
      rows'.Perm rows

/-! ## The copy -/

theorem Table.insert_nil (t : Table ρ) : t.insert [] = some t := by
  have hvalid : t.rules.ok (t.rows ++ []) = true := by
    rw [List.append_nil]
    exact t.valid
  obtain ⟨rules, rows, valid⟩ := t
  unfold Table.insert
  rw [dif_pos hvalid]
  simp only [List.append_nil]

theorem Table.insert_append (t : Table ρ) (first second : List ρ) :
    t.insert (first ++ second) = (t.insert first).bind fun t => t.insert second := by
  unfold Table.insert
  by_cases hboth : t.rules.ok (t.rows ++ (first ++ second)) = true
  · -- rules that allow all rows allow those of the first statement alone
    have hfirst : t.rules.ok (t.rows ++ first) = true := by
      refine t.rules.sublist ?_ hboth
      rw [← List.append_assoc]
      exact List.sublist_append_left _ second
    rw [dif_pos hboth, dif_pos hfirst, Option.bind_some]
    rw [← List.append_assoc] at hboth
    rw [dif_pos hboth]
    simp only [List.append_assoc]
  · rw [dif_neg hboth]
    by_cases hfirst : t.rules.ok (t.rows ++ first) = true
    · rw [dif_pos hfirst, Option.bind_some]
      rw [← List.append_assoc] at hboth
      rw [dif_neg hboth]
    · rw [dif_neg hfirst, Option.bind_none]

/-- **The batches copy every row once**, or fail as one statement would. -/
theorem migrateBatches_eq {batchSize : Nat} (hpos : 0 < batchSize) (source : List ρ) (total : Nat)
    (target : Table ρ) (htotal : total ≤ source.length) :
    migrateBatches batchSize source total target =
      match target.insert (source.drop total) with
      | some copied => .ok (source.length, copied)
      | none => .error .integrityError := by
  fun_induction migrateBatches batchSize source total target with
  | case1 total target hrows =>
    -- a batch of no rows: the source is at its end, since no batch size is 0
    have hdone : source.drop total = [] :=
      (List.take_eq_nil_iff.mp hrows).resolve_left (Nat.ne_of_gt hpos)
    have hlength := List.drop_eq_nil_iff.mp hdone
    rw [hdone, target.insert_nil, Nat.le_antisymm htotal hlength]
  | case2 total target hrows copied hinsert ih =>
    -- one statement for all that is left is this batch, and then the rest
    have hstep : source.drop total = (source.drop total).take batchSize ++
        source.drop (total + ((source.drop total).take batchSize).length) := by
      rw [← List.drop_drop]
      exact (List.prefix_iff_eq_append.mp (List.take_prefix batchSize _)).symm
    rw [ih ?_]
    · conv_rhs => rw [hstep, target.insert_append, hinsert]
      rfl
    · rw [List.length_take, List.length_drop]
      omega
  | case3 total target hrows hinsert =>
    have hsplit := List.take_append_drop batchSize (source.drop total)
    rw [← hsplit, target.insert_append, hinsert]
    rfl

/-! ## Names -/

theorem append_ne_self {name suffix : String} (h : suffix ≠ "") : name ++ suffix ≠ name := by
  intro heq
  have hlist := congrArg String.toList heq
  rw [String.toList_append] at hlist
  exact h (String.toList_inj.mp (List.append_cancel_left (hlist.trans (List.append_nil _).symm)))

theorem append_inj_right {name suffix suffix' : String} (h : name ++ suffix = name ++ suffix') :
    suffix = suffix' := by
  have hlist := congrArg String.toList h
  rw [String.toList_append, String.toList_append] at hlist
  exact String.toList_inj.mp (List.append_cancel_left hlist)

section Names

variable (s : Settings) (name : Name)

theorem shadowName_ne : shadowName s name ≠ name := append_ne_self s.suffix_ne_empty

theorem backupName_ne : backupName name ≠ name := append_ne_self (by decide)

theorem shadowName_ne_backupName : shadowName s name ≠ backupName name :=
  fun h => s.suffix_ne_backup (append_inj_right h)

theorem shadowName_ne_empty : shadowName s name ≠ "" := by
  intro h
  have hlist := congrArg String.toList h
  unfold shadowName at hlist
  rw [String.toList_append] at hlist
  exact s.suffix_ne_empty (String.toList_inj.mp (List.append_eq_nil_iff.mp hlist).2)

theorem effectiveBatchSize_pos (batchSize : Option Nat) : 0 < effectiveBatchSize s batchSize := by
  unfold effectiveBatchSize
  cases hsize : batchSize.filter fun n => decide (n ≠ 0) with
  | none => exact s.batchSize_pos
  | some n =>
    have hne := of_decide_eq_true (Option.filter_eq_some_iff.mp hsize).2
    exact Nat.pos_of_ne_zero hne

end Names

/-! ## Statements that go through -/

namespace Database

variable {db : Database ρ}

theorem dropViewIfExists_ok {name : Name} (h : ∀ t, db name ≠ some (.table t)) :
    db.dropViewIfExists name = .ok (Function.update db name none) := by
  unfold dropViewIfExists
  cases hname : db name with
  | none =>
    have hsame : Function.update db name none = db := hname ▸ Function.update_eq_self name db
    rw [hsame]
  | some relation =>
    cases relation with
    | table t => exact absurd hname (h t)
    | view source => rfl

theorem dropTableIfExists_ok {name : Name} {t : Table ρ} (h : db name = some (.table t)) :
    db.dropTableIfExists name = .ok (Function.update db name none) := by
  unfold dropTableIfExists
  rw [h]

theorem createView_ok {name source : Name} {relation : Relation ρ} (h : db name = none)
    (hsource : db source = some relation) :
    db.createView name source = .ok (Function.update db name (some (.view source))) := by
  unfold createView
  rw [h, hsource]

theorem renameTable_ok {old new : Name} {t : Table ρ} (h : db old = some (.table t))
    (hnew : db new = none) :
    ∃ renamed, db.renameTable old new = .ok renamed ∧ renamed old = none ∧
      renamed new = some (.table t) ∧
      ∀ other u, other ≠ old → other ≠ new → db other = some (.table u) →
        renamed other = some (.table u) := by
  have hne : old ≠ new := by
    rintro rfl
    rw [hnew] at h
    cases h
  unfold renameTable
  rw [h, hnew]
  refine ⟨_, rfl, ?_, Function.update_self _ _ _, ?_⟩
  · rw [Function.update_of_ne hne, Function.update_self]
  · intro other u hold hother hu
    rw [Function.update_of_ne hother, Function.update_of_ne hold, hu]
    rfl

end Database

/-! ## The steps, on the three names -/

section Steps

variable {s : Settings} {name : Name} {t : Table ρ} {db : Database ρ}

/-- The table that is copied into: a new one, unless there is one of that name. -/
def shadowTarget (s : Settings) (name : Name) (t : Table ρ) (db : Database ρ) : Option (Table ρ) :=
  match db (shadowName s name) with
  | none => some t.emptyCopy
  | some (.table target) => some target
  | some (.view _) => none

theorem createShadowTable_eq (h : db name = some (.table t)) {target : Table ρ}
    (htarget : shadowTarget s name t db = some target) :
    createShadowTable s name db =
      .ok (shadowName s name, Function.update db (shadowName s name) (some (.table target))) := by
  unfold createShadowTable
  unfold shadowTarget at htarget
  rw [h]
  cases hshadow : db (shadowName s name) with
  | none =>
    rw [hshadow] at htarget
    rw [← Option.some.inj htarget]
  | some relation =>
    cases relation with
    | table target' =>
      have hsame : Function.update db (shadowName s name) (some (.table target')) = db := by
        rw [← hshadow, Function.update_eq_self]
      rw [hshadow] at htarget
      rw [← Option.some.inj htarget, hsame]
    | view source =>
      rw [hshadow] at htarget
      cases htarget

theorem migrateData_eq {target : Table ρ} (h : db name = some (.table t))
    (hshadow : db (shadowName s name) = some (.table target)) (batchSize : Option Nat) :
    migrateData s name (shadowName s name) batchSize db =
      match target.insert t.rows with
      | some copied =>
        .ok (t.rows.length, Function.update db (shadowName s name) (some (.table copied)))
      | none => .error .integrityError := by
  have hbatches := migrateBatches_eq (effectiveBatchSize_pos s batchSize) t.rows 0 target
    (Nat.zero_le _)
  rw [List.drop_zero] at hbatches
  unfold migrateData
  rw [h, hshadow]
  dsimp only
  rw [hbatches]
  cases target.insert t.rows <;> rfl

/-- The shadow after the copy; `none` where one of the first two steps raises. -/
def afterCopy (s : Settings) (name : Name) (t : Table ρ) (db : Database ρ) : Option (Table ρ) :=
  (shadowTarget s name t db).bind fun target => target.insert t.rows

theorem afterCopy_fresh (h : db (shadowName s name) = none) : afterCopy s name t db = some t := by
  unfold afterCopy shadowTarget
  rw [h]
  have hvalid : t.emptyCopy.rules.ok (t.emptyCopy.rows ++ t.rows) = true := t.valid
  show t.emptyCopy.insert t.rows = some t
  unfold Table.insert
  rw [dif_pos hvalid]
  rfl

theorem copy_eq (h : db name = some (.table t)) (batchSize : Option Nat) :
    (createShadowTable s name db >>= fun created =>
        migrateData s name created.1 batchSize created.2) =
      match afterCopy s name t db with
      | some copied =>
        .ok (t.rows.length, Function.update db (shadowName s name) (some (.table copied)))
      | none =>
        .error (if (shadowTarget s name t db).isSome then .integrityError
          else .noSuchTable (shadowName s name)) := by
  unfold afterCopy
  cases htarget : shadowTarget s name t db with
  | some target =>
    have hname : Function.update db (shadowName s name) (some (.table target)) name =
        some (.table t) := by
      rw [Function.update_of_ne (shadowName_ne s name).symm, h]
    rw [createShadowTable_eq h htarget]
    show migrateData s name (shadowName s name) batchSize _ = _
    rw [migrateData_eq hname (Function.update_self _ _ _), Option.bind_some]
    cases target.insert t.rows with
    | some copied =>
      dsimp only
      rw [Function.update_idem]
    | none => rfl
  | none =>
    -- only a view in the place of the shadow table leaves no target, and it takes no rows
    unfold shadowTarget at htarget
    cases hshadow : db (shadowName s name) with
    | none =>
      rw [hshadow] at htarget
      cases htarget
    | some relation =>
      cases relation with
      | table target =>
        rw [hshadow] at htarget
        cases htarget
      | view source =>
        have hcreate : createShadowTable s name db = .ok (shadowName s name, db) := by
          unfold createShadowTable
          rw [h, hshadow]
        rw [hcreate]
        show migrateData s name (shadowName s name) batchSize db = _
        unfold migrateData
        rw [h, hshadow]
        rfl

/-- What the switch leaves, and every write after it. -/
structure Switched (s : Settings) (name : Name) (t copied : Table ρ) (db : Database ρ) : Prop where
  view : db name = some (.view (shadowName s name))
  shadow : db (shadowName s name) = some (.table copied)
  backup : db (backupName name) = some (.table t)

variable {copied : Table ρ}

theorem switchReadTraffic_ok (h : db name = some (.table t))
    (hshadow : db (shadowName s name) = some (.table copied))
    (hbackup : ∀ u, db (backupName name) ≠ some (.table u)) :
    ∃ switched, switchReadTraffic s name (some (shadowName s name)) db = .ok switched ∧
      Switched s name t copied switched := by
  have hnames := backupName_ne name
  have hshadowName := shadowName_ne s name
  have hboth := shadowName_ne_backupName s name
  have hgiven : ((some (shadowName s name)).filter fun n => decide (n ≠ "")).getD
      (shadowName s name) = shadowName s name := by
    rw [Option.filter_some, if_pos (decide_eq_true (shadowName_ne_empty s name))]
    rfl
  -- the view of an earlier run goes, the table takes its name, and the view takes the table's
  have hdrop := Database.dropViewIfExists_ok hbackup
  have hname : Function.update db (backupName name) none name = some (.table t) := by
    rw [Function.update_of_ne hnames.symm, h]
  obtain ⟨renamed, hrename, hfree, hmoved, hother⟩ :=
    Database.renameTable_ok hname (Function.update_self (backupName name) none db)
  have hkept := hother (shadowName s name) copied hshadowName hboth
    (by rw [Function.update_of_ne hboth, hshadow])
  have hview := Database.createView_ok hfree hkept
  refine ⟨Function.update renamed name (some (.view (shadowName s name))), ?_, ?_, ?_, ?_⟩
  · unfold switchReadTraffic
    rw [hgiven, hdrop]
    show (Database.renameTable _ _ _ >>= _) = _
    rw [hrename]
    exact hview
  · exact Function.update_self _ _ _
  · rw [Function.update_of_ne hshadowName, hkept]
  · rw [Function.update_of_ne hnames, hmoved]

theorem switchReadTraffic_error {u : Table ρ} (hbackup : db (backupName name) = some (.table u)) :
    switchReadTraffic s name (some (shadowName s name)) db =
      .error (.notAView (backupName name)) := by
  unfold switchReadTraffic Database.dropViewIfExists
  rw [hbackup]
  rfl

theorem Switched.write (h : Switched s name t copied db) (w : Write ρ) :
    Switched s name t (copied.write w) (db.write name w) := by
  have hwrite : db.write name w =
      Function.update db (shadowName s name) (some (.table (copied.write w))) := by
    unfold Database.write
    rw [h.view]
    dsimp only
    rw [h.shadow]
  rw [hwrite]
  constructor
  · rw [Function.update_of_ne (shadowName_ne s name).symm]
    exact h.view
  · exact Function.update_self _ _ _
  · rw [Function.update_of_ne (shadowName_ne_backupName s name).symm]
    exact h.backup

theorem Switched.writes (h : Switched s name t copied db) (writes : List (Write ρ)) :
    Switched s name t (writes.foldl Table.write copied)
      (writes.foldl (Database.write name) db) := by
  induction writes generalizing copied db with
  | nil => exact h
  | cons w writes ih => exact ih (h.write w)

theorem Switched.readable (h : Switched s name t copied db) :
    db.readable name = some copied.rows := by
  unfold Database.readable
  rw [h.view]
  dsimp only
  rw [h.shadow]

/-- **The clean-up gives the name back to the backup.** -/
theorem cleanupShadow_ok (h : Switched s name t copied db) :
    ∃ after, cleanupShadow s name db = .ok after ∧ after.readable name = some t.rows := by
  have hnames := backupName_ne name
  have hshadowName := shadowName_ne s name
  have hboth := shadowName_ne_backupName s name
  have hdrop : db.dropViewIfExists name = .ok (Function.update db name none) := by
    refine Database.dropViewIfExists_ok fun u hu => ?_
    rw [h.view] at hu
    cases hu
  have hbackup : Function.update db name none (backupName name) = some (.table t) := by
    rw [Function.update_of_ne hnames, h.backup]
  -- the backup has the name again; the shadow, which has the writes, is what is dropped
  obtain ⟨renamed, hrename, -, hback, hother⟩ :=
    Database.renameTable_ok hbackup (Function.update_self name none db)
  have hkept := hother (shadowName s name) copied hboth hshadowName
    (by rw [Function.update_of_ne hshadowName, h.shadow])
  refine ⟨Function.update renamed (shadowName s name) none, ?_, ?_⟩
  · unfold cleanupShadow
    rw [hdrop]
    show (Database.renameTable _ _ _ >>= _) = _
    rw [hrename]
    exact Database.dropTableIfExists_ok hkept
  · unfold Database.readable
    rw [Function.update_of_ne hshadowName.symm, hback]

/-! ## Whole migrations -/

theorem migrateAndWrite_eq (batchSize : Option Nat) (writes : List (Write ρ)) :
    migrateAndWrite s name batchSize writes db =
      (createShadowTable s name db >>= fun created =>
        migrateData s name created.1 batchSize created.2) >>= fun migrated =>
          switchReadTraffic s name (some (shadowName s name)) migrated.2 >>= fun switched =>
            .ok (writes.foldl (Database.write name) switched) := by
  unfold migrateAndWrite createShadowTable
  cases db name with
  | none => rfl
  | some relation =>
    cases relation with
    | view source => rfl
    | table t => cases db (shadowName s name) <;> rfl

theorem migrateAndWrite_switched (h : db name = some (.table t))
    (hcopy : afterCopy s name t db = some copied)
    (hbackup : ∀ u, db (backupName name) ≠ some (.table u)) (batchSize : Option Nat)
    (writes : List (Write ρ)) :
    ∃ before, migrateAndWrite s name batchSize writes db = .ok before ∧
      Switched s name t (writes.foldl Table.write copied) before := by
  have hname : Function.update db (shadowName s name) (some (.table copied)) name =
      some (.table t) := by
    rw [Function.update_of_ne (shadowName_ne s name).symm, h]
  obtain ⟨switched, hswitch, hswitched⟩ := switchReadTraffic_ok hname
    (Function.update_self _ _ _) (fun u hu => by
      rw [Function.update_of_ne (shadowName_ne_backupName s name).symm] at hu
      exact hbackup u hu)
  refine ⟨writes.foldl (Database.write name) switched, ?_, hswitched.writes writes⟩
  rw [migrateAndWrite_eq, copy_eq h, hcopy]
  show (switchReadTraffic _ _ _ _ >>= _) = _
  rw [hswitch]
  rfl

theorem migrateAndWrite_copied (h : db name = some (.table t)) {batchSize : Option Nat}
    {writes : List (Write ρ)} {before : Database ρ}
    (hrun : migrateAndWrite s name batchSize writes db = .ok before) :
    ∃ copied, afterCopy s name t db = some copied ∧
      ∀ u, db (backupName name) ≠ some (.table u) := by
  rw [migrateAndWrite_eq, copy_eq h] at hrun
  cases hcopy : afterCopy s name t db with
  | none =>
    rw [hcopy] at hrun
    cases hrun
  | some copied =>
    refine ⟨copied, rfl, fun u hu => ?_⟩
    have hbackup : Function.update db (shadowName s name) (some (.table copied))
        (backupName name) = some (.table u) := by
      rw [Function.update_of_ne (shadowName_ne_backupName s name).symm, hu]
    rw [hcopy] at hrun
    change (switchReadTraffic _ _ _ _ >>= _) = _ at hrun
    rw [switchReadTraffic_error hbackup] at hrun
    cases hrun

theorem Preserves.undone (h : db name = some (.table t)) {batchSize : Option Nat}
    {writes : List (Write ρ)} (hpreserves : Preserves s name batchSize writes db) :
    (∀ u, db (backupName name) ≠ some (.table u)) ∧
      ∃ copied, afterCopy s name t db = some copied ∧
        (writes.foldl Table.write copied).rows.Perm t.rows := by
  obtain ⟨before, after, hrun, hcleanup, rows, rows', hrows, hrows', hperm⟩ := hpreserves
  obtain ⟨copied, hcopy, hbackup⟩ := migrateAndWrite_copied h hrun
  obtain ⟨before', hrun', hswitched⟩ := migrateAndWrite_switched h hcopy hbackup batchSize writes
  obtain rfl : before = before' := Except.ok.inj (hrun.symm.trans hrun')
  obtain ⟨after', hcleanup', hreadable⟩ := cleanupShadow_ok hswitched
  obtain rfl : after = after' := Except.ok.inj (hcleanup.symm.trans hcleanup')
  obtain rfl := Option.some.inj (hrows.symm.trans hswitched.readable)
  obtain rfl := Option.some.inj (hrows'.symm.trans hreadable)
  exact ⟨hbackup, copied, hcopy, hperm.symm⟩

/-- **A shadow migration preserves its table** exactly if it runs through and the writes after the
switch leave the rows as they were at the switch. -/
theorem shadow_migration_preserves_iff (h : db name = some (.table t)) (batchSize : Option Nat)
    (writes : List (Write ρ)) :
    Preserves s name batchSize writes db ↔
      (∀ u, db (backupName name) ≠ some (.table u)) ∧
        ∃ copied, afterCopy s name t db = some copied ∧
          (writes.foldl Table.write copied).rows.Perm t.rows := by
  refine ⟨Preserves.undone h, ?_⟩
  rintro ⟨hbackup, copied, hcopy, hperm⟩
  obtain ⟨before, hrun, hswitched⟩ := migrateAndWrite_switched h hcopy hbackup batchSize writes
  obtain ⟨after, hcleanup, hreadable⟩ := cleanupShadow_ok hswitched
  exact ⟨before, after, hrun, hcleanup, _, _, hswitched.readable, hreadable, hperm.symm⟩

end Steps

/-! ### Two payments, and a third after the switch -/

def keyRules : ColumnRules Nat where
  ok rows := decide rows.Nodup
  sublist h hok := decide_eq_true ((of_decide_eq_true hok).sublist h)

def payments : Table Nat where
  rules := keyRules
  rows := [1, 2]
  valid := by decide

def paymentsDatabase : Database Nat :=
  Function.update (fun _ => none) "payments" (some (.table payments))

theorem paymentsDatabase_afterCopy :
    afterCopy {} "payments" payments paymentsDatabase = some payments :=
  afterCopy_fresh (by decide)

/-- A third payment that is deleted again. -/
theorem shadow_migration_preserves_undone :
    Preserves {} "payments" none [.insert 3, .delete fun row => decide (row = 3)]
      paymentsDatabase := by
  refine (shadow_migration_preserves_iff (t := payments) rfl none _).mpr ⟨?_, payments, ?_, ?_⟩
  · intro u hu
    cases hu
  · exact paymentsDatabase_afterCopy
  · decide

/-- A third payment that stays is gone after the clean-up. -/
theorem shadow_migration_loses_payment :
    ¬ ∀ (s : Settings) (name : Name) (t : Table Nat) (db : Database Nat) (batchSize : Option Nat)
        (writes : List (Write Nat)),
      db name = some (.table t) → Preserves s name batchSize writes db := by
  intro hall
  have hpreserves := hall {} "payments" payments paymentsDatabase none [.insert 3] rfl
  obtain ⟨-, copied, hcopy, hperm⟩ := hpreserves.undone (t := payments) rfl
  obtain rfl := Option.some.inj (paymentsDatabase_afterCopy.symm.trans hcopy)
  exact absurd hperm (by decide)

end ShadowTable

end NocIq
