import Mathlib.Data.List.Basic

/-!
# Csv — comma-separated records

A text of records in the usual dialect: fields are separated by commas, a record ends with CR LF,
and a field with a comma, a quote or a line break in it stands in quotes, with its quotes doubled.
The reader is a machine over characters that takes more than the writer gives: records that end
with LF alone, quotes inside an unquoted field, a text that stops in the middle of a field.

* **`read_write`** — reading what has been written.
-/

namespace Csv

def quote : Char := Char.ofNat 34

def cr : Char := Char.ofNat 13

def lf : Char := Char.ofNat 10

def delimiter : Char := ','

abbrev Field := List Char

abbrev Record := List Field

/-! ## Writing -/

/-- A character that an unquoted field cannot have. -/
def isSpecial (c : Char) : Bool := decide (c = delimiter ∨ c = quote ∨ c = cr ∨ c = lf)

def escape (field : Field) : Field :=
  field.flatMap fun c => if c = quote then [quote, quote] else [c]

def writeField (field : Field) : List Char :=
  if field.any isSpecial then quote :: (escape field ++ [quote]) else field

def writeFields : Record → List Char
  | [] => []
  | [field] => writeField field
  | field :: fields => writeField field ++ delimiter :: writeFields fields

/-- A record and the end of its line. A single empty field is quoted, so that the line is not
empty. -/
def writeRow (record : Record) : List Char :=
  (if record = [[]] then [quote, quote] else writeFields record) ++ [cr, lf]

/-! ## Reading -/

inductive Mode where
  | startRecord
  | startField
  | inField
  | inQuotedField
  | quoteInQuotedField
  | eatCrnl

/-- The machine. It keeps the field and the fields of the current record, the last one first; an
empty line is a record without fields. -/
def readFrom : Mode → Field → Record → List Char → Except String (List Record)
  | .startRecord, _, _, [] => .ok []
  | .eatCrnl, _, fields, [] => .ok [fields.reverse]
  | _, field, fields, [] => .ok [(field.reverse :: fields).reverse]
  | .startRecord, _, _, c :: cs =>
    if c = lf then (readFrom .startRecord [] [] cs).map ([] :: ·)
    else if c = cr then readFrom .eatCrnl [] [] cs
    else if c = quote then readFrom .inQuotedField [] [] cs
    else if c = delimiter then readFrom .startField [] [[]] cs
    else readFrom .inField [c] [] cs
  | .startField, _, fields, c :: cs =>
    if c = lf then (readFrom .startRecord [] [] cs).map (([] :: fields).reverse :: ·)
    else if c = cr then readFrom .eatCrnl [] ([] :: fields) cs
    else if c = quote then readFrom .inQuotedField [] fields cs
    else if c = delimiter then readFrom .startField [] ([] :: fields) cs
    else readFrom .inField [c] fields cs
  | .inField, field, fields, c :: cs =>
    if c = lf then (readFrom .startRecord [] [] cs).map ((field.reverse :: fields).reverse :: ·)
    else if c = cr then readFrom .eatCrnl [] (field.reverse :: fields) cs
    else if c = delimiter then readFrom .startField [] (field.reverse :: fields) cs
    else readFrom .inField (c :: field) fields cs
  | .inQuotedField, field, fields, c :: cs =>
    if c = quote then readFrom .quoteInQuotedField field fields cs
    else readFrom .inQuotedField (c :: field) fields cs
  | .quoteInQuotedField, field, fields, c :: cs =>
    -- a second quote is one of the field's own, and anything else ends the quotes
    if c = quote then readFrom .inQuotedField (quote :: field) fields cs
    else if c = delimiter then readFrom .startField [] (field.reverse :: fields) cs
    else if c = lf then
      (readFrom .startRecord [] [] cs).map ((field.reverse :: fields).reverse :: ·)
    else if c = cr then readFrom .eatCrnl [] (field.reverse :: fields) cs
    else readFrom .inField (c :: field) fields cs
  | .eatCrnl, _, fields, c :: cs =>
    if c = lf then (readFrom .startRecord [] [] cs).map (fields.reverse :: ·)
    else if c = cr then readFrom .eatCrnl [] fields cs
    else
      .error ("new-line character seen in unquoted field - do you need to open the file with " ++
        "newline=''?")

def read (text : List Char) : Except String (List Record) := readFrom .startRecord [] [] text

/-! ## Reading what has been written -/

variable {fields : Record} {cs : List Char}

theorem special_ne {c : Char} (h : isSpecial c = false) :
    c ≠ lf ∧ c ≠ cr ∧ c ≠ quote ∧ c ≠ delimiter := by
  unfold isSpecial at h
  have h := of_decide_eq_false h
  push Not at h
  exact ⟨h.2.2.2, h.2.2.1, h.2.1, h.1⟩

/-- An unquoted field is read character by character. Induction on the field. -/
theorem read_inField {field : Field} (h : ∀ c ∈ field, isSpecial c = false) (acc : Field) :
    readFrom .inField acc fields (field ++ cs) =
      readFrom .inField (field.reverse ++ acc) fields cs := by
  induction field generalizing acc with
  | nil => rfl
  | cons c field ih =>
    obtain ⟨hlf, hcr, -, hdelimiter⟩ := special_ne (h c List.mem_cons_self)
    rw [List.cons_append, readFrom, if_neg hlf, if_neg hcr, if_neg hdelimiter,
      ih (fun c' hc' => h c' (List.mem_cons_of_mem _ hc')), List.reverse_cons, List.append_assoc]
    rfl

/-- A quoted field is read up to its closing quote, with its doubled quotes single again. Induction
on the field. -/
theorem read_inQuotedField (field acc : Field) :
    readFrom .inQuotedField acc fields (escape field ++ quote :: cs) =
      readFrom .quoteInQuotedField (field.reverse ++ acc) fields cs := by
  induction field generalizing acc with
  | nil =>
    show readFrom .inQuotedField acc fields (quote :: cs) = _
    rw [readFrom, if_pos rfl]
    rfl
  | cons c field ih =>
    have hescape : escape (c :: field) =
        (if c = quote then [quote, quote] else [c]) ++ escape field := rfl
    rw [hescape]
    by_cases hquote : c = quote
    · rw [if_pos hquote, hquote, List.append_assoc]
      show readFrom .inQuotedField acc fields (quote :: quote :: (escape field ++ quote :: cs)) = _
      rw [readFrom, if_pos rfl, readFrom, if_pos rfl, ih]
      simp
    · rw [if_neg hquote, List.append_assoc]
      show readFrom .inQuotedField acc fields (c :: (escape field ++ quote :: cs)) = _
      rw [readFrom, if_neg hquote, ih]
      simp

/-- Where a field ends: with the next one, or with the record. -/
inductive Ends : List Char → List Char → (Record → Except String (List Record)) → Prop where
  | field (cs : List Char) :
      Ends (delimiter :: cs) cs fun fields => readFrom .startField [] fields cs
  | record (cs : List Char) :
      Ends (cr :: lf :: cs) cs fun fields =>
        (readFrom .startRecord [] [] cs).map (fields.reverse :: ·)

theorem read_field {rest : List Char} {next : Record → Except String (List Record)}
    (hends : Ends rest cs next) (field : Field) :
    readFrom .startField [] fields (writeField field ++ rest) = next (field :: fields) := by
  unfold writeField
  by_cases hspecial : field.any isSpecial = true
  · rw [if_pos hspecial, List.cons_append, List.append_assoc]
    rw [readFrom, if_neg (by decide), if_neg (by decide), if_pos rfl]
    show readFrom .inQuotedField [] fields (escape field ++ quote :: rest) = _
    rw [read_inQuotedField, List.append_nil]
    cases hends with
    | field => rw [readFrom, if_neg (by decide), if_pos rfl, List.reverse_reverse]
    | record =>
      rw [readFrom, if_neg (by decide), if_neg (by decide), if_neg (by decide), if_pos rfl,
        List.reverse_reverse, readFrom, if_pos rfl]
  · have hplain : ∀ c ∈ field, isSpecial c = false := by
      intro c hc
      by_contra hc'
      exact hspecial (List.any_eq_true.mpr ⟨c, hc, by simpa using hc'⟩)
    rw [if_neg hspecial]
    cases field with
    | nil =>
      cases hends with
      | field => rw [List.nil_append, readFrom, if_neg (by decide), if_neg (by decide),
          if_neg (by decide), if_pos rfl]
      | record => rw [List.nil_append, readFrom, if_neg (by decide), if_pos rfl, readFrom, if_pos rfl]
    | cons c field =>
      obtain ⟨hlf, hcr, hquote, hdelimiter⟩ := special_ne (hplain c List.mem_cons_self)
      rw [List.cons_append, readFrom, if_neg hlf, if_neg hcr, if_neg hquote, if_neg hdelimiter,
        read_inField (fun c' hc' => hplain c' (List.mem_cons_of_mem _ hc'))]
      have hfield : (field.reverse ++ [c]).reverse = c :: field := by simp
      cases hends with
      | field => rw [readFrom, if_neg (by decide), if_neg (by decide), if_pos rfl, hfield]
      | record => rw [readFrom, if_neg (by decide), if_pos rfl, readFrom, if_pos rfl, hfield]

/-- The fields of a record are read one after another. Induction on the record. -/
theorem read_fields {record : Record} (hne : record ≠ []) (fields : Record) :
    readFrom .startField [] fields (writeFields record ++ cr :: lf :: cs) =
      (readFrom .startRecord [] [] cs).map ((fields.reverse ++ record) :: ·) := by
  induction record generalizing fields with
  | nil => exact absurd rfl hne
  | cons field record ih =>
    cases record with
    | nil =>
      show readFrom .startField [] fields (writeField field ++ cr :: lf :: cs) = _
      rw [read_field (.record cs), List.reverse_cons]
    | cons field' record =>
      show readFrom .startField [] fields
        ((writeField field ++ delimiter :: writeFields (field' :: record)) ++ cr :: lf :: cs) = _
      rw [List.append_assoc, List.cons_append, read_field (.field _), ih (List.cons_ne_nil _ _)]
      simp

theorem read_startRecord {c : Char} (hlf : c ≠ lf) (hcr : c ≠ cr) :
    readFrom .startRecord [] [] (c :: cs) = readFrom .startField [] [] (c :: cs) := by
  rw [readFrom, readFrom, if_neg hlf, if_neg hcr, if_neg hlf, if_neg hcr]

theorem writeFields_head {record : Record} (hne : record ≠ []) (hempty : record ≠ [[]]) :
    ∃ c text, writeFields record = c :: text ∧ c ≠ lf ∧ c ≠ cr := by
  have hfield : ∀ field : Field, field ≠ [] → ∃ c text, writeField field = c :: text ∧
      c ≠ lf ∧ c ≠ cr := by
    intro field hfield
    unfold writeField
    by_cases hspecial : field.any isSpecial = true
    · rw [if_pos hspecial]
      exact ⟨quote, _, rfl, by decide, by decide⟩
    · rw [if_neg hspecial]
      cases field with
      | nil => exact absurd rfl hfield
      | cons c field =>
        have hc : isSpecial c = false := by
          by_contra hc
          exact hspecial (List.any_eq_true.mpr ⟨c, List.mem_cons_self, by simpa using hc⟩)
        exact ⟨c, field, rfl, (special_ne hc).1, (special_ne hc).2.1⟩
  cases record with
  | nil => exact absurd rfl hne
  | cons field record =>
    cases record with
    | nil =>
      obtain ⟨c, text, htext, hc⟩ := hfield field fun h => hempty (by rw [h])
      exact ⟨c, text, htext, hc⟩
    | cons field' record =>
      by_cases hnil : field = []
      · subst hnil
        exact ⟨delimiter, _, rfl, by decide, by decide⟩
      · obtain ⟨c, text, htext, hc⟩ := hfield field hnil
        refine ⟨c, text ++ delimiter :: writeFields (field' :: record), ?_, hc⟩
        show writeField field ++ _ = _
        rw [htext]
        rfl

theorem read_row {record : Record} (hne : record ≠ []) :
    readFrom .startRecord [] [] (writeRow record ++ cs) =
      (readFrom .startRecord [] [] cs).map (record :: ·) := by
  unfold writeRow
  by_cases hempty : record = [[]]
  · rw [if_pos hempty, hempty]
    show readFrom .startRecord [] [] (quote :: quote :: cr :: lf :: cs) = _
    rw [read_startRecord (by decide) (by decide)]
    have hquoted : readFrom .inQuotedField [] [] (escape [] ++ quote :: cr :: lf :: cs) =
        readFrom .quoteInQuotedField [] [] (cr :: lf :: cs) := read_inQuotedField [] []
    rw [readFrom, if_neg (by decide), if_neg (by decide), if_pos rfl]
    show readFrom .inQuotedField [] [] (escape [] ++ quote :: cr :: lf :: cs) = _
    rw [hquoted, readFrom, if_neg (by decide), if_neg (by decide), if_neg (by decide), if_pos rfl,
      readFrom, if_pos rfl]
    rfl
  · obtain ⟨c, text, htext, hlf, hcr⟩ := writeFields_head hne hempty
    have hfields : readFrom .startField [] [] (writeFields record ++ cr :: lf :: cs) =
        (readFrom .startRecord [] [] cs).map (record :: ·) := read_fields hne []
    rw [if_neg hempty, List.append_assoc]
    show readFrom .startRecord [] [] (writeFields record ++ cr :: lf :: cs) = _
    rw [htext, List.cons_append] at hfields ⊢
    rw [read_startRecord hlf hcr, hfields]

/-- **Reading what has been written** gives the records back. Induction on the records. -/
theorem read_write {records : List Record} (h : ∀ record ∈ records, record ≠ []) :
    read (records.flatMap writeRow) = .ok records := by
  unfold read
  induction records with
  | nil => rfl
  | cons record records ih =>
    rw [List.flatMap_cons, read_row (h record List.mem_cons_self),
      ih fun record' hrecord' => h record' (List.mem_cons_of_mem _ hrecord')]
    rfl

/-! ## Records with names -/

/-- The rows of a text whose first record names the columns: the cells by name, `none` for a cell
that the row does not have, and the cells beyond the columns. Empty lines are skipped. A name that
comes twice stands for its last cell, so the last one is the first here. -/
def dictRows : List Record → List (List (Field × Option Field) × List Field)
  | [] => []
  | names :: rows =>
    (rows.filter (· ≠ [])).map fun row =>
      ((names.zip (row.map some ++ List.replicate (names.length - row.length) none)).reverse,
        row.drop names.length)

end Csv
