import Mathlib.Algebra.GroupWithZero.Nat
import Mathlib.Data.Multiset.Basic

/-!
# Exposition — the text format of metrics

A line of the format is a sample (the name of a metric, labels in braces if it has any, a value and
perhaps the time) or a comment. It is read from left to right, one step for each character.

* **`parseLine_plain`** — a name and a value are read back.
* **`parseLine_open`** — a line that ends inside the braces is no sample.
* **`size_le_of_parseLine`** — the labels are shorter than the text they are read from.
* **`parseLine_escapedLe`** — with a backslash before the quotes of its last label it is no sample.
-/

namespace Exposition

abbrev Chars := List Char

def quote : Char := Char.ofNat 34

def backslash : Char := Char.ofNat 92

def newline : Char := Char.ofNat 10

def isBlank (c : Char) : Bool := decide (c = ' ' ∨ c = Char.ofNat 9)

def isNameStart (c : Char) : Bool := c.isAlpha || decide (c = '_' ∨ c = ':')

def isNameChar (c : Char) : Bool := c.isAlphanum || decide (c = '_' ∨ c = ':')

def isLabelStart (c : Char) : Bool := c.isAlpha || decide (c = '_')

def isLabelChar (c : Char) : Bool := c.isAlphanum || decide (c = '_')

def IsName (name : Chars) : Prop :=
  (∀ c ∈ name.head?, isNameStart c = true) ∧ name ≠ [] ∧ ∀ c ∈ name, isNameChar c = true

instance (name : Chars) : Decidable (IsName name) :=
  decidable_of_iff
    (name.head?.all isNameStart = true ∧ name.isEmpty = false ∧ name.all isNameChar = true)
    (by cases name <;> simp [IsName])

/-! ## Reading a line -/

inductive Phase where
  | start
  | name
  | afterName
  /-- after a brace or a comma -/
  | labelStart
  | labelName
  | afterLabelName
  /-- after the sign between a label's name and its value -/
  | labelValue
  | quoted
  | escaped
  | afterLabel
  | afterLabels
  | value
  | afterValue
  | sign
  | timestamp
  | afterTimestamp
  deriving DecidableEq, Repr

/-- What has been read. `token` is the value of a label, or of the sample. -/
structure Reading where
  phase : Phase := .start
  name : Chars := []
  labels : List (Chars × Chars) := []
  label : Chars := []
  token : Chars := []

def step (s : Reading) (c : Char) : Option Reading :=
  match s.phase with
  | .start =>
    if isBlank c then some s
    else if isNameStart c then some { s with phase := .name, name := [c] } else none
  | .name =>
    if isNameChar c then some { s with name := s.name ++ [c] }
    else if isBlank c then some { s with phase := .afterName }
    else if c = '\x7b' then some { s with phase := .labelStart } else none
  | .afterName =>
    if isBlank c then some s
    else if c = '\x7b' then some { s with phase := .labelStart }
    else some { s with phase := .value, token := [c] }
  | .labelStart =>
    if isBlank c then some s
    else if c = '\x7d' then some { s with phase := .afterLabels }
    else if isLabelStart c then some { s with phase := .labelName, label := [c] } else none
  | .labelName =>
    if isLabelChar c then some { s with label := s.label ++ [c] }
    else if isBlank c then some { s with phase := .afterLabelName }
    else if c = '=' then some { s with phase := .labelValue } else none
  | .afterLabelName =>
    if isBlank c then some s
    else if c = '=' then some { s with phase := .labelValue } else none
  | .labelValue =>
    if isBlank c then some s
    else if c = quote then some { s with phase := .quoted, token := [] } else none
  | .quoted =>
    if c = quote then
      some { s with phase := .afterLabel, labels := s.labels ++ [(s.label, s.token)] }
    else if c = backslash then some { s with phase := .escaped }
    else some { s with token := s.token ++ [c] }
  | .escaped =>
    if c = quote ∨ c = backslash then some { s with phase := .quoted, token := s.token ++ [c] }
    else if c = 'n' then some { s with phase := .quoted, token := s.token ++ [newline] }
    else none
  | .afterLabel =>
    if isBlank c then some s
    else if c = ',' then some { s with phase := .labelStart }
    else if c = '\x7d' then some { s with phase := .afterLabels } else none
  | .afterLabels =>
    if isBlank c then some s else some { s with phase := .value, token := [c] }
  | .value =>
    if isBlank c then some { s with phase := .afterValue }
    else some { s with token := s.token ++ [c] }
  | .afterValue =>
    if isBlank c then some s
    else if c.isDigit then some { s with phase := .timestamp }
    else if c = '-' then some { s with phase := .sign } else none
  | .sign => if c.isDigit then some { s with phase := .timestamp } else none
  | .timestamp =>
    if c.isDigit then some s
    else if isBlank c then some { s with phase := .afterTimestamp } else none
  | .afterTimestamp => if isBlank c then some s else none

def read (s : Reading) (cs : Chars) : Option Reading := cs.foldlM step s

/-- A sample; the order of its labels says nothing. -/
structure Sample (V : Type) where
  name : Chars
  labels : Multiset (Chars × Chars)
  value : V

/-- The phases in which a line may end. -/
def Phase.accepts : Phase → Bool
  | .value | .afterValue | .timestamp | .afterTimestamp => true
  | _ => false

variable {V : Type}

def parseLine (parse : Chars → Option V) (line : Chars) : Option (Sample V) :=
  (read {} line).bind fun s =>
    if s.phase.accepts then (parse s.token).map fun value => ⟨s.name, s.labels, value⟩ else none

def isComment (line : Chars) : Bool :=
  match line.dropWhile isBlank with
  | [] => true
  | c :: _ => decide (c = '#')

variable {s s' : Reading} {c : Char} {cs ds name rest : Chars} {parse : Chars → Option V}

/-! ## Steps -/

@[simp] theorem read_nil (s : Reading) : read s [] = some s := rfl

theorem read_cons (s : Reading) (c : Char) (cs : Chars) :
    read s (c :: cs) = (step s c).bind fun s' => read s' cs := by
  unfold read
  rw [List.foldlM_cons]
  rfl

theorem read_append (s : Reading) (cs ds : Chars) :
    read s (cs ++ ds) = (read s cs).bind fun s' => read s' ds := by
  unfold read
  rw [List.foldlM_append]
  rfl

def Phase.inLabels : Phase → Bool
  | .labelStart | .labelName | .afterLabelName | .labelValue | .quoted | .escaped | .afterLabel =>
    true
  | _ => false

def Phase.inString : Phase → Bool
  | .quoted | .escaped => true
  | _ => false

def Phase.afterBraces : Phase → Bool
  | .afterLabels | .value | .afterValue | .sign | .timestamp | .afterTimestamp => true
  | _ => false

/-- The size of labels as they are written: name, sign, quotes and value. -/
def size (labels : List (Chars × Chars)) : ℕ :=
  (labels.map fun label => label.1.length + label.2.length + 3).sum

/-- What has been read of the labels, with the part of one that is not complete. -/
def Reading.weight (s : Reading) : ℕ :=
  size s.labels +
    match s.phase with
    | .labelName | .afterLabelName => s.label.length
    | .labelValue => s.label.length + 1
    | .quoted | .escaped => s.label.length + s.token.length + 2
    | _ => 0

theorem size_concat (labels : List (Chars × Chars)) (label : Chars × Chars) :
    size (labels ++ [label]) = size labels + (label.1.length + label.2.length + 3) := by
  simp [size]

/-- One character inside the braces, other than the closing one: what has been read of the labels
grows by no more than the character. -/
theorem step_inLabels (h : step s c = some s') (hs : s.phase.inLabels = true) (hc : c ≠ '\x7d') :
    s'.phase.inLabels = true ∧ s'.weight ≤ s.weight + 1 := by
  obtain ⟨phase, name, labels, label, token⟩ := s
  -- a label counts as soon as its name has begun, so its end adds only the quote
  cases phase <;> cases hs <;> dsimp only [step] at h <;> split_ifs at h
  all_goals
    obtain rfl := Option.some.inj h
    simp [Phase.inLabels, Reading.weight, size_concat, *] <;> omega

/-- The closing brace, inside the braces: it ends them, or is part of a string. -/
theorem step_brace (h : step s '\x7d' = some s') (hs : s.phase.inLabels = true) :
    (s'.phase = .afterLabels ∧ s'.labels = s.labels) ∨ s'.phase.inString = true := by
  have hblank : isBlank '\x7d' = false := by decide
  have hstart : isLabelStart '\x7d' = false := by decide
  have hchar : isLabelChar '\x7d' = false := by decide
  have hquote : '\x7d' ≠ quote := by decide
  obtain ⟨phase, name, labels, label, token⟩ := s
  cases phase <;> cases hs <;> dsimp only [step] at h <;> split_ifs at h
  all_goals
    obtain rfl := Option.some.inj h
    simp_all [Phase.inString]

theorem step_inString (h : step s c = some s') (hs : s.phase.inString = true) (hc : c ≠ quote) :
    s'.phase.inString = true := by
  obtain ⟨phase, name, labels, label, token⟩ := s
  cases phase <;> cases hs <;> dsimp only [step] at h <;> split_ifs at h
  all_goals
    obtain rfl := Option.some.inj h
    simp_all [Phase.inString]

theorem step_afterBraces (h : step s c = some s') (hs : s.phase.afterBraces = true) :
    s'.phase.afterBraces = true ∧ s'.labels = s.labels := by
  obtain ⟨phase, name, labels, label, token⟩ := s
  cases phase <;> cases hs <;> dsimp only [step] at h <;> split_ifs at h
  all_goals
    obtain rfl := Option.some.inj h
    simp_all [Phase.afterBraces]

/-! ## Runs -/

theorem read_inLabels (h : read s cs = some s') (hs : s.phase.inLabels = true)
    (hcs : '\x7d' ∉ cs) : s'.phase.inLabels = true ∧ s'.weight ≤ s.weight + cs.length := by
  induction cs generalizing s with
  | nil =>
    obtain rfl := Option.some.inj h
    exact ⟨hs, Nat.le_refl _⟩
  | cons c cs ih =>
    rw [List.mem_cons, not_or] at hcs
    rw [read_cons] at h
    obtain ⟨t, ht, h⟩ := Option.bind_eq_some_iff.mp h
    obtain ⟨hphase, hweight⟩ := step_inLabels ht hs (Ne.symm hcs.1)
    obtain ⟨hphase', hweight'⟩ := ih h hphase hcs.2
    rw [List.length_cons]
    exact ⟨hphase', by omega⟩

theorem read_keeps {P : Reading → Prop} {Q : Char → Prop}
    (hstep : ∀ s s' c, step s c = some s' → P s → Q c → P s')
    (h : read s cs = some s') (hs : P s) (hcs : ∀ c ∈ cs, Q c) : P s' := by
  induction cs generalizing s with
  | nil =>
    obtain rfl := Option.some.inj h
    exact hs
  | cons c cs ih =>
    obtain ⟨hc, hcs⟩ := List.forall_mem_cons.mp hcs
    rw [read_cons] at h
    obtain ⟨t, ht, h⟩ := Option.bind_eq_some_iff.mp h
    exact ih h (hstep s t c ht hs hc) hcs

theorem read_inString (h : read s cs = some s') (hs : s.phase.inString = true)
    (hcs : quote ∉ cs) : s'.phase.inString = true := by
  have hne : ∀ c ∈ cs, c ≠ quote := fun c hc heq => hcs (heq ▸ hc)
  exact read_keeps (P := fun t => t.phase.inString = true) (fun _ _ _ => step_inString) h hs hne

theorem read_afterBraces (h : read s cs = some s') (hs : s.phase.afterBraces = true) :
    s'.labels = s.labels := by
  have hkept := read_keeps (P := fun t => t.phase.afterBraces = true ∧ t.labels = s.labels)
    (Q := fun _ => True)
    (fun t t' c ht hkept _ => by
      obtain ⟨hphase, hlabels⟩ := step_afterBraces ht hkept.1
      exact ⟨hphase, hlabels.trans hkept.2⟩)
    h ⟨hs, rfl⟩ (fun _ _ => trivial)
  exact hkept.2

theorem read_nameChars (hcs : ∀ c ∈ cs, isNameChar c = true) (hs : s.phase = .name) :
    read s cs = some { s with name := s.name ++ cs } := by
  induction cs generalizing s with
  | nil => rw [read_nil, List.append_nil]
  | cons c cs ih =>
    obtain ⟨hc, hcs⟩ := List.forall_mem_cons.mp hcs
    have hstep : step s c = some { s with name := s.name ++ [c] } := by
      unfold step
      rw [hs]
      exact if_pos hc
    have hrest := ih (s := { s with name := s.name ++ [c] }) hcs hs
    rw [read_cons, hstep, Option.bind_some, hrest, List.append_assoc, List.singleton_append]

theorem isBlank_of_isNameStart (h : isNameStart c = true) : isBlank c = false := by
  refine decide_eq_false ?_
  rintro (rfl | rfl) <;> revert h <;> decide

theorem read_name (hname : IsName name) :
    read {} name = some { phase := .name, name := name } := by
  obtain ⟨hstart, hne, hchars⟩ := hname
  cases name with
  | nil => exact absurd rfl hne
  | cons c name =>
    have hc : isNameStart c = true := hstart c rfl
    have hstep : step {} c = some { phase := .name, name := [c] } := by
      dsimp only [step]
      rw [isBlank_of_isNameStart hc, hc]
      rfl
    rw [read_cons, hstep, Option.bind_some,
      read_nameChars (List.forall_mem_cons.mp hchars).2 rfl]
    rfl

theorem read_open (hname : IsName name) (cs : Chars) :
    read {} (name ++ '\x7b' :: cs) = read { phase := .labelStart, name := name } cs := by
  rw [read_append, read_name hname, Option.bind_some, read_cons]
  rfl

/-! ## Lines -/

theorem accepts_of_parseLine {sample : Sample V} (h : parseLine parse cs = some sample) :
    ∃ s, read {} cs = some s ∧ s.phase.accepts = true ∧ sample.labels = s.labels := by
  obtain ⟨s, hs, h⟩ := Option.bind_eq_some_iff.mp h
  split_ifs at h with haccepts
  obtain ⟨value, -, rfl⟩ := Option.map_eq_some_iff.mp h
  exact ⟨s, hs, haccepts, rfl⟩

theorem not_accepts_of_inLabels {p : Phase} (h : p.inLabels = true) : p.accepts = false := by
  cases p <;> first | rfl | cases h

theorem inLabels_of_inString {p : Phase} (h : p.inString = true) : p.inLabels = true := by
  cases p <;> first | rfl | cases h

/-- **A line that ends inside the braces** is no sample. -/
theorem parseLine_open (hname : IsName name) (hcs : '\x7d' ∉ cs) :
    parseLine parse (name ++ '\x7b' :: cs) = none := by
  cases h : parseLine parse (name ++ '\x7b' :: cs) with
  | none => rfl
  | some sample =>
    obtain ⟨s, hs, haccepts, -⟩ := accepts_of_parseLine h
    rw [read_open hname] at hs
    rw [not_accepts_of_inLabels (read_inLabels hs rfl hcs).1] at haccepts
    cases haccepts

/-- **Labels are shorter** than the text between the braces. -/
theorem size_le_of_parseLine {sample : Sample V} (hname : IsName name) (hcs : '\x7d' ∉ cs)
    (hrest : quote ∉ rest)
    (h : parseLine parse (name ++ '\x7b' :: (cs ++ '\x7d' :: rest)) = some sample) :
    ∃ labels : List (Chars × Chars), sample.labels = labels ∧ size labels ≤ cs.length := by
  obtain ⟨s, hs, haccepts, hlabels⟩ := accepts_of_parseLine h
  rw [read_open hname, read_append] at hs
  obtain ⟨inner, hinner, hs⟩ := Option.bind_eq_some_iff.mp hs
  rw [read_cons] at hs
  obtain ⟨closed, hclosed, hs⟩ := Option.bind_eq_some_iff.mp hs
  obtain ⟨hphase, hweight⟩ := read_inLabels hinner rfl hcs
  rcases step_brace hclosed hphase with ⟨hafter, hsame⟩ | hstring
  · have hkept := read_afterBraces hs (by rw [hafter]; rfl)
    refine ⟨inner.labels, by rw [hlabels, hkept, hsame], ?_⟩
    calc size inner.labels ≤ inner.weight := Nat.le_add_right _ _
      _ ≤ 0 + cs.length := hweight
      _ = cs.length := Nat.zero_add _
  · -- the string does not end any more
    rw [not_accepts_of_inLabels (inLabels_of_inString (read_inString hs hstring hrest))]
      at haccepts
    cases haccepts

/-- The last label of a bucket, with a backslash before each of its quotes. -/
def escapedLe (bound : Chars) : Chars :=
  'l' :: 'e' :: '=' :: backslash :: quote :: (bound ++ [backslash, quote])

theorem read_cons_some (h : step s c = some s') (cs : Chars) : read s (c :: cs) = read s' cs := by
  rw [read_cons, h, Option.bind_some]

theorem read_le (h : read s ['l', 'e', '=', backslash, quote] = some s')
    (hs : s.phase.inLabels = true) : s'.phase = .quoted := by
  obtain ⟨phase, name, labels, label, token⟩ := s
  cases phase <;> cases hs
  case quoted =>
    obtain rfl := Option.some.inj h
    rfl
  all_goals exact nomatch (show none = some s' from h)

theorem read_quoted (hcs : quote ∉ cs) (hcs' : backslash ∉ cs) (hs : s.phase = .quoted) :
    ∃ s', read s cs = some s' ∧ s'.phase = .quoted := by
  induction cs generalizing s with
  | nil => exact ⟨s, rfl, hs⟩
  | cons c cs ih =>
    rw [List.mem_cons, not_or] at hcs hcs'
    have hstep : step s c = some { s with token := s.token ++ [c] } := by
      unfold step
      rw [hs]
      dsimp only
      rw [if_neg (Ne.symm hcs.1), if_neg (Ne.symm hcs'.1)]
    obtain ⟨s', hread, hphase⟩ := ih (s := { s with token := s.token ++ [c] }) hcs.2 hcs'.2 hs
    exact ⟨s', by rw [read_cons_some hstep, hread], hphase⟩

theorem read_escapedQuote (h : read s [backslash, quote] = some s') (hs : s.phase = .quoted) :
    s'.phase.inString = true := by
  obtain ⟨phase, name, labels, label, token⟩ := s
  cases hs
  obtain rfl := Option.some.inj h
  rfl

/-- **A label whose quotes have backslashes** makes no sample, whatever there is before it. -/
theorem parseLine_escapedLe {bound : Chars} (hname : IsName name) (hcs : '\x7d' ∉ cs)
    (hbound : quote ∉ bound) (hbound' : backslash ∉ bound) (hrest : quote ∉ rest) :
    parseLine parse (name ++ '\x7b' :: (cs ++ (escapedLe bound ++ rest))) = none := by
  cases h : parseLine parse (name ++ '\x7b' :: (cs ++ (escapedLe bound ++ rest))) with
  | none => rfl
  | some sample =>
    obtain ⟨s, hs, haccepts, -⟩ := accepts_of_parseLine h
    have hsplit : escapedLe bound ++ rest =
        ['l', 'e', '=', backslash, quote] ++ (bound ++ ([backslash, quote] ++ rest)) := by
      simp [escapedLe]
    rw [read_open hname, read_append, hsplit] at hs
    obtain ⟨inner, hinner, hs⟩ := Option.bind_eq_some_iff.mp hs
    rw [read_append] at hs
    obtain ⟨string, hstring, hs⟩ := Option.bind_eq_some_iff.mp hs
    -- outside a string no backslash can be read: both quotes are escaped ones of one string
    have hquoted := read_le hstring (read_inLabels hinner rfl hcs).1
    obtain ⟨string', hread, hquoted'⟩ := read_quoted hbound hbound' hquoted
    rw [read_append, hread, Option.bind_some, read_append] at hs
    obtain ⟨escaped, hescaped, hs⟩ := Option.bind_eq_some_iff.mp hs
    rw [not_accepts_of_inLabels (inLabels_of_inString
      (read_inString hs (read_escapedQuote hescaped hquoted') hrest))]
      at haccepts
    cases haccepts

/-! ## Names and values -/

/-- The characters of a value. -/
def IsPlain (text : Chars) : Prop := text ≠ [] ∧ ∀ c ∈ text, isBlank c = false ∧ c ≠ '\x7b'

theorem read_value {text : Chars} (htext : ∀ c ∈ text, isBlank c = false) (hs : s.phase = .value) :
    read s text = some { s with token := s.token ++ text } := by
  induction text generalizing s with
  | nil => rw [read_nil, List.append_nil]
  | cons c text ih =>
    obtain ⟨hc, htext⟩ := List.forall_mem_cons.mp htext
    have hstep : step s c = some { s with token := s.token ++ [c] } := by
      unfold step
      rw [hs]
      dsimp only
      rw [hc]
      rfl
    have hrest := ih (s := { s with token := s.token ++ [c] }) htext hs
    rw [read_cons_some hstep, hrest, List.append_assoc, List.singleton_append]

/-- **A name and a value** are read back. -/
theorem parseLine_plain {text : Chars} (hname : IsName name) (htext : IsPlain text) :
    parseLine parse (name ++ ' ' :: text) = (parse text).map fun value => ⟨name, 0, value⟩ := by
  obtain ⟨hne, hchars⟩ := htext
  cases text with
  | nil => exact absurd rfl hne
  | cons c text =>
    obtain ⟨hc, hrest⟩ := List.forall_mem_cons.mp hchars
    have hread : read {} (name ++ ' ' :: c :: text) =
        some { phase := .value, name := name, token := c :: text } := by
      have hvalue : step { phase := .afterName, name := name } c =
          some { phase := .value, name := name, token := [c] } := by
        dsimp only [step]
        rw [hc.1, if_neg hc.2]
        rfl
      rw [read_append, read_name hname, Option.bind_some]
      exact (read_cons_some hvalue text).trans (read_value (fun d hd => (hrest d hd).1) rfl)
    unfold parseLine
    rw [hread]
    rfl

example :
    ((parseLine some "up\x7bjob=\"api\",\x7d 1.0 1700000000".toList).map Sample.value).isSome =
    true := by decide

theorem isComment_name (hname : IsName name) (cs : Chars) : isComment (name ++ cs) = false := by
  obtain ⟨hstart, hne, -⟩ := hname
  cases name with
  | nil => exact absurd rfl hne
  | cons c name =>
    have hc : isNameStart c = true := hstart c rfl
    unfold isComment
    rw [List.cons_append, List.dropWhile_cons_of_neg (by simp [isBlank_of_isNameStart hc])]
    refine decide_eq_false ?_
    rintro rfl
    exact absurd hc (by decide)

end Exposition
