import Mathlib.Data.List.Infix
import NocIq.Lib.Text

/-!
# JSON values — equality of values, and the text of one

A JSON value with the members of its objects in the order they are enumerated in. `Equal` is
equality of values, where that order says nothing; `stringify` writes the members in their order,
without blanks, as `JSON.stringify` does.

* **`Equal.refl`** — a value is equal to itself.
* **`stringify_injective`** — two values with one text are the same, in the same order.
-/

namespace JsonValues

/-- A JSON value; `N` is the type of its numbers. -/
inductive Value (N : Type) where
  | null
  | bool (b : Bool)
  | number (n : N)
  | string (s : String)
  | array (items : List (Value N))
  | object (members : List (String × Value N))

variable {N : Type}

/-- Induction on a value: on the items of an array, and on the values of an object's members. -/
@[elab_as_elim]
theorem Value.induction {motive : Value N → Prop} (null : motive .null)
    (bool : ∀ b, motive (.bool b)) (number : ∀ n, motive (.number n))
    (string : ∀ s, motive (.string s))
    (array : ∀ items, (∀ v ∈ items, motive v) → motive (.array items))
    (object : ∀ members, (∀ m ∈ members, motive m.2) → motive (.object members)) :
    ∀ v, motive v
  | .null => null
  | .bool b => bool b
  | .number n => number n
  | .string s => string s
  | .array items => array items fun v hv =>
    have := List.sizeOf_lt_of_mem hv
    Value.induction null bool number string array object v
  | .object members => object members fun (name, v) hm =>
    have := List.sizeOf_lt_of_mem hm
    Value.induction null bool number string array object v
termination_by v => sizeOf v
decreasing_by
  all_goals
    simp_all only [Value.array.sizeOf_spec, Value.object.sizeOf_spec, Prod.mk.sizeOf_spec]
    omega

/-! ## Equality of values -/

/-- Equality where the order of the members of an object says nothing. -/
inductive Equal : Value N → Value N → Prop where
  | null : Equal .null .null
  | bool (b : Bool) : Equal (.bool b) (.bool b)
  | number (n : N) : Equal (.number n) (.number n)
  | string (s : String) : Equal (.string s) (.string s)
  | array {items items' : List (Value N)} (hlength : items.length = items'.length)
      (hitems : ∀ (i : ℕ) (v v' : Value N), items[i]? = some v → items'[i]? = some v' →
        Equal v v') :
      Equal (.array items) (.array items')
  | object {members members' : List (String × Value N)}
      (hnames : ∀ name, (members.lookup name).isSome = (members'.lookup name).isSome)
      (hmembers : ∀ name v v', members.lookup name = some v → members'.lookup name = some v' →
        Equal v v') :
      Equal (.object members) (.object members')

variable {members : List (String × Value N)}

theorem mem_of_lookup {name : String} {v : Value N} (h : members.lookup name = some v) :
    (name, v) ∈ members := by
  obtain ⟨before, after, heq, -⟩ := List.lookup_eq_some_iff.mp h
  rw [heq]
  exact List.mem_append_right _ List.mem_cons_self

/-- **A value** is equal to itself. -/
theorem Equal.refl (v : Value N) : Equal v v := by
  induction v using Value.induction with
  | null => exact .null
  | bool b => exact .bool b
  | number n => exact .number n
  | string s => exact .string s
  | array items ih =>
    refine .array rfl fun i v v' hv hv' => ?_
    rw [hv, Option.some.injEq] at hv'
    rw [← hv']
    exact ih v (List.mem_of_getElem? hv)
  | object members ih =>
    refine .object (fun _ => rfl) fun name v v' hv hv' => ?_
    rw [hv, Option.some.injEq] at hv'
    rw [← hv']
    exact ih (name, v) (mem_of_lookup hv)

variable {members' : List (String × Value N)}

theorem Equal.object_iff :
    Equal (.object members) (.object members') ↔
      ∀ name, Option.Rel Equal (members.lookup name) (members'.lookup name) := by
  constructor
  · rintro (_ | _ | _ | _ | _ | ⟨hnames, hmembers⟩) name
    cases hv : members.lookup name with
    | none =>
      have hnone := hnames name
      rw [hv, Option.isSome_none, eq_comm, Option.isSome_eq_false_iff, Option.isNone_iff_eq_none]
        at hnone
      rw [hnone]
      exact .none
    | some v =>
      have hsome := hnames name
      rw [hv, Option.isSome_some, eq_comm, Option.isSome_iff_exists] at hsome
      obtain ⟨v', hv'⟩ := hsome
      rw [hv']
      exact .some (hmembers name v v' hv hv')
  · intro h
    refine .object (fun name => ?_) fun name v v' hv hv' => ?_
    · have hrel := h name
      revert hrel
      generalize members.lookup name = v
      generalize members'.lookup name = v'
      rintro (_ | _) <;> rfl
    · have hrel := h name
      rw [hv, hv'] at hrel
      cases hrel
      assumption

theorem Equal.rel_refl (v : Option (Value N)) : Option.Rel Equal v v := by
  cases v with
  | none => exact .none
  | some v => exact .some (.refl v)

/-- The names of an object are distinct, at every depth. -/
inductive Value.WellFormed : Value N → Prop where
  | null : WellFormed .null
  | bool (b : Bool) : WellFormed (.bool b)
  | number (n : N) : WellFormed (.number n)
  | string (s : String) : WellFormed (.string s)
  | array {items : List (Value N)} (hitems : ∀ v ∈ items, WellFormed v) :
      WellFormed (.array items)
  | object {members : List (String × Value N)} (hnames : (members.map (·.1)).Nodup)
      (hmembers : ∀ m ∈ members, WellFormed m.2) : WellFormed (.object members)

/-! ## Strings -/

def quote : Char := Char.ofNat 34

def backslash : Char := Char.ofNat 92

/-- The characters that are not written as they are. -/
def specials : List Char := quote :: backslash :: (List.range 32).map Char.ofNat

/-- What is written for one of them, after a backslash. -/
def code (c : Char) : List Char :=
  if c = quote then [quote]
  else if c = backslash then [backslash]
  else if c.toNat = 8 then ['b'] else if c.toNat = 9 then ['t'] else if c.toNat = 10 then ['n']
  else if c.toNat = 12 then ['f'] else if c.toNat = 13 then ['r']
  else ['u', '0', '0', Nat.digitChar (c.toNat / 16), Nat.digitChar (c.toNat % 16)]

def escape (c : Char) : List Char := if c ∈ specials then backslash :: code c else [c]

def quoted (s : String) : List Char := quote :: (s.toList.flatMap escape ++ [quote])

theorem append_inj_of_prefixFree {α β : Type} {code : α → List β} {P : α → Prop}
    (hfree : ∀ a, P a → ∀ b, P b → code a <+: code b → a = b) {a b : α} (ha : P a) (hb : P b)
    {rest rest' : List β} (h : code a ++ rest = code b ++ rest') : a = b ∧ rest = rest' := by
  have hab : a = b := by
    have hprefix : code a <+: code b ++ rest' := ⟨rest, h⟩
    rcases List.prefix_or_prefix_of_prefix hprefix (List.prefix_append _ _) with hle | hle
    · exact hfree a ha b hb hle
    · exact (hfree b hb a ha hle).symm
  subst hab
  exact ⟨rfl, List.append_cancel_left h⟩

theorem code_prefixFree : ∀ c ∈ specials, ∀ d ∈ specials, code c <+: code d → c = d := by
  have hall : specials.Forall fun c => specials.Forall fun d => code c <+: code d → c = d := by
    decide +kernel
  intro c hc
  exact List.forall_iff_forall_mem.mp (List.forall_iff_forall_mem.mp hall c hc)

variable {rest rest' : List Char}

theorem escape_inj {c d : Char} (h : escape c ++ rest = escape d ++ rest') :
    c = d ∧ rest = rest' := by
  unfold escape at h
  by_cases hc : c ∈ specials <;> by_cases hd : d ∈ specials
  · rw [if_pos hc, if_pos hd, List.cons_append, List.cons_append] at h
    exact append_inj_of_prefixFree code_prefixFree hc hd (List.cons.inj h).2
  · -- a character that is written as it is is no backslash
    rw [if_pos hc, if_neg hd, List.cons_append, List.singleton_append] at h
    exact absurd ((List.cons.inj h).1 ▸ List.mem_cons_of_mem _ List.mem_cons_self) hd
  · rw [if_neg hc, if_pos hd, List.cons_append, List.cons_append] at h
    exact absurd ((List.cons.inj h).1 ▸ List.mem_cons_of_mem _ List.mem_cons_self) hc
  · rw [if_neg hc, if_neg hd] at h
    exact List.cons.inj h

theorem escape_ne_quote (c : Char) : ∃ d text, escape c = d :: text ∧ d ≠ quote := by
  unfold escape
  split_ifs with hc
  · exact ⟨backslash, code c, rfl, by decide⟩
  · refine ⟨c, [], rfl, ?_⟩
    rintro rfl
    exact hc List.mem_cons_self

theorem escaped_inj {s s' : List Char}
    (h : s.flatMap escape ++ quote :: rest = s'.flatMap escape ++ quote :: rest') :
    s = s' ∧ rest = rest' := by
  induction s generalizing s' with
  | nil =>
    cases s' with
    | nil => exact ⟨rfl, (List.cons.inj h).2⟩
    | cons c s' =>
      obtain ⟨d, text, heq, hd⟩ := escape_ne_quote c
      rw [List.flatMap_cons, heq] at h
      exact absurd (List.cons.inj h).1.symm hd
  | cons c s ih =>
    cases s' with
    | nil =>
      obtain ⟨d, text, heq, hd⟩ := escape_ne_quote c
      rw [List.flatMap_cons, heq] at h
      exact absurd (List.cons.inj h).1 hd
    | cons c' s' =>
      -- the two first characters are read off, and what follows them is alike again
      rw [List.flatMap_cons, List.flatMap_cons, List.append_assoc, List.append_assoc] at h
      obtain ⟨hc, htail⟩ := escape_inj h
      obtain ⟨hs, hrest⟩ := ih htail
      exact ⟨by rw [hc, hs], hrest⟩

theorem quoted_inj {s s' : String} (h : quoted s ++ rest = quoted s' ++ rest') :
    s = s' ∧ rest = rest' := by
  unfold quoted at h
  rw [List.cons_append, List.cons_append, List.append_assoc, List.append_assoc] at h
  obtain ⟨hs, hrest⟩ := escaped_inj (List.cons.inj h).2
  exact ⟨String.toList_injective hs, hrest⟩

/-! ## `stringify` -/

def isNumberChar (c : Char) : Bool :=
  c.isDigit || decide (c = '-' ∨ c = '+' ∨ c = '.' ∨ c = 'e')

/-- How numbers are written: no two of them alike. -/
structure NumberText (N : Type) where
  text : N → List Char
  injective : Function.Injective text
  ne_nil : ∀ n, text n ≠ []
  isNumberChar : ∀ n, ∀ c ∈ text n, isNumberChar c = true

mutual
/-- `JSON.stringify` of a value. -/
def stringify (t : NumberText N) : Value N → List Char
  | .null => ['n', 'u', 'l', 'l']
  | .bool true => ['t', 'r', 'u', 'e']
  | .bool false => ['f', 'a', 'l', 's', 'e']
  | .number n => t.text n
  | .string s => quoted s
  | .array [] => ['[', ']']
  | .array (v :: items) => '[' :: (stringify t v ++ stringifyItems t items)
  | .object [] => ['\x7b', '\x7d']
  | .object ((name, v) :: members) =>
    '\x7b' :: (quoted name ++ ':' :: (stringify t v ++ stringifyMembers t members))

def stringifyItems (t : NumberText N) : List (Value N) → List Char
  | [] => [']']
  | v :: items => ',' :: (stringify t v ++ stringifyItems t items)

/-- The members after the first, and the brace. -/
def stringifyMembers (t : NumberText N) : List (String × Value N) → List Char
  | [] => ['\x7d']
  | (name, v) :: members =>
    ',' :: (quoted name ++ ':' :: (stringify t v ++ stringifyMembers t members))
end

variable {t : NumberText N}

/-- A text that does not go on with a number. -/
def Stops (rest : List Char) : Prop := ∀ c ∈ rest.head?, isNumberChar c = false

theorem stops_cons {c : Char} (h : isNumberChar c = false) (rest : List Char) : Stops (c :: rest) :=
  fun _ hd => by rwa [← Option.mem_some_iff.mp hd]

theorem stops_items (items : List (Value N)) (rest : List Char) :
    Stops (stringifyItems t items ++ rest) := by
  cases items <;> exact stops_cons (by decide) _

theorem stops_members (members : List (String × Value N)) (rest : List Char) :
    Stops (stringifyMembers t members ++ rest) := by
  cases members <;> exact stops_cons (by decide) _

/-- The value can be read off the text that follows it. -/
def Readable (t : NumberText N) (v : Value N) : Prop :=
  ∀ (w : Value N) (rest rest' : List Char), Stops rest → Stops rest' →
    stringify t v ++ rest = stringify t w ++ rest' → v = w ∧ rest = rest'

theorem items_inj {items items' : List (Value N)} (hreadable : ∀ v ∈ items, Readable t v)
    (h : stringifyItems t items ++ rest = stringifyItems t items' ++ rest') :
    items = items' ∧ rest = rest' := by
  induction items generalizing items' with
  | nil =>
    cases items' with
    | nil => exact ⟨rfl, (List.cons.inj h).2⟩
    | cons v' items' => exact absurd (List.cons.inj h).1 (by decide)
  | cons v items ih =>
    cases items' with
    | nil => exact absurd (List.cons.inj h).1 (by decide)
    | cons v' items' =>
      obtain ⟨hv, hitems⟩ := List.forall_mem_cons.mp hreadable
      have htail : stringify t v ++ (stringifyItems t items ++ rest) =
          stringify t v' ++ (stringifyItems t items' ++ rest') := by
        simpa only [stringifyItems, List.cons_append, List.append_assoc, List.cons.injEq,
          true_and] using h
      obtain ⟨hhead, hrest⟩ := hv v' _ _ (stops_items _ _) (stops_items _ _) htail
      obtain ⟨hsame, hrest⟩ := ih hitems hrest
      exact ⟨by rw [hhead, hsame], hrest⟩

theorem member_inj {name name' : String} {v v' : Value N} (hv : Readable t v) (hstops : Stops rest)
    (hstops' : Stops rest')
    (h : quoted name ++ ':' :: (stringify t v ++ rest) =
      quoted name' ++ ':' :: (stringify t v' ++ rest'))
    :
    (name, v) = (name', v') ∧ rest = rest' := by
  obtain ⟨rfl, htail⟩ := quoted_inj h
  obtain ⟨rfl, hrest⟩ := hv v' _ _ hstops hstops' (List.cons.inj htail).2
  exact ⟨rfl, hrest⟩

theorem members_inj (hreadable : ∀ m ∈ members, Readable t m.2)
    (h : stringifyMembers t members ++ rest = stringifyMembers t members' ++ rest') :
    members = members' ∧ rest = rest' := by
  induction members generalizing members' with
  | nil =>
    cases members' with
    | nil => exact ⟨rfl, (List.cons.inj h).2⟩
    | cons m' members' => exact absurd (List.cons.inj h).1 (by decide)
  | cons m members ih =>
    cases members' with
    | nil => exact absurd (List.cons.inj h).1 (by decide)
    | cons m' members' =>
      obtain ⟨hv, hmembers⟩ := List.forall_mem_cons.mp hreadable
      have htail : quoted m.1 ++ ':' :: (stringify t m.2 ++ (stringifyMembers t members ++ rest)) =
          quoted m'.1 ++ ':' :: (stringify t m'.2 ++ (stringifyMembers t members' ++ rest')) := by
        simpa only [stringifyMembers, List.cons_append, List.append_assoc, List.cons.injEq,
          true_and] using h
      obtain ⟨hhead, hrest⟩ := member_inj hv (stops_members _ _) (stops_members _ _) htail
      obtain ⟨hsame, hrest⟩ := ih hmembers hrest
      exact ⟨List.cons_eq_cons.mpr ⟨hhead, hsame⟩, hrest⟩

/-! ## What a text starts with -/

inductive Kind where
  | null
  | bool (b : Bool)
  | number
  | string
  | array
  | object
  | other
  deriving DecidableEq

def Value.kind : Value N → Kind
  | .null => .null
  | .bool b => .bool b
  | .number _ => .number
  | .string _ => .string
  | .array _ => .array
  | .object _ => .object

/-- The kind of a value whose text starts with the character. -/
def kindOf (c : Char) : Kind :=
  if c = 'n' then .null
  else if c = 't' then .bool true
  else if c = 'f' then .bool false
  else if c = quote then .string
  else if c = '[' then .array
  else if c = '\x7b' then .object
  else if isNumberChar c then .number
  else .other

theorem kindOf_numberChar {c : Char} (h : isNumberChar c = true) : kindOf c = .number := by
  have hne : ∀ d, isNumberChar d = false → c ≠ d := by
    rintro d hd rfl
    rw [h] at hd
    cases hd
  unfold kindOf
  rw [if_neg (hne 'n' (by decide)), if_neg (hne 't' (by decide)), if_neg (hne 'f' (by decide)),
    if_neg (hne quote (by decide)), if_neg (hne '[' (by decide)),
    if_neg (hne '\x7b' (by decide)), if_pos h]

theorem stringify_eq_cons (t : NumberText N) (v : Value N) :
    ∃ c text, stringify t v = c :: text ∧ kindOf c = v.kind := by
  match v with
  | .null => exact ⟨'n', _, rfl, rfl⟩
  | .bool true => exact ⟨'t', _, rfl, rfl⟩
  | .bool false => exact ⟨'f', _, rfl, rfl⟩
  | .number n =>
    obtain ⟨c, text, htext⟩ := List.exists_cons_of_ne_nil (t.ne_nil n)
    refine ⟨c, text, htext, kindOf_numberChar (t.isNumberChar n c ?_)⟩
    rw [htext]
    exact List.mem_cons_self
  | .string s => exact ⟨quote, _, rfl, rfl⟩
  | .array [] => exact ⟨'[', _, rfl, rfl⟩
  | .array (_ :: _) => exact ⟨'[', _, rfl, rfl⟩
  | .object [] => exact ⟨'\x7b', _, rfl, rfl⟩
  | .object (_ :: _) => exact ⟨'\x7b', _, rfl, rfl⟩

theorem kind_eq {v w : Value N} (h : stringify t v ++ rest = stringify t w ++ rest') :
    v.kind = w.kind := by
  obtain ⟨c, text, hv, hc⟩ := stringify_eq_cons t v
  obtain ⟨c', text', hw, hc'⟩ := stringify_eq_cons t w
  rw [hv, hw] at h
  rw [← hc, ← hc', (List.cons.inj h).1]

theorem takeWhile_number (n : N) (hstops : Stops rest) :
    (t.text n ++ rest).takeWhile isNumberChar = t.text n := by
  rw [List.takeWhile_append_of_pos (t.isNumberChar n)]
  cases rest with
  | nil => rw [List.takeWhile_nil, List.append_nil]
  | cons c rest =>
    rw [List.takeWhile_cons_of_neg (by simp [hstops c rfl]), List.append_nil]

theorem number_inj {n n' : N} (hstops : Stops rest) (hstops' : Stops rest')
    (h : t.text n ++ rest = t.text n' ++ rest') : n = n' ∧ rest = rest' := by
  have htext : t.text n = t.text n' := by
    rw [← takeWhile_number n hstops, h, takeWhile_number n' hstops']
  have hn := t.injective htext
  subst hn
  exact ⟨rfl, List.append_cancel_left h⟩

theorem stringify_ne_bracket (v : Value N) (rest rest' : List Char) :
    stringify t v ++ rest ≠ ']' :: rest' := by
  obtain ⟨c, text, hv, hc⟩ := stringify_eq_cons t v
  intro h
  rw [hv] at h
  obtain rfl : c = ']' := (List.cons.inj h).1
  cases v <;> cases hc

theorem array_inj {items items' : List (Value N)} (hreadable : ∀ v ∈ items, Readable t v)
    (h : stringify t (.array items) ++ rest = stringify t (.array items') ++ rest') :
    items = items' ∧ rest = rest' := by
  match items, items' with
  | [], [] => exact ⟨rfl, List.append_cancel_left h⟩
  | [], v' :: items' =>
    -- the bracket that closes the one stands where the other has its first item
    simp only [stringify, List.cons_append, List.append_assoc, List.cons.injEq, true_and] at h
    exact absurd h.symm (stringify_ne_bracket v' _ _)
  | v :: items, [] =>
    simp only [stringify, List.cons_append, List.append_assoc, List.cons.injEq, true_and] at h
    exact absurd h (stringify_ne_bracket v _ _)
  | v :: items, v' :: items' =>
    refine items_inj hreadable ?_
    simpa only [stringify, stringifyItems, List.cons_append, List.cons.injEq, true_and] using h

theorem object_inj (hreadable : ∀ m ∈ members, Readable t m.2)
    (h : stringify t (.object members) ++ rest = stringify t (.object members') ++ rest') :
    members = members' ∧ rest = rest' := by
  match members, members' with
  | [], [] => exact ⟨rfl, List.append_cancel_left h⟩
  | [], (name', v') :: members' =>
    simp only [stringify, quoted, List.cons_append, List.cons.injEq, true_and] at h
    exact absurd h.1 (by decide)
  | (name, v) :: members, [] =>
    simp only [stringify, quoted, List.cons_append, List.cons.injEq, true_and] at h
    exact absurd h.1 (by decide)
  | (name, v) :: members, (name', v') :: members' =>
    refine members_inj hreadable ?_
    simpa only [stringify, stringifyMembers, List.cons_append, List.cons.injEq, true_and] using h

/-- **Values are readable**: by induction on the value, whose kind its text starts with. -/
theorem readable (v : Value N) : Readable t v := by
  induction v using Value.induction with
  | null =>
    intro w rest rest' _ _ h
    have hkind := kind_eq h
    cases w <;> cases hkind
    exact ⟨rfl, List.append_cancel_left h⟩
  | bool b =>
    intro w rest rest' _ _ h
    have hkind := kind_eq h
    cases w <;> cases hkind
    exact ⟨rfl, List.append_cancel_left h⟩
  | number n =>
    intro w rest rest' hstops hstops' h
    have hkind := kind_eq h
    cases w <;> cases hkind
    case number n' =>
    obtain ⟨rfl, hrest⟩ := number_inj hstops hstops' h
    exact ⟨rfl, hrest⟩
  | string s =>
    intro w rest rest' _ _ h
    have hkind := kind_eq h
    cases w <;> cases hkind
    case string s' =>
    obtain ⟨rfl, hrest⟩ := quoted_inj h
    exact ⟨rfl, hrest⟩
  | array items ih =>
    intro w rest rest' _ _ h
    have hkind := kind_eq h
    cases w <;> cases hkind
    case array items' =>
    obtain ⟨rfl, hrest⟩ := array_inj ih h
    exact ⟨rfl, hrest⟩
  | object members ih =>
    intro w rest rest' _ _ h
    have hkind := kind_eq h
    cases w <;> cases hkind
    case object members' =>
    obtain ⟨rfl, hrest⟩ := object_inj ih h
    exact ⟨rfl, hrest⟩

/-- **The text of a value** is that of no other. -/
theorem stringify_injective (t : NumberText N) : Function.Injective (stringify t) := by
  intro v w h
  have hends : Stops [] := fun _ hc => nomatch hc
  exact (readable v w [] [] hends hends (by rw [List.append_nil, List.append_nil, h])).1

end JsonValues
