import Mathlib.Data.List.Nodup

/-!
# Relational — statements, integrity constraints and keyed rows

A database state is a value of any type `σ`. A **statement** is a function on states, and the
engine accepts it only if every declared **constraint** holds of the state it leads to: the
check is made statement by statement, so a list of statements can fail half-way although its
net effect would be harmless (`execAll`).

* **`exec` / `execAll`** — one checked statement, and a list of them; the list succeeds exactly
  if the constraints hold after each (`SatisfiesEach`), and else fails at the first violation.
* **`unique` / `foreignKey`** — the two kinds of constraint. A unique index covers the rows its
  key is defined on, so a *partial* index and a nullable column are keys that return `none`.
* **Keyed rows** — how inserting and updating rows acts on the list of keys, and that a unique
  key identifies its row.
-/

namespace Relational

universe u

variable {σ : Type u} {ρ κ : Type}

/-! ## Statements under constraints -/

/-- A named integrity constraint on database states. -/
structure Constraint (σ : Type u) where
  name : String
  holds : σ → Bool

/-- A statement, as the change it makes to the database. -/
abbrev Statement (σ : Type u) := σ → σ

/-- Every constraint holds. -/
def Satisfies (cs : List (Constraint σ)) (s : σ) : Prop := ∀ c ∈ cs, c.holds s = true

instance (cs : List (Constraint σ)) (s : σ) : Decidable (Satisfies cs s) := by
  unfold Satisfies; infer_instance

/-- Run one statement; the error names the first constraint its result violates. -/
def exec (cs : List (Constraint σ)) (f : Statement σ) (s : σ) : Except String σ :=
  match cs.find? (fun c => !c.holds (f s)) with
  | some c => .error c.name
  | none => .ok (f s)

/-- Run statements one after another, checking after each; the first violation stops them. -/
def execAll (cs : List (Constraint σ)) : List (Statement σ) → σ → Except String σ
  | [], s => .ok s
  | f :: fs, s =>
    match exec cs f s with
    | .ok s' => execAll cs fs s'
    | .error name => .error name

variable {cs : List (Constraint σ)} {s : σ} {f : Statement σ}

theorem exec_of_satisfies (h : Satisfies cs (f s)) : exec cs f s = .ok (f s) := by
  have hnone : cs.find? (fun c => !c.holds (f s)) = none := by
    rw [List.find?_eq_none]
    intro c hc
    simp [h c hc]
  simp [exec, hnone]

theorem exec_of_not_satisfies (h : ¬ Satisfies cs (f s)) : ∃ name, exec cs f s = .error name := by
  unfold exec
  cases hfind : cs.find? (fun c => !c.holds (f s)) with
  | some c => exact ⟨c.name, rfl⟩
  | none =>
    refine absurd (fun c hc => ?_) h
    simpa using List.find?_eq_none.mp hfind c hc

@[simp] theorem execAll_nil (cs : List (Constraint σ)) (s : σ) : execAll cs [] s = .ok s := rfl

variable {fs : List (Statement σ)}

theorem execAll_cons (h : Satisfies cs (f s)) : execAll cs (f :: fs) s = execAll cs fs (f s) := by
  simp [execAll, exec_of_satisfies h]

theorem execAll_cons_error (h : ¬ Satisfies cs (f s)) (fs : List (Statement σ)) :
    ∃ name, execAll cs (f :: fs) s = .error name := by
  obtain ⟨name, hname⟩ := exec_of_not_satisfies h
  exact ⟨name, by simp [execAll, hname]⟩

/-- The constraints hold after each of the statements. -/
def SatisfiesEach (cs : List (Constraint σ)) : List (Statement σ) → σ → Prop
  | [], _ => True
  | f :: fs, s => Satisfies cs (f s) ∧ SatisfiesEach cs fs (f s)

theorem execAll_of_satisfiesEach (h : SatisfiesEach cs fs s) :
    execAll cs fs s = .ok (fs.foldl (fun s f => f s) s) := by
  induction fs generalizing s with
  | nil => rfl
  | cons f fs ih =>
    obtain ⟨hf, hrest⟩ := h
    rw [execAll_cons hf]
    exact ih hrest

theorem execAll_of_not_satisfiesEach (h : ¬ SatisfiesEach cs fs s) :
    ∃ name, execAll cs fs s = .error name := by
  induction fs generalizing s with
  | nil => exact absurd trivial h
  | cons f fs ih =>
    by_cases hf : Satisfies cs (f s)
    · rw [execAll_cons hf]
      exact ih fun hrest => h ⟨hf, hrest⟩
    · exact execAll_cons_error hf fs

theorem SatisfiesEach.foldl (hs : Satisfies cs s) (h : SatisfiesEach cs fs s) :
    Satisfies cs (fs.foldl (fun s f => f s) s) := by
  induction fs generalizing s with
  | nil => exact hs
  | cons f fs ih => exact ih h.1 h.2

theorem satisfiesEach_append {gs : List (Statement σ)} :
    SatisfiesEach cs (fs ++ gs) s ↔
      SatisfiesEach cs fs s ∧ SatisfiesEach cs gs (fs.foldl (fun s f => f s) s) := by
  induction fs generalizing s with
  | nil => simp [SatisfiesEach]
  | cons f fs ih =>
    rw [List.cons_append, List.foldl_cons]
    simp only [SatisfiesEach, ih, and_assoc]

/-! ## Unique indexes and foreign keys -/

/-- A unique index on `rows`: no two rows have the same key. A row without a key is not in the
index. -/
def unique [DecidableEq κ] (name : String) (rows : σ → List ρ) (key : ρ → Option κ) :
    Constraint σ where
  name := name
  holds s := decide ((rows s).filterMap key).Nodup

/-- A foreign key: the values `ref` takes on `rows` occur among `targets`. -/
def foreignKey [DecidableEq κ] (name : String) (rows : σ → List ρ) (ref : ρ → Option κ)
    (targets : σ → List κ) : Constraint σ where
  name := name
  holds s := ((rows s).filterMap ref).all fun k => decide (k ∈ targets s)

@[simp] theorem unique_holds [DecidableEq κ] (name : String) (rows : σ → List ρ)
    (key : ρ → Option κ) (s : σ) :
    (unique name rows key).holds s = true ↔ ((rows s).filterMap key).Nodup := by
  simp [unique]

@[simp] theorem foreignKey_holds [DecidableEq κ] (name : String) (rows : σ → List ρ)
    (ref : ρ → Option κ) (targets : σ → List κ) (s : σ) :
    (foreignKey name rows ref targets).holds s = true ↔
      ∀ r ∈ rows s, ∀ k, ref r = some k → k ∈ targets s := by
  simp only [foreignKey, List.all_eq_true, List.mem_filterMap, decide_eq_true_eq]
  constructor
  · intro h r hr k hk
    exact h k ⟨r, hr, hk⟩
  · rintro h k ⟨r, hr, hk⟩
    exact h r hr k hk

/-! ## Keys of inserted and updated rows -/

variable {key : ρ → Option κ} {rows : List ρ}

theorem nodup_keys_concat {r : ρ} :
    ((rows ++ [r]).filterMap key).Nodup ↔
      (rows.filterMap key).Nodup ∧ ∀ x ∈ rows, ∀ k, key r = some k → key x ≠ some k := by
  cases hr : key r with
  | none => simp [List.filterMap_append, hr]
  | some k =>
    simp only [List.filterMap_append, List.filterMap_cons, hr, List.filterMap_nil,
      List.nodup_append, List.nodup_singleton, List.mem_filterMap, List.mem_singleton]
    constructor
    · rintro ⟨hn, -, hd⟩
      refine ⟨hn, fun x hx k' hk' hxk => ?_⟩
      obtain rfl := Option.some.inj hk'
      exact hd k ⟨x, hx, hxk⟩ k rfl rfl
    · rintro ⟨hn, hd⟩
      refine ⟨hn, trivial, ?_⟩
      rintro a ⟨x, hx, hxa⟩ b rfl rfl
      exact hd x hx _ rfl hxa

theorem keys_map_of_eq {f : ρ → ρ} (h : ∀ r ∈ rows, key (f r) = key r) :
    (rows.map f).filterMap key = rows.filterMap key := by
  rw [List.filterMap_map]
  exact List.filterMap_congr h

theorem column_map_of_eq {γ : Type} {column : ρ → γ} {f : ρ → ρ}
    (h : ∀ r, column (f r) = column r) (p : ρ → Prop) [DecidablePred p] (rows : List ρ) :
    (rows.map fun r => if p r then f r else r).map column = rows.map column := by
  induction rows with
  | nil => rfl
  | cons r rows ih =>
    simp only [List.map_cons, ih]
    by_cases hr : p r
    · rw [if_pos hr, h]
    · rw [if_neg hr]

theorem find_map_of_key [DecidableEq κ] {key : ρ → κ} {f : ρ → ρ}
    (h : ∀ r, key (f r) = key r) (rows : List ρ) (k : κ) :
    (rows.map fun r => if key r = k then f r else r).find? (fun r => decide (key r = k)) =
      (rows.find? fun r => decide (key r = k)).map f := by
  induction rows with
  | nil => rfl
  | cons r rows ih =>
    rw [List.map_cons, List.find?_cons, List.find?_cons]
    by_cases hr : key r = k
    · rw [if_pos hr, h, hr, decide_eq_true rfl]
      rfl
    · rw [if_neg hr, decide_eq_false hr]
      exact ih

theorem keys_map_sublist {f : ρ → ρ} (h : ∀ r ∈ rows, key (f r) = key r ∨ key (f r) = none) :
    ((rows.map f).filterMap key).Sublist (rows.filterMap key) := by
  induction rows with
  | nil => simp
  | cons r rows ih =>
    have ih' := ih fun x hx => h x (List.mem_cons_of_mem _ hx)
    rcases h r List.mem_cons_self with hr | hr
    · cases hk : key r with
      | none => simpa [List.filterMap_cons, hr, hk] using ih'
      | some k => simpa [List.filterMap_cons, hr, hk] using ih'
    · cases hk : key r with
      | none => simpa [List.filterMap_cons, hr, hk] using ih'
      | some k => simpa [List.filterMap_cons, hr, hk] using ih'.trans (List.sublist_cons_self _ _)

theorem nodup_keys_iff_pairwise :
    (rows.filterMap key).Nodup ↔
      rows.Pairwise fun a b => ∀ k, key a = some k → key b ≠ some k := by
  unfold List.Nodup
  rw [List.pairwise_filterMap]
  refine List.Pairwise.iff ?_
  intro a b
  constructor
  · intro h k ha hb
    exact h k ha k hb rfl
  · rintro h k ha _ hb rfl
    exact h k ha hb

theorem eq_of_key_eq (hn : (rows.filterMap key).Nodup) {a b : ρ} {k : κ} (ha : a ∈ rows)
    (hb : b ∈ rows) (hka : key a = some k) (hkb : key b = some k) : a = b := by
  induction rows with
  | nil => simp at ha
  | cons r rows ih =>
    -- a row with `r`'s key further down would put the key into the list twice
    have hhead : key r = some k → ∀ x ∈ rows, key x ≠ some k := by
      intro hr x hx hkx
      rw [List.filterMap_cons, hr] at hn
      exact (List.nodup_cons.mp hn).1 (List.mem_filterMap.mpr ⟨x, hx, hkx⟩)
    have htail : (rows.filterMap key).Nodup := by
      rw [List.filterMap_cons] at hn
      split at hn
      · exact hn
      · exact (List.nodup_cons.mp hn).2
    rcases List.mem_cons.mp ha with rfl | ha'
    · rcases List.mem_cons.mp hb with rfl | hb'
      · rfl
      · exact absurd hkb (hhead hka b hb')
    · rcases List.mem_cons.mp hb with rfl | hb'
      · exact absurd hka (hhead hkb a ha')
      · exact ih htail ha' hb'

theorem find_of_key_eq [DecidableEq κ] (hn : (rows.filterMap key).Nodup) {a : ρ} {k : κ}
    (ha : a ∈ rows) (hka : key a = some k) :
    rows.find? (fun r => decide (key r = some k)) = some a := by
  cases hf : rows.find? (fun r => decide (key r = some k)) with
  | none =>
    have := List.find?_eq_none.mp hf a ha
    simp [hka] at this
  | some b =>
    have hkb : key b = some k := by simpa using List.find?_some hf
    rw [eq_of_key_eq hn (List.mem_of_find?_eq_some hf) ha hkb hka]

theorem filter_key_length_le_one [DecidableEq κ] (hn : (rows.filterMap key).Nodup) (k : κ) :
    (rows.filter fun r => decide (key r = some k)).length ≤ 1 := by
  have hpair := (nodup_keys_iff_pairwise.mp hn).filter fun r => decide (key r = some k)
  have hkey : ∀ r ∈ rows.filter (fun r => decide (key r = some k)), key r = some k := by
    intro r hr
    simpa using (List.mem_filter.mp hr).2
  match hl : rows.filter fun r => decide (key r = some k) with
  | [] => simp
  | [a] => simp
  | a :: b :: rest =>
    -- two rows of the key would be a pair with equal keys
    rw [hl] at hpair hkey
    have hab := (List.pairwise_cons.mp hpair).1 b (by simp) k (hkey a (by simp))
    exact absurd (hkey b (by simp)) hab

end Relational
