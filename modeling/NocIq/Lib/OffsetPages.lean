import Mathlib.Data.List.Sort

/-!
# OffsetPages — reading a table with LIMIT and OFFSET

A listing is read in pages by their offsets, each page with a query of its own. `ORDER BY` is a
relation on rows, total and transitive: rows that it does not tell apart may come in either order,
and in another one at the next query (`Delivers`).

Where a row can stand is a range of places, from behind the rows that are strictly before it
(`firstPlace`) to just before the rows that are strictly after it (`lastPlace`).

* **`place_bounds`** — in every order a row stands inside its range.
* **`exists_delivers_at_first`** / **`exists_delivers_at_last`** — and both ends are reached.
* **`shownOnce_iff`** — the pages have every row exactly once, whatever the orders of the queries,
  if and only if every row can be shown, and its range lies on one page.
-/

namespace OffsetPages

variable {α β ι : Type*}

/-! ## Pages -/

/-- `OFFSET offset LIMIT limit`. -/
def window (offset limit : ℕ) (rows : List α) : List α := (rows.drop offset).take limit

theorem getElem?_window (offset limit i : ℕ) (rows : List α) :
    (window offset limit rows)[i]? = if i < limit then rows[offset + i]? else none := by
  unfold window
  by_cases h : i < limit
  · rw [if_pos h, List.getElem?_take_of_lt h, List.getElem?_drop]
  · rw [if_neg h, List.getElem?_eq_none_iff, List.length_take]
    omega

theorem mem_of_mem_window {offset limit : ℕ} {rows : List α} {r : α}
    (h : r ∈ window offset limit rows) : r ∈ rows :=
  List.mem_of_mem_drop (List.mem_of_mem_take h)

/-- The item with the key `i` is shown exactly once by pages some of which may fail. -/
def ShownOnce (pages : ℕ → Option (List β)) (key : β → ι) (i : ι) : Prop :=
  ∃! p : ℕ × ℕ, ∃ items, pages p.1 = some items ∧ items[p.2]?.map key = some i

/-! ## Orders -/

/-- `ORDER BY key ASC`. -/
def ascending {K : Type*} [LE K] (key : α → K) (a b : α) : Prop := key a ≤ key b

/-- `ORDER BY key DESC`. -/
def descending {K : Type*} [LE K] (key : α → K) (a b : α) : Prop := key b ≤ key a

/-- No `ORDER BY`. -/
def unordered (_ _ : α) : Prop := True

section Keys

variable {K : Type*} [LinearOrder K] (key : α → K)

instance : DecidableRel (ascending key) := fun a b => inferInstanceAs (Decidable (key a ≤ key b))

instance : Std.Total (ascending key) := ⟨fun a b => le_total (key a) (key b)⟩

instance : IsTrans α (ascending key) := ⟨fun _ _ _ hab hbc => le_trans hab hbc⟩

instance : DecidableRel (descending key) := fun a b => inferInstanceAs (Decidable (key b ≤ key a))

instance : Std.Total (descending key) := ⟨fun a b => le_total (key b) (key a)⟩

instance : IsTrans α (descending key) := ⟨fun _ _ _ hab hbc => le_trans hbc hab⟩

instance : DecidableRel (unordered (α := α)) := fun _ _ => inferInstanceAs (Decidable True)

instance : Std.Total (unordered (α := α)) := ⟨fun _ _ => .inl trivial⟩

instance : IsTrans α unordered := ⟨fun _ _ _ _ _ => trivial⟩

end Keys

section Orders

variable (le : α → α → Prop) [DecidableRel le]

/-- An order in which a query may deliver the rows. -/
structure Delivers (rows order : List α) : Prop where
  perm : order.Perm rows
  sorted : order.Pairwise le

/-- The number of the rows that are strictly before `r`. -/
def firstPlace (rows : List α) (r : α) : ℕ := rows.countP fun s => !decide (le r s)

/-- The number of the rows but `r` that are not strictly after it. -/
def lastPlace (rows : List α) (r : α) : ℕ := rows.countP (fun s => decide (le s r)) - 1

/-- The places where a row can stand lie on one page. -/
def OnOnePage (size : ℕ) (rows : List α) (r : α) : Prop :=
  firstPlace le rows r / size = lastPlace le rows r / size

instance (size : ℕ) (rows : List α) (r : α) : Decidable (OnOnePage le size rows r) := by
  unfold OnOnePage; infer_instance

variable {le} [Std.Total le] {rows order : List α} {r : α}

omit [DecidableRel le] in
theorem le_self (r : α) : le r r := (Std.Total.total r r).elim id id

/-- **Where a row stands.** -/
theorem place_bounds {xs ys : List α} (h : Delivers le rows (xs ++ r :: ys)) :
    firstPlace le rows r ≤ xs.length ∧ xs.length ≤ lastPlace le rows r := by
  obtain ⟨-, hys, hxs⟩ := List.pairwise_append.mp h.sorted
  have hafter : ∀ s ∈ r :: ys, le r s :=
    List.forall_mem_cons.mpr ⟨le_self r, (List.pairwise_cons.mp hys).1⟩
  constructor
  · -- no row from `r` on is strictly before it
    have hnone : (r :: ys).countP (fun s => !decide (le r s)) = 0 := by
      rw [List.countP_eq_zero]
      intro s hs
      simp [hafter s hs]
    unfold firstPlace
    rw [← h.perm.countP_eq, List.countP_append, hnone, Nat.add_zero]
    exact List.countP_le_length
  · -- no row before `r` is strictly after it
    have hall : xs.countP (fun s => decide (le s r)) = xs.length := by
      rw [List.countP_eq_length]
      intro s hs
      simpa using hxs s hs r List.mem_cons_self
    have hself : 0 < (r :: ys).countP (fun s => decide (le s r)) := by
      rw [List.countP_pos_iff]
      exact ⟨r, List.mem_cons_self, decide_eq_true (le_self r)⟩
    unfold lastPlace
    rw [← h.perm.countP_eq, List.countP_append, hall]
    omega

variable [IsTrans α le]

variable (le) in
/-- The rows other than `r`, sorted, with `r` between those that `before` holds of and the rest. -/
theorem exists_delivers_between (hr : r ∈ rows) (before : α → Bool)
    (hbefore : ∀ s, before s = true → le s r) (hafter : ∀ s, before s = false → le r s) :
    ∃ xs ys, Delivers le rows (xs ++ r :: ys) ∧
      xs.length + (if before r then 1 else 0) = rows.countP before := by
  obtain ⟨a, b, rfl⟩ := List.append_of_mem hr
  have hsorted := List.pairwise_insertionSort le (a ++ b)
  have hperm := List.perm_insertionSort le (a ++ b)
  generalize (a ++ b).insertionSort le = sorted at hsorted hperm
  refine ⟨sorted.filter before, sorted.filter fun s => !before s, ⟨?_, ?_⟩, ?_⟩
  · have hsplit := List.filter_append_perm before sorted
    exact List.perm_middle.trans
      (((hsplit.trans hperm).cons r).trans List.perm_middle.symm)
  · have hxs : ∀ s ∈ sorted.filter before, le s r := fun s hs =>
      hbefore s (List.mem_filter.mp hs).2
    have hys : ∀ s ∈ sorted.filter (fun s => !before s), le r s := fun s hs =>
      hafter s (by simpa using (List.mem_filter.mp hs).2)
    refine List.pairwise_append.mpr ⟨hsorted.filter _,
      List.pairwise_cons.mpr ⟨hys, hsorted.filter _⟩, ?_⟩
    intro s hs t ht
    rcases List.mem_cons.mp ht with rfl | ht
    · exact hxs s hs
    · exact IsTrans.trans s r t (hxs s hs) (hys t ht)
  · rw [← List.countP_eq_length_filter, hperm.countP_eq, List.countP_append, List.countP_append,
      List.countP_cons]
    omega

variable (le) in
theorem exists_delivers_at_first (hr : r ∈ rows) :
    ∃ xs ys, Delivers le rows (xs ++ r :: ys) ∧ xs.length = firstPlace le rows r := by
  obtain ⟨xs, ys, hdelivers, hlength⟩ :=
    exists_delivers_between le hr (fun s => !decide (le r s))
      (fun s hs => (Std.Total.total s r).resolve_right (by simpa using hs))
      (fun s hs => by simpa using hs)
  exact ⟨xs, ys, hdelivers, by simpa [firstPlace, le_self r] using hlength⟩

variable (le) in
theorem exists_delivers_at_last (hr : r ∈ rows) :
    ∃ xs ys, Delivers le rows (xs ++ r :: ys) ∧ xs.length = lastPlace le rows r := by
  obtain ⟨xs, ys, hdelivers, hlength⟩ :=
    exists_delivers_between le hr (fun s => decide (le s r))
      (fun s hs => by simpa using hs)
      (fun s hs => (Std.Total.total r s).resolve_right (by simpa using hs))
  refine ⟨xs, ys, hdelivers, ?_⟩
  have hcount : xs.length + 1 = rows.countP fun s => decide (le s r) := by
    simpa [le_self r] using hlength
  unfold lastPlace
  omega

variable (le) in
theorem exists_delivers (rows : List α) : ∃ order, Delivers le rows order :=
  ⟨rows.insertionSort le, List.perm_insertionSort le rows, List.pairwise_insertionSort le rows⟩

end Orders

/-! ## Items -/

section Items

variable {item : α → Option β} {key : β → ι} {id : α → ι}

/-- The items of rows have the keys of the rows. Induction on the rows. -/
theorem keys_of_mapM (hitem : ∀ r b, item r = some b → key b = id r) {rows : List α}
    {items : List β} (h : rows.mapM item = some items) :
    items.map key = rows.map id ∧ ∀ r ∈ rows, (item r).isSome := by
  induction rows generalizing items with
  | nil =>
    obtain rfl : [] = items := by simpa using h
    exact ⟨rfl, fun r hr => absurd hr List.not_mem_nil⟩
  | cons r rows ih =>
    rw [List.mapM_cons, Option.bind_eq_bind, Option.bind_eq_some_iff] at h
    obtain ⟨b, hb, hrest⟩ := h
    rw [Option.bind_eq_bind, Option.bind_eq_some_iff] at hrest
    obtain ⟨rest, hrest, hitems⟩ := hrest
    obtain ⟨hkeys, hsome⟩ := ih hrest
    obtain rfl : b :: rest = items := Option.some.inj hitems
    refine ⟨by rw [List.map_cons, List.map_cons, hitem r b hb, hkeys], ?_⟩
    exact List.forall_mem_cons.mpr ⟨by rw [hb]; rfl, hsome⟩

theorem exists_mapM {rows : List α} (h : ∀ r ∈ rows, (item r).isSome) :
    ∃ items, rows.mapM item = some items := by
  induction rows with
  | nil => exact ⟨[], rfl⟩
  | cons r rows ih =>
    obtain ⟨hr, hrows⟩ := List.forall_mem_cons.mp h
    obtain ⟨b, hb⟩ := Option.isSome_iff_exists.mp hr
    obtain ⟨items, hitems⟩ := ih hrows
    exact ⟨b :: items, by simp [List.mapM_cons, hb, hitems]⟩

theorem toOption_mapM {ε : Type*} (f : α → Except ε β) (rows : List α) :
    (rows.mapM f).toOption = rows.mapM fun r => (f r).toOption := by
  induction rows with
  | nil => rfl
  | cons r rows ih =>
    rw [List.mapM_cons, List.mapM_cons, ← ih]
    cases f r with
    | error e => rfl
    | ok b =>
      cases rows.mapM f with
      | error e => rfl
      | ok items => rfl

theorem shown_iff (hitem : ∀ r b, item r = some b → key b = id r) {rows : List α} {i : ℕ}
    {k : ι} :
    (∃ items, rows.mapM item = some items ∧ items[i]?.map key = some k) ↔
      (∀ r ∈ rows, (item r).isSome) ∧ rows[i]?.map id = some k := by
  constructor
  · rintro ⟨items, hitems, hi⟩
    obtain ⟨hkeys, hsome⟩ := keys_of_mapM hitem hitems
    refine ⟨hsome, ?_⟩
    rw [← List.getElem?_map, ← hkeys, List.getElem?_map]
    exact hi
  · rintro ⟨hsome, hi⟩
    obtain ⟨items, hitems⟩ := exists_mapM hsome
    refine ⟨items, hitems, ?_⟩
    rw [← List.getElem?_map, (keys_of_mapM hitem hitems).1, List.getElem?_map]
    exact hi

theorem getElem?_key_iff {xs ys : List α} {r : α} (h : ((xs ++ r :: ys).map id).Nodup) {j : ℕ} :
    (xs ++ r :: ys)[j]?.map id = some (id r) ↔ j = xs.length := by
  have hplace : ((xs ++ r :: ys).map id)[xs.length]? = some (id r) := by simp
  rw [← List.getElem?_map]
  constructor
  · intro hj
    have hlt : j < ((xs ++ r :: ys).map id).length := (List.getElem?_eq_some_iff.mp hj).1
    exact (List.getElem?_inj hlt h).mp (hj.trans hplace.symm)
  · rintro rfl
    exact hplace

theorem existsUnique_place_iff {size : ℕ} (hsize : 0 < size) (places : ℕ → ℕ) :
    (∃! p : ℕ × ℕ, p.2 < size ∧ p.1 * size + p.2 = places p.1) ↔
      ∃! n, places n / size = n := by
  have hdiv : ∀ n i, i < size → n * size + i = places n → places n / size = n := by
    intro n i hi hn
    rw [← hn, Nat.mul_comm, Nat.mul_add_div hsize, Nat.div_eq_of_lt hi, Nat.add_zero]
  have hmod : ∀ n, places n / size = n → n * size + places n % size = places n := by
    intro n hn
    have hdm := Nat.div_add_mod' (places n) size
    rw [hn] at hdm
    exact hdm
  constructor
  · rintro ⟨⟨n, i⟩, ⟨hi, hn⟩, hunique⟩
    refine ⟨n, hdiv n i hi hn, fun m hm => ?_⟩
    exact congrArg Prod.fst (hunique (m, places m % size) ⟨Nat.mod_lt _ hsize, hmod m hm⟩)
  · rintro ⟨n, hn, hunique⟩
    refine ⟨(n, places n % size), ⟨Nat.mod_lt _ hsize, hmod n hn⟩, ?_⟩
    rintro ⟨m, i⟩ ⟨hi, hm⟩
    obtain rfl := hunique m (hdiv m i hi hm)
    have hmn := hmod m hn
    exact Prod.ext rfl (by show i = places m % size; dsimp only at hm; omega)

/-- The pages of a listing, when query `n` has the rows in the order `orders n`. -/
def pages (item : α → Option β) (size : ℕ) (orders : ℕ → List α) (n : ℕ) : Option (List β) :=
  (window (n * size) size (orders n)).mapM item

section Exact

variable {le : α → α → Prop} {size : ℕ} {rows : List α} (hsize : 0 < size)
  (hitem : ∀ r b, item r = some b → key b = id r) (hnodup : (rows.map id).Nodup)

include hitem in
theorem isSome_of_shownOnce (hnodup : (rows.map id).Nodup) {orders : ℕ → List α}
    (horders : ∀ n, Delivers le rows (orders n)) {r : α} (hr : r ∈ rows)
    (h : ShownOnce (pages item size orders) key (id r)) : (item r).isSome := by
  obtain ⟨⟨n, i⟩, hshown, -⟩ := h
  obtain ⟨hsome, hplace⟩ := (shown_iff hitem).mp hshown
  obtain ⟨s, hs, hid⟩ := Option.map_eq_some_iff.mp hplace
  have hmem := List.mem_of_getElem? hs
  -- the row in that place has the key of `r`, so it is `r`
  have hrow : s ∈ rows := (horders n).perm.mem_iff.mp (mem_of_mem_window hmem)
  rw [← List.inj_on_of_nodup_map hnodup hrow hr hid]
  exact hsome s hmem

include hsize hitem hnodup in
theorem shownOnce_iff_places (hsome : ∀ r ∈ rows, (item r).isSome) {orders : ℕ → List α}
    (horders : ∀ n, Delivers le rows (orders n)) {r : α} {places : ℕ → ℕ}
    (hplaces : ∀ n, ∃ xs ys, orders n = xs ++ r :: ys ∧ xs.length = places n) :
    ShownOnce (pages item size orders) key (id r) ↔ ∃! n, places n / size = n := by
  rw [← existsUnique_place_iff hsize places]
  refine existsUnique_congr fun p => ?_
  have hrows : ∀ s ∈ window (p.1 * size) size (orders p.1), (item s).isSome := fun s hs =>
    hsome s ((horders p.1).perm.mem_iff.mp (mem_of_mem_window hs))
  unfold pages
  rw [shown_iff hitem, and_iff_right hrows, getElem?_window]
  obtain ⟨xs, ys, horder, hlength⟩ := hplaces p.1
  by_cases hi : p.2 < size
  · have hkeys : ((xs ++ r :: ys).map id).Nodup := by
      rw [← horder, ((horders p.1).perm.map id).nodup_iff]
      exact hnodup
    rw [if_pos hi, horder, getElem?_key_iff hkeys, hlength]
    exact (and_iff_right hi).symm
  · simp [hi]

variable [DecidableRel le] [Std.Total le] [IsTrans α le]

include hsize hitem hnodup in
/-- **The pages of a listing** have every row exactly once, in whatever order each query has the
rows, if and only if every row can be shown and each can stand on one page only. -/
theorem shownOnce_iff :
    (∀ orders : ℕ → List α, (∀ n, Delivers le rows (orders n)) →
        ∀ r ∈ rows, ShownOnce (pages item size orders) key (id r)) ↔
      (∀ r ∈ rows, (item r).isSome) ∧ ∀ r ∈ rows, OnOnePage le size rows r := by
  constructor
  · intro h
    have hsome : ∀ r ∈ rows, (item r).isSome := by
      intro r hr
      obtain ⟨order, horder⟩ := exists_delivers le rows
      exact isSome_of_shownOnce hitem hnodup (fun _ => horder) hr (h _ (fun _ => horder) r hr)
    refine ⟨hsome, fun r hr => ?_⟩
    obtain ⟨xs, ys, hfirst, hxs⟩ := exists_delivers_at_first le hr
    obtain ⟨xs', ys', hlast, hxs'⟩ := exists_delivers_at_last le hr
    -- the page of the first place has the row last in its query, all others have it first
    let page := firstPlace le rows r / size
    have horders : ∀ n,
        Delivers le rows (if n = page then xs' ++ r :: ys' else xs ++ r :: ys) := by
      intro n
      split
      · exact hlast
      · exact hfirst
    have hplaces : ∀ n, ∃ ls rs,
        (if n = page then xs' ++ r :: ys' else xs ++ r :: ys) = ls ++ r :: rs ∧
          ls.length = if n = page then lastPlace le rows r else firstPlace le rows r := by
      intro n
      by_cases hn : n = page
      · rw [if_pos hn, if_pos hn]
        exact ⟨xs', ys', rfl, hxs'⟩
      · rw [if_neg hn, if_neg hn]
        exact ⟨xs, ys, rfl, hxs⟩
    obtain ⟨n, hn, -⟩ :=
      (shownOnce_iff_places hsize hitem hnodup hsome horders hplaces).mp (h _ horders r hr)
    by_cases hpage : n = page
    · rw [if_pos hpage] at hn
      exact (hn.trans hpage).symm
    · rw [if_neg hpage] at hn
      exact absurd hn.symm hpage
  · rintro ⟨hsome, hpage⟩ orders horders r hr
    have hplace : ∀ n, ∃ xs ys, orders n = xs ++ r :: ys := fun n =>
      List.append_of_mem ((horders n).perm.mem_iff.mpr hr)
    choose xs ys horder using hplace
    have hplaces : ∀ n, ∃ ls rs, orders n = ls ++ r :: rs ∧ ls.length = (xs n).length :=
      fun n => ⟨xs n, ys n, horder n, rfl⟩
    rw [shownOnce_iff_places hsize hitem hnodup hsome horders hplaces]
    -- whatever place it has, it is on the page of its first one
    have hdiv : ∀ n, (xs n).length / size = firstPlace le rows r / size := by
      intro n
      obtain ⟨hlow, hhigh⟩ := place_bounds (horder n ▸ horders n)
      have hle := Nat.div_le_div_right (c := size) hlow
      have hge := Nat.div_le_div_right (c := size) hhigh
      rw [← hpage r hr] at hge
      exact le_antisymm hge hle
    simp only [hdiv]
    exact existsUnique_eq'

variable (le) in
include hsize hitem hnodup in
theorem listing_exact_iff {answer : (List α → List α) → ℕ → Option (List β)}
    (hanswer : ∀ deliver n,
      answer deliver n = (window (n * size) size (deliver rows)).mapM item) :
    (∀ deliver : ℕ → List α → List α, (∀ n, Delivers le rows (deliver n rows)) →
        ∀ r ∈ rows, ShownOnce (fun n => answer (deliver n) n) key (id r)) ↔
      (∀ r ∈ rows, (item r).isSome) ∧ ∀ r ∈ rows, OnOnePage le size rows r := by
  rw [← shownOnce_iff hsize hitem hnodup]
  constructor
  · intro h orders horders r hr
    have hshown := h (fun n _ => orders n) horders r hr
    simp only [hanswer] at hshown
    exact hshown
  · intro h deliver hdeliver r hr
    have hshown := h (fun n => deliver n rows) hdeliver r hr
    simp only [hanswer]
    exact hshown

end Exact

theorem onOnePage_unordered_iff {size : ℕ} (hsize : 0 < size) {rows : List α} {r : α}
    (hr : r ∈ rows) : OnOnePage unordered size rows r ↔ rows.length ≤ size := by
  have hall : ∀ a b : α, decide (unordered a b) = true := fun _ _ => rfl
  have hfirst : firstPlace unordered rows r = 0 := by
    unfold firstPlace
    simp only [hall, Bool.not_true]
    simp
  have hlast : lastPlace unordered rows r = rows.length - 1 := by
    unfold lastPlace
    simp only [hall, List.countP_true]
  have hpos := List.length_pos_of_mem hr
  unfold OnOnePage
  rw [hfirst, hlast, Nat.zero_div, eq_comm, Nat.div_eq_zero_iff]
  omega

end Items

end OffsetPages
