import Mathlib.Data.List.Sort

/-!
# Keyset — listing a table page by page

A listing in descending order of a key is read in pages. A request reads one row more than the
page holds, to see whether there is a next page, and the next request asks for the keys below that
of the page's last row. The table may get new rows meanwhile.

* **`query_below`** — what a request reads, when the new rows come before all the first ones.
* **`mem_walk`** — the pages have all first rows, whatever cursors their last rows give.
* **`listing_of_pageEnds`** / **`pageEnds_of_listing`** — they have each of them once and in order,
  exactly when no full page before the last one ends in a row that gives no cursor.
-/

namespace Keyset

variable {α K : Type*} [LinearOrder K] (key : α → K)

/-- `ORDER BY key DESC`. -/
def orderBy (rows : List α) : List α := rows.insertionSort fun a b => key b ≤ key a

/-- `WHERE key < cursor`, when there is one. -/
def below : Option K → List α → List α
  | none, rows => rows
  | some c, rows => rows.filter fun r => decide (key r < c)

/-- The rows of a page, and one more. -/
def query (limit : ℕ) (cursor : Option K) (rows : List α) : List α :=
  (orderBy key (below key cursor rows)).take (limit + 1)

/-- The rows of all pages from request `n` on; `none` when there are more requests than `fuel`.
Request `n` sees the table `tables n`, and `cursorOf` is what the last row of a page gives. -/
def walk (cursorOf : α → Option K) (limit : ℕ) (tables : ℕ → List α) :
    ℕ → ℕ → Option K → Option (List α)
  | 0, _, _ => none
  | fuel + 1, n, cursor =>
    let rows := query key limit cursor (tables n)
    let items := rows.take limit
    if limit < rows.length then
      match items.getLast? with
      | none => some items
      | some last => (walk cursorOf limit tables fuel (n + 1) (cursorOf last)).map (items ++ ·)
    else some items

/-! ## The order -/

/-- Strictly descending keys. -/
def Descending (rows : List α) : Prop := rows.Pairwise fun a b => key b < key a

theorem perm_orderBy (rows : List α) : (orderBy key rows).Perm rows :=
  List.perm_insertionSort _ rows

variable {rows : List α}

theorem mem_orderBy {r : α} : r ∈ orderBy key rows ↔ r ∈ rows :=
  (perm_orderBy key rows).mem_iff

theorem pairwise_orderBy (rows : List α) :
    (orderBy key rows).Pairwise fun a b => key b ≤ key a :=
  haveI : Std.Total fun a b : α => key b ≤ key a := ⟨fun a b => le_total (key b) (key a)⟩
  haveI : IsTrans α fun a b => key b ≤ key a := ⟨fun _ _ _ hab hbc => hbc.trans hab⟩
  List.pairwise_insertionSort _ rows

variable {key}

theorem descending_orderBy (h : (rows.map key).Nodup) : Descending key (orderBy key rows) := by
  have hnodup : ((orderBy key rows).map key).Nodup :=
    ((perm_orderBy key rows).map key).nodup_iff.mpr h
  have hne := List.pairwise_map.mp hnodup
  exact ((pairwise_orderBy key rows).and hne).imp fun ⟨hle, hne⟩ => lt_of_le_of_ne hle hne.symm

theorem Descending.eq_orderBy {l : List α} (h : Descending key l) (hperm : l.Perm rows) :
    l = orderBy key rows := by
  have hkeys : (rows.map key).Nodup := by
    refine (hperm.map key).nodup_iff.mp (List.pairwise_map.mpr ?_)
    exact h.imp fun hlt => hlt.ne'
  have hsorted := descending_orderBy hkeys
  refine List.Perm.eq_of_pairwise ?_ h hsorted (hperm.trans (perm_orderBy key rows).symm)
  intro a b _ _ hab hba
  exact absurd hab hba.asymm

variable {rest above : List α} {a : α}

theorem Descending.notMem (h : Descending key (above ++ a :: rest)) : a ∉ rest := by
  obtain ⟨-, hrest, -⟩ := List.pairwise_append.mp h
  intro hmem
  exact lt_irrefl _ ((List.pairwise_cons.mp hrest).1 a hmem)

/-! ## What a request reads -/

/-- A table that changes between requests: its new rows have larger keys than all the first ones. -/
structure Grows (key : α → K) (tables : ℕ → List α) : Prop where
  keys_nodup : ∀ n, ((tables n).map key).Nodup
  newer : ∀ n, ∃ more, tables n = tables 0 ++ more ∧ ∀ r ∈ more, ∀ s ∈ tables 0, key s < key r

variable {tables : ℕ → List α}

theorem Grows.mem (h : Grows key tables) (n : ℕ) {r : α} (hr : r ∈ tables 0) : r ∈ tables n := by
  obtain ⟨more, hmore, -⟩ := h.newer n
  rw [hmore]
  exact List.mem_append_left _ hr

theorem Grows.below_eq (h : Grows key tables) (n : ℕ) {s : α} (hs : s ∈ tables 0) :
    below key (some (key s)) (tables n) = below key (some (key s)) (tables 0) := by
  obtain ⟨more, hmore, hnewer⟩ := h.newer n
  have hnone : more.filter (fun r => decide (key r < key s)) = [] := by
    rw [List.filter_eq_nil_iff]
    intro r hr
    simpa using (hnewer r hr s hs).le
  rw [hmore]
  simp only [below, List.filter_append, hnone, List.append_nil]

theorem Descending.filter_below (h : Descending key (above ++ a :: rest)) :
    (above ++ a :: rest).filter (fun r => decide (key r < key a)) = rest := by
  obtain ⟨-, hrest, hcross⟩ := List.pairwise_append.mp h
  obtain ⟨hlt, -⟩ := List.pairwise_cons.mp hrest
  have habove : above.filter (fun r => decide (key r < key a)) = [] := by
    rw [List.filter_eq_nil_iff]
    intro r hr
    simpa using (hcross r hr a List.mem_cons_self).le
  have hself : rest.filter (fun r => decide (key r < key a)) = rest :=
    List.filter_eq_self.mpr fun r hr => decide_eq_true (hlt r hr)
  rw [List.filter_append, habove, List.nil_append,
    List.filter_cons_of_neg (by simp), hself]

/-- **The next page.** After a row of the first listing a request reads on where it was left, also
in the table as it has become. -/
theorem query_below (h : Grows key tables) (n limit : ℕ)
    (hlist : orderBy key (tables 0) = above ++ a :: rest) :
    query key limit (some (key a)) (tables n) = rest.take (limit + 1) := by
  have hdesc : Descending key (above ++ a :: rest) := hlist ▸ descending_orderBy (h.keys_nodup 0)
  have ha : a ∈ tables 0 := (mem_orderBy key).mp (by rw [hlist]; simp)
  have hperm : rest.Perm (below key (some (key a)) (tables 0)) := by
    have hfilter := (perm_orderBy key (tables 0)).filter fun r => decide (key r < key a)
    rw [hlist, hdesc.filter_below] at hfilter
    exact hfilter
  have hrest : Descending key rest :=
    ((List.pairwise_append.mp hdesc).2.1 |> List.pairwise_cons.mp).2
  rw [query, h.below_eq n ha, ← hrest.eq_orderBy hperm]

/-! ## The ends of the pages -/

/-- What holds of the last row of every full page that is followed by another. -/
def PageEnds (limit : ℕ) (p : α → Prop) (rows : List α) : Prop :=
  ∀ above a rest, rows = above ++ a :: rest → rest ≠ [] → limit ∣ above.length + 1 → p a

variable {limit : ℕ} {p : α → Prop}

theorem pageEnds_of_forall (h : ∀ r ∈ rows, p r) : PageEnds limit p rows := by
  intro above a rest hrows _ _
  exact h a (hrows ▸ List.mem_append_right above List.mem_cons_self)

theorem pageEnds_of_length_le (h : rows.length ≤ limit) : PageEnds limit p rows := by
  intro above a rest hrows hrest hdvd
  have hle := Nat.le_of_dvd (Nat.succ_pos _) hdvd
  have hpos := List.length_pos_iff.mpr hrest
  rw [hrows, List.length_append, List.length_cons] at h
  omega

theorem pageEnds_append {pre : List α} (hlimit : pre.length + 1 = limit) (hrest : rest ≠ []) :
    PageEnds limit p (pre ++ a :: rest) ↔ p a ∧ PageEnds limit p rest := by
  constructor
  · intro h
    refine ⟨h pre a rest rfl hrest ⟨1, by omega⟩, fun above b rest' hrows hrest' hdvd => ?_⟩
    refine h (pre ++ a :: above) b rest' (by rw [hrows]; simp) hrest' ?_
    have hlength : (pre ++ a :: above).length + 1 = limit + (above.length + 1) := by
      simp only [List.length_append, List.length_cons]
      omega
    rw [hlength]
    exact (Nat.dvd_add_right (Nat.dvd_refl limit)).mpr hdvd
  · rintro ⟨ha, h⟩ above b rest' hrows hrest' hdvd
    have hle := Nat.le_of_dvd (Nat.succ_pos _) hdvd
    -- `b` ends the first page, or one of the pages after it
    rcases List.append_eq_append_iff.mp hrows with ⟨mid, habove, hmid⟩ | ⟨mid, hpre, -⟩
    · cases mid with
      | nil =>
        obtain ⟨rfl, -⟩ := List.cons.inj hmid
        exact ha
      | cons c mid =>
        obtain ⟨rfl, hnext⟩ := List.cons.inj hmid
        refine h mid b rest' hnext hrest' ((Nat.dvd_add_right (Nat.dvd_refl limit)).mp ?_)
        have hlength : above.length + 1 = limit + (mid.length + 1) := by
          rw [habove, List.length_append, List.length_cons]
          omega
        exact hlength ▸ hdvd
    · have hmid : mid = [] := by
        have hlength := congrArg List.length hpre
        rw [List.length_append] at hlength
        exact List.length_eq_zero_iff.mp (by omega)
      subst hmid
      rw [List.append_nil] at hpre
      subst hpre
      obtain ⟨rfl, -⟩ := List.cons.inj (List.append_cancel_left hrows)
      exact ha

/-! ## The walk -/

variable {cursorOf : α → Option K}

theorem below_sublist (cursor : Option K) (rows : List α) :
    (below key cursor rows).Sublist rows := by
  cases cursor with
  | none => exact List.Sublist.refl rows
  | some c => exact List.filter_sublist

variable {cursor : Option K}

theorem mem_of_mem_query {r : α} (h : r ∈ query key limit cursor rows) : r ∈ rows :=
  (below_sublist cursor rows).subset ((mem_orderBy key).mp (List.mem_of_mem_take h))

/-- The row whose cursor the request after the one that reads `rows` has. -/
def lastOf (limit : ℕ) (rows : List α) : Option α :=
  if limit < rows.length then (rows.take limit).getLast? else none

theorem mem_of_lastOf (h : lastOf limit rows = some a) : a ∈ rows.take limit := by
  unfold lastOf at h
  split at h
  · exact List.mem_of_getLast? h
  · cases h

variable {fuel : ℕ} {out : List α} {n : ℕ}

theorem walk_succ_eq_some :
    walk key cursorOf limit tables (fuel + 1) n cursor = some out ↔
      ∃ tail, out = (query key limit cursor (tables n)).take limit ++ tail ∧
        match lastOf limit (query key limit cursor (tables n)) with
        | none => tail = []
        | some last =>
          walk key cursorOf limit tables fuel (n + 1) (cursorOf last) = some tail := by
  simp only [walk, lastOf]
  split
  · cases hlast : ((query key limit cursor (tables n)).take limit).getLast? with
    | none => simp [eq_comm]
    | some last =>
      rw [Option.map_eq_some_iff]
      exact ⟨fun ⟨tail, htail, hout⟩ => ⟨tail, hout.symm, htail⟩,
        fun ⟨tail, hout, htail⟩ => ⟨tail, htail, hout.symm⟩⟩
  · simp [eq_comm]

theorem walk_last (hle : rest.length ≤ limit)
    (hquery : query key limit cursor (tables n) = rest.take (limit + 1)) :
    walk key cursorOf limit tables (fuel + 1) n cursor = some rest := by
  rw [List.take_of_length_le (by omega)] at hquery
  simp only [walk, hquery, List.take_of_length_le hle, not_lt.mpr hle, if_false]

theorem walk_page {pre : List α} (hlimit : pre.length + 1 = limit) (hrest : rest ≠ [])
    (hquery : query key limit cursor (tables n) = (pre ++ a :: rest).take (limit + 1)) :
    walk key cursorOf limit tables (fuel + 1) n cursor =
      (walk key cursorOf limit tables fuel (n + 1) (cursorOf a)).map ((pre ++ [a]) ++ ·) := by
  have hitems : (query key limit cursor (tables n)).take limit = pre ++ [a] := by
    have hlength : (pre ++ [a]).length = limit := by simpa using hlimit
    rw [hquery, List.take_take, min_eq_left (Nat.le_succ _), ← List.singleton_append,
      ← List.append_assoc, ← hlength, List.take_left]
  have hmore : limit < (query key limit cursor (tables n)).length := by
    have hpos := List.length_pos_iff.mpr hrest
    rw [hquery, List.length_take, List.length_append, List.length_cons]
    omega
  simp only [walk, hitems, hmore, if_true, List.getLast?_append, List.getLast?_singleton,
    Option.some_or]

theorem page_cases (hlimit : 0 < limit) (rows : List α) :
    rows.length ≤ limit ∨
      ∃ pre a rest, rows = pre ++ a :: rest ∧ pre.length + 1 = limit ∧ rest ≠ [] := by
  rcases Nat.lt_or_ge limit rows.length with hmore | hle
  · have hdrop := List.drop_eq_getElem_cons (show limit - 1 < rows.length by omega)
    rw [Nat.sub_add_cancel hlimit] at hdrop
    refine .inr ⟨rows.take (limit - 1), rows[limit - 1], rows.drop limit, ?_, ?_, ?_⟩
    · rw [← hdrop, List.take_append_drop]
    · rw [List.length_take]
      omega
    · exact List.ne_nil_of_length_pos (by rw [List.length_drop]; omega)
  · exact .inl hle

theorem mem_of_mem_walk {r : α} (h : walk key cursorOf limit tables fuel n cursor = some out)
    (hr : r ∈ out) : ∃ m, r ∈ tables m := by
  induction fuel generalizing n cursor out with
  | zero => cases h
  | succ fuel ih =>
    obtain ⟨tail, rfl, htail⟩ := walk_succ_eq_some.mp h
    rcases List.mem_append.mp hr with hr | hr
    · exact ⟨n, mem_of_mem_query (List.mem_of_mem_take hr)⟩
    · split at htail
      · subst htail
        cases hr
      · exact ih htail hr

theorem mem_walk (hlimit : 0 < limit) (h : Grows key tables)
    (hcursor : ∀ a k, cursorOf a = some k → k = key a) {r : α}
    (hwalk : walk key cursorOf limit tables fuel n cursor = some out) (hr : r ∈ tables 0)
    (hbelow : ∀ k ∈ cursor, key r < k) : r ∈ out := by
  induction fuel generalizing n cursor out with
  | zero => cases hwalk
  | succ fuel ih =>
    have hmem : r ∈ orderBy key (below key cursor (tables n)) := by
      rw [mem_orderBy]
      cases cursor with
      | none => exact h.mem n hr
      | some c => exact List.mem_filter.mpr ⟨h.mem n hr, decide_eq_true (hbelow c rfl)⟩
    have hsub : (below key cursor (tables n)).Sublist (tables n) := below_sublist cursor _
    have hdesc := descending_orderBy ((hsub.map key).nodup (h.keys_nodup n))
    rcases page_cases hlimit (orderBy key (below key cursor (tables n))) with
      hle | ⟨pre, a, rest, hsorted, hpre, hrest⟩
    · rw [walk_last hle rfl] at hwalk
      cases hwalk
      exact hmem
    · rw [walk_page hpre hrest (by rw [query, hsorted]), Option.map_eq_some_iff] at hwalk
      obtain ⟨tail, htail, rfl⟩ := hwalk
      rw [hsorted] at hmem hdesc
      have hlt := (List.pairwise_cons.mp (List.pairwise_append.mp hdesc).2.1).1
      rw [List.append_assoc, List.singleton_append]
      -- the row is on this page, or below the key the next request goes on from
      rcases List.mem_append.mp hmem with hpage | hmem
      · exact List.mem_append_left _ hpage
      · rcases List.mem_cons.mp hmem with rfl | hmem
        · exact List.mem_append_right _ List.mem_cons_self
        · refine List.mem_append_right _ (List.mem_cons_of_mem _ (ih htail fun k hk => ?_))
          exact hcursor a k hk ▸ hlt r hmem

theorem query_next (h : Grows key tables) (hcursor : ∀ a k, cursorOf a = some k → k = key a)
    {pre next : List α} (ha : cursorOf a ≠ none)
    (hlist : orderBy key (tables 0) = above ++ (pre ++ a :: next)) (n : ℕ) :
    orderBy key (tables 0) = (above ++ pre ++ [a]) ++ next ∧
      query key limit (cursorOf a) (tables n) = next.take (limit + 1) := by
  obtain ⟨k, hk⟩ := Option.ne_none_iff_exists'.mp ha
  rw [← List.append_assoc] at hlist
  refine ⟨by rw [hlist, List.append_assoc _ [a], List.singleton_append], ?_⟩
  rw [hk, hcursor a k hk]
  exact query_below h n limit hlist

/-- Where all full pages end in rows that give a cursor, the walk gives what is left of the first
listing, and nothing else. Induction on what is left. -/
theorem walk_of_pageEnds (hlimit : 0 < limit) (h : Grows key tables)
    (hcursor : ∀ a k, cursorOf a = some k → k = key a)
    (hlist : orderBy key (tables 0) = above ++ rest)
    (hquery : query key limit cursor (tables n) = rest.take (limit + 1))
    (hends : PageEnds limit (fun a => cursorOf a ≠ none) rest) :
    ∃ fuel, walk key cursorOf limit tables fuel n cursor = some rest := by
  induction hsize : rest.length using Nat.strong_induction_on generalizing above rest n cursor with
  | _ size ih =>
    subst hsize
    rcases page_cases hlimit rest with hle | ⟨pre, a, next, rfl, hpre, hnext⟩
    · exact ⟨1, walk_last hle hquery⟩
    · obtain ⟨ha, hends⟩ := (pageEnds_append hpre hnext).mp hends
      obtain ⟨hlist', hquery'⟩ := query_next h hcursor ha hlist (n + 1)
      have hshorter : next.length < (pre ++ a :: next).length := by
        rw [List.length_append, List.length_cons]
        omega
      obtain ⟨fuel, hwalk⟩ := ih next.length hshorter hlist' hquery' hends rfl
      exact ⟨fuel + 1, by rw [walk_page hpre hnext hquery, hwalk]; simp⟩

/-- **All pages.** The first rows are listed once and in order when all full pages but the last end
in rows that give a cursor. -/
theorem listing_of_pageEnds (hlimit : 0 < limit) (h : Grows key tables)
    (hcursor : ∀ a k, cursorOf a = some k → k = key a)
    (hends : PageEnds limit (fun a => cursorOf a ≠ none) (orderBy key (tables 0))) :
    ∃ fuel, walk key cursorOf limit tables fuel 0 none = some (orderBy key (tables 0)) :=
  have hlist : orderBy key (tables 0) = [] ++ orderBy key (tables 0) := rfl
  have hquery : query key limit none (tables 0) = (orderBy key (tables 0)).take (limit + 1) := rfl
  walk_of_pageEnds hlimit h hcursor hlist hquery hends

variable [DecidableEq α]

theorem filter_page {page : List α} (hlist : orderBy key (tables 0) = above ++ (page ++ rest)) :
    (page.filter fun r => decide (r ∈ tables 0)) = page := by
  refine List.filter_eq_self.mpr fun r hr => decide_eq_true ((mem_orderBy key).mp ?_)
  rw [hlist]
  exact List.mem_append_right _ (List.mem_append_left _ hr)

/-- A full page that ends in a row without a cursor sends the walk back to the top, where it comes
by that row again. Induction on the requests. -/
theorem pageEnds_of_walk (hlimit : 0 < limit) (h : Grows key tables)
    (hcursor : ∀ a k, cursorOf a = some k → k = key a)
    (hlist : orderBy key (tables 0) = above ++ rest)
    (hquery : query key limit cursor (tables n) = rest.take (limit + 1))
    (hwalk : walk key cursorOf limit tables fuel n cursor = some out)
    (hout : (out.filter fun r => decide (r ∈ tables 0)) = rest) :
    PageEnds limit (fun a => cursorOf a ≠ none) rest := by
  induction fuel generalizing above rest n cursor out with
  | zero => cases hwalk
  | succ fuel ih =>
    rcases page_cases hlimit rest with hle | ⟨pre, a, next, hrest, hpre, hnext⟩
    · exact pageEnds_of_length_le hle
    · subst hrest
      rw [walk_page hpre hnext hquery, Option.map_eq_some_iff] at hwalk
      obtain ⟨tail, htail, rfl⟩ := hwalk
      have hnextout : (tail.filter fun r => decide (r ∈ tables 0)) = next := by
        have hpage : pre ++ a :: next = (pre ++ [a]) ++ next := by simp
        rw [hpage] at hlist hout
        rw [List.filter_append, filter_page hlist, List.append_cancel_left_eq] at hout
        exact hout
      have hlisted : orderBy key (tables 0) = (above ++ pre) ++ a :: next := by
        rw [hlist, List.append_assoc]
      have ha : cursorOf a ≠ none := by
        intro hnone
        -- `a` is listed again, but is not among the rows that are left
        have hmem : a ∈ tables 0 := by
          rw [← mem_orderBy key, hlisted]
          exact List.mem_append_right _ List.mem_cons_self
        have hagain : a ∈ tail := mem_walk hlimit h hcursor htail hmem (by rw [hnone]; nofun)
        have hdesc := descending_orderBy (h.keys_nodup 0)
        rw [hlisted] at hdesc
        exact hdesc.notMem (hnextout ▸ List.mem_filter.mpr ⟨hagain, decide_eq_true hmem⟩)
      obtain ⟨hlist', hquery'⟩ := query_next h hcursor ha hlist (n + 1)
      exact (pageEnds_append hpre hnext).mpr ⟨ha, ih hlist' hquery' htail hnextout⟩

/-- **Only then.** The pages have each first row once and in order only if all full pages but the
last end in rows that give a cursor. -/
theorem pageEnds_of_listing (hlimit : 0 < limit) (h : Grows key tables)
    (hcursor : ∀ a k, cursorOf a = some k → k = key a)
    (hwalk : walk key cursorOf limit tables fuel 0 none = some out)
    (hout : (out.filter fun r => decide (r ∈ tables 0)) = orderBy key (tables 0)) :
    PageEnds limit (fun a => cursorOf a ≠ none) (orderBy key (tables 0)) :=
  have hlist : orderBy key (tables 0) = [] ++ orderBy key (tables 0) := rfl
  have hquery : query key limit none (tables 0) = (orderBy key (tables 0)).take (limit + 1) := rfl
  pageEnds_of_walk hlimit h hcursor hlist hquery hwalk hout

end Keyset
