import Mathlib.Data.List.Lex
import Mathlib.Data.Char
import Mathlib.Data.Prod.Lex
import NocIq.Isoformat
import NocIq.Lib.Keyset
import NocIq.Payment.Repository

/-!
# NocIq — listing payments by cursor

`list_cursor` of the `PaymentRepository`, and how `list_payments` parses its cursor, which is text:
the `created_at` of a page's last payment and its id.

The database orders ids by a collation, and a `created_at` is read as a naive or an aware datetime,
depending on it (`Dialect`). Its `outage_id` is NULL once the outage of a payment is gone.

* **`parseCursor_nextCursor`** — the cursor is parsed as what it was made of.
* **`walk_eq_ok_iff`** — following the cursors is a walk of `Keyset`, over rows with an outage.
* **`cursor_pages_exact_iff`** — when the pages give every payment once, in order.
-/

namespace NocIq

/-- A row of `payment_transactions`, whichever of its nullable columns are NULL. -/
structure PaymentRow where
  id : String
  transactionHash : String
  type : String
  amount : ℚ
  assetCode : String
  fromAddress : String
  toAddress : String
  status : String
  outageId : Option String
  slaResultId : Option Nat := none
  createdAt : Time
  confirmedAt : Option Time := none
  retryCount : Nat := 0
  lastRetriedAt : Option Time := none
  failureTaxonomy : Option String := none
  idempotencyKey : Option String := none
  deadLetterReason : Option String := none
  deadLetteredAt : Option Time := none
  deriving DecidableEq, Repr

/-- What the database and its driver make of the columns a listing is ordered by. -/
structure Dialect (K : Type) [LinearOrder K] where
  /-- the datetime a stored `created_at` is read as -/
  read : Time → Datetime
  /-- the stored value a datetime in a query is compared as -/
  bind : Datetime → Time
  bind_read : ∀ t, bind (read t) = t
  /-- what the collation compares ids by -/
  collate : String → K
  collate_injective : Function.Injective collate

/-- SQLite keeps the wall clock only, and compares texts character by character. -/
def sqlite : Dialect (List Char) where
  read t := .naive t
  bind
    | .naive wall => wall
    | .aware wall _ => wall
  bind_read _ := rfl
  collate := String.toList
  collate_injective _ _ := String.toList_inj.mp

/-- The optional filters of a listing. -/
structure PaymentFilters where
  status : Option String := none
  outageId : Option String := none
  type : Option String := none

namespace PaymentFilters

/-- An empty filter is none. -/
def passes (value column : Option String) : Bool :=
  match value with
  | none => true
  | some value => decide (value = "") || decide (column = some value)

/-- The rows the filters let pass. -/
def selects (filters : PaymentFilters) (r : PaymentRow) : Bool :=
  passes filters.status (some r.status) && passes filters.outageId r.outageId &&
    passes filters.type (some r.type)

end PaymentFilters

structure CursorPage where
  items : List PaymentTransaction
  nextCursor : Option String := none
  hasMore : Bool := false
  deriving DecidableEq, Repr

namespace CursorPages

/-! ## `PaymentRepository.list_cursor` -/

/-- The columns of a row as a payment of an outage. -/
def paymentOf (orm : PaymentRow) (outageId : String) : PaymentTransaction where
  id := orm.id
  transactionHash := orm.transactionHash
  type := orm.type
  amount := orm.amount
  assetCode := orm.assetCode
  fromAddress := orm.fromAddress
  toAddress := orm.toAddress
  status := orm.status
  outageId
  slaResultId := orm.slaResultId
  createdAt := orm.createdAt
  confirmedAt := orm.confirmedAt
  retryCount := orm.retryCount
  lastRetriedAt := orm.lastRetriedAt
  failureTaxonomy := orm.failureTaxonomy
  idempotencyKey := orm.idempotencyKey
  deadLetterReason := orm.deadLetterReason
  deadLetteredAt := orm.deadLetteredAt

/-- `_orm_to_pydantic`. The `outage_id` of the model is a `str`, so it raises without one. -/
def ormToPydantic (orm : PaymentRow) : Except Exc PaymentTransaction :=
  match orm.outageId with
  | none => .error (.validationError ["outage_id"])
  | some outageId => .ok (paymentOf orm outageId)

/-- `if value: query = query.filter(column == value)`. -/
def filterBy (value : Option String) (column : PaymentRow → Option String)
    (query : List PaymentRow) : List PaymentRow :=
  match value with
  | none => query
  | some value => if value = "" then query else query.filter fun r => decide (column r = some value)

variable {K : Type} [LinearOrder K] (dialect : Dialect K)

/-- `(created_at, id)`, as the database compares them. -/
def sortKey (r : PaymentRow) : Time ×ₗ K := toLex (r.createdAt, dialect.collate r.id)

/-- `if cursor_date and cursor_id: …`. -/
def filterByCursor (cursorDate : Option Datetime) (cursorId : Option String)
    (query : List PaymentRow) : List PaymentRow :=
  match cursorDate, cursorId with
  | some cursorDate, some cursorId =>
    if cursorId = "" then query
    else query.filter fun r =>
      decide (r.createdAt < dialect.bind cursorDate) ||
        (decide (r.createdAt = dialect.bind cursorDate) &&
          decide (dialect.collate r.id < dialect.collate cursorId))
  | _, _ => query

/-- `f"{last.created_at.isoformat()},{last.id}"`. -/
def nextCursor (createdAt : Time) (id : String) : String :=
  (dialect.read createdAt).isoformat ++ "," ++ id

/-- The page of at most `limit` of the rows read. -/
def pageOf (limit : Nat) (rows : List PaymentRow) : Except Exc CursorPage := do
  let hasMore := decide (limit < rows.length)
  let items ← (rows.take limit).mapM ormToPydantic
  let next :=
    if hasMore then items.getLast?.map fun last => nextCursor dialect last.createdAt last.id
    else none
  return { items, nextCursor := next, hasMore }

def listCursor (limit : Nat) (cursorDate : Option Datetime) (cursorId : Option String)
    (filters : PaymentFilters) (table : List PaymentRow) : Except Exc CursorPage :=
  let query := filterBy filters.status (fun r => some r.status) table
  let query := filterBy filters.outageId (fun r => r.outageId) query
  let query := filterBy filters.type (fun r => some r.type) query
  let query := filterByCursor dialect cursorDate cursorId query
  pageOf dialect limit ((Keyset.orderBy (sortKey dialect) query).take (limit + 1))

/-! ## The cursor, as `list_payments` parses it -/

/-- `cursor.split(",", 1)`: what is before the first comma, and after it when there is one. -/
def splitOnce (cursor : String) : String × Option String :=
  (String.ofList (cursor.toList.takeWhile fun c => decide (c ≠ ',')),
    match cursor.toList.dropWhile fun c => decide (c ≠ ',') with
    | [] => none
    | _ :: rest => some (String.ofList rest))

def parseCursor (cursor : String) : Except Exc (Datetime × Option String) :=
  let (date, cursorId) := splitOnce cursor
  match Datetime.fromisoformat date with
  | none => .error (.valueError s!"Invalid isoformat string: '{date}'")
  | some cursorDate => .ok (cursorDate, cursorId)

/-- A page of the listing. The first one has no cursor; that of another is parsed. -/
def page (limit : Nat) (cursor : Option String) (filters : PaymentFilters)
    (table : List PaymentRow) : Except Exc CursorPage :=
  match cursor with
  | none => listCursor dialect limit none none filters table
  | some cursor => do
    let (cursorDate, cursorId) ← parseCursor cursor
    listCursor dialect limit (some cursorDate) cursorId filters table

/-- Following `next_cursor` until it is null. Request `n` sees the table `tables n`; the items are
those of all pages from there on, or `none` when `fuel` requests do not reach the last page. -/
def walk (limit : Nat) (filters : PaymentFilters) (tables : Nat → List PaymentRow) :
    Nat → Nat → Option String → Except Exc (Option (List PaymentTransaction))
  | 0, _, _ => .ok none
  | fuel + 1, n, cursor => do
    let page ← page dialect limit cursor filters (tables n)
    match page.nextCursor with
    | none => return some page.items
    | some next =>
      let rest ← walk limit filters tables fuel (n + 1) (some next)
      return rest.map (page.items ++ ·)

/-! ## The table -/

/-- The table at request `n`, when `inserted n` comes between that request and the next. -/
def tableAt (start : List PaymentRow) (inserted : Nat → List PaymentRow) : Nat → List PaymentRow
  | 0 => start
  | n + 1 => tableAt start inserted n ++ inserted n

/-- A table that is listed while rows are inserted that are later than all those of the start. -/
structure ListedTable where
  start : List PaymentRow
  inserted : Nat → List PaymentRow
  /-- `id` is the primary key -/
  ids_nodup : ∀ n, ((tableAt start inserted n).map (·.id)).Nodup
  /-- a `created_at` is a `datetime` -/
  created_valid : ∀ n, ∀ r ∈ tableAt start inserted n, (dialect.read r.createdAt).Valid
  later : ∀ n, ∀ r ∈ inserted n, ∀ s ∈ start, s.createdAt < r.createdAt

def ListedTable.at {dialect : Dialect K} (t : ListedTable dialect) (n : Nat) : List PaymentRow :=
  tableAt t.start t.inserted n

/-! ## What is listed -/

/-- After finitely many pages `next_cursor` is null. The items are selected payments, and those of
them that were there at the start are all of these, each once and in descending `(created_at, id)`
order. -/
def ListsExactly (limit : Nat) (filters : PaymentFilters) (t : ListedTable dialect) : Prop :=
  ∃ (fuel : Nat) (items : List PaymentTransaction) (rows : List PaymentRow),
    walk dialect limit filters t.at fuel 0 none = .ok (some items) ∧
    (∀ p ∈ items, ∃ n, ∃ r ∈ t.at n, filters.selects r ∧ ormToPydantic r = .ok p) ∧
    rows.Perm (t.start.filter filters.selects) ∧
    (rows.Pairwise fun a b => sortKey dialect b < sortKey dialect a) ∧
    rows.mapM ormToPydantic =
      .ok (items.filter fun p => decide (p.id ∈ t.start.map (·.id)))

/-! ## Rows and what is returned of them -/

/-- The payment of a row that has an outage. -/
def toPydantic (orm : PaymentRow) : PaymentTransaction := paymentOf orm (orm.outageId.getD "")

theorem ormToPydantic_eq_ok {r : PaymentRow} {p : PaymentTransaction} :
    ormToPydantic r = .ok p ↔ r.outageId ≠ none ∧ p = toPydantic r := by
  unfold ormToPydantic toPydantic
  cases r.outageId with
  | none => simp
  | some outageId => simp [eq_comm]

theorem toPydantic_inj {r r' : PaymentRow} (h : r.outageId ≠ none) (h' : r'.outageId ≠ none)
    (heq : toPydantic r = toPydantic r') : r = r' := by
  obtain ⟨outageId, houtage⟩ := Option.ne_none_iff_exists'.mp h
  obtain ⟨outageId', houtage'⟩ := Option.ne_none_iff_exists'.mp h'
  cases r
  cases r'
  simp only [toPydantic, paymentOf, PaymentTransaction.mk.injEq] at heq houtage houtage'
  subst houtage houtage'
  simp_all

variable {rows : List PaymentRow}

theorem mapM_ormToPydantic {items : List PaymentTransaction} :
    rows.mapM ormToPydantic = .ok items ↔
      (∀ r ∈ rows, r.outageId ≠ none) ∧ items = rows.map toPydantic := by
  induction rows generalizing items with
  | nil => simp [pure, Except.pure, eq_comm]
  | cons r rows ih =>
    rw [List.mapM_cons, List.forall_mem_cons, List.map_cons]
    cases hr : ormToPydantic r with
    | error e =>
      have hnone : ¬ r.outageId ≠ none := fun h => by
        cases hr.symm.trans (ormToPydantic_eq_ok.mpr ⟨h, rfl⟩)
      exact iff_of_false nofun fun h => hnone h.1.1
    | ok p =>
      obtain ⟨houtage, rfl⟩ := ormToPydantic_eq_ok.mp hr
      cases hrows : rows.mapM ormToPydantic with
      | error e =>
        refine iff_of_false nofun fun h => ?_
        cases hrows.symm.trans (ih.mpr ⟨h.1.2, rfl⟩)
      | ok ps =>
        obtain ⟨hrest, rfl⟩ := ih.mp hrows
        constructor
        · intro h
          cases h
          exact ⟨⟨houtage, hrest⟩, rfl⟩
        · rintro ⟨-, rfl⟩
          rfl

/-! ## The cursor -/

/-- Where the next page starts: no cursor comes of an empty id. -/
def cursorOf (r : PaymentRow) : Option (Time ×ₗ K) :=
  if r.id = "" then none else some (sortKey dialect r)

theorem cursorOf_eq_some (r : PaymentRow) (k : Time ×ₗ K) (h : cursorOf dialect r = some k) :
    k = sortKey dialect r := by
  unfold cursorOf at h
  split at h
  · cases h
  · exact (Option.some.inj h).symm

variable {dialect}

/-- **The cursor.** It is parsed as the datetime and the id it was made of. -/
theorem parseCursor_nextCursor {createdAt : Time} (h : (dialect.read createdAt).Valid)
    (id : String) :
    parseCursor (nextCursor dialect createdAt id) = .ok (dialect.read createdAt, some id) := by
  have hcomma : ∀ c ∈ (dialect.read createdAt).isoformat.toList, decide (c ≠ ',') = true := by
    intro c hc
    exact decide_eq_true fun heq => Datetime.comma_notMem_isoformat _ (heq ▸ hc)
  have hchars : (nextCursor dialect createdAt id).toList =
      (dialect.read createdAt).isoformat.toList ++ ',' :: id.toList := by
    simp [nextCursor]
  have hsplit : splitOnce (nextCursor dialect createdAt id) =
      ((dialect.read createdAt).isoformat, some id) := by
    rw [splitOnce, hchars, List.takeWhile_append_of_pos hcomma,
      List.dropWhile_append_of_pos hcomma]
    simp
  simp only [parseCursor, hsplit, Datetime.fromisoformat_isoformat h]

/-! ## A page is one of the keyset listing -/

theorem filterBy_eq (value : Option String) (column : PaymentRow → Option String)
    (query : List PaymentRow) :
    filterBy value column query =
      query.filter fun r => PaymentFilters.passes value (column r) := by
  cases value with
  | none => simp [filterBy, PaymentFilters.passes]
  | some value =>
    by_cases hempty : value = ""
    · simp [filterBy, PaymentFilters.passes, hempty]
    · simp [filterBy, PaymentFilters.passes, hempty]

theorem filterByCursor_row (r : PaymentRow) (query : List PaymentRow) :
    filterByCursor dialect (some (dialect.read r.createdAt)) (some r.id) query =
      Keyset.below (sortKey dialect) (cursorOf dialect r) query := by
  by_cases hempty : r.id = ""
  · simp [filterByCursor, cursorOf, hempty, Keyset.below]
  · simp only [filterByCursor, cursorOf, hempty, if_false, Keyset.below, dialect.bind_read]
    congr 1
    funext s
    simp [sortKey, Prod.Lex.toLex_lt_toLex]

variable (dialect) in
def rowsOf (limit : Nat) (k : Option (Time ×ₗ K)) (filters : PaymentFilters)
    (table : List PaymentRow) : List PaymentRow :=
  Keyset.query (sortKey dialect) limit k (table.filter filters.selects)

theorem listCursor_eq (limit : Nat) (cursorDate : Option Datetime) (cursorId : Option String)
    (filters : PaymentFilters) (table : List PaymentRow) :
    listCursor dialect limit cursorDate cursorId filters table =
      pageOf dialect limit ((Keyset.orderBy (sortKey dialect) (filterByCursor dialect cursorDate
        cursorId (table.filter filters.selects))).take (limit + 1)) := by
  have hselects : filterBy filters.type (fun r => some r.type)
      (filterBy filters.outageId (fun r => r.outageId)
        (filterBy filters.status (fun r => some r.status) table)) =
      table.filter filters.selects := by
    simp only [filterBy_eq, List.filter_filter]
    refine List.filter_congr fun r _ => ?_
    rw [PaymentFilters.selects, Bool.and_comm, Bool.and_comm (PaymentFilters.passes _ r.outageId)]
  rw [← hselects]
  rfl

variable (dialect) in
def pageOfRows (limit : Nat) (rows : List PaymentRow) : CursorPage where
  items := (rows.take limit).map toPydantic
  nextCursor := (Keyset.lastOf limit rows).map fun last => nextCursor dialect last.createdAt last.id
  hasMore := decide (limit < rows.length)

variable {limit : Nat}

theorem pageOf_eq_ok {page : CursorPage} :
    pageOf dialect limit rows = .ok page ↔
      (∀ r ∈ rows.take limit, r.outageId ≠ none) ∧ page = pageOfRows dialect limit rows := by
  cases hitems : (rows.take limit).mapM ormToPydantic with
  | error e =>
    refine iff_of_false (by simp [pageOf, hitems, bind, Except.bind]) fun h => ?_
    cases hitems.symm.trans (mapM_ormToPydantic.mpr ⟨h.1, rfl⟩)
  | ok items =>
    obtain ⟨houtage, rfl⟩ := mapM_ormToPydantic.mp hitems
    have hpage : pageOf dialect limit rows = .ok (pageOfRows dialect limit rows) := by
      by_cases hmore : limit < rows.length
      · simp only [pageOf, hitems, pageOfRows, Keyset.lastOf, bind, Except.bind, pure, Except.pure,
          List.getLast?_map, Option.map_map, decide_eq_true hmore, if_pos hmore]
        rfl
      · simp only [pageOf, hitems, pageOfRows, Keyset.lastOf, bind, Except.bind, pure, Except.pure,
          decide_eq_false hmore, if_neg hmore]
        rfl
    rw [hpage, Except.ok.injEq, eq_comm]
    exact ⟨fun h => ⟨houtage, h⟩, fun h => h.2⟩

/-- A cursor, and the key below which the rows of its page are. -/
inductive Follows (dialect : Dialect K) : Option String → Option (Time ×ₗ K) → Prop
  | top : Follows dialect none none
  | after {r : PaymentRow} (h : (dialect.read r.createdAt).Valid) :
      Follows dialect (some (nextCursor dialect r.createdAt r.id)) (cursorOf dialect r)

theorem page_eq {cursor : Option String} {k : Option (Time ×ₗ K)} (h : Follows dialect cursor k)
    (limit : Nat) (filters : PaymentFilters) (table : List PaymentRow) :
    page dialect limit cursor filters table =
      pageOf dialect limit (rowsOf dialect limit k filters table) := by
  cases h with
  | top =>
    rw [page, listCursor_eq]
    rfl
  | after hvalid =>
    simp only [page, parseCursor_nextCursor hvalid, bind, Except.bind, listCursor_eq,
      filterByCursor_row]
    rfl

/-! ## The walk -/

def selected (filters : PaymentFilters) (tables : Nat → List PaymentRow) (n : Nat) :
    List PaymentRow :=
  (tables n).filter filters.selects

variable {filters : PaymentFilters}

theorem walk_succ_eq_ok {tables : Nat → List PaymentRow} {fuel n : Nat} {cursor : Option String}
    {k : Option (Time ×ₗ K)} (h : Follows dialect cursor k) {query : List PaymentRow}
    (hquery : rowsOf dialect limit k filters (tables n) = query) {items : List PaymentTransaction} :
    walk dialect limit filters tables (fuel + 1) n cursor = .ok (some items) ↔
      (∀ r ∈ query.take limit, r.outageId ≠ none) ∧
        ∃ tail, items = (query.take limit).map toPydantic ++ tail ∧
          match Keyset.lastOf limit query with
          | none => tail = []
          | some last =>
            walk dialect limit filters tables fuel (n + 1)
              (some (nextCursor dialect last.createdAt last.id)) = .ok (some tail) := by
  rw [walk, page_eq h, hquery]
  cases hpage : pageOf dialect limit query with
  | error e =>
    refine iff_of_false nofun fun h => ?_
    cases hpage.symm.trans (pageOf_eq_ok.mpr ⟨h.1, rfl⟩)
  | ok page =>
    obtain ⟨houtage, rfl⟩ := pageOf_eq_ok.mp hpage
    rw [and_iff_right houtage]
    simp only [pageOfRows, bind, Except.bind, pure, Except.pure]
    cases Keyset.lastOf limit query with
    | none => simp [eq_comm]
    | some last =>
      simp only [Option.map_some]
      cases walk dialect limit filters tables fuel (n + 1)
          (some (nextCursor dialect last.createdAt last.id)) with
      | error e => exact iff_of_false nofun fun ⟨_, _, h⟩ => nomatch h
      | ok rest => cases rest <;> simp [eq_comm]

/-- **Following the cursors.** It is the walk of the keyset listing, of rows that all have an
outage. Induction on the requests. -/
theorem walk_eq_ok_iff {tables : Nat → List PaymentRow}
    (hvalid : ∀ n, ∀ r ∈ tables n, (dialect.read r.createdAt).Valid) {fuel n : Nat}
    {cursor : Option String} {k : Option (Time ×ₗ K)} (h : Follows dialect cursor k)
    {items : List PaymentTransaction} :
    walk dialect limit filters tables fuel n cursor = .ok (some items) ↔
      ∃ rows, Keyset.walk (sortKey dialect) (cursorOf dialect) limit (selected filters tables)
          fuel n k = some rows ∧
        (∀ r ∈ rows, r.outageId ≠ none) ∧ items = rows.map toPydantic := by
  induction fuel generalizing n cursor k items with
  | zero => exact iff_of_false nofun nofun
  | succ fuel ih =>
    have hquery : Keyset.query (sortKey dialect) limit k (selected filters tables n) =
      rowsOf dialect limit k filters (tables n) := rfl
    rw [walk_succ_eq_ok h rfl]
    simp only [Keyset.walk_succ_eq_some, hquery]
    cases hlast : Keyset.lastOf limit (rowsOf dialect limit k filters (tables n)) with
    | none =>
      constructor
      · rintro ⟨houtage, tail, rfl, rfl⟩
        exact ⟨_, ⟨[], rfl, rfl⟩, by simpa using houtage, by simp⟩
      · rintro ⟨_, ⟨_, rfl, rfl⟩, houtage, rfl⟩
        exact ⟨by simpa using houtage, [], by simp, rfl⟩
    | some last =>
      -- the cursor is made of a row of the table, so it is parsed as that row's key
      have hmem : last ∈ tables n := (List.mem_filter.mp (Keyset.mem_of_mem_query
        (List.mem_of_mem_take (Keyset.mem_of_lastOf hlast)))).1
      have hnext := @ih (n + 1) _ _ (.after (hvalid n last hmem))
      constructor
      · rintro ⟨houtage, tail, rfl, htail⟩
        obtain ⟨rows, hrows, hrest, rfl⟩ := hnext.mp htail
        exact ⟨_, ⟨rows, rfl, hrows⟩, List.forall_mem_append.mpr ⟨houtage, hrest⟩, by simp⟩
      · rintro ⟨_, ⟨rows, rfl, hrows⟩, houtage, rfl⟩
        obtain ⟨hpage, hrest⟩ := List.forall_mem_append.mp houtage
        exact ⟨hpage, _, List.map_append, hnext.mpr ⟨rows, hrows, hrest, rfl⟩⟩

/-! ## The listing -/

theorem ListedTable.at_eq (t : ListedTable dialect) (n : Nat) :
    ∃ more, t.at n = t.start ++ more ∧
      ∀ r ∈ more, ∀ s ∈ t.start, s.createdAt < r.createdAt := by
  induction n with
  | zero =>
    refine ⟨[], ?_, fun r hr => absurd hr List.not_mem_nil⟩
    rw [List.append_nil]
    rfl
  | succ n ih =>
    obtain ⟨more, hmore, hlater⟩ := ih
    refine ⟨more ++ t.inserted n, ?_, List.forall_mem_append.mpr ⟨hlater, t.later n⟩⟩
    rw [← List.append_assoc, ← hmore]
    rfl

theorem ListedTable.grows (t : ListedTable dialect) (filters : PaymentFilters) :
    Keyset.Grows (sortKey dialect) (selected filters t.at) where
  keys_nodup n := by
    have hsub : (selected filters t.at n).Sublist (t.at n) := List.filter_sublist
    have hids := List.pairwise_map.mp ((hsub.map _).nodup (t.ids_nodup n))
    refine List.pairwise_map.mpr (hids.imp fun hne heq => hne ?_)
    exact dialect.collate_injective (Prod.ext_iff.mp (toLex.injective heq)).2
  newer n := by
    obtain ⟨more, hmore, hlater⟩ := t.at_eq n
    refine ⟨more.filter filters.selects, ?_, fun r hr s hs => ?_⟩
    · rw [selected, hmore, List.filter_append]
      rfl
    · have hlt := hlater r (List.mem_of_mem_filter hr) s (List.mem_of_mem_filter hs)
      exact Prod.Lex.toLex_lt_toLex.mpr (.inl hlt)

theorem ListedTable.mem_start_iff (t : ListedTable dialect) {n : Nat} {r : PaymentRow}
    (hr : r ∈ selected filters t.at n) :
    r.id ∈ t.start.map (·.id) ↔ r ∈ selected filters t.at 0 := by
  obtain ⟨hmem, hselects⟩ := List.mem_filter.mp hr
  constructor
  · intro hid
    obtain ⟨s, hs, hid⟩ := List.mem_map.mp hid
    obtain ⟨more, hmore, -⟩ := t.at_eq n
    have hs' : s ∈ t.at n := hmore ▸ List.mem_append_left _ hs
    have heq : s = r := List.inj_on_of_nodup_map (t.ids_nodup n) hs' hmem hid
    exact List.mem_filter.mpr ⟨heq ▸ hs, hselects⟩
  · intro h
    exact List.mem_map_of_mem (List.mem_filter.mp h).1

theorem map_toPydantic_inj {rows' : List PaymentRow} (h : ∀ r ∈ rows, r.outageId ≠ none)
    (h' : ∀ r ∈ rows', r.outageId ≠ none) (heq : rows.map toPydantic = rows'.map toPydantic) :
    rows = rows' := by
  induction rows generalizing rows' with
  | nil => exact (List.map_eq_nil_iff.mp heq.symm).symm
  | cons r rows ih =>
    cases rows' with
    | nil => cases heq
    | cons r' rows' =>
      obtain ⟨hr, hrows⟩ := List.forall_mem_cons.mp h
      obtain ⟨hr', hrows'⟩ := List.forall_mem_cons.mp h'
      obtain ⟨hhead, htail⟩ := List.cons.inj heq
      rw [toPydantic_inj hr hr' hhead, ih hrows hrows' htail]

variable (dialect) in
theorem cursorOf_ne_none :
    (fun r : PaymentRow => cursorOf dialect r ≠ none) = fun r => r.id ≠ "" := by
  funext r
  by_cases hempty : r.id = "" <;> simp [cursorOf, hempty]

variable (dialect) in
/-- All selected payments of the start have an outage, and none with an empty id is last on a full
page with another after it. -/
structure Listable (limit : Nat) (filters : PaymentFilters) (t : ListedTable dialect) : Prop where
  outage : ∀ r ∈ t.start.filter filters.selects, r.outageId ≠ none
  pageEnds : Keyset.PageEnds limit (fun r => r.id ≠ "")
    (Keyset.orderBy (sortKey dialect) (t.start.filter filters.selects))

variable {t : ListedTable dialect}

theorem Listable.listsExactly (hlimit : 1 ≤ limit) (h : Listable dialect limit filters t) :
    ListsExactly dialect limit filters t := by
  have hgrows := t.grows filters
  have hends := h.pageEnds
  rw [← cursorOf_ne_none dialect] at hends
  obtain ⟨fuel, hwalk⟩ := Keyset.listing_of_pageEnds hlimit hgrows (cursorOf_eq_some dialect) hends
  have hstart : ∀ r ∈ Keyset.orderBy (sortKey dialect) (selected filters t.at 0),
      r ∈ t.start.filter filters.selects := fun r hr => (Keyset.mem_orderBy _).mp hr
  have houtage := fun r hr => h.outage r (hstart r hr)
  refine ⟨fuel, _, _, (walk_eq_ok_iff t.created_valid .top).mpr ⟨_, hwalk, houtage, rfl⟩, ?_,
    Keyset.perm_orderBy _ _, Keyset.descending_orderBy (hgrows.keys_nodup 0), ?_⟩
  · intro p hp
    obtain ⟨r, hr, rfl⟩ := List.mem_map.mp hp
    obtain ⟨hmem, hselects⟩ := List.mem_filter.mp (hstart r hr)
    exact ⟨0, r, hmem, hselects, ormToPydantic_eq_ok.mpr ⟨houtage r hr, rfl⟩⟩
  · refine mapM_ormToPydantic.mpr ⟨houtage, List.filter_eq_self.mpr fun p hp => ?_⟩
    obtain ⟨r, hr, rfl⟩ := List.mem_map.mp hp
    exact decide_eq_true (List.mem_map_of_mem (List.mem_of_mem_filter (hstart r hr)))

theorem ListsExactly.listable (hlimit : 1 ≤ limit) (h : ListsExactly dialect limit filters t) :
    Listable dialect limit filters t := by
  obtain ⟨fuel, items, rows, hwalk, -, hperm, hdesc, hitems⟩ := h
  obtain ⟨hrows, hfilter⟩ := mapM_ormToPydantic.mp hitems
  obtain ⟨out, hout, houtage, rfl⟩ := (walk_eq_ok_iff t.created_valid .top).mp hwalk
  have horder := Keyset.Descending.eq_orderBy hdesc hperm
  -- the rows behind the items that were there at the start are those listed
  have hsame : (out.filter fun r => decide (r ∈ selected filters t.at 0)) = rows := by
    refine map_toPydantic_inj (fun r hr => houtage r (List.mem_of_mem_filter hr)) hrows ?_
    rw [← hfilter, List.filter_map]
    congr 1
    refine List.filter_congr fun r hr => ?_
    obtain ⟨n, hn⟩ := Keyset.mem_of_mem_walk hout hr
    exact decide_eq_decide.mpr (t.mem_start_iff hn).symm
  refine ⟨fun r hr => hrows r (hperm.mem_iff.mpr hr), ?_⟩
  rw [← cursorOf_ne_none dialect]
  exact Keyset.pageEnds_of_listing hlimit (t.grows filters) (cursorOf_eq_some dialect) hout
    (hsame.trans horder)

/-- **Cursor pagination.** For every table, every filter and every limit, the pages are exact when
and only when the selected payments of the start all have an outage and no full page but the last
ends in an empty id. -/
theorem cursor_pages_exact_iff {limit : Nat} (hlimit : 1 ≤ limit) (filters : PaymentFilters)
    (t : ListedTable dialect) :
    ListsExactly dialect limit filters t ↔ Listable dialect limit filters t :=
  ⟨ListsExactly.listable hlimit, Listable.listsExactly hlimit⟩

/-! ## Rows the code creates -/

/-- The row of `payment_transactions` while the payment's outage is there. -/
def ofOrm (orm : PaymentTransactionORM) : PaymentRow where
  id := orm.id
  transactionHash := orm.transactionHash
  type := orm.type
  amount := orm.amount
  assetCode := orm.assetCode
  fromAddress := orm.fromAddress
  toAddress := orm.toAddress
  status := orm.status
  outageId := some orm.outageId
  slaResultId := orm.slaResultId
  createdAt := orm.createdAt
  confirmedAt := orm.confirmedAt
  retryCount := orm.retryCount
  lastRetriedAt := orm.lastRetriedAt
  failureTaxonomy := orm.failureTaxonomy
  idempotencyKey := orm.idempotencyKey
  deadLetterReason := orm.deadLetterReason
  deadLetteredAt := orm.deadLetteredAt

theorem listable_of_created (limit : Nat) (filters : PaymentFilters)
    (h : ∀ r ∈ t.start, ∃ orm suffix, r = ofOrm orm ∧ orm.id = "pay_" ++ suffix) :
    Listable dialect limit filters t where
  outage r hr := by
    obtain ⟨orm, -, rfl, -⟩ := h r (List.mem_of_mem_filter hr)
    exact Option.some_ne_none _
  pageEnds := by
    refine Keyset.pageEnds_of_forall fun r hr => ?_
    obtain ⟨orm, suffix, rfl, hid⟩ := h r (List.mem_of_mem_filter ((Keyset.mem_orderBy _).mp hr))
    intro hempty
    have hlength := congrArg String.length (hid.symm.trans hempty)
    rw [String.length_append] at hlength
    exact absurd hlength (Nat.ne_of_gt (Nat.add_pos_left (by decide) _))

/-! ## Two tables -/

theorem tableAt_once (start more : List PaymentRow) (n : Nat) :
    tableAt start (fun n => if n = 0 then more else []) (n + 1) = start ++ more := by
  induction n with
  | zero => rfl
  | succ n ih => rw [tableAt, ih, if_neg n.succ_ne_zero, List.append_nil]

/-- The table into which `more` is inserted after the first page. -/
def insertedOnce (start more : List PaymentRow) (hids : ((start ++ more).map (·.id)).Nodup)
    (hvalid : ∀ r ∈ start ++ more, (dialect.read r.createdAt).Valid)
    (hlater : ∀ r ∈ more, ∀ s ∈ start, s.createdAt < r.createdAt) : ListedTable dialect where
  start
  inserted n := if n = 0 then more else []
  ids_nodup
    | 0 => ((List.sublist_append_left start more).map _).nodup hids
    | n + 1 => by rwa [tableAt_once]
  created_valid
    | 0 => fun r hr => hvalid r (List.mem_append_left more hr)
    | n + 1 => by rwa [tableAt_once]
  later n r hr := by
    split at hr
    · exact hlater r hr
    · exact absurd hr List.not_mem_nil

def created (suffix : String) (createdAt : Time) : PaymentRow :=
  ofOrm
    { id := "pay_" ++ suffix, transactionHash := suffix, type := "reward", amount := 100
      assetCode := "USDC", fromAddress := "SYSTEM_POOL", toAddress := "OUTAGE_SETTLEMENT"
      status := "pending", outageId := "outage-1", slaResultId := none, createdAt
      confirmedAt := none, idempotencyKey := none }

/-- Two payments of one instant, and a later one that comes after the first page. -/
def tied : ListedTable sqlite :=
  insertedOnce [created "a" 0, created "b" 0] [created "c" 1] (by decide +kernel)
    (by decide +kernel) (by decide)

def orphaned : ListedTable sqlite :=
  insertedOnce [{ created "a" 0 with outageId := none }] [] (by decide +kernel)
    (by decide +kernel) (by decide)

theorem cursor_pages_exact_tied : ListsExactly sqlite 1 {} tied := by
  refine (cursor_pages_exact_iff (le_refl 1) {} tied).mpr (listable_of_created 1 {} ?_)
  intro r hr
  rcases List.mem_cons.mp hr with rfl | hr
  · exact ⟨_, "a", rfl, rfl⟩
  · rw [List.mem_singleton.mp hr]
    exact ⟨_, "b", rfl, rfl⟩

/-- `list_cursor` raises on the first page, so that payment is never listed. -/
theorem cursor_pages_lose_orphan :
    listCursor sqlite 20 none none {} orphaned.start = .error (.validationError ["outage_id"]) ∧
      ¬ ListsExactly sqlite 20 {} orphaned := by
  refine ⟨rfl, fun h => ?_⟩
  have houtage := (h.listable (by decide)).outage { created "a" 0 with outageId := none } ?_
  · exact houtage rfl
  · exact List.mem_filter.mpr ⟨List.mem_cons_self, rfl⟩

end CursorPages

end NocIq
