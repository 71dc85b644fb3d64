import Mathlib.Data.List.Dedup
import NocIq.Outage.Create

/-!
# NocIq — the order in which outages are created

`_find_duplicate_orm` compares the site id of a payload only when it has one, and takes `.first()`
of the rows that match, in no order: which row that is, is the argument `First` of a call.

So a payload without a site id is a duplicate of any row with its content, and no payload with a
site id is a duplicate of the row of one without.

* **`createBy_tableOrder`** — `create_or_get_existing`, where `.first()` follows the table.
* **`createAll_keyed`** — without such pairs, the table after a list of payloads has one row for
  each key among those that the database takes.
* **`deduplication_order_independent`** — then the order does not matter, and only then.
-/

namespace NocIq

namespace OutageRepository

/-! ## Calls -/

/-- Which of several rows `.first()` returns. -/
structure First where
  pick : List OutageORM → Option OutageORM
  mem : ∀ rows, ∀ o ∈ pick rows, o ∈ rows
  isSome : ∀ rows, rows ≠ [] → (pick rows).isSome

def First.tableOrder : First where
  pick := List.head?
  mem _ _ h := List.mem_of_head? h
  isSome _ h := List.isSome_head?.mpr h

def checkDuplicateBy (first : First) (payload : OutageCreate) (s : OutageStore) :
    Except Raised (Option OutageORM) :=
  match getOrm s payload.id with
  | some existing =>
    if isSameOutage existing payload then .ok (some existing) else .error (conflict payload.id)
  | none => .ok (first.pick (s.outages.filter (matchesContent payload)))

/-- `create_or_get_existing`. -/
def createBy (first : First) (db : OutageDatabase) (payload : OutageCreate) (s : OutageStore) :
    Except Raised (OutageORM × Bool) × OutageStore :=
  match checkDuplicateBy first payload s with
  | .error e => (.error e, s)
  | .ok (some existing) => (.ok (existing, false), s)
  | .ok none =>
    match db.refuses (newOrm db payload) with
    | some e => (.error e, s)
    | none => (.ok (newOrm db payload, true), insertOrm (newOrm db payload) s)

theorem createBy_tableOrder (db : OutageDatabase) (payload : OutageCreate) (s : OutageStore) :
    createBy .tableOrder db payload s = createOrGetExisting db payload s := by
  have hpick : First.tableOrder.pick (s.outages.filter (matchesContent payload)) =
      findDuplicateOrm payload s := List.head?_filter
  have hcheck : checkDuplicateBy .tableOrder payload s = checkDuplicate payload s := by
    unfold checkDuplicateBy checkDuplicate
    rewrite [hpick]
    rfl
  unfold createBy createOrGetExisting
  rewrite [hcheck]
  rfl

/-- The creation of a payload. -/
structure Call where
  payload : OutageCreate
  first : First

/-- One creation after another; one that fails leaves the next ones to go on. -/
def createAll (db : OutageDatabase) : List Call → OutageStore →
    List (OutageCreate × Except Raised (OutageORM × Bool)) × OutageStore
  | [], s => ([], s)
  | call :: calls, s =>
    let created := createBy call.first db call.payload s
    let rest := createAll db calls created.2
    ((call.payload, created.1) :: rest.1, rest.2)

/-- The number of outages that creations on an empty table persist. -/
def persisted (db : OutageDatabase) (calls : List Call) : Nat :=
  (createAll db calls {}).2.outages.length

/-! ## One creation -/

variable {db : OutageDatabase} {payload : OutageCreate} {s : OutageStore}

theorem checkDuplicateBy_of_fresh (first : First) (hid : ∀ o ∈ s.outages, o.id ≠ payload.id) :
    checkDuplicateBy first payload s =
      .ok (first.pick (s.outages.filter (matchesContent payload))) := by
  have hnone : getOrm s payload.id = none := by
    unfold getOrm
    rw [List.find?_eq_none]
    intro o ho
    simpa using hid o ho
  unfold checkDuplicateBy
  rw [hnone]

theorem createBy_of_match (db : OutageDatabase) (first : First)
    (hid : ∀ o ∈ s.outages, o.id ≠ payload.id)
    (hmatch : ∃ o ∈ s.outages, matchesContent payload o = true) :
    ∃ o ∈ s.outages, matchesContent payload o = true ∧
      createBy first db payload s = (.ok (o, false), s) := by
  obtain ⟨o', ho', hmatch'⟩ := hmatch
  have hne : s.outages.filter (matchesContent payload) ≠ [] :=
    List.ne_nil_of_mem (List.mem_filter.mpr ⟨ho', hmatch'⟩)
  obtain ⟨o, hpick⟩ := Option.isSome_iff_exists.mp (first.isSome _ hne)
  obtain ⟨ho, hcontent⟩ := List.mem_filter.mp (first.mem _ o hpick)
  refine ⟨o, ho, hcontent, ?_⟩
  unfold createBy
  rw [checkDuplicateBy_of_fresh first hid, hpick]

theorem createBy_of_no_match (first : First) (hid : ∀ o ∈ s.outages, o.id ≠ payload.id)
    (hmatch : ¬ ∃ o ∈ s.outages, matchesContent payload o = true) :
    createBy first db payload s =
      match db.refuses (newOrm db payload) with
      | some e => (.error e, s)
      | none => (.ok (newOrm db payload, true), insertOrm (newOrm db payload) s) := by
  have hpick : first.pick (s.outages.filter (matchesContent payload)) = none := by
    rw [Option.eq_none_iff_forall_ne_some]
    intro o ho
    obtain ⟨hmem, hcontent⟩ := List.mem_filter.mp (first.mem _ o ho)
    exact hmatch ⟨o, hmem, hcontent⟩
  unfold createBy
  rw [checkDuplicateBy_of_fresh first hid, hpick]

/-! ## Keys -/

abbrev Content := String × Time × String

def content (payload : OutageCreate) : Content :=
  (payload.siteName, payload.detectedAt, payload.description)

/-- `if payload.site_id`. -/
def hasSite (payload : OutageCreate) : Bool := decide (payload.siteId.getD "" ≠ "")

/-- What two rows are the same outage by: the content, and the site id if there is one. -/
def dedupKey (o : OutageORM) : Content × Option String :=
  ((o.siteName, o.detectedAt, o.description), if o.siteId.getD "" ≠ "" then o.siteId else none)

/-- No two payloads with the same content of which just one has a site id. -/
def Unmixed (payloads : List OutageCreate) : Prop :=
  ∀ p ∈ payloads, ∀ q ∈ payloads, content p = content q → hasSite p = hasSite q

instance (payloads : List OutageCreate) : Decidable (Unmixed payloads) := by
  unfold Unmixed; infer_instance

theorem matchesContent_newOrm (p q : OutageCreate) :
    matchesContent p (newOrm db q) = true ↔
      content q = content p ∧ (hasSite p = true → q.siteId = p.siteId) := by
  unfold matchesContent content hasSite newOrm
  simp only [decide_eq_true_eq, Prod.mk.injEq, and_assoc]

theorem matchesContent_iff_dedupKey {p q : OutageCreate}
    (h : content p = content q → hasSite p = hasSite q) :
    matchesContent p (newOrm db q) = true ↔
      dedupKey (newOrm db q) = dedupKey (newOrm db p) := by
  rw [matchesContent_newOrm]
  have hkey : ∀ x : OutageCreate, dedupKey (newOrm db x) =
      (content x, if hasSite x = true then x.siteId else none) := by
    intro x
    unfold dedupKey content hasSite newOrm
    simp only [decide_eq_true_eq]
  simp only [hkey, Prod.mk.injEq]
  refine and_congr_right fun hcontent => ?_
  rw [← h hcontent.symm]
  cases hasSite p with
  | false => simp
  | true => simp

/-! ## Lists without mixed pairs -/

/-- The rows are those of processed payloads, one for each key that the database has taken. -/
structure Keyed (db : OutageDatabase) (processed : List OutageCreate) (s : OutageStore) :
    Prop where
  rows : ∀ o ∈ s.outages, ∃ q ∈ processed, o = newOrm db q
  nodup : (s.outages.map dedupKey).Nodup
  keys : ∀ k, k ∈ s.outages.map dedupKey ↔
    ∃ q ∈ processed, db.refuses (newOrm db q) = none ∧ dedupKey (newOrm db q) = k

theorem keyed_empty (db : OutageDatabase) : Keyed db [] {} where
  rows o ho := absurd ho List.not_mem_nil
  nodup := List.nodup_nil
  keys k := by simp

theorem Keyed.congr {processed processed' : List OutageCreate} (h : Keyed db processed s)
    (hmem : ∀ q, q ∈ processed ↔ q ∈ processed') : Keyed db processed' s where
  rows o ho := by
    obtain ⟨q, hq, hrow⟩ := h.rows o ho
    exact ⟨q, (hmem q).mp hq, hrow⟩
  nodup := h.nodup
  keys k := by
    rw [h.keys k]
    simp only [hmem]

section Step

variable {processed : List OutageCreate} (h : Keyed db processed s)
  (hfresh : ∀ q ∈ processed, q.id ≠ payload.id) (hunmixed : Unmixed (payload :: processed))

include h hfresh in
theorem Keyed.ids : ∀ o ∈ s.outages, o.id ≠ payload.id := by
  intro o ho
  obtain ⟨q, hq, rfl⟩ := h.rows o ho
  exact hfresh q hq

include h hunmixed in
theorem Keyed.match_iff {o : OutageORM} (ho : o ∈ s.outages) :
    matchesContent payload o = true ↔ dedupKey o = dedupKey (newOrm db payload) := by
  obtain ⟨q, hq, rfl⟩ := h.rows o ho
  exact matchesContent_iff_dedupKey
    (hunmixed payload List.mem_cons_self q (List.mem_cons_of_mem _ hq))

/-- A creation keeps the table keyed; the outage it returns is in the table, under the key of the
payload. -/
structure Step (db : OutageDatabase) (payload : OutageCreate) (processed : List OutageCreate)
    (s : OutageStore) (outcome : Except Raised (OutageORM × Bool) × OutageStore) : Prop where
  keyed : Keyed db (payload :: processed) outcome.2
  grows : s.outages ⊆ outcome.2.outages
  returned : ∀ o isNew, outcome.1 = .ok (o, isNew) →
    o ∈ outcome.2.outages ∧ dedupKey o = dedupKey (newOrm db payload)

include h in
theorem Keyed.keep
    (hkey : db.refuses (newOrm db payload) = none →
      dedupKey (newOrm db payload) ∈ s.outages.map dedupKey) :
    Keyed db (payload :: processed) s where
  rows o ho := by
    obtain ⟨q, hq, hrow⟩ := h.rows o ho
    exact ⟨q, List.mem_cons_of_mem _ hq, hrow⟩
  nodup := h.nodup
  keys k := by
    constructor
    · intro hk
      obtain ⟨q, hq, hrest⟩ := (h.keys k).mp hk
      exact ⟨q, List.mem_cons_of_mem _ hq, hrest⟩
    · rintro ⟨q, hq, haccepted, rfl⟩
      rcases List.mem_cons.mp hq with rfl | hq
      · exact hkey haccepted
      · exact (h.keys _).mpr ⟨q, hq, haccepted, rfl⟩

include h in
theorem Keyed.insert (hkey : dedupKey (newOrm db payload) ∉ s.outages.map dedupKey)
    (haccepted : db.refuses (newOrm db payload) = none) :
    Keyed db (payload :: processed) (insertOrm (newOrm db payload) s) where
  rows o ho := by
    rcases List.mem_append.mp ho with ho | ho
    · obtain ⟨q, hq, hrow⟩ := h.rows o ho
      exact ⟨q, List.mem_cons_of_mem _ hq, hrow⟩
    · exact ⟨payload, List.mem_cons_self, List.mem_singleton.mp ho⟩
  nodup := by
    show ((s.outages ++ [newOrm db payload]).map dedupKey).Nodup
    rw [List.map_append, List.map_singleton, ← List.concat_eq_append]
    exact h.nodup.concat hkey
  keys k := by
    show k ∈ (s.outages ++ [newOrm db payload]).map dedupKey ↔ _
    rw [List.map_append, List.mem_append, h.keys k, List.map_singleton, List.mem_singleton,
      List.exists_mem_cons_iff, or_comm, eq_comm, and_iff_right haccepted]

include h hfresh hunmixed in
theorem createBy_step (first : First) :
    Step db payload processed s (createBy first db payload s) := by
  have hid := h.ids hfresh
  by_cases hmatch : ∃ o ∈ s.outages, matchesContent payload o = true
  · obtain ⟨o, ho, hcontent, hcreate⟩ := createBy_of_match db first hid hmatch
    have hkey := (h.match_iff hunmixed ho).mp hcontent
    rw [hcreate]
    refine ⟨h.keep fun _ => List.mem_map.mpr ⟨o, ho, hkey⟩, List.Subset.refl _, ?_⟩
    rintro o' isNew houtcome
    obtain ⟨rfl, -⟩ := Prod.mk.inj (Except.ok.inj houtcome)
    exact ⟨ho, hkey⟩
  · have hkey : dedupKey (newOrm db payload) ∉ s.outages.map dedupKey := by
      intro hmem
      obtain ⟨o, ho, hkey⟩ := List.mem_map.mp hmem
      exact hmatch ⟨o, ho, (h.match_iff hunmixed ho).mpr hkey⟩
    rw [createBy_of_no_match first hid hmatch]
    cases haccepted : db.refuses (newOrm db payload) with
    | some e =>
      refine ⟨h.keep fun hnone => ?_, List.Subset.refl _, fun _ _ herror => nomatch herror⟩
      rw [haccepted] at hnone
      cases hnone
    | none =>
      refine ⟨h.insert hkey haccepted, List.subset_append_left _ _, ?_⟩
      rintro o isNew houtcome
      obtain ⟨rfl, -⟩ := Prod.mk.inj (Except.ok.inj houtcome)
      exact ⟨List.mem_append_right _ (List.mem_singleton_self _), rfl⟩

end Step

def payloadsOf (calls : List Call) : List OutageCreate := calls.map (·.payload)

variable {payloads : List OutageCreate}

theorem Unmixed.subset {payloads' : List OutageCreate} (h : Unmixed payloads)
    (hsub : payloads' ⊆ payloads) : Unmixed payloads' :=
  fun p hp q hq => h p (hsub hp) q (hsub hq)

/-- **A list of creations.** Induction on the calls, with the payloads before them. -/
theorem createAll_keyed {calls : List Call} {processed : List OutageCreate}
    (h : Keyed db processed s) (hids : ((payloadsOf calls ++ processed).map (·.id)).Nodup)
    (hunmixed : Unmixed (payloadsOf calls ++ processed)) :
    Keyed db (payloadsOf calls ++ processed) (createAll db calls s).2 ∧
      s.outages ⊆ (createAll db calls s).2.outages ∧
      ∀ result ∈ (createAll db calls s).1, ∀ o isNew, result.2 = .ok (o, isNew) →
        result.1 ∈ payloadsOf calls ∧ o ∈ (createAll db calls s).2.outages ∧
          dedupKey o = dedupKey (newOrm db result.1) := by
  induction calls generalizing s processed with
  | nil => exact ⟨h, List.Subset.refl _, fun result hresult => absurd hresult List.not_mem_nil⟩
  | cons call calls ih =>
    obtain ⟨hnew, hids⟩ := List.nodup_cons.mp hids
    have hfresh : ∀ q ∈ processed, q.id ≠ call.payload.id := by
      intro q hq hid
      exact hnew (List.mem_map.mpr ⟨q, List.mem_append_right _ hq, hid⟩)
    have hhead : Unmixed (call.payload :: processed) :=
      hunmixed.subset (List.cons_subset_cons _ (List.subset_append_right _ _))
    have hstep := createBy_step h hfresh hhead call.first
    -- the rest runs after `call`, whose payload is then one of those before
    have hmiddle : (payloadsOf calls ++ call.payload :: processed).Perm
        (call.payload :: (payloadsOf calls ++ processed)) := List.perm_middle
    have hids' : ((payloadsOf calls ++ call.payload :: processed).map (·.id)).Nodup := by
      rw [(hmiddle.map _).nodup_iff]
      exact List.nodup_cons.mpr ⟨hnew, hids⟩
    obtain ⟨hkeyed, hgrows, hreturned⟩ :=
      ih hstep.keyed hids' (hunmixed.subset hmiddle.subset)
    refine ⟨hkeyed.congr fun q => hmiddle.mem_iff, fun o ho => hgrows (hstep.grows ho), ?_⟩
    intro result hresult o isNew hok
    rcases List.mem_cons.mp hresult with rfl | hresult
    · obtain ⟨ho, hkey⟩ := hstep.returned o isNew hok
      exact ⟨List.mem_cons_self, hgrows ho, hkey⟩
    · obtain ⟨hmem, hrest⟩ := hreturned result hresult o isNew hok
      exact ⟨List.mem_cons_of_mem _ hmem, hrest⟩

/-! ## The number of outages -/

/-- The calls, in any order and with any `.first()`, persist the same number of outages. -/
def OrderIndependent (db : OutageDatabase) (payloads : List OutageCreate) : Prop :=
  ∀ calls calls' : List Call, (payloadsOf calls).Perm payloads → (payloadsOf calls').Perm payloads →
    persisted db calls = persisted db calls'

/-- After all creations, another one of a payload that has been given an outage returns that outage,
not persisted, and changes nothing. -/
def Recreates (db : OutageDatabase) (payloads : List OutageCreate) : Prop :=
  ∀ calls : List Call, (payloadsOf calls).Perm payloads →
    ∀ result ∈ (createAll db calls {}).1, ∀ o isNew, result.2 = .ok (o, isNew) →
      ∀ first, createBy first db result.1 (createAll db calls {}).2 =
        (.ok (o, false), (createAll db calls {}).2)

theorem keyed_of_perm (db : OutageDatabase) (hids : (payloads.map (·.id)).Nodup)
    (hunmixed : Unmixed payloads) {calls : List Call} (hperm : (payloadsOf calls).Perm payloads) :
    Keyed db payloads (createAll db calls {}).2 ∧
      ∀ result ∈ (createAll db calls {}).1, ∀ o isNew, result.2 = .ok (o, isNew) →
        result.1 ∈ payloads ∧ o ∈ (createAll db calls {}).2.outages ∧
          dedupKey o = dedupKey (newOrm db result.1) := by
  have hids' : ((payloadsOf calls ++ ([] : List OutageCreate)).map (·.id)).Nodup := by
    rw [List.append_nil, (hperm.map _).nodup_iff]
    exact hids
  have hunmixed' : Unmixed (payloadsOf calls ++ []) := by
    rw [List.append_nil]
    exact hunmixed.subset hperm.subset
  obtain ⟨hkeyed, -, hreturned⟩ := createAll_keyed (keyed_empty db) hids' hunmixed'
  refine ⟨hkeyed.congr fun q => by rw [List.append_nil, hperm.mem_iff], ?_⟩
  intro result hresult o isNew hok
  obtain ⟨hmem, hrest⟩ := hreturned result hresult o isNew hok
  exact ⟨hperm.mem_iff.mp hmem, hrest⟩

theorem Unmixed.orderIndependent (hids : (payloads.map (·.id)).Nodup) (hunmixed : Unmixed payloads)
    :
    OrderIndependent db payloads := by
  intro calls calls' hperm hperm'
  obtain ⟨h, -⟩ := keyed_of_perm db hids hunmixed hperm
  obtain ⟨h', -⟩ := keyed_of_perm db hids hunmixed hperm'
  have hkeys : ((createAll db calls {}).2.outages.map dedupKey).Perm
      ((createAll db calls' {}).2.outages.map dedupKey) := by
    rw [List.perm_ext_iff_of_nodup h.nodup h'.nodup]
    intro k
    rw [h.keys, h'.keys]
  have hlength := hkeys.length_eq
  rw [List.length_map, List.length_map] at hlength
  exact hlength

theorem isSameOutage_newOrm (db : OutageDatabase) (payload : OutageCreate) :
    isSameOutage (newOrm db payload) payload = true := by
  simp [isSameOutage, newOrm]

theorem createBy_of_stored (first : First) (hid : ∀ o ∈ s.outages, o.id = payload.id →
    o = newOrm db payload) (hmem : newOrm db payload ∈ s.outages) :
    createBy first db payload s = (.ok (newOrm db payload, false), s) := by
  have hfind : getOrm s payload.id = some (newOrm db payload) := by
    unfold getOrm
    cases hfound : s.outages.find? fun o => decide (o.id = payload.id) with
    | none =>
      have hnone := List.find?_eq_none.mp hfound _ hmem
      simp at hnone
    | some o =>
      have hoid : o.id = payload.id := by simpa using List.find?_some hfound
      rw [hid o (List.mem_of_find?_eq_some hfound) hoid]
  unfold createBy checkDuplicateBy
  rw [hfind]
  dsimp only
  rw [if_pos (isSameOutage_newOrm db payload)]

theorem Unmixed.recreates (hids : (payloads.map (·.id)).Nodup) (hunmixed : Unmixed payloads) :
    Recreates db payloads := by
  intro calls hperm result hresult o isNew hok first
  obtain ⟨h, hreturned⟩ := keyed_of_perm db hids hunmixed hperm
  obtain ⟨hmem, ho, hkey⟩ := hreturned result hresult o isNew hok
  generalize (createAll db calls {}).2 = s at h ho ⊢
  -- the outage is the only row with the key of the payload
  have honly : ∀ o' ∈ s.outages, dedupKey o' = dedupKey (newOrm db result.1) → o' = o :=
    fun o' ho' hkey' => List.inj_on_of_nodup_map h.nodup ho' ho (hkey'.trans hkey.symm)
  have hrow : ∀ o' ∈ s.outages, o'.id = result.1.id → o' = newOrm db result.1 := by
    intro o' ho' hid
    obtain ⟨q, hq, rfl⟩ := h.rows o' ho'
    rw [List.inj_on_of_nodup_map hids hq hmem hid]
  by_cases hstored : ∃ o' ∈ s.outages, o'.id = result.1.id
  · obtain ⟨o', ho', hid⟩ := hstored
    obtain rfl := hrow o' ho' hid
    rw [createBy_of_stored first hrow ho', honly _ ho' rfl]
  · have hfresh : ∀ o' ∈ s.outages, o'.id ≠ result.1.id := fun o' ho' hid => hstored ⟨o', ho', hid⟩
    have hiff : ∀ o' ∈ s.outages, matchesContent result.1 o' = true ↔
        dedupKey o' = dedupKey (newOrm db result.1) := by
      intro o' ho'
      obtain ⟨q, hq, rfl⟩ := h.rows o' ho'
      exact matchesContent_iff_dedupKey (hunmixed result.1 hmem q hq)
    obtain ⟨o', ho', hcontent, hcreate⟩ :=
      createBy_of_match db first hfresh ⟨o, ho, (hiff o ho).mpr hkey⟩
    rw [hcreate, honly o' ho' ((hiff o' ho').mp hcontent)]

/-! ## Mixed pairs -/

/-- The creation of payloads where `.first()` follows the table. -/
def inTableOrder (payloads : List OutageCreate) : List Call :=
  payloads.map fun payload => ⟨payload, .tableOrder⟩

theorem payloadsOf_inTableOrder (payloads : List OutageCreate) :
    payloadsOf (inTableOrder payloads) = payloads := by
  unfold payloadsOf inTableOrder
  rw [List.map_map]
  exact List.map_id payloads

/-- Two tables in which the same payloads find a match get the same rows. Induction on the
payloads. -/
theorem length_createAll_of_alike (db : OutageDatabase) {s s' : OutageStore}
    (hids : (payloads.map (·.id)).Nodup) (hfresh : ∀ x ∈ payloads, ∀ o ∈ s.outages, o.id ≠ x.id)
    (hfresh' : ∀ x ∈ payloads, ∀ o ∈ s'.outages, o.id ≠ x.id)
    (halike : ∀ x ∈ payloads, (∃ o ∈ s.outages, matchesContent x o = true) ↔
      ∃ o ∈ s'.outages, matchesContent x o = true)
    :
    (createAll db (inTableOrder payloads) s).2.outages.length + s'.outages.length =
      (createAll db (inTableOrder payloads) s').2.outages.length + s.outages.length := by
  induction payloads generalizing s s' with
  | nil => exact Nat.add_comm _ _
  | cons x payloads ih =>
    obtain ⟨hnew, hids⟩ := List.nodup_cons.mp hids
    have hx := hfresh x List.mem_cons_self
    have hx' := hfresh' x List.mem_cons_self
    have htail : ∀ y ∈ payloads, y ∈ x :: payloads := fun y hy => List.mem_cons_of_mem _ hy
    show (createAll db (inTableOrder payloads) (createBy .tableOrder db x s).2).2.outages.length +
        _ = (createAll db (inTableOrder payloads) (createBy .tableOrder db x s').2).2.outages.length
        + _
    by_cases hmatch : ∃ o ∈ s.outages, matchesContent x o = true
    · obtain ⟨o, -, -, hcreate⟩ := createBy_of_match db .tableOrder hx hmatch
      obtain ⟨o', -, -, hcreate'⟩ := createBy_of_match db .tableOrder hx'
        ((halike x List.mem_cons_self).mp hmatch)
      rw [hcreate, hcreate']
      exact ih hids (fun y hy => hfresh y (htail y hy)) (fun y hy => hfresh' y (htail y hy))
        fun y hy => halike y (htail y hy)
    · have hmatch' := mt (halike x List.mem_cons_self).mpr hmatch
      rw [createBy_of_no_match .tableOrder hx hmatch, createBy_of_no_match .tableOrder hx' hmatch']
      cases db.refuses (newOrm db x) with
      | some e =>
        exact ih hids (fun y hy => hfresh y (htail y hy)) (fun y hy => hfresh' y (htail y hy))
          fun y hy => halike y (htail y hy)
      | none =>
        -- both tables get the row of `x`, whose id none of the rest has
        have hother : ∀ y ∈ payloads, (newOrm db x).id ≠ y.id := fun y hy hid =>
          hnew (List.mem_map.mpr ⟨y, hy, hid.symm⟩)
        have hfreshInsert : ∀ t : OutageStore,
            (∀ y ∈ x :: payloads, ∀ o ∈ t.outages, o.id ≠ y.id) →
            ∀ y ∈ payloads, ∀ o ∈ (insertOrm (newOrm db x) t).outages, o.id ≠ y.id := by
          intro t ht y hy o ho
          rcases List.mem_append.mp ho with ho | ho
          · exact ht y (htail y hy) o ho
          · rw [List.mem_singleton.mp ho]
            exact hother y hy
        have hlength : ∀ t : OutageStore,
            (insertOrm (newOrm db x) t).outages.length = t.outages.length + 1 :=
          fun t => List.length_append
        have hrest := ih hids (hfreshInsert s hfresh) (hfreshInsert s' hfresh') fun y hy => by
          unfold insertOrm
          simp only [List.mem_append, List.mem_singleton, or_and_right, exists_or,
            halike y (htail y hy)]
        rw [hlength, hlength] at hrest
        dsimp only
        omega

theorem createBy_snd_of_no_match (hid : ∀ o ∈ s.outages, o.id ≠ payload.id)
    (hmatch : ∀ o ∈ s.outages, matchesContent payload o = false)
    (haccepted : db.refuses (newOrm db payload) = none) :
    (createBy .tableOrder db payload s).2 = insertOrm (newOrm db payload) s := by
  have hnone : ¬ ∃ o ∈ s.outages, matchesContent payload o = true := by
    rintro ⟨o, ho, hcontent⟩
    rw [hmatch o ho] at hcontent
    cases hcontent
  rw [createBy_of_no_match .tableOrder hid hnone, haccepted]

section MixedPair

variable {p q x : OutageCreate}

theorem siteId_ne_of_hasSite (hsite : hasSite p = true) (hnosite : hasSite q = false) :
    q.siteId ≠ p.siteId := by
  intro hsame
  unfold hasSite at hsite hnosite
  rw [hsame, hsite] at hnosite
  cases hnosite

theorem matchesContent_of_siteless (hcontent : content p = content q) (hnosite : hasSite q = false)
    (hx : matchesContent x (newOrm db q) = true) : matchesContent x (newOrm db p) = true := by
  obtain ⟨hxq, hxsite⟩ := (matchesContent_newOrm x q).mp hx
  refine (matchesContent_newOrm x p).mpr ⟨hcontent.trans hxq, fun hgiven => ?_⟩
  exact absurd (hxsite hgiven) (siteId_ne_of_hasSite hgiven hnosite)

theorem createBy_empty (hx : db.refuses (newOrm db x) = none) :
    (createBy .tableOrder db x {}).2 = insertOrm (newOrm db x) {} :=
  createBy_snd_of_no_match (fun _ ho => absurd ho List.not_mem_nil)
    (fun _ ho => absurd ho List.not_mem_nil) hx

theorem createBy_siteless_second (hne : p.id ≠ q.id) (hcontent : content p = content q)
    (hnosite : hasSite q = false) :
    (createBy .tableOrder db q (insertOrm (newOrm db p) {})).2 = insertOrm (newOrm db p) {} := by
  have hid : ∀ o ∈ (insertOrm (newOrm db p) {}).outages, o.id ≠ q.id :=
    List.forall_mem_singleton.mpr hne
  have hmatch : matchesContent q (newOrm db p) = true :=
    (matchesContent_newOrm q p).mpr ⟨hcontent, fun hgiven => by simp [hnosite] at hgiven⟩
  obtain ⟨o, -, -, hcreate⟩ := createBy_of_match db .tableOrder hid
    ⟨newOrm db p, List.mem_singleton_self _, hmatch⟩
  rw [hcreate]

theorem createBy_siteless_first (hne : q.id ≠ p.id) (hsite : hasSite p = true)
    (hnosite : hasSite q = false) (hp : db.refuses (newOrm db p) = none) :
    (createBy .tableOrder db p (insertOrm (newOrm db q) {})).2 =
      insertOrm (newOrm db p) (insertOrm (newOrm db q) {}) := by
  refine createBy_snd_of_no_match ?_ ?_ hp
  · intro o ho
    rw [List.mem_singleton.mp ho]
    exact hne
  · intro o ho
    rw [List.mem_singleton.mp ho, Bool.eq_false_iff]
    intro hmatch
    exact siteId_ne_of_hasSite hsite hnosite (((matchesContent_newOrm p q).mp hmatch).2 hsite)

end MixedPair

/-- A payload without a site id is a duplicate of one with it, but not the other way round: of the
two orders, one persists an outage more. -/
theorem persisted_swap {p q : OutageCreate} {rest : List OutageCreate}
    (hids : ((p :: q :: rest).map (·.id)).Nodup) (hp : db.refuses (newOrm db p) = none)
    (hq : db.refuses (newOrm db q) = none) (hcontent : content p = content q)
    (hsite : hasSite p = true) (hnosite : hasSite q = false) :
    persisted db (inTableOrder (q :: p :: rest)) =
      persisted db (inTableOrder (p :: q :: rest)) + 1 := by
  obtain ⟨hpnew, hids⟩ := List.nodup_cons.mp hids
  obtain ⟨hqnew, hids⟩ := List.nodup_cons.mp hids
  have hqp : q.id ≠ p.id := fun hid => hpnew (List.mem_cons.mpr (.inl hid.symm))
  have hfirst : persisted db (inTableOrder (p :: q :: rest)) =
      (createAll db (inTableOrder rest) (insertOrm (newOrm db p) {})).2.outages.length := by
    show (createAll db (inTableOrder rest) (createBy .tableOrder db q
      (createBy .tableOrder db p {}).2).2).2.outages.length = _
    rw [createBy_empty hp, createBy_siteless_second hqp.symm hcontent hnosite]
  have hsecond : persisted db (inTableOrder (q :: p :: rest)) =
      (createAll db (inTableOrder rest)
        (insertOrm (newOrm db p) (insertOrm (newOrm db q) {}))).2.outages.length := by
    show (createAll db (inTableOrder rest) (createBy .tableOrder db p
      (createBy .tableOrder db q {}).2).2).2.outages.length = _
    rw [createBy_empty hq, createBy_siteless_first hqp hsite hnosite hp]
  have hidsp : ∀ x ∈ rest, p.id ≠ x.id := fun x hx hid =>
    hpnew (List.mem_cons_of_mem _ (List.mem_map.mpr ⟨x, hx, hid.symm⟩))
  have hidsq : ∀ x ∈ rest, q.id ≠ x.id := fun x hx hid =>
    hqnew (List.mem_map.mpr ⟨x, hx, hid.symm⟩)
  have halike : ∀ x ∈ rest,
      (∃ o ∈ (insertOrm (newOrm db p) {}).outages, matchesContent x o = true) ↔
        ∃ o ∈ (insertOrm (newOrm db p) (insertOrm (newOrm db q) {})).outages,
          matchesContent x o = true := by
    intro x _
    show (∃ o ∈ [newOrm db p], _) ↔ ∃ o ∈ [newOrm db q, newOrm db p], _
    simp only [List.mem_cons, List.not_mem_nil, or_false, exists_eq_left, or_and_right, exists_or]
    exact ⟨.inr, fun h => h.elim (matchesContent_of_siteless hcontent hnosite) id⟩
  have hfreshp : ∀ x ∈ rest, ∀ o ∈ (insertOrm (newOrm db p) {}).outages, o.id ≠ x.id := by
    intro x hx o ho
    rw [List.mem_singleton.mp ho]
    exact hidsp x hx
  have hfreshqp : ∀ x ∈ rest,
      ∀ o ∈ (insertOrm (newOrm db p) (insertOrm (newOrm db q) {})).outages, o.id ≠ x.id := by
    intro x hx o ho
    rcases List.mem_cons.mp ho with rfl | ho
    · exact hidsq x hx
    · exact hfreshp x hx o ho
  have hlength := length_createAll_of_alike db hids hfreshp hfreshqp halike
  rw [hfirst, hsecond]
  change _ + 2 = _ + 1 at hlength
  omega

/-! ## Every order -/

theorem OrderIndependent.unmixed (hids : (payloads.map (·.id)).Nodup)
    (haccepted : ∀ p ∈ payloads, db.refuses (newOrm db p) = none) (h : OrderIndependent db payloads) :
    Unmixed payloads := by
  -- it is enough to look at pairs whose first payload has the site id
  have hpair : ∀ p ∈ payloads, ∀ q ∈ payloads, content p = content q → hasSite p = true →
      hasSite q = true := by
    intro p hp q hq hcontent hsite
    by_contra hnosite
    rw [Bool.not_eq_true] at hnosite
    have hne : q ≠ p := by
      rintro rfl
      rw [hsite] at hnosite
      cases hnosite
    have hqrest : q ∈ payloads.erase p := (List.mem_erase_of_ne hne).mpr hq
    have hperm : (p :: q :: (payloads.erase p).erase q).Perm payloads :=
      ((List.perm_cons_erase hqrest).cons p).symm.trans (List.perm_cons_erase hp).symm
    have hids' : ((p :: q :: (payloads.erase p).erase q).map (·.id)).Nodup := by
      rw [(hperm.map _).nodup_iff]
      exact hids
    have hswap := persisted_swap hids' (haccepted p hp) (haccepted q hq) hcontent hsite
      hnosite
    have hsame := h (inTableOrder (q :: p :: (payloads.erase p).erase q))
      (inTableOrder (p :: q :: (payloads.erase p).erase q))
      (by rw [payloadsOf_inTableOrder]; exact (List.Perm.swap p q _).trans hperm)
      (by rw [payloadsOf_inTableOrder]; exact hperm)
    omega
  intro p hp q hq hcontent
  rw [Bool.eq_iff_iff]
  exact ⟨hpair p hp q hq hcontent, hpair q hq p hp hcontent.symm⟩

/-- **Deduplication and order.** Payloads with different ids, no two of which have the same content
but just one a site id, persist the same number of outages in every order, and another creation of
any of them returns the same outage. Where the database takes all of them, the number depends on the
order for any other list. -/
theorem deduplication_order_independent (db : OutageDatabase) {payloads : List OutageCreate}
    (hids : (payloads.map (·.id)).Nodup) :
    (Unmixed payloads → OrderIndependent db payloads ∧ Recreates db payloads) ∧
      ((∀ p ∈ payloads, db.refuses (newOrm db p) = none) →
        OrderIndependent db payloads → Unmixed payloads) :=
  ⟨fun hunmixed => ⟨hunmixed.orderIndependent hids, hunmixed.recreates hids⟩,
    fun haccepted h => h.unmixed hids haccepted⟩

/-! ## Two reports of one outage -/

def reportOf (id : String) (siteId : Option String) : OutageCreate where
  id
  siteName := "Lagos 1"
  siteId
  severity := .high
  status := .open
  detectedAt := 0
  description := "Power failure."
  affectedServices := ["voice"]

def acceptingDatabase : OutageDatabase where
  loadedAt := 0
  refuses _ := none
  refusesUpdate _ _ := none
  takes_status _ _ _ := rfl

/-- Reports that all name a site. -/
theorem reports_of_sites_order_independent :
    OrderIndependent acceptingDatabase [reportOf "a" (some "LAG-1"), reportOf "b" (some "LAG-2")] ∧
      Recreates acceptingDatabase [reportOf "a" (some "LAG-1"), reportOf "b" (some "LAG-2")] :=
  (deduplication_order_independent acceptingDatabase (by decide)).1 (by decide)

/-- One report with a site id and one without: the first order persists one outage, the other one
two. -/
theorem reports_not_order_independent :
    ([reportOf "a" (some "LAG-1"), reportOf "b" none].map (·.id)).Nodup ∧
      persisted acceptingDatabase
        (inTableOrder [reportOf "a" (some "LAG-1"), reportOf "b" none]) = 1 ∧
      persisted acceptingDatabase
        (inTableOrder [reportOf "b" none, reportOf "a" (some "LAG-1")]) = 2 ∧
      ¬ OrderIndependent acceptingDatabase [reportOf "a" (some "LAG-1"), reportOf "b" none] := by
  have hone : persisted acceptingDatabase
      (inTableOrder [reportOf "a" (some "LAG-1"), reportOf "b" none]) = 1 := by decide
  have htwo : persisted acceptingDatabase
      (inTableOrder [reportOf "b" none, reportOf "a" (some "LAG-1")]) = 2 := by decide
  refine ⟨by decide, hone, htwo, fun h => ?_⟩
  have hsame := h (inTableOrder [reportOf "a" (some "LAG-1"), reportOf "b" none])
    (inTableOrder [reportOf "b" none, reportOf "a" (some "LAG-1")]) (.refl _) (.swap _ _ _)
  rw [hone, htwo] at hsame
  cases hsame

end OutageRepository

end NocIq
