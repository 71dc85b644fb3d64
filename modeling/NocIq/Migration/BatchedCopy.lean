import NocIq.Lib.OffsetBatches
import NocIq.Migration.ShadowTable

/-!
# NocIq — the batches of a copied table

`migrate_data` of `app/migrations/shadow_table.py`, of a source that no query orders: each batch is
`LIMIT` and `OFFSET` of the rows in the order in which that query delivers them.

* **`migrateBatchesIn_eq`** — the batches end, and what they copy is put together.
* **`migrateBatchesIn_stable`** — with one order for all queries, this is `migrateBatches`.
* **`batched_copy_iff`** — when the target has every row once.
-/

namespace NocIq

namespace ShadowTable

open OffsetBatches
open OffsetPages (window)

variable {ρ : Type}

/-- The order in which the `n`-th query delivers the rows of a table. -/
structure Deliveries (ρ : Type) where
  order : Nat → List ρ → List ρ
  perm : ∀ n rows, (order n rows).Perm rows

section Functions

variable (s : Settings) (d : Deliveries ρ)

/-- The loop of `migrate_data`, after `n` queries with `total` rows copied. -/
def migrateBatchesIn (batchSize : Nat) (source : List ρ) (n total : Nat) (target : Table ρ) :
    Except DbError (Nat × Table ρ) :=
  if _hrows : window total batchSize (d.order n source) = [] then .ok (total, target)
  else
    match target.insert (window total batchSize (d.order n source)) with
    | some target =>
      migrateBatchesIn batchSize source (n + 1)
        (total + (window total batchSize (d.order n source)).length) target
    | none => .error .integrityError
termination_by source.length - total
decreasing_by
  have hlength := List.length_pos_iff.mpr _hrows
  rw [length_window, (d.perm n source).length_eq] at hlength ⊢
  omega

def migrateDataIn (sourceTableName targetTableName : Name) (batchSize : Option Nat)
    (db : Database ρ) : Except DbError (Nat × Database ρ) :=
  match db sourceTableName, db targetTableName with
  | some (.table source), some (.table target) => do
    let (total, target) ←
      migrateBatchesIn d (effectiveBatchSize s batchSize) source.rows 0 0 target
    .ok (total, Function.update db targetTableName (some (.table target)))
  | some (.table _), _ => .error (.noSuchTable targetTableName)
  | _, _ => .error (.noSuchTable sourceTableName)

/-- The copy returns the number of the rows, and the target has each of them once. Nothing else is
changed. -/
def CopiesExactly (sourceTableName targetTableName : Name) (batchSize : Nat) (db : Database ρ) :
    Prop :=
  ∃ source copied : Table ρ, db sourceTableName = some (.table source) ∧
    migrateDataIn s d sourceTableName targetTableName (some batchSize) db =
      .ok (source.rows.length, Function.update db targetTableName (some (.table copied))) ∧
    copied.rows.Perm source.rows

/-- The windows of the queries have every row as often as the table. -/
def ReadOnce [DecidableEq ρ] (batchSize : Nat) (source : List ρ) : Prop :=
  ∀ row ∈ source,
    ((List.range source.length).map fun n =>
      (window (n * batchSize) batchSize (d.order n source)).count row).sum = source.count row

end Functions

/-! ## The loop -/

section Loop

variable {s : Settings} {d : Deliveries ρ} {batchSize : Nat}

/-- After `n` queries, `n` full batches have been copied, or all rows. -/
def copiedAfter (batchSize : Nat) (source : List ρ) (n : Nat) : Nat :=
  min (n * batchSize) source.length

theorem window_copiedAfter (source : List ρ) (n : Nat) :
    window (copiedAfter batchSize source n) batchSize (d.order n source) =
      window (n * batchSize) batchSize (d.order n source) := by
  unfold copiedAfter
  obtain hle | hlt := le_or_gt (n * batchSize) source.length
  · rw [Nat.min_eq_left hle]
  · rw [Nat.min_eq_right hlt.le, window_eq_nil (d.perm n source).length_eq.le,
      window_eq_nil ((d.perm n source).length_eq.trans_le hlt.le)]

theorem copiedAfter_succ (source : List ρ) (n : Nat) :
    copiedAfter batchSize source n +
        (window (n * batchSize) batchSize (d.order n source)).length =
      copiedAfter batchSize source (n + 1) := by
  rw [length_window, (d.perm n source).length_eq]
  unfold copiedAfter
  rw [Nat.add_mul, Nat.one_mul]
  omega

theorem batches_of_window_ne_nil (hpos : 0 < batchSize) {source : List ρ} {n : Nat}
    (hrows : window (copiedAfter batchSize source n) batchSize (d.order n source) ≠ []) :
    batches batchSize (fun n => d.order n source) n (source.length - n) =
      window (copiedAfter batchSize source n) batchSize (d.order n source) ++
        batches batchSize (fun n => d.order n source) (n + 1) (source.length - (n + 1)) := by
  have hlength := List.length_pos_iff.mpr hrows
  rw [length_window, (d.perm n source).length_eq] at hlength
  unfold copiedAfter at hlength
  have hn : n ≤ n * batchSize := Nat.le_mul_of_pos_right n hpos
  have hcount : source.length - n = source.length - (n + 1) + 1 := by omega
  rw [hcount, batches_succ, window_copiedAfter]

/-- **The batches end**, and copy what a single statement would copy that inserts all of them; a row
that the rules refuse ends the copy. -/
theorem migrateBatchesIn_eq (hpos : 0 < batchSize) (source : List ρ) (n total : Nat)
    (target : Table ρ) (htotal : total = copiedAfter batchSize source n) :
    migrateBatchesIn d batchSize source n total target =
      match target.insert
        (batches batchSize (fun n => d.order n source) n (source.length - n)) with
      | some copied => .ok (source.length, copied)
      | none => .error .integrityError := by
  fun_induction migrateBatchesIn d batchSize source n total target with
  | case1 n total target hrows =>
    -- nothing is left
    have hdone : source.length ≤ total := by
      have hlength := congrArg List.length hrows
      rw [length_window, (d.perm n source).length_eq, List.length_nil] at hlength
      omega
    have hall : source.length ≤ n * batchSize := by
      rw [htotal] at hdone
      exact hdone.trans (Nat.min_le_left _ _)
    have hnil : batches batchSize (fun n => d.order n source) n (source.length - n) = [] := by
      refine batches_eq_nil ?_ _
      intro m hm
      rw [(d.perm m source).length_eq]
      exact hall.trans (Nat.mul_le_mul_right batchSize hm)
    have heq : total = source.length := by
      rw [htotal]
      exact Nat.min_eq_right hall
    rw [hnil, target.insert_nil, heq]
  | case2 n total target hrows copied hinsert ih =>
    subst htotal
    rw [batches_of_window_ne_nil hpos hrows, target.insert_append, hinsert, Option.bind_some]
    refine ih ?_
    rw [window_copiedAfter, copiedAfter_succ]
  | case3 n total target hrows hinsert =>
    subst htotal
    rw [batches_of_window_ne_nil hpos hrows, target.insert_append, hinsert, Option.bind_none]

/-- **One order for all queries** is the copy of a table that has an order of its own. -/
theorem migrateBatchesIn_stable (hpos : 0 < batchSize) (source : List ρ) (target : Table ρ)
    (hstable : ∀ n, d.order n source = source) :
    migrateBatchesIn d batchSize source 0 0 target = migrateBatches batchSize source 0 target := by
  have hzero : (0 : Nat) = copiedAfter batchSize source 0 := by
    unfold copiedAfter
    rw [Nat.zero_mul, Nat.zero_min]
  have hsame : (fun n => d.order n source) = fun _ => source := funext hstable
  have hcopy := migrateBatches_eq hpos source 0 target (Nat.zero_le _)
  rw [List.drop_zero] at hcopy
  rw [migrateBatchesIn_eq hpos source 0 0 target hzero, hsame, Nat.sub_zero, batches_const_all hpos]
  refine Eq.trans ?_ hcopy.symm
  cases target.insert source with
  | some copied => rfl
  | none => rfl

end Loop

/-! ## The copy of a table -/

section Copy

variable {s : Settings} {d : Deliveries ρ} {batchSize : Nat} {db : Database ρ}
  {sourceTableName targetTableName : Name} {source target : Table ρ}

theorem insert_of_empty {rows : List ρ} (hempty : target.rows = []) :
    target.insert rows =
      if h : target.rules.ok rows = true then some ⟨target.rules, rows, h⟩ else none := by
  unfold Table.insert
  simp only [hempty, List.nil_append]

theorem effectiveBatchSize_some (hpos : 0 < batchSize) :
    effectiveBatchSize s (some batchSize) = batchSize := by
  unfold effectiveBatchSize
  rw [Option.filter_some, if_pos (decide_eq_true (Nat.ne_of_gt hpos))]
  rfl

theorem copiesExactly_iff (hpos : 0 < batchSize)
    (hsource : db sourceTableName = some (.table source))
    (htarget : db targetTableName = some (.table target)) (hempty : target.rows = [])
    (haccepts : ∀ rows, rows.Perm source.rows → target.rules.ok rows = true) :
    CopiesExactly s d sourceTableName targetTableName batchSize db ↔
      (batches batchSize (fun n => d.order n source.rows) 0 source.rows.length).Perm
        source.rows := by
  have hzero : (0 : Nat) = copiedAfter batchSize source.rows 0 := by
    unfold copiedAfter
    rw [Nat.zero_mul, Nat.zero_min]
  have hrun := migrateBatchesIn_eq (d := d) hpos source.rows 0 0 target hzero
  rw [Nat.sub_zero, insert_of_empty hempty] at hrun
  have hdata : migrateDataIn s d sourceTableName targetTableName (some batchSize) db =
      (migrateBatchesIn d batchSize source.rows 0 0 target).map fun result =>
        (result.1, Function.update db targetTableName (some (.table result.2))) := by
    unfold migrateDataIn
    rw [hsource, htarget, effectiveBatchSize_some hpos]
    show (migrateBatchesIn d batchSize source.rows 0 0 target >>= _) = _
    cases migrateBatchesIn d batchSize source.rows 0 0 target with
    | ok result => rfl
    | error e => rfl
  constructor
  · rintro ⟨source', copied, hsource', hok, hperm⟩
    obtain rfl : source' = source := by
      rw [hsource] at hsource'
      cases hsource'
      rfl
    rw [hdata] at hok
    by_cases hrules : target.rules.ok
        (batches batchSize (fun n => d.order n source'.rows) 0 source'.rows.length) = true
    · rw [hrun, dif_pos hrules] at hok
      -- the table that is stored is the one with the batches
      have hstored := congrFun (Prod.mk.inj (Except.ok.inj hok)).2 targetTableName
      rw [Function.update_self, Function.update_self] at hstored
      cases hstored
      exact hperm
    · rw [hrun, dif_neg hrules] at hok
      cases hok
  · intro hperm
    have hrules := haccepts _ hperm
    refine ⟨source, ⟨target.rules, _, hrules⟩, hsource, ?_, hperm⟩
    rw [hdata, hrun, dif_pos hrules]
    rfl

/-- **The batched copy**, of any table into an empty one that takes its rows in any order. It is
exact if the windows of its queries have every row as often as the table; and it is so whatever the
orders of the queries exactly if one batch is enough, or all rows are the same. -/
theorem batched_copy_iff [DecidableEq ρ] (hpos : 0 < batchSize)
    (hsource : db sourceTableName = some (.table source))
    (htarget : db targetTableName = some (.table target)) (hempty : target.rows = [])
    (haccepts : ∀ rows, rows.Perm source.rows → target.rules.ok rows = true) :
    (∀ d, CopiesExactly s d sourceTableName targetTableName batchSize db ↔
        ReadOnce d batchSize source.rows) ∧
      ((∀ d, CopiesExactly s d sourceTableName targetTableName batchSize db) ↔
        source.rows.length ≤ batchSize ∨ ∀ a ∈ source.rows, ∀ b ∈ source.rows, a = b) := by
  constructor
  · intro d
    rw [copiesExactly_iff hpos hsource htarget hempty haccepts]
    exact batches_perm_iff (fun n => d.perm n source.rows) _
  · rw [← batches_perm_forall_iff hpos source.rows]
    constructor
    · intro hall order horder
      -- the orders of one table are those of some deliveries
      let d : Deliveries ρ :=
        { order := fun n rows => if rows = source.rows then order n else rows
          perm := by
            intro n rows
            by_cases hrows : rows = source.rows
            · rw [if_pos hrows, hrows]
              exact horder n
            · rw [if_neg hrows] }
      have hsame : (fun n => d.order n source.rows) = order := by
        funext n
        exact if_pos rfl
      have hexact := (copiesExactly_iff hpos hsource htarget hempty haccepts).mp (hall d)
      rw [hsame] at hexact
      exact hexact
    · intro hall d
      refine (copiesExactly_iff hpos hsource htarget hempty haccepts).mpr (hall _ ?_)
      exact fun n => d.perm n source.rows

end Copy

/-! ### Two payments, copied one by one -/

def copyDatabase : Database Nat :=
  Function.update paymentsDatabase "payments_shadow" (some (.table payments.emptyCopy))

def inOrder : Deliveries Nat where
  order _ rows := rows
  perm _ rows := .refl rows

/-- The first query delivers the rows in one order, the others in the other. -/
def turnedAround : Deliveries Nat where
  order n rows := if n = 0 then rows else rows.reverse
  perm n rows := by
    split
    · exact .refl rows
    · exact List.reverse_perm rows

theorem keyRules_ok {rows : List Nat} (h : rows.Perm payments.rows) : keyRules.ok rows = true :=
  decide_eq_true (h.nodup_iff.mpr (by decide))

theorem copyDatabase_source : copyDatabase "payments" = some (.table payments) := rfl

theorem copyDatabase_target :
    copyDatabase "payments_shadow" = some (.table payments.emptyCopy) := rfl

theorem copy_in_order : CopiesExactly {} inOrder "payments" "payments_shadow" 1 copyDatabase := by
  refine ((batched_copy_iff Nat.one_pos copyDatabase_source copyDatabase_target rfl
    fun _ => keyRules_ok).1 inOrder).mpr ?_
  unfold ReadOnce
  decide

/-- **The first payment twice**: it comes first in the first query and second in the second. -/
theorem first_payment_is_read_twice :
    ¬ CopiesExactly {} turnedAround "payments" "payments_shadow" 1 copyDatabase := by
  intro h
  have hperm := (copiesExactly_iff Nat.one_pos copyDatabase_source copyDatabase_target rfl
    fun _ => keyRules_ok).mp h
  revert hperm
  decide

end ShadowTable

end NocIq
