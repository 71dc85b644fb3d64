import Mathlib.Algebra.BigOperators.Group.List.Basic
import Mathlib.Algebra.Ring.Int.Defs
import Mathlib.Data.List.Nodup

/-!
# Transfers — amounts moved between accounts

A list of transfers between accounts, all settled together.

* **`sum_balanceAfter`** — settling transfers between the accounts leaves their total as it is.
* **`sent_of_mem`** and **`received_of_one_target`** — who sends once, and what arrives when all of
  it goes to one account.
-/

namespace Transfers

variable {ι ρ : Type} [DecidableEq ι]

structure Transfer (ι : Type) where
  source : ι
  target : ι
  amount : Int
  deriving DecidableEq, Repr

variable {ts : List (Transfer ι)} {i : ι}

def sent (ts : List (Transfer ι)) (i : ι) : Int :=
  ((ts.filter fun t => t.source = i).map Transfer.amount).sum

def received (ts : List (Transfer ι)) (i : ι) : Int :=
  ((ts.filter fun t => t.target = i).map Transfer.amount).sum

def balanceAfter (ts : List (Transfer ι)) (i : ι) (balance : Int) : Int :=
  balance - sent ts i + received ts i

/-! ## The total -/

theorem sum_indicator {keys : List ι} (hnodup : keys.Nodup) {k : ι} (hk : k ∈ keys) (w : Int) :
    (keys.map fun k' => if k = k' then w else 0).sum = w := by
  induction keys with
  | nil => cases hk
  | cons k' keys ih =>
    obtain ⟨hnew, hnodup⟩ := List.nodup_cons.mp hnodup
    rw [List.map_cons, List.sum_cons]
    rcases List.mem_cons.mp hk with rfl | hmem
    · -- its key does not come again
      have hrest : (keys.map fun k' => if k = k' then w else 0) = keys.map fun _ => (0 : Int) := by
        apply List.map_congr_left
        intro k' hk'
        exact if_neg fun heq => hnew (by rw [heq]; exact hk')
      rw [if_pos rfl, hrest]
      simp
    · rw [if_neg fun heq => hnew (by rw [← heq]; exact hmem), ih hnodup hmem, zero_add]

/-- **Key by key** the weights add up to the weight of all items. Induction on the items. -/
theorem sum_by_key {keys : List ι} (hnodup : keys.Nodup) {key : ρ → ι} {weight : ρ → Int}
    {items : List ρ} (hkeys : ∀ item ∈ items, key item ∈ keys) :
    (keys.map fun k => ((items.filter fun item => key item = k).map weight).sum).sum =
      (items.map weight).sum := by
  induction items with
  | nil => simp
  | cons item items ih =>
    rw [List.forall_mem_cons] at hkeys
    have hsplit : (keys.map fun k =>
          (((item :: items).filter fun item => key item = k).map weight).sum) =
        keys.map fun k => (if key item = k then weight item else 0) +
          ((items.filter fun item => key item = k).map weight).sum := by
      apply List.map_congr_left
      intro k _
      by_cases hk : key item = k
      · rw [List.filter_cons_of_pos (by simpa using hk), if_pos hk]
        rfl
      · rw [List.filter_cons_of_neg (by simpa using hk), if_neg hk, zero_add]
    rw [hsplit, List.sum_map_add, ih hkeys.2, sum_indicator hnodup hkeys.1]
    rfl

/-- **The total** is kept by transfers between the accounts. -/
theorem sum_balanceAfter {accounts : List ρ} {id : ρ → ι} {balance : ρ → Int}
    (hnodup : (accounts.map id).Nodup)
    (hts : ∀ t ∈ ts, t.source ∈ accounts.map id ∧ t.target ∈ accounts.map id) :
    (accounts.map fun a => balanceAfter ts (id a) (balance a)).sum =
      (accounts.map balance).sum := by
  have hsent : (accounts.map fun a => sent ts (id a)).sum = (ts.map Transfer.amount).sum := by
    rw [← sum_by_key hnodup fun t ht => (hts t ht).1, List.map_map]
    rfl
  have hreceived : (accounts.map fun a => received ts (id a)).sum =
      (ts.map Transfer.amount).sum := by
    rw [← sum_by_key hnodup fun t ht => (hts t ht).2, List.map_map]
    rfl
  -- what is sent is given back, and what arrives taken away
  have hbalanced : (accounts.map fun a => balanceAfter ts (id a) (balance a) + sent ts (id a)).sum =
      (accounts.map fun a => balance a + received ts (id a)).sum := by
    congr 1
    apply List.map_congr_left
    intro a _
    unfold balanceAfter
    omega
  rw [List.sum_map_add, List.sum_map_add, hsent, hreceived] at hbalanced
  omega

/-! ## One account -/

theorem sent_eq_zero (h : ∀ t ∈ ts, t.source ≠ i) : sent ts i = 0 := by
  unfold sent
  rw [List.filter_eq_nil_iff.mpr fun t ht => by simpa using h t ht]
  rfl

theorem sent_of_mem (hnodup : (ts.map Transfer.source).Nodup) {t : Transfer ι} (ht : t ∈ ts) :
    sent ts t.source = t.amount := by
  induction ts with
  | nil => cases ht
  | cons t' ts ih =>
    obtain ⟨hnew, hnodup⟩ := List.nodup_cons.mp hnodup
    unfold sent
    rcases List.mem_cons.mp ht with rfl | hmem
    · rw [List.filter_cons_of_pos (by simp), List.map_cons, List.sum_cons]
      have hrest : sent ts t.source = 0 := by
        apply sent_eq_zero
        intro t' ht' heq
        rw [← heq] at hnew
        exact hnew (List.mem_map_of_mem ht')
      unfold sent at hrest
      rw [hrest, add_zero]
    · have hne : t'.source ≠ t.source := by
        intro heq
        rw [heq] at hnew
        exact hnew (List.mem_map_of_mem hmem)
      rw [List.filter_cons_of_neg (by simpa using hne)]
      exact ih hnodup hmem

theorem received_of_one_target (h : ∀ t ∈ ts, t.target = i) :
    received ts i = (ts.map Transfer.amount).sum := by
  unfold received
  rw [List.filter_eq_self.mpr fun t ht => by simpa using h t ht]

theorem received_eq_zero (h : ∀ t ∈ ts, t.target ≠ i) : received ts i = 0 := by
  unfold received
  rw [List.filter_eq_nil_iff.mpr fun t ht => by simpa using h t ht]
  rfl

end Transfers
