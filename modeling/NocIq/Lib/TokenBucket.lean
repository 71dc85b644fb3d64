import Mathlib.Algebra.Order.Field.Basic
import Mathlib.Tactic.Linarith
import NocIq.Lib.SlidingWindow

/-!
# TokenBucket — calls that take tokens, and tokens that come back with time

A bucket is filled at a rate, up to its capacity. A call is admitted if there is a token for it, and
takes the token.

* **`step_bounds`** — what is in a bucket stays between zero and its capacity.
* **`passing_until`** — the potential: the calls admitted from here on and what is left are covered
  by what is in the bucket and what is filled in.
* **`bound`** — so in any interval no more are admitted than the capacity and what is filled in.
* **`idle`** — a bucket that has been left alone admits as many calls in a row as it holds.
-/

namespace TokenBucket

open SlidingWindow (after passing decisions)

variable {K : Type*} [Field K] [LinearOrder K]

structure Policy (K : Type*) [Zero K] [LE K] where
  capacity : K
  rate : K
  capacity_nonneg : 0 ≤ capacity
  rate_nonneg : 0 ≤ rate

structure Bucket (K : Type*) where
  tokens : K
  last : K

variable (p : Policy K) (b : Bucket K) (now : K)

def refilled : K := min p.capacity (b.tokens + (now - b.last) * p.rate)

def step : Bool × Bucket K :=
  if 1 ≤ refilled p b now then (true, ⟨refilled p b now - 1, now⟩)
  else (false, ⟨refilled p b now, now⟩)

structure Bounded : Prop where
  nonneg : 0 ≤ b.tokens
  le_capacity : b.tokens ≤ p.capacity

def Ordered (b : Bucket K) (times : List K) : Prop := (b.last :: times).Pairwise (· ≤ ·)

variable {p b now} {times : List K}

/-! ## One call -/

theorem refilled_le_capacity : refilled p b now ≤ p.capacity := min_le_left _ _

theorem refilled_le : refilled p b now ≤ b.tokens + (now - b.last) * p.rate := min_le_right _ _

theorem step_last : (step p b now).2.last = now := by
  unfold step
  split
  · rfl
  · rfl

theorem step_tokens :
    (step p b now).2.tokens + (if (step p b now).1 then 1 else 0) = refilled p b now := by
  unfold step
  split
  · exact sub_add_cancel _ _
  · exact add_zero _

omit [Field K] in
theorem Ordered.head (h : Ordered b (now :: times)) : b.last ≤ now :=
  (List.pairwise_cons.mp h).1 now List.mem_cons_self

theorem Ordered.next (h : Ordered b (now :: times)) : Ordered (step p b now).2 times := by
  unfold Ordered
  rw [step_last]
  exact (List.pairwise_cons.mp h).2

variable [IsStrictOrderedRing K]

theorem filled_nonneg (hnow : b.last ≤ now) : 0 ≤ (now - b.last) * p.rate :=
  mul_nonneg (sub_nonneg.mpr hnow) p.rate_nonneg

theorem tokens_le_refilled (h : Bounded p b) (hnow : b.last ≤ now) :
    b.tokens ≤ refilled p b now := by
  have hfilled := filled_nonneg (p := p) hnow
  exact le_min h.le_capacity (by linarith)

/-- **The bounds** are kept. -/
theorem step_bounds (h : Bounded p b) (hnow : b.last ≤ now) : Bounded p (step p b now).2 := by
  have hnonneg := h.nonneg.trans (tokens_le_refilled h hnow)
  have hle : refilled p b now ≤ p.capacity := refilled_le_capacity
  unfold step
  split
  · rename_i hone
    exact ⟨sub_nonneg.mpr hone, (sub_le_self _ zero_le_one).trans hle⟩
  · exact ⟨hnonneg, hle⟩

/-! ## All calls -/

theorem bounded_ordered_after (h : Bounded p b) {later : List K}
    (hordered : Ordered b (times ++ later)) :
    Bounded p (after (step p) b times) ∧ Ordered (after (step p) b times) later := by
  induction times generalizing b with
  | nil => exact ⟨h, hordered⟩
  | cons now times ih => exact ih (step_bounds h hordered.head) hordered.next

omit [IsStrictOrderedRing K] in
theorem countP_passing_cons (q : K → Bool) :
    (((passing (step p) b (now :: times)).countP q : ℕ) : K) =
      (if (step p b now).1 ∧ q now then 1 else 0) +
        ((passing (step p) (step p b now).2 times).countP q : ℕ) := by
  have hcons : passing (step p) b (now :: times) =
      if (step p b now).1 then now :: passing (step p) (step p b now).2 times
      else passing (step p) (step p b now).2 times := rfl
  rw [hcons]
  by_cases hpass : (step p b now).1 = true
  · rw [if_pos hpass, List.countP_cons, Nat.cast_add, add_comm]
    by_cases hq : q now = true
    · rw [if_pos hq, if_pos ⟨hpass, hq⟩, Nat.cast_one]
    · rw [if_neg hq, if_neg fun h => hq h.2, Nat.cast_zero]
  · rw [if_neg hpass, if_neg fun h => hpass h.1, zero_add]

omit [IsStrictOrderedRing K] in
theorem countP_passing_eq_zero {q : K → Bool} (hnone : ∀ t ∈ times, q t = false) :
    (passing (step p) b times).countP q = 0 := by
  rw [List.countP_eq_zero]
  intro t ht
  rw [hnone t (SlidingWindow.mem_of_mem_passing ht)]
  exact Bool.false_ne_true

/-- **The potential**: what is admitted until an instant is covered by what is in the bucket, and by
what is filled in until then. Induction on the calls. -/
theorem passing_until (h : Bounded p b) (hordered : Ordered b times) {stop : K}
    (hstop : b.last ≤ stop) :
    ((passing (step p) b times).countP (fun t => decide (t ≤ stop)) : K) ≤
      b.tokens + (stop - b.last) * p.rate := by
  induction times generalizing b with
  | nil =>
    have hfilled := filled_nonneg (p := p) hstop
    show ((0 : ℕ) : K) ≤ _
    rw [Nat.cast_zero]
    linarith [h.nonneg]
  | cons now times ih =>
    by_cases hnow : now ≤ stop
    · have hlater := ih (step_bounds h hordered.head) hordered.next (step_last.trans_le hnow)
      have htokens : (step p b now).2.tokens + (if (step p b now).1 then 1 else 0) =
          refilled p b now := step_tokens
      have hrefilled : refilled p b now ≤ b.tokens + (now - b.last) * p.rate := refilled_le
      have hadmitted : (if (step p b now).1 ∧ decide (now ≤ stop) then (1 : K) else 0) =
          if (step p b now).1 then 1 else 0 := by
        simp only [decide_eq_true hnow, and_true]
      rw [step_last] at hlater
      rw [countP_passing_cons, hadmitted]
      have hfill : (stop - b.last) * p.rate =
          (now - b.last) * p.rate + (stop - now) * p.rate := by
        rw [← add_mul, sub_add_sub_cancel']
      linarith
    · -- the calls that are left come later
      have hfilled := filled_nonneg (p := p) hstop
      have hzero : (passing (step p) b (now :: times)).countP (fun t => decide (t ≤ stop)) = 0 := by
        refine countP_passing_eq_zero ?_
        intro t ht
        refine decide_eq_false fun hle => hnow ?_
        obtain rfl | ht := List.mem_cons.mp ht
        · exact hle
        · exact ((List.pairwise_cons.mp (List.pairwise_cons.mp hordered).2).1 t ht).trans hle
      rw [hzero, Nat.cast_zero]
      linarith [h.nonneg]

/-- **In any interval** no more calls are admitted than the capacity and what is filled in.
Induction on the calls, up to the first in the interval. -/
theorem bound (h : Bounded p b) (hordered : Ordered b times) {start stop : K}
    (hle : start ≤ stop) :
    ((passing (step p) b times).countP (fun t => decide (start ≤ t ∧ t ≤ stop)) : K) ≤
      p.capacity + p.rate * (stop - start) := by
  induction times generalizing b with
  | nil =>
    have hfilled := mul_nonneg p.rate_nonneg (sub_nonneg.mpr hle)
    show ((0 : ℕ) : K) ≤ _
    rw [Nat.cast_zero]
    linarith [p.capacity_nonneg]
  | cons now times ih =>
    have hbounded := step_bounds h hordered.head
    have hlater := (List.pairwise_cons.mp (List.pairwise_cons.mp hordered).2).1
    rw [countP_passing_cons]
    by_cases hin : start ≤ now ∧ now ≤ stop
    · -- the bucket is at most full at the first call in the interval
      have hcover := passing_until hbounded hordered.next (step_last.trans_le hin.2)
      have htokens : (step p b now).2.tokens + (if (step p b now).1 then 1 else 0) =
          refilled p b now := step_tokens
      have hfull : refilled p b now ≤ p.capacity := refilled_le_capacity
      have hsame : (passing (step p) (step p b now).2 times).countP
            (fun t => decide (start ≤ t ∧ t ≤ stop)) =
          (passing (step p) (step p b now).2 times).countP fun t => decide (t ≤ stop) := by
        refine List.countP_congr ?_
        intro t ht
        have hstart := hin.1.trans (hlater t (SlidingWindow.mem_of_mem_passing ht))
        rw [decide_eq_true_iff, decide_eq_true_iff]
        exact and_iff_right hstart
      have hadmitted : (if (step p b now).1 ∧ decide (start ≤ now ∧ now ≤ stop) then (1 : K)
          else 0) = if (step p b now).1 then 1 else 0 := by
        simp only [decide_eq_true hin, and_true]
      rw [step_last] at hcover
      rw [hsame, hadmitted]
      have hfill : (stop - now) * p.rate ≤ p.rate * (stop - start) := by
        rw [mul_comm]
        exact mul_le_mul_of_nonneg_left (sub_le_sub_left hin.1 stop) p.rate_nonneg
      linarith
    · -- the first call is not in the interval, so what it leaves is all that matters
      have hrest := ih hbounded hordered.next
      rw [if_neg fun hno => hin (of_decide_eq_true hno.2), zero_add]
      exact hrest

/-! ## Calls in a row -/

theorem decisions_cons (h : Bounded p b) (hordered : Ordered b (now :: times))
    (hrefilled : (times.length : K) + 1 ≤ refilled p b now)
    (hlater : ∀ {b' : Bucket K}, Bounded p b' → Ordered b' times → (times.length : K) ≤ b'.tokens →
      ∀ d ∈ decisions (step p) b' times, d = true) :
    ∀ d ∈ decisions (step p) b (now :: times), d = true := by
  have hnonneg : (0 : K) ≤ (times.length : K) := Nat.cast_nonneg _
  have hone : 1 ≤ refilled p b now := by linarith
  have hstep : step p b now = (true, ⟨refilled p b now - 1, now⟩) := if_pos hone
  have hbounded := step_bounds h hordered.head
  have hdecisions : decisions (step p) b (now :: times) =
      (step p b now).1 :: decisions (step p) (step p b now).2 times := rfl
  rw [hdecisions]
  refine List.forall_mem_cons.mpr ⟨by rw [hstep], hlater hbounded hordered.next ?_⟩
  rw [hstep]
  exact le_sub_iff_add_le.mpr hrefilled

/-- A bucket admits as many calls as it has tokens. Induction on the calls. -/
theorem decisions_of_tokens (h : Bounded p b) (hordered : Ordered b times)
    (htokens : (times.length : K) ≤ b.tokens) : ∀ d ∈ decisions (step p) b times, d = true := by
  induction times generalizing b with
  | nil => exact fun d hd => absurd hd List.not_mem_nil
  | cons now times ih =>
    rw [List.length_cons, Nat.cast_succ] at htokens
    have hrefilled := htokens.trans (tokens_le_refilled h hordered.head)
    exact decisions_cons h hordered hrefilled ih

/-- **A bucket that has been left alone** until it is full again admits as many calls in a row as it
holds. -/
theorem idle (h : Bounded p b) (hordered : Ordered b times) (hrate : 0 < p.rate)
    (hidle : ∀ t ∈ times.head?, b.last + p.capacity / p.rate ≤ t)
    (hcapacity : (times.length : K) ≤ p.capacity) : ∀ d ∈ decisions (step p) b times, d = true := by
  cases times with
  | nil => exact fun d hd => absurd hd List.not_mem_nil
  | cons now times =>
    have hlong : p.capacity ≤ (now - b.last) * p.rate := by
      rw [← div_le_iff₀ hrate]
      exact le_sub_iff_add_le'.mpr (hidle now rfl)
    have hfull : refilled p b now = p.capacity := by
      refine min_eq_left ?_
      linarith [h.nonneg]
    rw [List.length_cons, Nat.cast_succ, ← hfull] at hcapacity
    exact decisions_cons h hordered hcapacity decisions_of_tokens

end TokenBucket
