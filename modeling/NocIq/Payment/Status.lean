import NocIq.Exceptions

/-!
# NocIq — payment statuses and their transitions

`PaymentStatus`, `VALID_TRANSITIONS` and `validate_transition` of `app/models/payment.py`. The
database stores statuses as strings, and requests carry arbitrary ones.

* **`validateTransition_eq_ok`** — the pairs of strings the policy accepts, and no others.
-/

namespace NocIq

inductive PaymentStatus where
  | pending
  | confirmed
  | failed
  | deadLetter
  deriving DecidableEq, Repr

namespace PaymentStatus

def value : PaymentStatus → String
  | .pending => "pending"
  | .confirmed => "confirmed"
  | .failed => "failed"
  | .deadLetter => "dead_letter"

def all : List PaymentStatus := [.pending, .confirmed, .failed, .deadLetter]

/-- `PaymentStatus(value)`; `none` where the source raises a `ValueError`. -/
def ofValue (value : String) : Option PaymentStatus := all.find? fun s => decide (s.value = value)

theorem ofValue_eq_some {text : String} {s : PaymentStatus} :
    ofValue text = some s ↔ text = s.value := by
  constructor
  · intro h
    have := List.find?_some h
    simpa using (of_decide_eq_true this).symm
  · intro h
    rw [h]
    cases s <;> decide

end PaymentStatus

/-- `VALID_TRANSITIONS`. -/
def validTransitions : PaymentStatus → List PaymentStatus
  | .pending => [.confirmed, .failed]
  | .confirmed => []
  | .failed => [.pending]
  | .deadLetter => [.pending]

def allowedValues (current : PaymentStatus) : List String := (validTransitions current).map (·.value)

/-- The transition the table lists. -/
def AllowedTransition (current nextStatus : String) : Prop :=
  ∃ a b, current = PaymentStatus.value a ∧ nextStatus = PaymentStatus.value b ∧
    b ∈ validTransitions a

def validateTransition (current nextStatus : String) : Except Exc Unit :=
  match PaymentStatus.ofValue current, PaymentStatus.ofValue nextStatus with
  | some currentEnum, some nextEnum =>
    if nextEnum ∈ validTransitions currentEnum then .ok ()
    else .error (.paymentTransitionError current nextStatus (allowedValues currentEnum))
  | some currentEnum, none =>
    .error (.paymentTransitionError current nextStatus (allowedValues currentEnum))
  | none, _ => .error (.paymentTransitionError current nextStatus [])

variable {nextStatus current : String}

/-- **The policy.** It accepts exactly the transitions of the table. -/
theorem validateTransition_eq_ok :
    validateTransition current nextStatus = .ok () ↔ AllowedTransition current nextStatus := by
  unfold validateTransition AllowedTransition
  constructor
  · intro h
    split at h
    · rename_i a b ha hb
      split at h
      · rename_i hmem
        exact ⟨a, b, PaymentStatus.ofValue_eq_some.mp ha, PaymentStatus.ofValue_eq_some.mp hb, hmem⟩
      · cases h
    · cases h
    · cases h
  · intro h
    obtain ⟨a, b, ha, hb, hmem⟩ := h
    rw [PaymentStatus.ofValue_eq_some.mpr ha, PaymentStatus.ofValue_eq_some.mpr hb]
    exact if_pos hmem

theorem validateTransition_error {e : Exc} (h : validateTransition current nextStatus = .error e) :
    ∃ allowed, e = .paymentTransitionError current nextStatus allowed := by
  unfold validateTransition at h
  split at h
  · split at h
    · cases h
    · exact ⟨_, (Except.error.inj h).symm⟩
  · exact ⟨_, (Except.error.inj h).symm⟩
  · exact ⟨_, (Except.error.inj h).symm⟩

theorem allowedTransition_iff :
    AllowedTransition current nextStatus ↔
      (current = "pending" ∧ (nextStatus = "confirmed" ∨ nextStatus = "failed")) ∨
      ((current = "failed" ∨ current = "dead_letter") ∧ nextStatus = "pending") := by
  constructor
  · intro h
    obtain ⟨a, b, rfl, rfl, hmem⟩ := h
    cases a <;> cases b <;> simp_all [validTransitions, PaymentStatus.value]
  · intro h
    rcases h with ⟨rfl, rfl | rfl⟩ | ⟨rfl | rfl, rfl⟩
    · exact ⟨.pending, .confirmed, rfl, rfl, by decide⟩
    · exact ⟨.pending, .failed, rfl, rfl, by decide⟩
    · exact ⟨.failed, .pending, rfl, rfl, by decide⟩
    · exact ⟨.deadLetter, .pending, rfl, rfl, by decide⟩

/-- No transition leads to where it started, and none leaves `confirmed`. -/
theorem AllowedTransition.ne (h : AllowedTransition current nextStatus) :
    nextStatus ≠ current ∧ current ≠ "confirmed" := by
  rcases allowedTransition_iff.mp h with ⟨rfl, rfl | rfl⟩ | ⟨rfl | rfl, rfl⟩ <;> decide

end NocIq
