import Mathlib.Data.List.Basic

/-!
# NocIq — instants and exceptions

The values every part of the backend model shares: instants, and the exceptions the code
raises. A function of the source that can raise returns an `Except Exc`; one that can raise
after it has written returns the database next to it.
-/

namespace NocIq

/-- An instant, in microseconds since the epoch (UTC). -/
abbrev Time := Int

/-- The `detail` of an `HTTPException`. -/
inductive HttpDetail where
  | text (message : String)
  /-- the dictionary `reconcile_payment` and `retry_payment` build from a transition error -/
  | transition (currentStatus requestedStatus : String) (allowedTransitions : List String)
  /-- `str(exc)` of a transition error; its text prints a Python `set`, so only the data is kept -/
  | transitionText (current nextStatus : String) (allowed : List String)
  deriving DecidableEq, Repr

/-- What the modelled code raises. -/
inductive Exc where
  | httpException (statusCode : Nat) (detail : HttpDetail)
  | valueError (message : String)
  | typeError (message : String)
  /-- pydantic's `ValidationError`, with the fields it names -/
  | validationError (fields : List String)
  /-- the database refused a statement because of the named constraint -/
  | integrityError (constraint : String)
  /-- the database or its driver refused a value; `type` is the class of the exception -/
  | databaseError (type message : String)
  | paymentTransitionError (current nextStatus : String) (allowed : List String)
  | attributeError (message : String)
  /-- an UPDATE of an object matched no row of the table -/
  | staleDataError (table : String)
  /-- the row behind an expired object is gone -/
  | objectDeletedError (table : String)
  /-- `refresh(…)` of an object whose row is gone -/
  | invalidRequestError (table : String)
  deriving DecidableEq, Repr

/-- `HTTPException(status_code=…, detail="…")`. -/
def Exc.http (statusCode : Nat) (message : String) : Exc := .httpException statusCode (.text message)

theorem except_bind_ok_iff {ε α β : Type} {x : Except ε α} {f : α → Except ε β} {b : β} :
    (x >>= f) = .ok b ↔ ∃ a, x = .ok a ∧ f a = .ok b := by
  cases x with
  | error e => exact ⟨fun h => (nomatch h), fun ⟨a, ha, _⟩ => (nomatch ha)⟩
  | ok a => exact ⟨fun h => ⟨a, rfl, h⟩, fun ⟨a', ha, h⟩ => by rw [Except.ok.inj ha]; exact h⟩

end NocIq
