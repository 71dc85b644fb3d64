import NocIq.Exceptions

/-!
# NocIq — naive and aware datetimes

A Python `datetime` is a wall clock, with or without an offset from UTC. The two kinds do not
compare with `<`: the attempt raises a `TypeError`. What a `DateTime` column gives back is naive
or aware depending on the column and on the database, so the code meets both.

* **`Datetime.lt`** — the comparison, with its error.
* **`Datetime.lt_instants`** — between two datetimes of a kind it compares the instants.
-/

namespace NocIq

/-- A `datetime`, in microseconds; the offset is what the wall clock is ahead of UTC. -/
inductive Datetime where
  | naive (wall : Int)
  | aware (wall utcOffset : Int)
  deriving DecidableEq, Repr

namespace Datetime

/-- `datetime.now(UTC)`. -/
def now (t : Time) : Datetime := .aware t 0

/-- `datetime.utcnow()`. -/
def utcnow (t : Time) : Datetime := .naive t

/-- `tzinfo is not None`. -/
def hasTzinfo : Datetime → Bool
  | .naive _ => false
  | .aware .. => true

/-- `replace(tzinfo=None)`: the wall clock stays as it is. -/
def withoutTzinfo : Datetime → Datetime
  | .naive wall => .naive wall
  | .aware wall _ => .naive wall

/-- Adding a `timedelta`. -/
def add (delta : Int) : Datetime → Datetime
  | .naive wall => .naive (wall + delta)
  | .aware wall utcOffset => .aware (wall + delta) utcOffset

/-- `a < b`. -/
def lt : Datetime → Datetime → Except Exc Bool
  | .naive a, .naive b => .ok (decide (a < b))
  | .aware a offset, .aware b offset' => .ok (decide (a - offset < b - offset'))
  | _, _ => .error (.typeError "can't compare offset-naive and offset-aware datetimes")

/-- `a - b`, a `timedelta`. -/
def sub : Datetime → Datetime → Except Exc Int
  | .naive a, .naive b => .ok (a - b)
  | .aware a offset, .aware b offset' => .ok ((a - offset) - (b - offset'))
  | _, _ => .error (.typeError "can't subtract offset-naive and offset-aware datetimes")

/-- The instant a datetime denotes, a naive one being UTC. -/
def instant : Datetime → Time
  | .naive wall => wall
  | .aware wall utcOffset => wall - utcOffset

@[simp] theorem instant_utcnow (t : Time) : (utcnow t).instant = t := rfl

@[simp] theorem hasTzinfo_withoutTzinfo (d : Datetime) : d.withoutTzinfo.hasTzinfo = false := by
  cases d <;> rfl

variable {a b : Datetime}

theorem lt_typeError (h : a.hasTzinfo ≠ b.hasTzinfo) :
    a.lt b = .error (.typeError "can't compare offset-naive and offset-aware datetimes") := by
  cases a <;> cases b <;> first | rfl | exact absurd rfl h

theorem sub_typeError (h : a.hasTzinfo ≠ b.hasTzinfo) :
    a.sub b = .error (.typeError "can't subtract offset-naive and offset-aware datetimes") := by
  cases a <;> cases b <;> first | rfl | exact absurd rfl h

theorem sub_instants (h : a.hasTzinfo = b.hasTzinfo) : a.sub b = .ok (a.instant - b.instant) := by
  cases a <;> cases b <;> first | rfl | cases h

theorem lt_instants (h : a.hasTzinfo = b.hasTzinfo) :
    a.lt b = .ok (decide (a.instant < b.instant)) := by
  cases a <;> cases b <;> first | rfl | cases h

end Datetime

/-- A `timedelta(hours=…)`, `timedelta(minutes=…)` or `timedelta(seconds=…)`, in microseconds. -/
def timedelta (hours minutes seconds : Int) : Int :=
  ((hours * 60 + minutes) * 60 + seconds) * 1000000

end NocIq
