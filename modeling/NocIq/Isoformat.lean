import NocIq.Datetime
import NocIq.Lib.Calendar
import NocIq.Lib.Text

/-!
# NocIq — datetimes as text

`datetime.isoformat()` and `datetime.fromisoformat(…)` of the standard library. What is read is
`YYYY-MM-DD[*HH[:MM[:SS[.fff[fff]]]][±HH:MM[:SS[.ffffff]]]]`, the formats every supported Python
reads; `*` is any one character.

* **`fromisoformat_isoformat`** — what `isoformat` writes is read back as the same datetime.
* **`comma_notMem_isoformat`** — it has no comma.
-/

namespace NocIq

namespace Datetime

open Calendar Text

/-! ## Dates and clocks -/

/-- The microseconds from the start of year 1 to the epoch. -/
def yearOne : Int := 62135596800000000

def date (wall : Int) : Date := .ofDays ((wall + yearOne).toNat / dayLength)

def clock (wall : Int) : Clock := .ofMicroseconds ((wall + yearOne).toNat % dayLength)

/-- The wall clock that shows this date and time. -/
def wallOf (date : Date) (clock : Clock) : Int :=
  (date.days * dayLength + clock.microseconds : Nat) - yearOne

/-- Between `datetime.min` and `datetime.max`. -/
def InRange (wall : Int) : Prop :=
  0 ≤ wall + yearOne ∧ wall + yearOne < (dayCount * dayLength : Nat)

/-- A `datetime` that Python can hold. Its offset from UTC is less than a day. -/
def Valid : Datetime → Prop
  | .naive wall => InRange wall
  | .aware wall utcOffset => InRange wall ∧ utcOffset.natAbs < dayLength

instance : (d : Datetime) → Decidable d.Valid
  | .naive _ => inferInstanceAs (Decidable (_ ∧ _))
  | .aware .. => inferInstanceAs (Decidable ((_ ∧ _) ∧ _))

theorem wallOf_date_clock {wall : Int} (h : InRange wall) :
    wallOf (date wall) (clock wall) = wall := by
  obtain ⟨hnonneg, hlt⟩ := h
  have hday : (wall + yearOne).toNat / dayLength < dayCount := by
    rw [Nat.div_lt_iff_lt_mul (by decide)]
    omega
  have hclock : (wall + yearOne).toNat % dayLength < dayLength := Nat.mod_lt _ (by decide)
  rw [wallOf, date, clock, Date.days_ofDays hday, Clock.microseconds_ofMicroseconds hclock,
    Nat.div_add_mod']
  omega

/-! ## `isoformat` -/

def dateText (d : Date) : List Char :=
  padded 4 d.year ++ '-' :: (padded 2 d.month ++ '-' :: padded 2 d.day)

def fractionText (microsecond : Nat) : List Char :=
  if microsecond = 0 then [] else '.' :: padded 6 microsecond

def secondText (c : Clock) : List Char :=
  ':' :: (padded 2 c.second ++ fractionText c.microsecond)

def minuteText (c : Clock) : List Char := padded 2 c.hour ++ ':' :: padded 2 c.minute

/-- `timetz.isoformat()` without the offset. -/
def timeText (c : Clock) : List Char := minuteText c ++ secondText c

/-- The size of an offset from UTC, with its seconds only when it has some. -/
def offsetTime (c : Clock) : List Char :=
  minuteText c ++ if c.second = 0 ∧ c.microsecond = 0 then [] else secondText c

def offsetText (utcOffset : Int) : List Char :=
  (if utcOffset < 0 then '-' else '+') :: offsetTime (.ofMicroseconds utcOffset.natAbs)

def wallText (wall : Int) : List Char := dateText (date wall) ++ 'T' :: timeText (clock wall)

def isoformat : Datetime → String
  | .naive wall => String.ofList (wallText wall)
  | .aware wall utcOffset => String.ofList (wallText wall ++ offsetText utcOffset)

/-! ## `fromisoformat` -/

/-- What follows the character `c`. -/
def after (c : Char) : List Char → Option (List Char)
  | [] => none
  | c' :: cs => if c' = c then some cs else none

def readDate (cs : List Char) : Option (Date × List Char) := do
  let (year, cs) ← readNumber 4 cs
  let cs ← after '-' cs
  let (month, cs) ← readNumber 2 cs
  let cs ← after '-' cs
  let (day, cs) ← readNumber 2 cs
  let date ← Date.of? year month day
  some (date, cs)

/-- `.fff` or `.ffffff`, or nothing. -/
def readFraction (cs : List Char) : Option Nat :=
  if cs = [] then some 0
  else do
    let digits ← after '.' cs
    if digits.length = 3 then
      let (milliseconds, _) ← readNumber 3 digits
      some (milliseconds * 1000)
    else if digits.length = 6 then
      let (microseconds, _) ← readNumber 6 digits
      some microseconds
    else none

/-- `HH[:MM[:SS[.fff[fff]]]]`, as hours, minutes, seconds and microseconds. -/
def readTime (cs : List Char) : Option (Nat × Nat × Nat × Nat) := do
  let (hour, cs) ← readNumber 2 cs
  if cs = [] then some (hour, 0, 0, 0)
  else
    let cs ← after ':' cs
    let (minute, cs) ← readNumber 2 cs
    if cs = [] then some (hour, minute, 0, 0)
    else
      let cs ← after ':' cs
      let (second, cs) ← readNumber 2 cs
      let microsecond ← readFraction cs
      some (hour, minute, second, microsecond)

def isSign (c : Char) : Bool := decide (c = '+') || decide (c = '-')

/-- `timezone(±timedelta(microseconds=…))`, for less than a day. -/
def signedOffset (sign : Char) (microseconds : Nat) : Option Int :=
  if microseconds < dayLength then
    some (if sign = '-' then -(microseconds : Int) else microseconds)
  else none

def readOffset (sign : Char) (cs : List Char) : Option Int :=
  if cs.length = 5 ∨ cs.length = 8 ∨ cs.length = 15 then
    (readTime cs).bind fun (hour, minute, second, microsecond) =>
      signedOffset sign (duration hour minute second microsecond)
  else none

/-- `fromisoformat`; `none` is a `ValueError`. -/
def fromisoformat (text : String) : Option Datetime := do
  let (date, cs) ← readDate text.toList
  match cs with
  | [] => some (.naive (wallOf date (.ofMicroseconds 0)))
  | _ :: cs =>
    let (hour, minute, second, microsecond) ← readTime (cs.takeWhile fun c => !isSign c)
    let clock ← Clock.of? hour minute second microsecond
    match cs.dropWhile fun c => !isSign c with
    | [] => some (.naive (wallOf date clock))
    | sign :: cs =>
      let utcOffset ← readOffset sign cs
      some (.aware (wallOf date clock) utcOffset)

/-! ## Reading back -/

@[simp] theorem after_cons (c : Char) (cs : List Char) : after c (c :: cs) = some cs := if_pos rfl

theorem readDate_dateText (d : Date) (rest : List Char) :
    readDate (dateText d ++ rest) = some (d, rest) := by
  obtain ⟨⟨-, hyear⟩, ⟨-, hmonth⟩, -, hday⟩ := d.valid
  have hday' : d.day < 10 ^ 2 := by
    have hle := Calendar.daysInMonth_le d.year d.month
    omega
  simp only [readDate, dateText, List.append_assoc, List.cons_append,
    readNumber_padded (show d.year < 10 ^ 4 by omega),
    readNumber_padded (show d.month < 10 ^ 2 by omega), readNumber_padded hday', after_cons,
    Option.bind_eq_bind, Option.bind_some, Date.of?_fields]

theorem readFraction_fractionText {microsecond : Nat} (h : microsecond < 1000000) :
    readFraction (fractionText microsecond) = some microsecond := by
  by_cases hzero : microsecond = 0
  · rw [fractionText, if_pos hzero, readFraction, if_pos rfl, hzero]
  · have hread := readNumber_padded (show microsecond < 10 ^ 6 from h) []
    rw [List.append_nil] at hread
    simp [fractionText, readFraction, hzero, hread]

theorem readTime_minuteText (c : Clock) :
    readTime (minuteText c) = some (c.hour, c.minute, 0, 0) := by
  obtain ⟨hhour, hminute, -, -⟩ := c.valid
  have hread := readNumber_padded (show c.minute < 10 ^ 2 by omega) []
  rw [List.append_nil] at hread
  simp [readTime, minuteText, readNumber_padded (show c.hour < 10 ^ 2 by omega), hread]

theorem readTime_timeText (c : Clock) :
    readTime (timeText c) = some (c.hour, c.minute, c.second, c.microsecond) := by
  obtain ⟨hhour, hminute, hsecond, hmicrosecond⟩ := c.valid
  simp [readTime, timeText, minuteText, secondText,
    readNumber_padded (show c.hour < 10 ^ 2 by omega),
    readNumber_padded (show c.minute < 10 ^ 2 by omega),
    readNumber_padded (show c.second < 10 ^ 2 by omega),
    readFraction_fractionText hmicrosecond]

theorem mem_timeText {c : Clock} {ch : Char} (h : ch ∈ timeText c) :
    ch.isDigit = true ∨ ch = ':' ∨ ch = '.' := by
  have hdigits : ∀ {width n}, ch ∈ padded width n → ch.isDigit = true := isDigit_of_mem_padded
  simp only [timeText, minuteText, secondText, fractionText, List.mem_append, List.mem_cons] at h
  rcases h with (h | rfl | h) | rfl | h | h
  · exact .inl (hdigits h)
  · exact .inr (.inl rfl)
  · exact .inl (hdigits h)
  · exact .inr (.inl rfl)
  · exact .inl (hdigits h)
  · split at h
    · cases h
    · rcases List.mem_cons.mp h with rfl | h
      · exact .inr (.inr rfl)
      · exact .inl (hdigits h)

theorem not_isSign_of_mem_timeText {c : Clock} {ch : Char} (h : ch ∈ timeText c) :
    (!isSign ch) = true := by
  rcases mem_timeText h with hdigit | rfl | rfl
  · rw [Bool.not_eq_true', isSign, Bool.or_eq_false_iff, decide_eq_false_iff_not,
      decide_eq_false_iff_not]
    refine ⟨?_, ?_⟩ <;> rintro rfl <;> exact absurd hdigit (by decide)
  · decide
  · decide

theorem readTime_offsetTime (c : Clock) :
    readTime (offsetTime c) = some (c.hour, c.minute, c.second, c.microsecond) := by
  by_cases hshort : c.second = 0 ∧ c.microsecond = 0
  · rw [offsetTime, if_pos hshort, List.append_nil, readTime_minuteText, hshort.1, hshort.2]
  · rw [offsetTime, if_neg hshort]
    exact readTime_timeText c

theorem length_offsetTime (c : Clock) :
    (offsetTime c).length = 5 ∨ (offsetTime c).length = 8 ∨ (offsetTime c).length = 15 := by
  by_cases hshort : c.second = 0 ∧ c.microsecond = 0
  · exact .inl (by simp [offsetTime, minuteText, hshort])
  · by_cases hzero : c.microsecond = 0
    · refine .inr (.inl ?_)
      have hsecond : c.second ≠ 0 := fun h => hshort ⟨h, hzero⟩
      simp [offsetTime, minuteText, secondText, fractionText, hzero, hsecond]
    · exact .inr (.inr (by simp [offsetTime, minuteText, secondText, fractionText, hzero]))

theorem signedOffset_natAbs {utcOffset : Int} (h : utcOffset.natAbs < dayLength) :
    signedOffset (if utcOffset < 0 then '-' else '+') utcOffset.natAbs = some utcOffset := by
  rw [signedOffset, if_pos h]
  by_cases hneg : utcOffset < 0
  · rw [if_pos hneg, if_pos rfl, Option.some_inj]
    omega
  · rw [if_neg hneg, if_neg (by decide), Option.some_inj]
    omega

theorem readOffset_offsetText {utcOffset : Int} (h : utcOffset.natAbs < dayLength) :
    ∃ sign cs, offsetText utcOffset = sign :: cs ∧ (!isSign sign) = false ∧
      readOffset sign cs = some utcOffset := by
  obtain ⟨c, hc⟩ : ∃ c, c = Clock.ofMicroseconds utcOffset.natAbs := ⟨_, rfl⟩
  have hduration : duration c.hour c.minute c.second c.microsecond = utcOffset.natAbs := by
    rw [← Clock.microseconds, hc, Clock.microseconds_ofMicroseconds h]
  refine ⟨if utcOffset < 0 then '-' else '+', offsetTime c, by rw [offsetText, hc], ?_, ?_⟩
  · split <;> decide
  · rw [readOffset, if_pos (length_offsetTime c), readTime_offsetTime, Option.bind_some]
    show signedOffset _ (duration c.hour c.minute c.second c.microsecond) = _
    rw [hduration, signedOffset_natAbs h]

theorem fromisoformat_naive {wall : Int} (h : InRange wall) :
    fromisoformat (String.ofList (wallText wall)) = some (.naive wall) := by
  have hall := fun ch => @not_isSign_of_mem_timeText (clock wall) ch
  have htake := @List.takeWhile_append_of_pos _ _ _ [] hall
  have hdrop := @List.dropWhile_append_of_pos _ _ _ [] hall
  rw [List.append_nil] at htake hdrop
  rw [fromisoformat, String.toList_ofList, wallText, readDate_dateText]
  simp [htake, hdrop, readTime_timeText, wallOf_date_clock h]

theorem fromisoformat_aware {wall utcOffset : Int} (h : InRange wall)
    (hoffset : utcOffset.natAbs < dayLength) :
    fromisoformat (String.ofList (wallText wall ++ offsetText utcOffset)) =
      some (.aware wall utcOffset) := by
  obtain ⟨sign, cs, htext, hsign, hread⟩ := readOffset_offsetText hoffset
  have hall := fun ch => @not_isSign_of_mem_timeText (clock wall) ch
  -- the time ends at the sign of the offset
  have htake : (timeText (clock wall) ++ sign :: cs).takeWhile (fun c => !isSign c) =
      timeText (clock wall) := by
    rw [List.takeWhile_append_of_pos hall, List.takeWhile_cons_of_neg (by simpa using hsign),
      List.append_nil]
  have hdrop : (timeText (clock wall) ++ sign :: cs).dropWhile (fun c => !isSign c) =
      sign :: cs := by
    rw [List.dropWhile_append_of_pos hall, List.dropWhile_cons_of_neg (by simpa using hsign)]
  rw [fromisoformat, String.toList_ofList, htext, wallText, List.append_assoc, readDate_dateText]
  simp [htake, hdrop, readTime_timeText, hread, wallOf_date_clock h]

/-- **Reading a datetime back.** -/
theorem fromisoformat_isoformat {d : Datetime} (h : d.Valid) :
    fromisoformat d.isoformat = some d := by
  cases d with
  | naive wall => exact fromisoformat_naive h
  | aware wall utcOffset => exact fromisoformat_aware h.1 h.2

theorem comma_notMem_timeText (c : Clock) : ',' ∉ timeText c := by
  intro hmem
  rcases mem_timeText hmem with h | h | h <;> exact absurd h (by decide)

theorem comma_notMem_wallText (wall : Int) : ',' ∉ wallText wall := by
  have hpadded : ∀ width n, ',' ∉ padded width n := fun width n hmem =>
    absurd (isDigit_of_mem_padded hmem) (by decide)
  simp [wallText, dateText, hpadded, comma_notMem_timeText]

theorem comma_notMem_isoformat (d : Datetime) : ',' ∉ d.isoformat.toList := by
  cases d with
  | naive wall => simpa only [isoformat, String.toList_ofList] using comma_notMem_wallText wall
  | aware wall utcOffset =>
    have htime := comma_notMem_timeText (Clock.ofMicroseconds utcOffset.natAbs)
    have hoffset : ',' ∉ offsetText utcOffset := by
      rw [timeText, List.mem_append, not_or] at htime
      intro hmem
      rcases List.mem_cons.mp hmem with hsign | hmem
      · split at hsign <;> exact absurd hsign (by decide)
      · rcases List.mem_append.mp hmem with hmem | hmem
        · exact htime.1 hmem
        · split at hmem
          · cases hmem
          · exact htime.2 hmem
    rw [isoformat, String.toList_ofList, List.mem_append, not_or]
    exact ⟨comma_notMem_wallText wall, hoffset⟩

end Datetime

end NocIq
