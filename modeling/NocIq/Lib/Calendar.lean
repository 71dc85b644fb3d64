import Mathlib.Algebra.GroupWithZero.Nat
import Mathlib.Data.Nat.Basic
import Mathlib.Tactic.Common

/-!
# Calendar — dates and times of day

The Gregorian calendar from the first day of year 1 to the last of year 9999, and the clock to the
microsecond. Days are numbered from the first one.

* **`Date.days_ofDays`** — a day's number can be read off its date.
* **`Clock.microseconds_ofMicroseconds`** — and the microsecond of the day off the clock.
-/

namespace Calendar

def isLeap (year : ℕ) : Bool :=
  decide (year % 4 = 0) && (decide (year % 100 ≠ 0) || decide (year % 400 = 0))

theorem isLeap_iff {year : ℕ} :
    isLeap year = true ↔ year % 4 = 0 ∧ (year % 100 ≠ 0 ∨ year % 400 = 0) := by
  simp [isLeap]

def monthLengths (leap : Bool) : List ℕ :=
  [31, if leap then 29 else 28, 31, 30, 31, 30, 31, 31, 30, 31, 30, 31]

def daysInMonth (year month : ℕ) : ℕ := (monthLengths (isLeap year)).getD (month - 1) 0

def daysBeforeMonth (year month : ℕ) : ℕ := ((monthLengths (isLeap year)).take (month - 1)).sum

def daysBeforeYear (year : ℕ) : ℕ :=
  (year - 1) * 365 + (year - 1) / 4 - (year - 1) / 100 + (year - 1) / 400

/-- The days from the first of year 1 to the last of year 9999. -/
def dayCount : ℕ := 3652059

/-! ## The year and the month of a day -/

/-- The year a day is in, and the day's number there. The last day of four centuries belongs to the
fourth one, and that of four years to the fourth year. -/
def yearAndDay (n : ℕ) : ℕ × ℕ :=
  let n400 := n / 146097
  let r400 := n % 146097
  let n100 := min 3 (r400 / 36524)
  let r100 := r400 - 36524 * n100
  let n4 := r100 / 1461
  let r4 := r100 % 1461
  let n1 := min 3 (r4 / 365)
  (400 * n400 + 100 * n100 + 4 * n4 + n1 + 1, r4 - 365 * n1)

theorem daysBeforeYear_eq (a : ℕ) {b c e : ℕ} (hb : b ≤ 3) (hc : c ≤ 24) (he : e ≤ 3) :
    daysBeforeYear (400 * a + 100 * b + 4 * c + e + 1) =
      146097 * a + 36524 * b + 1461 * c + 365 * e := by
  have h4 : (400 * a + 100 * b + 4 * c + e) / 4 = 100 * a + 25 * b + c := by omega
  have h100 : (400 * a + 100 * b + 4 * c + e) / 100 = 4 * a + b := by omega
  have h400 : (400 * a + 100 * b + 4 * c + e) / 400 = a := by omega
  rw [daysBeforeYear, Nat.add_sub_cancel, h4, h100, h400]
  omega

/-- A day is as many days after the year's first as `yearAndDay` says, and still in the year. -/
theorem yearAndDay_spec (n : ℕ) :
    daysBeforeYear (yearAndDay n).1 + (yearAndDay n).2 = n ∧
      (yearAndDay n).2 < 365 + (isLeap (yearAndDay n).1).toNat ∧ 1 ≤ (yearAndDay n).1 := by
  obtain ⟨a, ha⟩ : ∃ a, a = n / 146097 := ⟨_, rfl⟩
  obtain ⟨r, hr⟩ : ∃ r, r = n % 146097 := ⟨_, rfl⟩
  obtain ⟨b, hb⟩ : ∃ b, b = min 3 (r / 36524) := ⟨_, rfl⟩
  obtain ⟨s, hs⟩ : ∃ s, s = r - 36524 * b := ⟨_, rfl⟩
  obtain ⟨c, hc⟩ : ∃ c, c = s / 1461 := ⟨_, rfl⟩
  obtain ⟨t, ht⟩ : ∃ t, t = s % 1461 := ⟨_, rfl⟩
  obtain ⟨e, he⟩ : ∃ e, e = min 3 (t / 365) := ⟨_, rfl⟩
  have hyear : yearAndDay n = (400 * a + 100 * b + 4 * c + e + 1, t - 365 * e) := by
    rw [yearAndDay, ← ha, ← hr, ← hb, ← hs, ← hc, ← ht, ← he]
  have hb3 : b ≤ 3 := by omega
  have hsr : r = 36524 * b + s ∧ (s < 36524 ∨ b = 3 ∧ s ≤ 36524) := by omega
  have hc24 : c ≤ 24 := by omega
  have hst : s = 1461 * c + t ∧ t < 1461 := by omega
  have he3 : e ≤ 3 := by omega
  have hte : t - 365 * e < 365 ∨ e = 3 ∧ t = 1460 := by omega
  have hn : n = 146097 * a + r := by omega
  rw [hyear]
  refine ⟨?_, ?_, Nat.succ_pos _⟩
  · rw [daysBeforeYear_eq a hb3 hc24 he3]
    omega
  · rcases hte with hlt | ⟨rfl, rfl⟩
    · exact lt_of_lt_of_le hlt (Nat.le_add_right _ _)
    · -- the 366th day: the fourth of four years, and not the end of a short century
      have hleap : isLeap (400 * a + 100 * b + 4 * c + 3 + 1) = true := by
        rw [isLeap_iff]
        omega
      rw [hleap, Bool.toNat_true]
      omega

/-- The months of a year, cut off one after the other: the month and the day in it, from zero. -/
def monthAndDay : List ℕ → ℕ → ℕ × ℕ
  | [], d => (0, d)
  | l :: ls, d =>
    if d < l then (0, d)
    else ((monthAndDay ls (d - l)).1 + 1, (monthAndDay ls (d - l)).2)

theorem monthAndDay_spec {lengths : List ℕ} {d : ℕ} (h : d < lengths.sum) :
    (monthAndDay lengths d).1 < lengths.length ∧
      (monthAndDay lengths d).2 < lengths.getD (monthAndDay lengths d).1 0 ∧
      (lengths.take (monthAndDay lengths d).1).sum + (monthAndDay lengths d).2 = d := by
  induction lengths generalizing d with
  | nil => exact absurd h (Nat.not_lt_zero d)
  | cons l ls ih =>
    by_cases hd : d < l
    · simp [monthAndDay, hd]
    · have hrest : d - l < ls.sum := by
        rw [List.sum_cons] at h
        omega
      obtain ⟨hmonth, hday, hsum⟩ := ih hrest
      simp only [monthAndDay, if_neg hd, List.length_cons, List.getD_cons_succ,
        List.take_succ_cons, List.sum_cons]
      exact ⟨Nat.succ_lt_succ hmonth, hday, by omega⟩

theorem sum_monthLengths (leap : Bool) : (monthLengths leap).sum = 365 + leap.toNat := by
  cases leap <;> rfl

theorem daysInMonth_le (year month : ℕ) : daysInMonth year month ≤ 31 := by
  have hall : ∀ leap, ∀ l ∈ monthLengths leap, l ≤ 31 := by decide
  rw [daysInMonth, List.getD_eq_getElem?_getD]
  cases h : (monthLengths (isLeap year))[month - 1]? with
  | none => exact Nat.zero_le 31
  | some l => exact hall _ l (List.mem_of_getElem? h)

/-! ## Dates -/

def ValidDate (year month day : ℕ) : Prop :=
  (1 ≤ year ∧ year ≤ 9999) ∧ (1 ≤ month ∧ month ≤ 12) ∧ 1 ≤ day ∧ day ≤ daysInMonth year month

instance (year month day : ℕ) : Decidable (ValidDate year month day) :=
  inferInstanceAs (Decidable (_ ∧ _))

structure Date where
  year : ℕ
  month : ℕ
  day : ℕ
  valid : ValidDate year month day

theorem year_le {year n : ℕ} (h : daysBeforeYear year ≤ n) (hn : n < dayCount) : year ≤ 9999 := by
  rw [daysBeforeYear] at h
  rw [dayCount] at hn
  omega

theorem monthOfDay_spec (n : ℕ) :
    let month := monthAndDay (monthLengths (isLeap (yearAndDay n).1)) (yearAndDay n).2
    month.1 < 12 ∧ month.2 < daysInMonth (yearAndDay n).1 (month.1 + 1) ∧
      daysBeforeMonth (yearAndDay n).1 (month.1 + 1) + month.2 = (yearAndDay n).2 := by
  obtain ⟨-, hday, -⟩ := yearAndDay_spec n
  rw [← sum_monthLengths] at hday
  exact monthAndDay_spec hday

theorem validDate_of_lt {n : ℕ} (hn : n < dayCount) :
    let month := monthAndDay (monthLengths (isLeap (yearAndDay n).1)) (yearAndDay n).2
    ValidDate (yearAndDay n).1 (month.1 + 1) (month.2 + 1) := by
  obtain ⟨hyear, -, hpos⟩ := yearAndDay_spec n
  obtain ⟨hmonth, hday, -⟩ := monthOfDay_spec n
  refine ⟨⟨hpos, year_le ?_ hn⟩, ⟨Nat.succ_pos _, hmonth⟩, Nat.succ_pos _, hday⟩
  exact Nat.le_trans (Nat.le_add_right _ _) (Nat.le_of_eq hyear)

namespace Date

/-- The date with these numbers, when there is one. -/
def of? (year month day : ℕ) : Option Date :=
  if h : ValidDate year month day then some ⟨year, month, day, h⟩ else none

@[simp] theorem of?_fields (d : Date) : of? d.year d.month d.day = some d := dif_pos d.valid

/-- The day's number. -/
def days (d : Date) : ℕ := daysBeforeYear d.year + daysBeforeMonth d.year d.month + (d.day - 1)

/-- The date of a day. After the last one the numbers start again. -/
def ofDays (n : ℕ) : Date where
  year := (yearAndDay (n % dayCount)).1
  month := (monthAndDay (monthLengths (isLeap (yearAndDay (n % dayCount)).1))
    (yearAndDay (n % dayCount)).2).1 + 1
  day := (monthAndDay (monthLengths (isLeap (yearAndDay (n % dayCount)).1))
    (yearAndDay (n % dayCount)).2).2 + 1
  valid := validDate_of_lt (Nat.mod_lt n (by decide))

/-- **Dates.** The date of a day has that day's number. -/
theorem days_ofDays {n : ℕ} (hn : n < dayCount) : (ofDays n).days = n := by
  obtain ⟨hyear, -, -⟩ := yearAndDay_spec n
  obtain ⟨-, -, hmonth⟩ := monthOfDay_spec n
  simp only [days, ofDays, Nat.mod_eq_of_lt hn, Nat.add_sub_cancel]
  rw [Nat.add_assoc, hmonth, hyear]

example : ((ofDays 719162).year, (ofDays 719162).month, (ofDays 719162).day) = (1970, 1, 1) := by
  decide

end Date

/-! ## Times of day -/

def ValidClock (hour minute second microsecond : ℕ) : Prop :=
  hour < 24 ∧ minute < 60 ∧ second < 60 ∧ microsecond < 1000000

instance (hour minute second microsecond : ℕ) :
    Decidable (ValidClock hour minute second microsecond) :=
  inferInstanceAs (Decidable (_ ∧ _))

structure Clock where
  hour : ℕ
  minute : ℕ
  second : ℕ
  microsecond : ℕ
  valid : ValidClock hour minute second microsecond

def dayLength : ℕ := 86400000000

/-- The microseconds in so many hours, minutes, seconds and microseconds. -/
def duration (hour minute second microsecond : ℕ) : ℕ :=
  ((hour * 60 + minute) * 60 + second) * 1000000 + microsecond

namespace Clock

def of? (hour minute second microsecond : ℕ) : Option Clock :=
  if h : ValidClock hour minute second microsecond then
    some ⟨hour, minute, second, microsecond, h⟩
  else none

@[simp] theorem of?_fields (c : Clock) :
    of? c.hour c.minute c.second c.microsecond = some c := dif_pos c.valid

def microseconds (c : Clock) : ℕ := duration c.hour c.minute c.second c.microsecond

/-- The clock so many microseconds after midnight. -/
def ofMicroseconds (n : ℕ) : Clock where
  hour := n / 3600000000 % 24
  minute := n / 60000000 % 60
  second := n / 1000000 % 60
  microsecond := n % 1000000
  valid := by
    rw [ValidClock]
    omega

/-- **Times of day.** -/
theorem microseconds_ofMicroseconds {n : ℕ} (hn : n < dayLength) :
    (ofMicroseconds n).microseconds = n := by
  rw [dayLength] at hn
  simp only [microseconds, duration, ofMicroseconds]
  omega

end Clock

end Calendar
