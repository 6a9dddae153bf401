import PagedSql.Decimal.Integer

/-!
# Dates of the Gregorian calendar

The calendar is extended to all years; a year before the first has a number of zero or less.

* `IsDate`          year, month and day name a day between `minYear` and `maxYear`;
* `Date`            such a day;
* `next?`, `previous?`   the neighbouring days, inside the range;
* `dayNumber`, `ofDayNumber?`   days counted from the first day of the year zero;
* `Date.text`       `2024-02-29`; years beyond four digits carry a sign.
-/

namespace PagedSql.Calendar
open PagedSql.Decimal

/-! ## months and years -/

def IsLeapYear (year : Int) : Prop := year % 4 = 0 ∧ (year % 100 ≠ 0 ∨ year % 400 = 0)

instance (year : Int) : Decidable (IsLeapYear year) :=
  inferInstanceAs (Decidable (_ ∧ _))

def daysInMonth (year : Int) (month : Nat) : Nat :=
  if month = 2 then if IsLeapYear year then 29 else 28
  else if month = 4 ∨ month = 6 ∨ month = 9 ∨ month = 11 then 30
  else 31

theorem daysInMonth_pos (year : Int) (month : Nat) : 0 < daysInMonth year month := by
  unfold daysInMonth
  split
  · split <;> decide
  · split <;> decide

def minYear : Int := -262143

def maxYear : Int := 262142

def IsDate (year : Int) (month day : Nat) : Prop :=
  (minYear ≤ year ∧ year ≤ maxYear) ∧ (1 ≤ month ∧ month ≤ 12) ∧ 1 ≤ day ∧ day ≤ daysInMonth year month

instance (year : Int) (month day : Nat) : Decidable (IsDate year month day) :=
  inferInstanceAs (Decidable ((_ ∧ _) ∧ (_ ∧ _) ∧ _ ∧ _))

structure Date where
  year : Int
  month : Nat
  day : Nat
  isDate : IsDate year month day
  deriving DecidableEq

namespace Date

def of? (year : Int) (month day : Nat) : Option Date :=
  if h : IsDate year month day then some ⟨year, month, day, h⟩ else none

theorem of?_self (d : Date) : of? d.year d.month d.day = some d := by
  simp [of?, d.isDate]

/-! ## neighbouring days -/

def next? (d : Date) : Option Date :=
  if d.day < daysInMonth d.year d.month then of? d.year d.month (d.day + 1)
  else if d.month < 12 then of? d.year (d.month + 1) 1
  else of? (d.year + 1) 1 1

def previous? (d : Date) : Option Date :=
  if 1 < d.day then of? d.year d.month (d.day - 1)
  else if 1 < d.month then of? d.year (d.month - 1) (daysInMonth d.year (d.month - 1))
  else of? (d.year - 1) 12 31

/-! ## counted days -/

/-- days from the first day of the year zero to the first day of `year` -/
def daysBeforeYear (year : Int) : Int :=
  365 * year + (year - 1) / 4 - (year - 1) / 100 + (year - 1) / 400 + 1

/-- days from the first day of the year to the first day of the month -/
def daysBeforeMonth (year : Int) : Nat → Nat
  | 0 => 0
  | 1 => 0
  | month + 2 => daysBeforeMonth year (month + 1) + daysInMonth year (month + 1)

def dayNumber (d : Date) : Int :=
  daysBeforeYear d.year + daysBeforeMonth d.year d.month + d.day - 1

/-- the year of a counted day; the mean length of a year puts the guess at most one year off -/
def yearOfDay (n : Int) : Int :=
  let guess := n * 400 / 146097
  if n < daysBeforeYear guess then guess - 1
  else if daysBeforeYear (guess + 1) ≤ n then guess + 1
  else guess

/-- month and day of the month, from a month of the year and the days since its first day -/
def monthAndDay (year : Int) : List Nat → Nat → Nat × Nat
  | [], rest => (13, rest + 1)
  | month :: months, rest =>
    if rest < daysInMonth year month then (month, rest + 1)
    else monthAndDay year months (rest - daysInMonth year month)

def ofDayNumber? (n : Int) : Option Date :=
  let year := yearOfDay n
  let (month, day) :=
    monthAndDay year [1, 2, 3, 4, 5, 6, 7, 8, 9, 10, 11, 12] (n - daysBeforeYear year).toNat
  of? year month day

/-- the first day of 1970 -/
def unixEpoch : Int := daysBeforeYear 1970

/-! ## text -/

/-- at least `width` digits, zeros in front -/
def padded (width n : Nat) : String :=
  let digits := Nat.toDigits 10 n
  String.ofList (List.replicate (width - digits.length) '0' ++ digits)

def yearText (year : Int) : String :=
  if 0 ≤ year ∧ year ≤ 9999 then padded 4 year.toNat
  else (if year < 0 then "-" else "+") ++ padded 4 year.natAbs

def text (d : Date) : String := yearText d.year ++ "-" ++ padded 2 d.month ++ "-" ++ padded 2 d.day

end Date

end PagedSql.Calendar
