import PagedSql.Calendar.Date

/-!
# Instants of universal time

* `TimeOfDay`      seconds since midnight and nanoseconds; a leap second is the last second of a
                   minute with more than 10^9 nanoseconds;
* `Instant`        a date and a time of day, in universal time;
* `fromLocal?`     the instant of a local date and time at an offset in minutes;
* `ofUnix?`        the instant of a count of seconds since 1970;
* `Instant.text`   `2024-01-01T00:00:00.500+00:00`, with the fewest of 0, 3, 6 or 9 places that are
                   exact.
-/

namespace PagedSql.Calendar

def secondsPerDay : Nat := 86400

def nanosPerSecond : Nat := 1000000000

def IsTime (seconds nanos : Nat) : Prop :=
  seconds < secondsPerDay ∧ nanos < 2 * nanosPerSecond ∧ (nanosPerSecond ≤ nanos → seconds % 60 = 59)

instance (seconds nanos : Nat) : Decidable (IsTime seconds nanos) :=
  inferInstanceAs (Decidable (_ ∧ _ ∧ (_ → _)))

structure TimeOfDay where
  seconds : Nat
  nanos : Nat
  isTime : IsTime seconds nanos
  deriving DecidableEq

namespace TimeOfDay

def of? (seconds nanos : Nat) : Option TimeOfDay :=
  if h : IsTime seconds nanos then some ⟨seconds, nanos, h⟩ else none

theorem of?_self (t : TimeOfDay) : of? t.seconds t.nanos = some t := by
  simp [of?, t.isTime]

def midnight : TimeOfDay := ⟨0, 0, by decide⟩

/-- the time on a clock; second 60 is the leap second of its minute -/
def ofClock? (hour minute second nanos : Nat) : Option TimeOfDay :=
  if hour < 24 ∧ minute < 60 ∧ second ≤ 60 ∧ nanos < nanosPerSecond then
    if second = 60 then of? (hour * 3600 + minute * 60 + 59) (nanos + nanosPerSecond)
    else of? (hour * 3600 + minute * 60 + second) nanos
  else none

def hour (t : TimeOfDay) : Nat := t.seconds / 3600

def minute (t : TimeOfDay) : Nat := t.seconds / 60 % 60

/-- the second on the clock, 60 for a leap second -/
def second (t : TimeOfDay) : Nat := t.seconds % 60 + t.nanos / nanosPerSecond

/-- nanoseconds of the second -/
def fraction (t : TimeOfDay) : Nat := t.nanos % nanosPerSecond

/-- the point and as many places as the fraction needs: none, three, six or nine -/
def fractionText (t : TimeOfDay) : String :=
  let n := t.fraction
  if n = 0 then ""
  else if n % 1000000 = 0 then "." ++ Date.padded 3 (n / 1000000)
  else if n % 1000 = 0 then "." ++ Date.padded 6 (n / 1000)
  else "." ++ Date.padded 9 n

def text (t : TimeOfDay) : String :=
  Date.padded 2 t.hour ++ ":" ++ Date.padded 2 t.minute ++ ":" ++ Date.padded 2 t.second ++ t.fractionText

end TimeOfDay

structure Instant where
  date : Date
  time : TimeOfDay
  deriving DecidableEq

namespace Instant

def midnight (d : Date) : Instant := ⟨d, .midnight⟩

/-- The clock runs `offset` minutes ahead of universal time, so the offset is taken away; less than
a day, it leads to the same day or a neighbour.  A leap second keeps its place in the minute. -/
def fromLocal? (d : Date) (t : TimeOfDay) (offset : Int) : Option Instant :=
  let seconds := (t.seconds : Int) - offset * 60
  if seconds < 0 then
    match d.previous?, TimeOfDay.of? (seconds + secondsPerDay).toNat t.nanos with
    | some d, some t => some ⟨d, t⟩
    | _, _ => none
  else if (secondsPerDay : Int) ≤ seconds then
    match d.next?, TimeOfDay.of? (seconds - secondsPerDay).toNat t.nanos with
    | some d, some t => some ⟨d, t⟩
    | _, _ => none
  else (TimeOfDay.of? seconds.toNat t.nanos).map (⟨d, ·⟩)

theorem fromLocal?_zero (d : Date) (t : TimeOfDay) : fromLocal? d t 0 = some ⟨d, t⟩ := by
  have h : t.seconds < 86400 := t.isTime.1
  have h1 : ¬ ((t.seconds : Int) < 0) := by omega
  have h2 : ¬ ((86400 : Int) ≤ (t.seconds : Int)) := by omega
  simp [fromLocal?, secondsPerDay, h1, h2, TimeOfDay.of?_self]

/-- seconds since 1970 are split into days and the time of the day -/
def ofUnix? (seconds : Int) (nanos : Nat) : Option Instant :=
  match Date.ofDayNumber? (Date.unixEpoch + seconds / secondsPerDay),
    TimeOfDay.of? (seconds % secondsPerDay).toNat nanos with
  | some d, some t => some ⟨d, t⟩
  | _, _ => none

/-- seconds since 1970, leap seconds not counted -/
def unixSeconds (i : Instant) : Int :=
  (i.date.dayNumber - Date.unixEpoch) * secondsPerDay + i.time.seconds

def text (i : Instant) : String := i.date.text ++ "T" ++ i.time.text ++ "+00:00"

end Instant

end PagedSql.Calendar
