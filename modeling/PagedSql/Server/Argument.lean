import PagedSql.Value

/-!
# Arguments as the server receives them

* `Typed`              a value in the type that it is sent in: whole numbers take 32 bits if they fit,
                       a missing value is a missing text;
* `Argument`           an argument as it goes over the wire; times are counted from the first day of
                       the year 2000;
* `Argument.ofTyped`   what a typed value is written as;
* `Argument.ofValue`   the argument for a value.
-/

namespace PagedSql
open PagedSql.Calendar

def FitsInt32 (n : Int) : Prop := Int32.minValue.toInt ≤ n ∧ n ≤ Int32.maxValue.toInt

instance (n : Int) : Decidable (FitsInt32 n) :=
  inferInstanceAs (Decidable (_ ∧ _))

inductive Typed where
  | bool (b : Bool)
  | int4 (n : Int32)
  | int8 (n : Int64)
  | float8 (x : Decimal.Binary64)
  | text (s : Option String)
  | date (d : Date)
  | timestamptz (t : Instant)
  deriving DecidableEq

def Typed.ofValue : Value → Typed
  | .null => text none
  | .bool b => bool b
  | .int n => if FitsInt32 n.toInt then int4 n.toInt32 else int8 n
  | .float x => float8 x
  | .text s => text (some s)
  | .date d => date d
  | .timestamp t => timestamptz t

inductive Argument where
  | bool (b : Bool)
  | int4 (n : Int)
  | int8 (n : Int)
  | float8 (x : Decimal.Binary64)
  | text (s : Option String)
  | date (days : Int)
  | timestamptz (microseconds : Int)
  deriving DecidableEq

namespace Argument

/-- the first day of the year 2000 -/
def epoch : Int := Date.daysBeforeYear 2000

/-- nanoseconds since the epoch, a leap second counted as the second after it -/
def nanosSinceEpoch (t : Instant) : Int :=
  ((t.date.dayNumber - epoch) * secondsPerDay + t.time.seconds) * nanosPerSecond + t.time.nanos

/-- microseconds since the epoch, what is left over cut off towards it -/
def microsSinceEpoch (t : Instant) : Int := (nanosSinceEpoch t).tdiv 1000

def ofTyped : Typed → Argument
  | .bool b => bool b
  | .int4 n => int4 n.toInt
  | .int8 n => int8 n.toInt
  | .float8 x => float8 x
  | .text s => text s
  | .date d => date (d.dayNumber - epoch)
  | .timestamptz t => timestamptz (microsSinceEpoch t)

def ofValue (v : Value) : Argument := ofTyped (.ofValue v)

end Argument

end PagedSql
