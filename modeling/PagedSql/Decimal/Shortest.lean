import PagedSql.Decimal.Integer
import PagedSql.Decimal.Binary64

/-!
# The shortest decimal of a binary number

Among the decimals that are read as the number, one with the fewest digits is chosen, and of those
the nearest.  The text is positional whatever the size, without an exponent.

* `Interval`          the sizes that round to a code, in quarter units;
* `Candidate`         a whole number of digits with a power of ten;
* `shortest`          the candidate chosen for a code;
* `binary64Text`      the text of a number, with `NaN`, `inf` and the sign of zero.
-/

namespace PagedSql.Decimal

/-! ## the sizes that round to a code -/

/-- ends in quarters of 2^-1074; `closed` when both ends belong to it -/
structure Interval where
  low : Nat
  high : Nat
  closed : Bool

/-- the ends are the midpoints to the neighbouring sizes, and belong to it if the code is even -/
def intervalOf (code : Nat) : Interval where
  low := 2 * (Binary64.unitsOf (code - 1) + Binary64.unitsOf code)
  high := 2 * (Binary64.unitsOf code + Binary64.unitsOf (code + 1))
  closed := code % 2 = 0

/-- `num / den`, in quarter units, lies in the interval -/
def Interval.has (i : Interval) (num den : Nat) : Bool :=
  if i.closed then i.low * den ≤ num && num ≤ i.high * den
  else i.low * den < num && num < i.high * den

/-! ## candidates -/

/-- `digits * 10 ^ power` -/
structure Candidate where
  digits : Nat
  power : Int
  deriving DecidableEq, Repr

/-- the size of a candidate in quarter units, as a fraction -/
def Candidate.quarters (c : Candidate) : Nat × Nat :=
  (c.digits * tenTo c.power.toNat * (4 * Binary64.unit), tenTo (-c.power).toNat)

/-- the `p` with `10 ^ (p - 1) ≤ size < 10 ^ p` -/
def topPower (units : Nat) : Int :=
  ((Nat.toDigits 10 (units * tenTo 400 / Binary64.unit)).length : Int) - 400

/-- the nearest multiple of `10 ^ power` that rounds to the code, if one of the two neighbours on
that grid does; of two equally near the larger -/
def onGrid (code : Nat) (power : Int) : Option Candidate :=
  let interval := intervalOf code
  let units := Binary64.unitsOf code
  let num := units * tenTo (-power).toNat
  let den := Binary64.unit * tenTo power.toNat
  let below : Candidate := ⟨num / den, power⟩
  let above : Candidate := ⟨num / den + 1, power⟩
  let rest := num % den
  match interval.has below.quarters.1 below.quarters.2, interval.has above.quarters.1 above.quarters.2 with
  | true, true => if 2 * rest < den then some below else some above
  | true, false => some below
  | false, true => some above
  | false, false => none

/-- grids of one, two, … seventeen digits are tried in turn; the last always has a hit -/
def shortest (code : Nat) : Candidate :=
  let top := topPower (Binary64.unitsOf code)
  ((List.range 17).findSome? fun (n : Nat) => onGrid code (top - 1 - (n : Int))).getD ⟨0, 0⟩

/-! ## text -/

/-- a whole number of digits with the point moved by a power of ten, trailing zeros of the
fraction dropped -/
def positional (c : Candidate) : String :=
  if 0 ≤ c.power then natText (c.digits * tenTo c.power.toNat)
  else
    let places := (-c.power).toNat
    let whole := c.digits / tenTo places
    let part := Nat.toDigits 10 (c.digits % tenTo places)
    let padded := List.replicate (places - part.length) '0' ++ part
    let fraction := (padded.reverse.dropWhile (· = '0')).reverse
    if fraction = [] then natText whole else natText whole ++ "." ++ String.ofList fraction

def binary64Text (x : Binary64) : String :=
  if x.IsNaN then "NaN"
  else
    let size :=
      if ¬ x.IsFinite then "inf" else if x.code = 0 then "0" else positional (shortest x.code)
    if x.isNegative then "-" ++ size else size

end PagedSql.Decimal
