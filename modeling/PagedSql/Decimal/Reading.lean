import PagedSql.Decimal.Integer
import PagedSql.Decimal.Binary64

/-!
# Reading a decimal as a binary number

* `Numeral`        a sign, a whole number and a power of ten;
* `readDecimal`    digits with an optional point (`5.` and `.5` count) and an optional exponent;
* `Numeral.round`  the nearest binary number, refused where none is finite;
* `readBinary64`   the two together.
-/

namespace PagedSql.Decimal

/-- `± digits * 10 ^ exponent` -/
structure Numeral where
  negative : Bool
  digits : Nat
  exponent : Int
  deriving DecidableEq, Repr

/-- nothing, or `e` with an optional sign and digits -/
def readExponent : List Char → Option Int
  | [] => some 0
  | c :: cs => if c = 'e' ∨ c = 'E' then readInt cs else none

/-- the digits after a point, and what follows them; without a point there are none -/
def takeFraction : List Char → List Char × List Char
  | '.' :: cs => (cs.takeWhile Char.isDigit, cs.dropWhile Char.isDigit)
  | cs => ([], cs)

def readDecimal (cs : List Char) : Option Numeral :=
  let (negative, cs) := takeSign cs
  let whole := cs.takeWhile Char.isDigit
  let (fraction, rest) := takeFraction (cs.dropWhile Char.isDigit)
  match readNat (whole ++ fraction), readExponent rest with
  | some digits, some exponent => some ⟨negative, digits, exponent - fraction.length⟩
  | _, _ => none

/-- The number of digits tells most of the overflows and underflows apart, so that powers of ten
stay small: a size of 10^310 or more is not finite, one below 10^-330 rounds to zero. -/
def Numeral.round (d : Numeral) : Option Binary64 :=
  let top := ((Nat.toDigits 10 d.digits).length : Int) + d.exponent
  if d.digits = 0 ∨ top < -330 then some (Binary64.ofCode d.negative 0)
  else if 310 < top then none
  else
    let code := Binary64.nearestCode (d.digits * tenTo d.exponent.toNat) (tenTo (-d.exponent).toNat)
    if code < Binary64.infinityCode then some (Binary64.ofCode d.negative code) else none

def readBinary64 (s : String) : Option Binary64 := (readDecimal s.toList).bind Numeral.round

end PagedSql.Decimal
