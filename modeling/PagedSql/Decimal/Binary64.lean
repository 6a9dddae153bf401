/-!
# Binary floating-point numbers of 64 bits

A number is kept as its word, so zero keeps its sign and equality is equality of words.  The lower
63 bits, the code of its size, count the finite sizes in increasing order.

* `twoTo`, `tenTo`   powers of two and of ten;
* `Binary64`     the word, with `isNegative`, `code`, `IsFinite`, `IsNaN`;
* `unitsOf`      the size with a given code, as a multiple of 2^-1074;
* `nearestCode`  the code of the size nearest to a fraction, a tie going to the even code;
* `roundDiv`     a quotient rounded to a whole number in the same way.
-/

namespace PagedSql.Decimal

def twoTo (n : Nat) : Nat := Nat.pow 2 n

def tenTo (n : Nat) : Nat := Nat.pow 10 n

theorem twoTo_zero : twoTo 0 = 1 := rfl
theorem twoTo_succ (n : Nat) : twoTo (n + 1) = twoTo n * 2 := rfl

theorem twoTo_pos (n : Nat) : 0 < twoTo n := Nat.pow_pos (by decide)

/-- a quotient rounded to the nearest whole number; a half goes to the even neighbour -/
def roundDiv (num den : Nat) : Nat :=
  let q := num / den
  let r := num % den
  if 2 * r < den then q
  else if den < 2 * r then q + 1
  else if q % 2 = 0 then q
  else q + 1

structure Binary64 where
  bits : UInt64
  deriving DecidableEq, Repr

namespace Binary64

/-- codes from this one on are the infinity and the words that are no numbers -/
def infinityCode : Nat := 2047 * twoTo 52

def isNegative (x : Binary64) : Bool := twoTo 63 ≤ x.bits.toNat

def code (x : Binary64) : Nat := x.bits.toNat % twoTo 63

def IsFinite (x : Binary64) : Prop := x.code < infinityCode

def IsNaN (x : Binary64) : Prop := infinityCode < x.code

instance (x : Binary64) : Decidable x.IsFinite := inferInstanceAs (Decidable (_ < _))

instance (x : Binary64) : Decidable x.IsNaN := inferInstanceAs (Decidable (_ < _))

def ofCode (negative : Bool) (code : Nat) : Binary64 :=
  ⟨UInt64.ofNat (if negative then twoTo 63 + code else code)⟩

/-- the size of a finite code in units of 2^-1074 -/
def unitsOf (code : Nat) : Nat :=
  let exponent := code / twoTo 52
  let fraction := code % twoTo 52
  if exponent = 0 then fraction else (twoTo 52 + fraction) * twoTo (exponent - 1)

/-- one, in units of 2^-1074 -/
def unit : Nat := twoTo 1074

/-- the code of the size nearest to `num / den`.  With `shift` the number of bits beyond the 53
that are kept, the rounded significand is added to `shift * 2 ^ 52`; a carry into a 54th bit moves
to the next exponent by itself. -/
def nearestCode (num den : Nat) : Nat :=
  let scaled := num * unit
  let shift := (scaled / den).log2 - 52
  shift * twoTo 52 + roundDiv scaled (den * twoTo shift)

theorem code_ofCode (negative : Bool) {code : Nat} (h : code < twoTo 63) :
    (ofCode negative code).code = code := by
  have e : twoTo 63 = 9223372036854775808 := rfl
  rw [e] at h
  cases negative
  · simp only [ofCode, Binary64.code, Bool.false_eq_true, if_false, UInt64.toNat_ofNat', e]
    omega
  · simp only [ofCode, Binary64.code, if_true, UInt64.toNat_ofNat', e]
    omega

end Binary64

end PagedSql.Decimal
