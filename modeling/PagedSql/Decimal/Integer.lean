/-!
# Whole numbers in decimal

* `natText`, `intText`    the digits of a number, with `-` in front of a negative one;
* `readNat`               one or more ASCII digits, of any length;
* `takeSign`              an optional `+` or `-` and what follows it;
* `readInt`               the number written as an optional sign and digits;
* `readInt64`             the same, refused outside the range of 64-bit words.
-/

namespace PagedSql.Decimal

/-! ## writing -/

def natText (n : Nat) : String := String.ofList (Nat.toDigits 10 n)

def intText (n : Int) : String :=
  if n < 0 then "-" ++ natText n.natAbs else natText n.natAbs

theorem toList_natText (n : Nat) : (natText n).toList = Nat.toDigits 10 n := by
  simp [natText]

/-! ## reading -/

def readNat (cs : List Char) : Option Nat :=
  if cs ≠ [] ∧ cs.all Char.isDigit then some (Nat.ofDigitChars 10 cs 0) else none

/-- the digits of a number read back as the number -/
theorem readNat_toDigits (n : Nat) : readNat (Nat.toDigits 10 n) = some n := by
  unfold readNat
  rw [if_pos, Nat.ofDigitChars_toDigits (by decide) (by decide)]
  refine ⟨Nat.toDigits_ne_nil, List.all_eq_true.mpr fun c hc => ?_⟩
  exact Nat.isDigit_of_mem_toDigits (by decide) (by decide) hc

/-- the sign in front (`true` for `-`) and what follows it -/
def takeSign : List Char → Bool × List Char
  | '-' :: cs => (true, cs)
  | '+' :: cs => (false, cs)
  | cs => (false, cs)

def signed (negative : Bool) (n : Nat) : Int := if negative then -(n : Int) else n

def readInt (cs : List Char) : Option Int :=
  (readNat (takeSign cs).2).map (signed (takeSign cs).1)

/-- the range of signed 64-bit words -/
def FitsInt64 (n : Int) : Prop := Int64.minValue.toInt ≤ n ∧ n ≤ Int64.maxValue.toInt

instance (n : Int) : Decidable (FitsInt64 n) :=
  inferInstanceAs (Decidable (_ ∧ _))

def int64? (n : Int) : Option Int64 := if FitsInt64 n then some (Int64.ofInt n) else none

def readInt64 (s : String) : Option Int64 := (readInt s.toList).bind int64?

theorem int64?_toInt (n : Int64) : int64? n.toInt = some n := by
  have h : FitsInt64 n.toInt := ⟨n.minValue_le_toInt, n.toInt_le⟩
  simp [int64?, h]

end PagedSql.Decimal
