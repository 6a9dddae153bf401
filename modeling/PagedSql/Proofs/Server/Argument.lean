import Mathlib.Algebra.Order.Group.Unbundled.Abs
import Mathlib.Algebra.Order.Ring.Int
import PagedSql.Server.Argument

/-!
# What an argument stands for

* `Typed.value`          the value that a typed value was made from;
* `Typed.value_ofValue`  no value is changed by giving it a type;
* `Argument.Denotes`     what the server reads in an argument: instants to the microsecond, which is as
                         fine as their type on the wire, all else exactly;
* `Argument.Carries`     an argument written from the type of a value, and read as that value;
* `Argument.carries_ofValue`   the argument for a value does so, whatever the value is.
-/

namespace PagedSql

def Typed.value : Typed → Value
  | .bool b => .bool b
  | .int4 n => .int n.toInt64
  | .int8 n => .int n
  | .float8 x => .float x
  | .text none => .null
  | .text (some s) => .text s
  | .date d => .date d
  | .timestamptz t => .timestamp t

/-! ## whole numbers -/

theorem FitsInt32.bmod_eq {n : Int} (h : FitsInt32 n) : n.bmod (2 ^ 32) = n := by
  have hlow : -2147483648 ≤ n := h.1
  have hhigh : n ≤ 2147483647 := h.2
  exact Int.bmod_eq_of_le (by omega) (by omega)

section
variable {n : Int64} (h : FitsInt32 n.toInt)
include h

theorem toInt_toInt32_of_fits : n.toInt32.toInt = n.toInt := by
  rw [Int64.toInt_toInt32, h.bmod_eq]

/-- cutting a number to 32 bits loses nothing of one that fits -/
theorem toInt64_toInt32_of_fits : n.toInt32.toInt64 = n := by
  refine Int64.toInt_inj.mp ?_
  rw [Int32.toInt_toInt64, toInt_toInt32_of_fits h]

end

theorem Typed.value_ofValue (v : Value) : (Typed.ofValue v).value = v := by
  cases v with
  | null => rfl
  | bool b => rfl
  | int n =>
    show (if FitsInt32 n.toInt then int4 n.toInt32 else int8 n).value = _
    split
    · next h => rw [value, toInt64_toInt32_of_fits h]
    · rfl
  | float x => rfl
  | text s => rfl
  | date d => rfl
  | timestamp t => rfl

/-! ## arguments -/

namespace Argument

def Denotes : Argument → Value → Prop
  | text none, .null => True
  | text (some s), .text t => s = t
  | bool b, .bool c => b = c
  | int4 k, .int n => k = n.toInt ∧ FitsInt32 k
  | int8 k, .int n => k = n.toInt ∧ ¬ FitsInt32 k
  | float8 x, .float y => x = y
  | date days, .date d => d.dayNumber = epoch + days
  | timestamptz us, .timestamp t => |nanosSinceEpoch t - 1000 * us| < 1000
  | _, _ => False

structure Carries (a : Argument) (v : Value) : Prop where
  typed : ∃ t : Typed, t.value = v ∧ a = ofTyped t
  denotes : a.Denotes v

/-- less than a microsecond is cut off -/
theorem abs_sub_tdiv_lt (n : Int) : |n - 1000 * n.tdiv 1000| < 1000 := by
  have hrest : n - 1000 * n.tdiv 1000 = n.tmod 1000 := (Int.tmod_def n 1000).symm
  rw [hrest, abs_lt]
  exact ⟨Int.lt_tmod_of_pos n (by decide), Int.tmod_lt_of_pos n (by decide)⟩

theorem denotes_ofValue (v : Value) : (ofValue v).Denotes v := by
  cases v with
  | null => trivial
  | bool b => rfl
  | int n =>
    show (ofTyped (if FitsInt32 n.toInt then .int4 n.toInt32 else .int8 n)).Denotes _
    split
    · next h =>
      have hn := toInt_toInt32_of_fits h
      exact ⟨hn, hn ▸ h⟩
    · next h => exact ⟨rfl, h⟩
  | float x => rfl
  | text s => rfl
  | date d =>
    show d.dayNumber = epoch + (d.dayNumber - epoch)
    omega
  | timestamp t => exact abs_sub_tdiv_lt (nanosSinceEpoch t)

theorem carries_ofValue (v : Value) : Carries (ofValue v) v :=
  ⟨⟨Typed.ofValue v, Typed.value_ofValue v, rfl⟩, denotes_ofValue v⟩

end Argument

end PagedSql
