import Mathlib.Data.List.TakeWhile
import PagedSql.Proofs.Value.Kind

/-!
# Whole numbers whose kind is not declared

A text that writes a whole number, with a sign or without, is a 64-bit integer where it fits one.  The
others are read as a binary number, and that keeps the number only if it is short: else it is replaced
by the nearest one.  It is text only from where the nearest number is not finite.

* `Writes`               a text of an optional sign and digits, and the number it writes;
* `readInt_of_writes`, `readDecimal_of_writes`   it is read as this number;
* `infer_fitting`, `infer_beyond`   what is inferred from it, within 64 bits and beyond;
* `Value.Stands`         values that are the number, or its text;
* `infer_whole_iff`      when what is inferred is one of these, and what it is otherwise;
* `infer_changes_number` an integer beyond 64 bits that is replaced by another.
-/

namespace PagedSql
open PagedSql.Text PagedSql.Decimal PagedSql.Decimal.Binary64

/-! ## written whole numbers -/

def AllDigits (ds : List Char) : Prop := ds ≠ [] ∧ ds.all Char.isDigit = true

instance (ds : List Char) : Decidable (AllDigits ds) := inferInstanceAs (Decidable (_ ∧ _))

inductive Writes : List Char → Int → Prop
  | plain {ds : List Char} : AllDigits ds → Writes ds (Nat.ofDigitChars 10 ds 0)
  | plus {ds : List Char} : AllDigits ds → Writes ('+' :: ds) (Nat.ofDigitChars 10 ds 0)
  | minus {ds : List Char} : AllDigits ds → Writes ('-' :: ds) (-(Nat.ofDigitChars 10 ds 0 : Nat))

theorem readNat_allDigits {ds : List Char} (h : AllDigits ds) :
    readNat ds = some (Nat.ofDigitChars 10 ds 0) :=
  if_pos h

theorem AllDigits.isDigit {ds : List Char} (h : AllDigits ds) {c : Char} (hc : c ∈ ds) :
    c.isDigit = true :=
  List.all_eq_true.mp h.2 c hc

theorem takeSign_allDigits {ds : List Char} (h : AllDigits ds) : takeSign ds = (false, ds) := by
  unfold takeSign
  split
  · exact absurd (h.isDigit (c := '-') List.mem_cons_self) (by decide)
  · exact absurd (h.isDigit (c := '+') List.mem_cons_self) (by decide)
  · rfl

/-- the sign, the digits and the number of a written one -/
theorem Writes.parts {cs : List Char} {n : Int} (h : Writes cs n) :
    AllDigits (takeSign cs).2 ∧ n = signed (takeSign cs).1 (Nat.ofDigitChars 10 (takeSign cs).2 0) := by
  cases h with
  | plain hds =>
    rw [takeSign_allDigits hds]
    exact ⟨hds, rfl⟩
  | plus hds => exact ⟨hds, rfl⟩
  | minus hds => exact ⟨hds, rfl⟩

theorem readInt_of_writes {cs : List Char} {n : Int} (h : Writes cs n) : readInt cs = some n := by
  obtain ⟨hds, hn⟩ := h.parts
  unfold readInt
  rw [readNat_allDigits hds, hn]
  rfl

theorem readDecimal_of_writes {cs : List Char} {n : Int} (h : Writes cs n) :
    readDecimal cs = some ⟨(takeSign cs).1, n.natAbs, 0⟩ := by
  obtain ⟨hds, hn⟩ := h.parts
  have htake := List.takeWhile_eq_self_iff.mpr fun _ => hds.isDigit
  have hdrop := List.dropWhile_eq_nil_iff.mpr fun _ => hds.isDigit
  have hfraction : takeFraction [] = ([], []) := rfl
  have hexponent : readExponent [] = some 0 := rfl
  unfold readDecimal
  dsimp only
  rw [htake, hdrop, hfraction]
  dsimp only
  rw [List.append_nil, readNat_allDigits hds, hexponent, hn, natAbs_signed]
  rfl

theorem readInt64_of_writes {s : String} {n : Int} (h : Writes s.toList n) : readInt64 s = int64? n := by
  unfold readInt64
  rw [readInt_of_writes h]
  rfl

theorem readBinary64_of_writes {s : String} {n : Int} (h : Writes s.toList n) (hn : n ≠ 0) :
    readBinary64 s = if n.natAbs < tooLarge then some (.ofInt n) else none := by
  obtain ⟨_, hsign⟩ := h.parts
  have hsigned : signed (takeSign s.toList).1 n.natAbs = n := by
    rw [hsign, natAbs_signed]
  unfold readBinary64
  rw [readDecimal_of_writes h]
  show Numeral.round ⟨(takeSign s.toList).1, n.natAbs, 0⟩ = _
  rw [round_whole _ (Int.natAbs_pos.mpr hn), hsigned]

/-! ## words that are no numbers -/

theorem toLower_of_isDigit {c : Char} (h : c.isDigit = true) : c.toLower = c := by
  have hupper : ¬ (c.val ≥ 'A'.val ∧ c.val ≤ 'Z'.val) := by
    intro hupper
    have hdigit : c.val ≤ '9'.val := (Bool.and_eq_true_iff.mp h).2 |> of_decide_eq_true
    exact absurd (UInt32.le_trans hupper.1 hdigit) (by decide)
  exact dif_neg hupper

theorem mem_of_mem_takeSign {cs : List Char} {c : Char} (h : c ∈ (takeSign cs).2) : c ∈ cs := by
  unfold takeSign at h
  split at h
  · exact List.mem_cons_of_mem _ h
  · exact List.mem_cons_of_mem _ h
  · exact h

theorem Writes.exists_digit {cs : List Char} {n : Int} (h : Writes cs n) : ∃ c ∈ cs, c.isDigit = true := by
  obtain ⟨hds, _⟩ := h.parts
  obtain ⟨c, hc⟩ := List.exists_mem_of_ne_nil _ hds.1
  exact ⟨c, mem_of_mem_takeSign hc, hds.isDigit hc⟩

theorem Writes.not_sameWord {s t : String} {n : Int} (h : Writes s.toList n)
    (ht : (t.toList.map Char.toLower).any Char.isDigit = false) : ¬ SameWord s t := by
  intro hsame
  obtain ⟨c, hc, hdigit⟩ := h.exists_digit
  have hlower : s.toList.map Char.toLower = t.toList.map Char.toLower := by
    rw [← toList_lowerAscii, ← toList_lowerAscii, show lowerAscii s = lowerAscii t from hsame]
  have hmem : c ∈ t.toList.map Char.toLower := by
    rw [← hlower, ← toLower_of_isDigit hdigit]
    exact List.mem_map_of_mem hc
  exact List.any_eq_false.mp ht c hmem hdigit

/-! ## inferred values -/

theorem ne_zero_of_beyond {n : Int} (h : ¬ FitsInt64 n) : n ≠ 0 := by
  rintro rfl
  exact h (by decide)

section
variable {raw : String} {n : Int} (h : Writes (trim raw).toList n)
include h

theorem infer_fitting (hfits : FitsInt64 n) : ∃ k, Value.infer raw = .int k ∧ k.toInt = n := by
  refine ⟨Int64.ofInt n, ?_, Int64.toInt_ofInt_of_le hfits.1 (Int.lt_add_one_of_le hfits.2)⟩
  unfold Value.infer
  dsimp only
  rw [if_neg (h.not_sameWord (by decide)), if_neg (h.not_sameWord (by decide)), readInt64_of_writes h,
    int64?, if_pos hfits]

theorem infer_beyond (hbeyond : ¬ FitsInt64 n) :
    Value.infer raw = if n.natAbs < tooLarge then .float (.ofInt n) else .text raw := by
  have hn := ne_zero_of_beyond hbeyond
  unfold Value.infer
  dsimp only
  rw [if_neg (h.not_sameWord (by decide)), if_neg (h.not_sameWord (by decide)), readInt64_of_writes h,
    int64?, if_neg hbeyond, readBinary64_of_writes h hn]
  dsimp only
  rcases Nat.lt_or_ge n.natAbs tooLarge with hsize | hsize
  · rw [if_pos hsize, if_pos hsize]
  · rw [if_neg (Nat.not_lt_of_le hsize), if_neg (Nat.not_lt_of_le hsize)]

end

/-- values that are the number, or the text as it was given -/
inductive Value.Stands (raw : String) (n : Int) : Value → Prop
  | int {k : Int64} : k.toInt = n → Stands raw n (.int k)
  | float {x : Binary64} : x.Denotes n → Stands raw n (.float x)
  | text : Stands raw n (.text raw)

theorem Value.stands_float_iff {raw : String} {n : Int} {x : Binary64} :
    (Value.float x).Stands raw n ↔ x.Denotes n :=
  ⟨fun h => by cases h; assumption, .float⟩

/-- **Inferred numbers.**  A whole number that fits 64 bits is inferred as itself.  What is inferred stands
for the number exactly if it fits, is short, or is too large for a finite binary number.  In all other
cases it is the nearest binary number, which is another one. -/
theorem infer_whole_iff {raw : String} {n : Int} (h : Writes (trim raw).toList n) :
    (FitsInt64 n → ∃ k, Value.infer raw = .int k ∧ k.toInt = n) ∧
      ((Value.infer raw).Stands raw n ↔ FitsInt64 n ∨ Short n.natAbs ∨ tooLarge ≤ n.natAbs) ∧
      (¬ (Value.infer raw).Stands raw n → ∃ x, Value.infer raw = .float x ∧
        ∀ y : Binary64, y.IsFinite → x.distance n ≤ y.distance n) := by
  refine ⟨infer_fitting h, ?_⟩
  by_cases hfits : FitsInt64 n
  · obtain ⟨k, hk, hvalue⟩ := infer_fitting h hfits
    have hstands : (Value.infer raw).Stands raw n := by
      rw [hk]
      exact .int hvalue
    constructor
    · exact iff_of_true hstands (Or.inl hfits)
    · intro hnot
      exact absurd hstands hnot
  · have hn := ne_zero_of_beyond hfits
    rw [infer_beyond h hfits, or_iff_right hfits]
    rcases Nat.lt_or_ge n.natAbs tooLarge with hsize | hsize
    · rw [if_pos hsize, or_iff_left (Nat.not_le_of_lt hsize), Value.stands_float_iff,
        denotes_ofInt_iff hn hsize]
      refine ⟨Iff.rfl, fun _ => ⟨ofInt n, rfl, fun y _ => ?_⟩⟩
      exact distance_ofInt hn hsize y
    · rw [if_neg (Nat.not_lt_of_le hsize)]
      have hstands : (Value.text raw).Stands raw n := .text
      constructor
      · exact iff_of_true hstands (Or.inr hsize)
      · intro hnot
        exact absurd hstands hnot

/-- 2^64 with a sign, zeros and blanks around it is kept -/
theorem infer_keeps_two_to_64 :
    Writes (trim " +00018446744073709551616\n").toList 18446744073709551616 ∧
      (Value.infer " +00018446744073709551616\n").Stands " +00018446744073709551616\n"
        18446744073709551616 := by
  have hdigits : AllDigits "00018446744073709551616".toList := by decide +kernel
  have htrim : (trim " +00018446744073709551616\n").toList = '+' :: "00018446744073709551616".toList := by
    decide +kernel
  have hwrites : Writes (trim " +00018446744073709551616\n").toList 18446744073709551616 := by
    rw [htrim]
    exact .plus hdigits
  refine ⟨hwrites, (infer_whole_iff hwrites).2.1.mpr (Or.inr (Or.inl ?_))⟩
  exact ⟨1, 64, by decide +kernel, by decide +kernel⟩

/-- 2^63 + 1 is inferred as 2^63, which is neither the number nor its text -/
theorem infer_changes_number :
    Writes (trim "9223372036854775809").toList 9223372036854775809 ∧
      ∃ x, Value.infer "9223372036854775809" = .float x ∧ x.Denotes 9223372036854775808 ∧
        ¬ (Value.infer "9223372036854775809").Stands "9223372036854775809" 9223372036854775809 := by
  have hdigits : AllDigits "9223372036854775809".toList := by decide +kernel
  have htrim : (trim "9223372036854775809").toList = "9223372036854775809".toList := by decide +kernel
  have hinfer : Value.infer "9223372036854775809" = .float ⟨0x43E0000000000000⟩ := by decide +kernel
  refine ⟨?_, ⟨0x43E0000000000000⟩, hinfer, by decide +kernel, ?_⟩
  · rw [htrim]
    exact .plain hdigits
  · rw [hinfer, Value.stands_float_iff]
    decide +kernel

end PagedSql
