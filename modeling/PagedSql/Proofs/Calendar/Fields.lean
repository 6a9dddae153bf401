import PagedSql.Proofs.Text.Trim
import PagedSql.Calendar.Reading

/-!
# Fields of dates and times

A field of the strict form has a fixed number of digits and nothing in front.  The free forms take the
same digits from it, so that a text with strict fields is read field by field in both.

* `exists_digit_of_takeNumber`   a number begins with a digit;
* `bind_of_eq_some`              fields are taken one after the other;
* `takeNumber_widen`             a field of fixed width is one of at most that width;
* `takeField_of_strict`, `takeYear_of_strict`   strict fields in the free form.
-/

namespace PagedSql.Calendar
open PagedSql.Text PagedSql.Decimal

/-! ## digits and blanks -/

theorem toNat_of_isDigit {c : Char} (h : c.isDigit = true) : 48 ≤ c.toNat ∧ c.toNat ≤ 57 := by
  unfold Char.isDigit at h
  rw [Bool.and_eq_true, decide_eq_true_eq, decide_eq_true_eq] at h
  exact ⟨UInt32.le_iff_toNat_le.mp h.1, UInt32.le_iff_toNat_le.mp h.2⟩

theorem not_isBlank_of_isDigit {c : Char} (h : c.isDigit = true) : isBlank c = false := by
  have hrange := toNat_of_isDigit h
  unfold isBlank
  simp only [Bool.or_eq_false_iff, Bool.and_eq_false_iff, decide_eq_false_iff_not]
  omega

/-- in front of a digit no blanks are left out -/
theorem dropBlanks_of_isDigit {cs : List Char} {c : Char} (hc : cs.head? = some c)
    (h : c.isDigit = true) : dropBlanks cs = cs := by
  refine dropBlanks_of_head fun d hd => ?_
  rw [hc] at hd
  exact Option.some.inj hd ▸ not_isBlank_of_isDigit h

/-! ## numbers -/

theorem takeDigits_eq (max : Nat) (cs : List Char) :
    cs = (takeDigits max cs).1 ++ (takeDigits max cs).2 ∧
      (takeDigits max cs).1.all Char.isDigit = true := by
  fun_induction takeDigits max cs with
  | case1 cs => exact ⟨rfl, rfl⟩
  | case2 max => exact ⟨rfl, rfl⟩
  | case3 max c cs hc digits rest heq ih =>
    rw [heq] at ih
    exact ⟨congrArg (c :: ·) ih.1, by rw [List.all_cons, hc, ih.2]; rfl⟩
  | case4 max c cs hc => exact ⟨rfl, rfl⟩

theorem takeNumber_widen {narrow wide max : Nat} (h : wide ≤ narrow) {cs : List Char}
    {r : Nat × List Char} (hr : takeNumber narrow max cs = some r) : takeNumber wide max cs = some r := by
  unfold takeNumber at hr ⊢
  dsimp only at hr ⊢
  split at hr
  · next hlength =>
    rw [if_pos (Nat.le_trans h hlength)]
    exact hr
  · cases hr

theorem exists_digit_of_takeNumber {min max : Nat} (hmin : 1 ≤ min) {cs : List Char}
    {r : Nat × List Char} (h : takeNumber min max cs = some r) :
    ∃ c, cs.head? = some c ∧ c.isDigit = true := by
  obtain ⟨hcs, hdigits⟩ := takeDigits_eq max cs
  unfold takeNumber at h
  dsimp only at h
  split at h
  · next hlength =>
    cases htaken : (takeDigits max cs).1 with
    | nil =>
      rw [htaken, List.length_nil] at hlength
      omega
    | cons c ds =>
      rw [htaken] at hcs hdigits
      refine ⟨c, by rw [hcs]; rfl, ?_⟩
      exact List.all_eq_true.mp hdigits c List.mem_cons_self
  · cases h

/-! ## fields one after the other -/

/-- one field taken, and what the rest of the reading makes of it -/
theorem bind_of_eq_some {α β : Type} {x : Option α} {f : α → Option β} {a : α} {r : Option β}
    (hx : x = some a) (hf : f a = r) : (x >>= f) = r := by
  rw [hx]
  exact hf

/-! ## strict fields read freely -/

theorem takeField_of_strict {cs : List Char} {r : Nat × List Char} (h : takeNumber 2 2 cs = some r) :
    takeField cs = some r := by
  obtain ⟨c, hc, hdigit⟩ := exists_digit_of_takeNumber (by decide) h
  unfold takeField
  rw [dropBlanks_of_isDigit hc hdigit]
  exact takeNumber_widen (by decide) h

/-- a year without a sign -/
theorem takeYear_of_digit {cs : List Char} {c : Char} (hc : cs.head? = some c)
    (h : c.isDigit = true) :
    takeYear cs = (takeNumber 1 4 cs).map fun (n, rest) => ((n : Int), rest) := by
  unfold takeYear
  rw [dropBlanks_of_isDigit hc h]
  split
  · cases hc
    exact absurd h (by decide)
  · cases hc
    exact absurd h (by decide)
  · rfl

theorem takeYear_of_strict {cs rest : List Char} {n : Nat} (h : takeNumber 4 4 cs = some (n, rest)) :
    takeYear cs = some ((n : Int), rest) := by
  obtain ⟨c, hc, hdigit⟩ := exists_digit_of_takeNumber (by decide) h
  rw [takeYear_of_digit hc hdigit, takeNumber_widen (by decide) h]
  rfl

end PagedSql.Calendar
