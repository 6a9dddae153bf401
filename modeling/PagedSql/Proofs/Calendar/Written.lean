import Mathlib.Algebra.Group.Nat.Defs
import PagedSql.Proofs.Calendar.Fields

/-!
# Written dates and instants are read back

A field is written with a fixed number of digits, and a field of that width is taken whole, whatever comes
behind it.  So a written date or instant is read field by field, and the fields name the date and the time
that were written.

* `takeNumber_padded`      a field with zeros in front is read as its number;
* `takeYear_yearText`      so is a year, with its sign if it has more than four digits or less than none;
* `takeDate_text`          a written date is read from the front of a text;
* `takeNanos_fractionText` a fraction of any of the four widths is read as its nanoseconds;
* `TimeOfDay.ofClock?_self`   hour, minute, second and fraction name the time, a leap second too;
* `readDateChars_text`, `readZoned_text`   dates, and instants of years of four digits, are read back;
* `Date.unblank_text`, `Instant.unblank_text`   and there is no blank in what is written.
-/

namespace PagedSql.Calendar
open PagedSql.Text PagedSql.Decimal

/-! ## digits -/

theorem takeDigits_append {max : Nat} {ds rest : List Char} (hds : ds.all Char.isDigit = true)
    (hmax : ds.length ≤ max)
    (hstop : ds.length = max ∨ ∀ c, rest.head? = some c → c.isDigit = false) :
    takeDigits max (ds ++ rest) = (ds, rest) := by
  induction ds generalizing max with
  | nil =>
    cases max with
    | zero => rfl
    | succ max =>
      cases rest with
      | nil => rfl
      | cons c rest =>
        have hc : c.isDigit = false := by
          rcases hstop with hstop | hstop
          · cases hstop
          · exact hstop c rfl
        rw [List.nil_append, takeDigits, hc]
        rfl
  | cons c ds ih =>
    cases max with
    | zero => cases hmax
    | succ max =>
      rw [List.all_cons, Bool.and_eq_true] at hds
      rw [List.length_cons] at hmax hstop
      have hrest : ds.length = max ∨ ∀ c, rest.head? = some c → c.isDigit = false :=
        hstop.imp_left Nat.succ.inj
      rw [List.cons_append, takeDigits, if_pos hds.1, ih hds.2 (Nat.le_of_succ_le_succ hmax) hrest]

namespace Date

theorem toList_padded (width n : Nat) :
    (padded width n).toList =
      List.replicate (width - (Nat.toDigits 10 n).length) '0' ++ Nat.toDigits 10 n := by
  simp [padded]

theorem all_isDigit_padded (width n : Nat) : (padded width n).toList.all Char.isDigit = true := by
  rw [toList_padded, List.all_append, Bool.and_eq_true]
  constructor
  · rw [List.all_replicate]
    split
    · rfl
    · decide
  · exact List.all_eq_true.mpr fun c hc => Nat.isDigit_of_mem_toDigits (by decide) (by decide) hc

theorem ofDigitChars_padded (width n : Nat) : Nat.ofDigitChars 10 (padded width n).toList 0 = n := by
  rw [toList_padded, Nat.ofDigitChars_append, Nat.ofDigitChars_replicate_zero, Nat.mul_zero,
    Nat.ofDigitChars_toDigits (by decide) (by decide)]

theorem length_padded {width n : Nat} (hwidth : 0 < width) (hn : n < 10 ^ width) :
    (padded width n).toList.length = width := by
  have hle := (Nat.length_toDigits_le_iff (by decide) hwidth).mpr hn
  rw [toList_padded, List.length_append, List.length_replicate, Nat.sub_add_cancel hle]

theorem padded_ne_nil (width n : Nat) : (padded width n).toList ≠ [] := by
  rw [toList_padded]
  exact fun h => Nat.toDigits_ne_nil (List.append_eq_nil_iff.mp h).2

end Date

open Date

theorem readNat_padded (width n : Nat) : readNat (padded width n).toList = some n := by
  unfold readNat
  rw [if_pos ⟨padded_ne_nil width n, all_isDigit_padded width n⟩, ofDigitChars_padded]

/-! ## fields -/

theorem takeNumber_padded {min max width n : Nat} {rest : List Char}
    (hmin : min ≤ (padded width n).toList.length) (hmax : (padded width n).toList.length ≤ max)
    (hstop : (padded width n).toList.length = max ∨ ∀ c, rest.head? = some c → c.isDigit = false) :
    takeNumber min max ((padded width n).toList ++ rest) = some (n, rest) := by
  unfold takeNumber
  rw [takeDigits_append (all_isDigit_padded width n) hmax hstop]
  dsimp only
  rw [if_pos hmin, readNat_padded]
  rfl

/-- a field of fixed width ends where its digits end -/
theorem takeNumber_strict {width n : Nat} (hwidth : 0 < width) (hn : n < 10 ^ width)
    (rest : List Char) :
    takeNumber width width ((padded width n).toList ++ rest) = some (n, rest) := by
  have hlength := length_padded hwidth hn
  exact takeNumber_padded hlength.ge hlength.le (Or.inl hlength)

theorem takeField_padded {n : Nat} (hn : n < 100) (rest : List Char) :
    takeField ((padded 2 n).toList ++ rest) = some (n, rest) :=
  takeField_of_strict (takeNumber_strict (by decide) hn rest)

theorem takeChar_self (c : Char) (cs : List Char) : takeChar c (c :: cs) = some cs := if_pos rfl

theorem takeDateTimeMark_self (cs : List Char) : takeDateTimeMark ('T' :: cs) = some cs := by
  simp [takeDateTimeMark]

/-! ## dates -/

section
variable {year : Int} (rest : List Char)

theorem toNat_year (h : 0 ≤ year ∧ year ≤ 9999) : (year.toNat : Int) = year ∧ year.toNat < 10 ^ 4 := by
  have hyear : ((year.toNat : Nat) : Int) = year := Int.toNat_of_nonneg h.1
  refine ⟨hyear, ?_⟩
  omega

/-- a year behind its sign is taken up to the dash -/
theorem takeYear_signed (negative : Bool) (n : Nat) :
    takeYear ((if negative then '-' else '+') :: ((padded 4 n).toList ++ '-' :: rest)) =
      some (signed negative n, '-' :: rest) := by
  have hpositive : 1 ≤ (padded 4 n).toList.length := List.length_pos_iff.mpr (padded_ne_nil 4 n)
  have htaken : takeNumber 1 ((padded 4 n).toList ++ '-' :: rest).length
      ((padded 4 n).toList ++ '-' :: rest) = some (n, '-' :: rest) := by
    refine takeNumber_padded hpositive ?_ (Or.inr fun c hc => ?_)
    · rw [List.length_append]
      exact Nat.le_add_right _ _
    · cases hc
      decide
  cases negative with
  | true =>
    have hdrop : dropBlanks ('-' :: ((padded 4 n).toList ++ '-' :: rest)) =
        '-' :: ((padded 4 n).toList ++ '-' :: rest) := dropBlanks_of_head fun c hc => by cases hc; decide
    simp only [takeYear, if_true, hdrop, htaken]
    rfl
  | false =>
    have hdrop : dropBlanks ('+' :: ((padded 4 n).toList ++ '-' :: rest)) =
        '+' :: ((padded 4 n).toList ++ '-' :: rest) := dropBlanks_of_head fun c hc => by cases hc; decide
    simp only [takeYear, Bool.false_eq_true, if_false, hdrop, htaken]
    rfl

theorem toList_yearText_plain (h : 0 ≤ year ∧ year ≤ 9999) :
    (yearText year).toList = (padded 4 year.toNat).toList := by
  unfold yearText
  rw [if_pos h]

theorem toList_yearText_signed (h : ¬ (0 ≤ year ∧ year ≤ 9999)) :
    (yearText year).toList =
      (if decide (year < 0) then '-' else '+') :: (padded 4 year.natAbs).toList := by
  unfold yearText
  rw [if_neg h, String.toList_append]
  by_cases hneg : year < 0
  · rw [if_pos hneg, decide_eq_true hneg]
    rfl
  · rw [if_neg hneg, decide_eq_false hneg]
    rfl

theorem takeYear_yearText : takeYear ((yearText year).toList ++ '-' :: rest) = some (year, '-' :: rest) := by
  by_cases h : 0 ≤ year ∧ year ≤ 9999
  · obtain ⟨hyear, hn⟩ := toNat_year h
    rw [toList_yearText_plain h, takeYear_of_strict (takeNumber_strict (by decide) hn _), hyear]
  · rw [toList_yearText_signed h, List.cons_append, takeYear_signed]
    refine congrArg (fun y => some (y, '-' :: rest)) ?_
    unfold signed
    split
    · next hneg => have := of_decide_eq_true hneg; omega
    · next hneg => have := of_decide_eq_false (Bool.eq_false_iff.mpr hneg); omega

end

namespace Date

theorem month_lt (d : Date) : d.month < 100 := by
  have h := d.isDate.2.1.2
  omega

theorem day_lt (d : Date) : d.day < 100 := by
  have h := d.isDate.2.2.2
  unfold daysInMonth at h
  split at h
  · split at h <;> omega
  · split at h <;> omega

theorem toList_text (d : Date) :
    d.text.toList = (yearText d.year).toList ++
      '-' :: ((padded 2 d.month).toList ++ '-' :: (padded 2 d.day).toList) := by
  have hdash : "-".toList = ['-'] := rfl
  simp only [text, String.toList_append, hdash, List.append_assoc, List.cons_append,
    List.nil_append]

end Date

/-- **A written date is read back**, whatever stands behind it. -/
theorem takeDate_text (d : Date) (rest : List Char) : takeDate (d.text.toList ++ rest) = some (d, rest) := by
  simp only [toList_text, List.append_assoc, List.cons_append]
  unfold takeDate
  refine bind_of_eq_some (takeYear_yearText _) ?_
  refine bind_of_eq_some (takeChar_self _ _) ?_
  refine bind_of_eq_some (takeField_padded d.month_lt _) ?_
  refine bind_of_eq_some (takeChar_self _ _) ?_
  refine bind_of_eq_some (takeField_padded d.day_lt _) ?_
  exact bind_of_eq_some d.of?_self rfl

theorem readDateChars_text (d : Date) : readDateChars d.text.toList = some d := by
  have h := takeDate_text d []
  rw [List.append_nil] at h
  unfold readDateChars
  rw [h]

/-! ## times -/

namespace TimeOfDay
variable (t : TimeOfDay)

theorem hour_lt : t.hour < 24 := by
  have h : t.seconds < 86400 := t.isTime.1
  unfold hour
  omega

theorem minute_lt : t.minute < 60 := Nat.mod_lt _ (by decide)

theorem fraction_lt : t.fraction < 1000000000 := Nat.mod_lt _ (by decide)

/-- the second on the clock is 60 in a leap second only -/
theorem second_cases :
    (t.nanos < 1000000000 ∧ t.second = t.seconds % 60 ∧ t.fraction = t.nanos) ∨
      (t.seconds % 60 = 59 ∧ t.second = 60 ∧ t.fraction + 1000000000 = t.nanos) := by
  obtain ⟨_, hnanos, hleap⟩ := t.isTime
  unfold nanosPerSecond at hnanos hleap
  unfold second fraction nanosPerSecond
  rcases Nat.lt_or_ge t.nanos 1000000000 with h | h
  · left
    omega
  · right
    have hlast := hleap h
    omega

theorem second_le : t.second ≤ 60 := by
  rcases t.second_cases with ⟨_, h, _⟩ | ⟨_, h, _⟩
  · omega
  · omega

/-- **The clock names the time**, a leap second too. -/
theorem ofClock?_self : ofClock? t.hour t.minute t.second t.fraction = some t := by
  have hday : t.seconds < 86400 := t.isTime.1
  have hclock : t.hour < 24 ∧ t.minute < 60 ∧ t.second ≤ 60 ∧ t.fraction < nanosPerSecond :=
    ⟨t.hour_lt, t.minute_lt, t.second_le, t.fraction_lt⟩
  have hcount : t.hour * 3600 + t.minute * 60 + t.seconds % 60 = t.seconds := by
    unfold hour minute
    omega
  unfold ofClock?
  rw [if_pos hclock]
  rcases t.second_cases with ⟨_, hsecond, hfraction⟩ | ⟨hlast, hsecond, hfraction⟩
  · have hplain : t.second ≠ 60 := by omega
    rw [if_neg hplain, hsecond, hcount, hfraction, of?_self]
  · rw [hlast] at hcount
    rw [if_pos hsecond, hcount]
    unfold nanosPerSecond
    rw [hfraction, of?_self]

end TimeOfDay

/-- an offset of nothing, behind every written time -/
def utcOffset : List Char := ['+', '0', '0', ':', '0', '0']

theorem takeOffset_utcOffset : takeOffset utcOffset = some (0, []) := by decide +kernel

/-- the places of a fraction, filled up with zeros to nine -/
theorem takeNanos_places {places n : Nat} (hplaces : 0 < places) (hle : places ≤ 9) (hn : n < 10 ^ places) :
    takeNanos ('.' :: ((padded places n).toList ++ utcOffset)) =
      some (n * 10 ^ (9 - places), utcOffset) := by
  have hlength := length_padded hplaces hn
  have htaken : takeDigits 9 ((padded places n).toList ++ utcOffset) =
      ((padded places n).toList, utcOffset) := by
    refine takeDigits_append (all_isDigit_padded places n) (by omega) (Or.inr fun c hc => ?_)
    cases hc
    decide
  have hvalue : Nat.ofDigitChars 10
      ((padded places n).toList ++ List.replicate (9 - places) '0') 0 = n * 10 ^ (9 - places) := by
    rw [Nat.ofDigitChars_append, ofDigitChars_padded, Nat.ofDigitChars_replicate_zero, Nat.mul_comm]
  simp only [takeNanos, htaken]
  cases hdigits : (padded places n).toList with
  | nil => exact absurd hdigits (padded_ne_nil places n)
  | cons d ds =>
    rw [hdigits] at hlength hvalue
    dsimp only
    rw [hlength, hvalue]
    rfl

theorem takeNanos_fractionText (t : TimeOfDay) :
    takeNanos (t.fractionText.toList ++ utcOffset) = some (t.fraction, utcOffset) := by
  have hlt := t.fraction_lt
  have hpoint : ".".toList = ['.'] := rfl
  have hread : ∀ places n, 0 < places → places ≤ 9 → n < 10 ^ places →
      n * 10 ^ (9 - places) = t.fraction →
      takeNanos (("." ++ padded places n).toList ++ utcOffset) = some (t.fraction, utcOffset) := by
    intro places n hplaces hle hn hfraction
    rw [String.toList_append, hpoint, List.append_assoc, List.singleton_append,
      takeNanos_places hplaces hle hn, hfraction]
  -- no places, or as few of three, six and nine as hold the fraction
  unfold TimeOfDay.fractionText
  dsimp only
  split
  · next h =>
    rw [h]
    rfl
  · split
    · exact hread 3 _ (by decide) (by decide) (by omega) (by omega)
    · split
      · exact hread 6 _ (by decide) (by decide) (by omega) (by omega)
      · exact hread 9 _ (by decide) (by decide) (by omega) (by omega)

/-! ## instants -/

theorem Instant.toList_text (i : Instant) :
    i.text.toList = i.date.text.toList ++ 'T' :: ((padded 2 i.time.hour).toList ++
      ':' :: ((padded 2 i.time.minute).toList ++ ':' :: ((padded 2 i.time.second).toList ++
        (i.time.fractionText.toList ++ utcOffset)))) := by
  have hmark : "T".toList = ['T'] := rfl
  have hcolon : ":".toList = [':'] := rfl
  have hoffset : "+00:00".toList = utcOffset := rfl
  simp only [text, TimeOfDay.text, String.toList_append, hmark, hcolon, hoffset, List.append_assoc,
    List.cons_append, List.nil_append]

/-- **A written instant is read back**, if its year has no more than four digits. -/
theorem readZoned_text {i : Instant} (h : 0 ≤ i.date.year ∧ i.date.year ≤ 9999) :
    readZoned i.text.toList = some i := by
  obtain ⟨hyear, hn⟩ := toNat_year h
  have hsecond : i.time.second < 10 ^ 2 := Nat.lt_of_le_of_lt i.time.second_le (by decide)
  have hminute : i.time.minute < 10 ^ 2 := Nat.lt_trans i.time.minute_lt (by decide)
  have hhour : i.time.hour < 10 ^ 2 := Nat.lt_trans i.time.hour_lt (by decide)
  have htwo : 0 < 2 := by decide
  rw [i.toList_text, toList_text, toList_yearText_plain h]
  simp only [List.append_assoc, List.cons_append]
  unfold readZoned
  refine bind_of_eq_some (takeNumber_strict (by decide) hn _) ?_
  refine bind_of_eq_some (takeChar_self _ _) ?_
  refine bind_of_eq_some (takeNumber_strict htwo i.date.month_lt _) ?_
  refine bind_of_eq_some (takeChar_self _ _) ?_
  refine bind_of_eq_some (takeNumber_strict htwo i.date.day_lt _) ?_
  refine bind_of_eq_some (takeDateTimeMark_self _) ?_
  refine bind_of_eq_some (takeNumber_strict htwo hhour _) ?_
  refine bind_of_eq_some (takeChar_self _ _) ?_
  refine bind_of_eq_some (takeNumber_strict htwo hminute _) ?_
  refine bind_of_eq_some (takeChar_self _ _) ?_
  refine bind_of_eq_some (takeNumber_strict htwo hsecond _) ?_
  refine bind_of_eq_some (takeNanos_fractionText i.time) ?_
  refine bind_of_eq_some takeOffset_utcOffset ?_
  dsimp only
  rw [hyear, of?_self, TimeOfDay.ofClock?_self]
  exact Instant.fromLocal?_zero i.date i.time

/-! ## no blanks -/

theorem unblank_padded (width n : Nat) : Unblank (padded width n).toList :=
  fun c hc => not_isBlank_of_isDigit (List.all_eq_true.mp (all_isDigit_padded width n) c hc)

theorem unblank_yearText (year : Int) : Unblank (yearText year).toList := by
  by_cases h : 0 ≤ year ∧ year ≤ 9999
  · rw [toList_yearText_plain h]
    exact unblank_padded 4 _
  · rw [toList_yearText_signed h]
    refine Unblank.cons ?_ (unblank_padded 4 _)
    split <;> decide

theorem Date.unblank_text (d : Date) : Unblank d.text.toList := by
  rw [d.toList_text]
  have hmonth := (unblank_padded 2 d.month).append (.cons (c := '-') (by decide) (unblank_padded 2 d.day))
  exact (unblank_yearText d.year).append (.cons (by decide) hmonth)

theorem TimeOfDay.unblank_fractionText (t : TimeOfDay) : Unblank t.fractionText.toList := by
  have hplaces : ∀ places n, Unblank ("." ++ padded places n).toList := by
    intro places n
    rw [String.toList_append]
    exact .cons (by decide) (unblank_padded places n)
  unfold fractionText
  dsimp only
  split
  · exact unblank_nil
  · split
    · exact hplaces 3 _
    · split
      · exact hplaces 6 _
      · exact hplaces 9 _

theorem Instant.unblank_text (i : Instant) : Unblank i.text.toList := by
  have hoffset : Unblank utcOffset := by decide +kernel
  rw [i.toList_text]
  have hsecond := (unblank_padded 2 i.time.second).append (i.time.unblank_fractionText.append hoffset)
  have hminute := (unblank_padded 2 i.time.minute).append (.cons (c := ':') (by decide) hsecond)
  have hhour := (unblank_padded 2 i.time.hour).append (.cons (c := ':') (by decide) hminute)
  exact i.date.unblank_text.append (.cons (by decide) hhour)

end PagedSql.Calendar
