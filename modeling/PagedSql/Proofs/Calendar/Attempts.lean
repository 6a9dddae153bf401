import PagedSql.Proofs.Calendar.Fields
import PagedSql.Value.Kind

/-!
# Instants are read in one way only

An instant is read by four attempts, and what they accept overlaps nowhere.  All of them take the same date
from the front, so what stands behind it tells them apart: nothing, a `T` and a time, or blanks and a time.
The strict form goes on where a free time has to end, with its offset.

* `Form`               the forms of the four attempts, `Form.all` in the order in which they are made;
* `Form.Follows`       what stands behind the date in each form;
* `exists_date_of_readZoned`, `exists_date_of_readFree`   what the strict form and the free ones accept;
* `Form.exists_date`   what a form accepts is a date with what follows it in the form;
* `Form.Follows.unique`   nothing follows in two forms, so `Form.unique`: no text is read in two;
* `instant_unambiguous`   the order of the attempts makes no difference, and a date alone is its midnight.
-/

namespace PagedSql.Calendar
open PagedSql.Text PagedSql.Decimal

inductive Form where
  | zoned
  | marked
  | spaced
  | dateOnly
  deriving DecidableEq, Repr

namespace Form

def read : Form → List Char → Option Instant
  | zoned => readZoned
  | marked => readWithMark
  | spaced => readWithBlank
  | dateOnly => readMidnight

def all : List Form := [zoned, marked, spaced, dateOnly]

theorem mem_all (form : Form) : form ∈ all := by
  cases form <;> decide

end Form

theorem readInstant_eq (s : String) :
    readInstant s = Form.all.findSome? fun form => form.read (trimChars s.toList) := by
  unfold readInstant
  simp only [Form.all, List.findSome?_cons, List.findSome?_nil, Form.read]
  generalize trimChars s.toList = cs
  cases readZoned cs with
  | some t => rfl
  | none =>
    cases readWithMark cs with
    | some t => rfl
    | none =>
      cases readWithBlank cs with
      | some t => rfl
      | none => cases readMidnight cs <;> rfl

/-! ## times -/

/-- a time begins with a digit, behind blanks if there are any -/
theorem exists_digit_of_takeTime {cs : List Char} {r : TimeOfDay × List Char}
    (h : takeTime cs = some r) : ∃ c, (dropBlanks cs).head? = some c ∧ c.isDigit = true := by
  simp only [takeTime, Option.bind_eq_bind, Option.bind_eq_some_iff] at h
  obtain ⟨hour, hhour, _⟩ := h
  exact exists_digit_of_takeNumber (by decide) hhour

theorem takeTime_eq_none {c : Char} (hblank : isBlank c = false) (hdigit : c.isDigit = false)
    (cs : List Char) : takeTime (c :: cs) = none := by
  rw [Option.eq_none_iff_forall_ne_some]
  intro r hr
  obtain ⟨d, hd, hdigit'⟩ := exists_digit_of_takeTime hr
  rw [dropBlanks_cons, hblank] at hd
  cases hd
  rw [hdigit] at hdigit'
  cases hdigit'

/-- behind a letter no time begins, blanks or not -/
theorem takeTime_letter {mark : Char} (h : mark = 'T' ∨ mark = 't') (cs : List Char) :
    takeTime (dropBlanks (mark :: cs)) = none := by
  have hmark : isBlank mark = false ∧ mark.isDigit = false := by
    rcases h with rfl | rfl
    · exact ⟨by decide, by decide⟩
    · exact ⟨by decide, by decide⟩
  rw [dropBlanks_cons, hmark.1]
  exact takeTime_eq_none hmark.1 hmark.2 cs

/-! ## what stands behind the date -/

namespace Form

inductive Follows : Form → List Char → Prop where
  | zoned {mark : Char} {cs offset : List Char} {time : TimeOfDay}
    (hmark : mark = 'T' ∨ mark = 't' ∨ mark = ' ') (hdigit : ∃ c, cs.head? = some c ∧ c.isDigit = true)
    (htime : takeTime cs = some (time, offset)) (hoffset : offset ≠ []) : Follows zoned (mark :: cs)
  | marked {cs : List Char} {time : TimeOfDay} (htime : takeTime cs = some (time, [])) :
    Follows marked ('T' :: cs)
  | spaced {cs : List Char} {time : TimeOfDay} (htime : takeTime (dropBlanks cs) = some (time, [])) :
    Follows spaced cs
  | dateOnly : Follows dateOnly []

section
variable {cs : List Char}

theorem not_zoned_marked (hz : Follows zoned cs) (hm : Follows marked cs) : False := by
  cases hm with
  | marked hend =>
    cases hz with
    | zoned _ _ htime hoffset =>
      rw [htime] at hend
      exact hoffset (Prod.mk.inj (Option.some.inj hend)).2

theorem not_zoned_spaced (hz : Follows zoned cs) (hs : Follows spaced cs) : False := by
  cases hs with
  | spaced hend =>
    cases hz with
    | zoned hmark hdigit htime hoffset =>
      rcases or_assoc.mpr hmark with hletter | rfl
      · rw [takeTime_letter hletter] at hend
        cases hend
      · -- the blank is left out, and the time behind it is the same
        obtain ⟨c, hc, hcdigit⟩ := hdigit
        rw [dropBlanks_cons, if_pos (by decide), dropBlanks_of_isDigit hc hcdigit, htime] at hend
        exact hoffset (Prod.mk.inj (Option.some.inj hend)).2

theorem not_marked_spaced (hm : Follows marked cs) (hs : Follows spaced cs) : False := by
  cases hs with
  | spaced hend =>
    cases hm with
    | marked _ =>
      rw [takeTime_letter (Or.inl rfl)] at hend
      cases hend

theorem not_timed_nil {form : Form} (h : Follows form []) : form = dateOnly := by
  cases h with
  | spaced hend => cases hend
  | dateOnly => rfl

end

/-- **Nothing follows in two forms.** -/
theorem Follows.unique {f g : Form} {cs : List Char} (hf : Follows f cs) (hg : Follows g cs) : f = g := by
  cases f with
  | zoned =>
    cases g with
    | zoned => rfl
    | marked => exact (not_zoned_marked hf hg).elim
    | spaced => exact (not_zoned_spaced hf hg).elim
    | dateOnly => cases hg; exact not_timed_nil hf
  | marked =>
    cases g with
    | zoned => exact (not_zoned_marked hg hf).elim
    | marked => rfl
    | spaced => exact (not_marked_spaced hf hg).elim
    | dateOnly => cases hg; exact not_timed_nil hf
  | spaced =>
    cases g with
    | zoned => exact (not_zoned_spaced hg hf).elim
    | marked => exact (not_marked_spaced hg hf).elim
    | spaced => rfl
    | dateOnly => cases hg; exact not_timed_nil hf
  | dateOnly => cases hf; exact (not_timed_nil hg).symm

end Form

/-! ## the strict form -/

/-- **The strict form, read freely.**  Its date and its time are free ones, and an offset follows. -/
theorem exists_date_of_readZoned {cs : List Char} {t : Instant} (h : readZoned cs = some t) :
    ∃ date rest, takeDate cs = some (date, rest) ∧ Form.zoned.Follows rest := by
  obtain ⟨⟨year, cs1⟩, hyear, h⟩ := Option.bind_eq_some_iff.mp h
  obtain ⟨cs2, hdash, h⟩ := Option.bind_eq_some_iff.mp h
  obtain ⟨⟨month, cs3⟩, hmonth, h⟩ := Option.bind_eq_some_iff.mp h
  obtain ⟨cs4, hdash', h⟩ := Option.bind_eq_some_iff.mp h
  obtain ⟨⟨day, cs5⟩, hday, h⟩ := Option.bind_eq_some_iff.mp h
  obtain ⟨cs6, hmark, h⟩ := Option.bind_eq_some_iff.mp h
  obtain ⟨⟨hour, cs7⟩, hhour, h⟩ := Option.bind_eq_some_iff.mp h
  obtain ⟨cs8, hcolon, h⟩ := Option.bind_eq_some_iff.mp h
  obtain ⟨⟨minute, cs9⟩, hminute, h⟩ := Option.bind_eq_some_iff.mp h
  obtain ⟨cs10, hcolon', h⟩ := Option.bind_eq_some_iff.mp h
  obtain ⟨⟨second, cs11⟩, hsecond, h⟩ := Option.bind_eq_some_iff.mp h
  obtain ⟨⟨nanos, cs12⟩, hnanos, h⟩ := Option.bind_eq_some_iff.mp h
  obtain ⟨⟨offset, cs13⟩, hoffset, h⟩ := Option.bind_eq_some_iff.mp h
  obtain ⟨date, hdate, h⟩ := Option.bind_eq_some_iff.mp h
  obtain ⟨time, htime, _⟩ := Option.bind_eq_some_iff.mp h
  have hdigit := exists_digit_of_takeNumber (by decide) hhour
  have hfree : takeTime cs6 = some (time, cs12) := by
    unfold takeTime
    refine bind_of_eq_some (takeField_of_strict hhour) ?_
    refine bind_of_eq_some hcolon ?_
    refine bind_of_eq_some (takeField_of_strict hminute) ?_
    refine bind_of_eq_some hcolon' ?_
    refine bind_of_eq_some (takeField_of_strict hsecond) ?_
    refine bind_of_eq_some hnanos ?_
    exact bind_of_eq_some htime rfl
  refine ⟨date, cs5, ?_, ?_⟩
  · unfold takeDate
    refine bind_of_eq_some (takeYear_of_strict hyear) ?_
    refine bind_of_eq_some hdash ?_
    refine bind_of_eq_some (takeField_of_strict hmonth) ?_
    refine bind_of_eq_some hdash' ?_
    refine bind_of_eq_some (takeField_of_strict hday) ?_
    exact bind_of_eq_some hdate rfl
  · cases cs5 with
    | nil => cases hmark
    | cons mark cs =>
      simp only [takeDateTimeMark] at hmark
      split at hmark
      · next hletter =>
        cases hmark
        refine .zoned hletter hdigit hfree ?_
        rintro rfl
        cases hoffset
      · cases hmark

theorem exists_date_of_readFree {separator : List Char → Option (List Char)} {cs : List Char} {t : Instant}
    (h : readFree separator cs = some t) : ∃ rest behind, takeDate cs = some (t.date, rest) ∧
      separator rest = some behind ∧ takeTime behind = some (t.time, []) := by
  obtain ⟨⟨date, rest⟩, hdate, h⟩ := Option.bind_eq_some_iff.mp h
  obtain ⟨behind, hbehind, h⟩ := Option.bind_eq_some_iff.mp h
  obtain ⟨⟨time, final⟩, htime, hend⟩ := Option.bind_eq_some_iff.mp h
  dsimp only at hend
  split at hend
  · next hfinal =>
    subst hfinal
    cases hend
    exact ⟨rest, behind, hdate, hbehind, htime⟩
  · cases hend

theorem readDateChars_eq_some {cs : List Char} {d : Date} (h : readDateChars cs = some d) :
    takeDate cs = some (d, []) := by
  unfold readDateChars at h
  split at h
  · next hdate =>
    cases h
    exact hdate
  · cases h

namespace Form

/-- **What a form accepts** is a date, and behind it what follows in this form. -/
theorem exists_date {form : Form} {cs : List Char} {t : Instant} (h : form.read cs = some t) :
    ∃ date rest, takeDate cs = some (date, rest) ∧ form.Follows rest := by
  cases form with
  | zoned => exact exists_date_of_readZoned h
  | marked =>
    obtain ⟨rest, behind, hdate, hmark, htime⟩ := exists_date_of_readFree h
    refine ⟨t.date, rest, hdate, ?_⟩
    cases rest with
    | nil => cases hmark
    | cons c cs =>
      simp only [takeChar] at hmark
      split at hmark
      · next hc =>
        cases hmark
        subst hc
        exact .marked htime
      · cases hmark
  | spaced =>
    obtain ⟨rest, behind, hdate, hblanks, htime⟩ :=
      exists_date_of_readFree (show readFree (fun cs => some (dropBlanks cs)) cs = some t from h)
    cases hblanks
    exact ⟨t.date, rest, hdate, .spaced htime⟩
  | dateOnly =>
    obtain ⟨d, hd, _⟩ := Option.map_eq_some_iff.mp h
    exact ⟨d, [], readDateChars_eq_some hd, .dateOnly⟩

/-- **No text is read in two forms.** -/
theorem unique {f g : Form} {cs : List Char} {t u : Instant} (hf : f.read cs = some t)
    (hg : g.read cs = some u) : f = g := by
  obtain ⟨date, rest, hdate, hfollows⟩ := exists_date hf
  obtain ⟨date', rest', hdate', hfollows'⟩ := exists_date hg
  rw [hdate] at hdate'
  cases hdate'
  exact hfollows.unique hfollows'

/-- forms in any order find what the one form finds that accepts the text -/
theorem findSome?_eq_some_iff {order : List Form} (horder : ∀ form, form ∈ order) {cs : List Char}
    {t : Instant} : (order.findSome? fun form => form.read cs) = some t ↔
      ∃ form : Form, form.read cs = some t := by
  constructor
  · intro h
    obtain ⟨form, _, hform⟩ := List.exists_of_findSome?_eq_some h
    exact ⟨form, hform⟩
  · rintro ⟨form, hform⟩
    have hsome : (order.findSome? fun form => form.read cs).isSome = true := by
      rw [List.findSome?_isSome_iff]
      exact ⟨form, horder form, by rw [hform]; rfl⟩
    obtain ⟨u, hu⟩ := Option.isSome_iff_exists.mp hsome
    obtain ⟨other, _, hother⟩ := List.exists_of_findSome?_eq_some hu
    rw [hu, ← hother, unique hother hform, hform]

end Form

theorem readInstant_eq_some_iff {s : String} {t : Instant} :
    readInstant s = some t ↔ ∃ form : Form, form.read (trimChars s.toList) = some t := by
  rw [readInstant_eq, Form.findSome?_eq_some_iff Form.mem_all]

/-- **Instants are read in one way only.**  At most one form accepts a trimmed text, and any order of the
four finds the same.  A text that is read as a date is read as the midnight of this date, so that no text
means one day as a date and another as an instant; and a text with an offset is read with its offset. -/
theorem instant_unambiguous (s : String) :
    (∀ f g : Form, (f.read (trimChars s.toList)).isSome = true →
        (g.read (trimChars s.toList)).isSome = true → f = g) ∧
      (∀ order : List Form, (∀ form, form ∈ order) →
        (order.findSome? fun form => form.read (trimChars s.toList)) = readInstant s) ∧
      (∀ d, Kind.date.read s = some (.date d) →
        Kind.timestamp.read s = some (.timestamp (.midnight d)) ∧
          (Instant.midnight d).unixSeconds = (d.dayNumber - Date.unixEpoch) * secondsPerDay) ∧
      (∀ d t, Kind.date.read s = some (.date d) → Kind.timestamp.read s = some (.timestamp t) →
        t.date = d) ∧
      ∀ t, readZoned (trimChars s.toList) = some t →
        readInstant s = some t ∧ readWithMark (trimChars s.toList) = none ∧
          readWithBlank (trimChars s.toList) = none ∧ readMidnight (trimChars s.toList) = none := by
  have hmidnight : ∀ d, Kind.date.read s = some (.date d) →
      Kind.timestamp.read s = some (.timestamp (.midnight d)) := by
    intro d hd
    simp only [Kind.read, Option.map_eq_some_iff] at hd
    obtain ⟨e, he, hed⟩ := hd
    cases hed
    have hform : Form.dateOnly.read (trimChars s.toList) = some (.midnight d) := by
      show (readDateChars (trimChars s.toList)).map Instant.midnight = _
      rw [show readDateChars (trimChars s.toList) = some d from he]
      rfl
    rw [Kind.read, readInstant_eq_some_iff.mpr ⟨.dateOnly, hform⟩]
    rfl
  refine ⟨fun f g hf hg => ?_, fun order horder => ?_, fun d hd => ⟨hmidnight d hd, ?_⟩,
    fun d t hd ht => ?_, fun t ht => ⟨readInstant_eq_some_iff.mpr ⟨.zoned, ht⟩, ?_⟩⟩
  · obtain ⟨t, ht⟩ := Option.isSome_iff_exists.mp hf
    obtain ⟨u, hu⟩ := Option.isSome_iff_exists.mp hg
    exact Form.unique ht hu
  · ext t
    rw [readInstant_eq_some_iff, Form.findSome?_eq_some_iff horder]
  · show _ + ((0 : Nat) : Int) = _
    exact Int.add_zero _
  · rw [hmidnight d hd] at ht
    cases ht
    rfl
  · have hnone : ∀ form : Form, form ≠ .zoned → form.read (trimChars s.toList) = none := by
      intro form hform
      rw [Option.eq_none_iff_forall_ne_some]
      exact fun u hu => hform (Form.unique hu ht)
    exact ⟨hnone .marked (by decide), hnone .spaced (by decide), hnone .dateOnly (by decide)⟩

def leapDay : Date := ⟨2024, 2, 29, by decide⟩

/-- a date with a blank inside, and a time in a zone that is still in the year before -/
theorem leapDay_unambiguous :
    Kind.date.read "2024- 2-29\n" = some (.date leapDay) ∧
      Kind.timestamp.read "2024- 2-29\n" = some (.timestamp (.midnight leapDay)) ∧
      readInstant "2024-01-01 00:30:00+01:00" =
        some ⟨⟨2023, 12, 31, by decide⟩, ⟨84600, 0, by decide⟩⟩ := by
  have hdate : Kind.date.read "2024- 2-29\n" = some (.date leapDay) := by decide +kernel
  have hzoned : readZoned (trimChars "2024-01-01 00:30:00+01:00".toList) =
      some ⟨⟨2023, 12, 31, by decide⟩, ⟨84600, 0, by decide⟩⟩ := by
    decide +kernel
  exact ⟨hdate, ((instant_unambiguous "2024- 2-29\n").2.2.1 leapDay hdate).1,
    ((instant_unambiguous "2024-01-01 00:30:00+01:00").2.2.2.2 _ hzoned).1⟩

end PagedSql.Calendar
