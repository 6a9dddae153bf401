import PagedSql.Filter.Test
import PagedSql.Proofs.Calendar.Written
import PagedSql.Proofs.Value.Whole

/-!
# What is shown of a value can be asked for

A value is shown as a text, dates and instants in single quotes.  Without the quotes the text is read as
the value again, blanks around it or not, so that a filter can ask for every value of these kinds.

* `unquoted`         a text without the single quotes around it;
* `writes_intText`   a number is shown as a text that writes it;
* `Shown`            the kinds of a column, with the values that are shown in a readable way;
* `Shown.noBlankEnds`   such a text has no blanks to lose, so `trim_shown`: it is left when trimmed;
* `read_describe`    the text is read as the value, and compared as the value by a filter.
-/

namespace PagedSql
open PagedSql.Text PagedSql.Decimal PagedSql.Calendar

/-! ## quotes -/

def unquoted (s : String) : String :=
  match s.toList with
  | '\'' :: cs => String.ofList cs.dropLast
  | _ => s

theorem unquoted_quoted (s : String) : unquoted ("'" ++ s ++ "'") = s := by
  have h : ("'" ++ s ++ "'").toList = '\'' :: (s.toList ++ ['\'']) := by
    rw [String.toList_append, String.toList_append]
    rfl
  simp only [unquoted, h, List.dropLast_concat, String.ofList_toList]

theorem unquoted_of_head {s : String} (h : s.toList.head? ≠ some '\'') : unquoted s = s := by
  unfold unquoted
  split
  · next cs hcs =>
    rw [hcs] at h
    exact absurd rfl h
  · rfl

/-! ## numbers -/

theorem allDigits_toDigits (n : Nat) : AllDigits (Nat.toDigits 10 n) :=
  ⟨Nat.toDigits_ne_nil,
    List.all_eq_true.mpr fun _ hc => Nat.isDigit_of_mem_toDigits (by decide) (by decide) hc⟩

theorem writes_intText (n : Int) : Writes (intText n).toList n := by
  have hvalue : Nat.ofDigitChars 10 (Nat.toDigits 10 n.natAbs) 0 = n.natAbs :=
    Nat.ofDigitChars_toDigits (by decide) (by decide)
  unfold intText
  split
  · next hneg =>
    have hn : n = -(Nat.ofDigitChars 10 (Nat.toDigits 10 n.natAbs) 0 : Nat) := by omega
    rw [String.toList_append, toList_natText]
    conv => rhs; rw [hn]
    exact .minus (allDigits_toDigits n.natAbs)
  · next hpos =>
    have hn : n = (Nat.ofDigitChars 10 (Nat.toDigits 10 n.natAbs) 0 : Nat) := by omega
    rw [toList_natText]
    conv => rhs; rw [hn]
    exact .plain (allDigits_toDigits n.natAbs)

theorem AllDigits.unblank {ds : List Char} (h : AllDigits ds) : Unblank ds :=
  fun _ hc => not_isBlank_of_isDigit (h.isDigit hc)

theorem Writes.unblank {cs : List Char} {n : Int} (h : Writes cs n) : Unblank cs := by
  cases h with
  | plain hds => exact hds.unblank
  | plus hds => exact hds.unblank.cons (by decide)
  | minus hds => exact hds.unblank.cons (by decide)

theorem Writes.head_ne_quote {cs : List Char} {n : Int} (h : Writes cs n) : cs.head? ≠ some '\'' := by
  cases h with
  | plain hds =>
    intro hquote
    exact absurd (hds.isDigit (List.mem_of_mem_head? hquote)) (by decide)
  | plus hds => exact fun hquote => absurd (Option.some.inj hquote) (by decide)
  | minus hds => exact fun hquote => absurd (Option.some.inj hquote) (by decide)

/-! ## values -/

/-- A column of a kind, and a value of the kind.  Instants are shown with a year of four digits. -/
inductive Shown : Kind → Value → Prop where
  | integer (n : Int64) : Shown .integer (.int n)
  | boolean (b : Bool) : Shown .boolean (.bool b)
  | date (d : Date) : Shown .date (.date d)
  | timestamp (t : Instant) (h : 0 ≤ t.date.year ∧ t.date.year ≤ 9999) : Shown .timestamp (.timestamp t)

section
variable (n : Int64) (b : Bool) (d : Date) (t : Instant)

theorem unquoted_int : unquoted (Value.int n).describe = intText n.toInt :=
  unquoted_of_head (writes_intText n.toInt).head_ne_quote

theorem unquoted_bool : unquoted (Value.bool b).describe = if b then "true" else "false" := by
  cases b <;> decide +kernel

theorem unquoted_date : unquoted (Value.date d).describe = d.text := unquoted_quoted d.text

theorem unquoted_timestamp : unquoted (Value.timestamp t).describe = t.text := unquoted_quoted t.text

end

theorem Shown.noBlankEnds {k : Kind} {v : Value} (h : Shown k v) :
    NoBlankEnds (unquoted v.describe).toList := by
  cases h with
  | integer n =>
    rw [unquoted_int]
    exact (writes_intText n.toInt).unblank.noBlankEnds
  | boolean b =>
    have htrue : Unblank "true".toList := by decide +kernel
    have hfalse : Unblank "false".toList := by decide +kernel
    rw [unquoted_bool]
    cases b with
    | true => exact htrue.noBlankEnds
    | false => exact hfalse.noBlankEnds
  | date d =>
    rw [unquoted_date]
    exact d.unblank_text.noBlankEnds
  | timestamp t _ =>
    rw [unquoted_timestamp]
    exact t.unblank_text.noBlankEnds

section
variable {k : Kind} {v : Value} (h : Shown k v) {lead trail : String} (hl : AllBlank lead.toList)
  (ht : AllBlank trail.toList)
include h hl ht

theorem trim_shown : trim (lead ++ unquoted v.describe ++ trail) = unquoted v.describe := by
  rw [trim_padded hl ht, trim_of_noBlankEnds h.noBlankEnds]

/-- a kind reads the text of its values -/
theorem read_shown : k.read (lead ++ unquoted v.describe ++ trail) = some v := by
  have htrim := trim_shown h hl ht
  have hchars : trimChars (lead ++ unquoted v.describe ++ trail).toList = (unquoted v.describe).toList := by
    rw [← toList_trim, htrim]
  cases h with
  | integer n =>
    have hread : readInt64 (intText n.toInt) = some n := by
      rw [readInt64_of_writes (writes_intText n.toInt), int64?_toInt]
    rw [Kind.read, htrim, unquoted_int, hread]
    rfl
  | boolean b =>
    rw [Kind.read, readBoolean, htrim, unquoted_bool]
    cases b <;> decide +kernel
  | date d =>
    rw [Kind.read, readDate, hchars, unquoted_date, readDateChars_text]
    rfl
  | timestamp t hyear =>
    rw [Kind.read, readInstant, hchars, unquoted_timestamp, readZoned_text hyear]
    rfl

/-- numbers and booleans need no declared kind -/
theorem infer_shown (hk : k = .integer ∨ k = .boolean) :
    Value.infer (lead ++ unquoted v.describe ++ trail) = v := by
  have htrim := trim_shown h hl ht
  cases h with
  | integer n =>
    have hwrites : Writes (trim (lead ++ unquoted (Value.int n).describe ++ trail)).toList n.toInt := by
      rw [htrim, unquoted_int]
      exact writes_intText n.toInt
    obtain ⟨m, hm, hvalue⟩ := infer_fitting hwrites ⟨n.minValue_le_toInt, n.toInt_le⟩
    rw [hm, Int64.toInt_inj.mp hvalue]
  | boolean b =>
    rw [Value.infer, htrim, unquoted_bool]
    cases b with
    | true => exact if_pos (by decide +kernel)
    | false => exact (if_neg (by decide +kernel)).trans (if_pos (by decide +kernel))
  | date d => rcases hk with hk | hk <;> cases hk
  | timestamp t _ => rcases hk with hk | hk <;> cases hk

end

/-- **What is shown of a value can be asked for.**  A whole number, a boolean, a date, or an instant of a
year of four digits, a leap second or not: what is shown of it, without quotes and with any blanks around
it, is read as the value by a column of its kind, numbers and booleans also where no kind is declared, and
a filter compares the column with the value. -/
theorem read_describe {k : Kind} {v : Value} (h : Shown k v) {lead trail : String}
    (hl : AllBlank lead.toList) (ht : AllBlank trail.toList) :
    let raw := lead ++ unquoted v.describe ++ trail
    k.read raw = some v ∧
      (k = .integer ∨ k = .boolean → Value.infer raw = v) ∧
      ∀ c : Comparison, Test.ofComparison c k raw = .ok (.compare c v) := by
  intro raw
  have hread : k.read raw = some v := read_shown h hl ht
  refine ⟨hread, infer_shown h hl ht, fun c => ?_⟩
  rw [Test.ofComparison, convert, hread]

/-- the last leap second of four-digit years, and the first date there is -/
theorem read_describe_of_lastSecond :
    let last : Instant := ⟨⟨9999, 12, 31, by decide⟩, ⟨86399, 1999999999, by decide⟩⟩
    let first : Date := ⟨-262143, 1, 1, by decide⟩
    Kind.timestamp.read " 9999-12-31T23:59:60.999999999+00:00\n" = some (.timestamp last) ∧
      Kind.date.read "\t-262143-01-01" = some (.date first) ∧
      Value.infer "-9223372036854775808 " = .int Int64.minValue := by
  intro last first
  have hlast : " " ++ unquoted (Value.timestamp last).describe ++ "\n" =
      " 9999-12-31T23:59:60.999999999+00:00\n" := by decide +kernel
  have hfirst : "\t" ++ unquoted (Value.date first).describe ++ "" = "\t-262143-01-01" := by
    decide +kernel
  have hmin : "" ++ unquoted (Value.int Int64.minValue).describe ++ " " = "-9223372036854775808 " := by
    decide +kernel
  have hall : ∀ s ∈ ["", " ", "\t", "\n"], s.toList.all isBlank = true := by decide +kernel
  have hblank : ∀ s ∈ ["", " ", "\t", "\n"], AllBlank s.toList := fun s hs c hc =>
    List.all_eq_true.mp (hall s hs) c hc
  rw [← hlast, ← hfirst, ← hmin]
  exact ⟨(read_describe (.timestamp last (by decide)) (hblank " " (by decide))
      (hblank "\n" (by decide))).1,
    (read_describe (.date first) (hblank "\t" (by decide)) (hblank "" (by decide))).1,
    (read_describe (.integer Int64.minValue) (hblank "" (by decide)) (hblank " " (by decide))).2.1
      (Or.inl rfl)⟩

end PagedSql
