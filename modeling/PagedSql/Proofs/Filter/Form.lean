import PagedSql.Filter.Test

/-!
# The form of a test

The condition of a test names its parameters and never shows their values.  What is left of a test
without its values is its form; it has no place for a text of the request, and condition and names are
those of a blank test of the same form.

* `Form`               a test without its values, of a list the number of them only;
* `Test.form`, `Form.blank`   the form of a test, and a test of that form with nothing in it;
* `Test.condition_blank`, `Test.names_blank`   condition and names depend on the form alone;
* `entryCount`         the number of values in a list of them;
* `reads_of_convertAll`   the values that a list of texts is read as;
* `Operator.form`      the form that an operator gives to a test, whatever the values are;
* `Test.form_of_ofFilter`   the form of a filter is the one of its operator.
-/

namespace PagedSql
open PagedSql.Text PagedSql.Decimal

inductive Form where
  | compare (c : Comparison)
  | pattern
  | oneOf (positive : Bool) (count : Nat)
  | missing (positive : Bool)
  | range
  deriving DecidableEq

def Test.form : Test → Form
  | compare c _ => .compare c
  | pattern _ => .pattern
  | oneOf positive vs => .oneOf positive vs.length
  | missing positive => .missing positive
  | range _ _ => .range

def Form.blank : Form → Test
  | compare c => .compare c .null
  | pattern => .pattern ""
  | oneOf positive count => .oneOf positive (List.replicate count .null)
  | missing positive => .missing positive
  | range => .range .null .null

/-! ## text -/

namespace Test

theorem names_numberedFrom_replicate (base : String) (i : Nat) (vs : List Value) :
    (numberedFrom base i (List.replicate vs.length .null)).map Prod.fst =
      (numberedFrom base i vs).map Prod.fst := by
  rw [map_fst_numberedFrom, map_fst_numberedFrom, List.length_replicate]

theorem map_mark (es : List (String × Value)) :
    (es.map fun e => "@" ++ e.1) = (es.map Prod.fst).map ("@" ++ ·) := by
  rw [List.map_map]
  rfl

variable (base column : String) (test : Test)

theorem names_blank :
    (test.form.blank.parameters base).map Prod.fst = (test.parameters base).map Prod.fst := by
  cases test with
  | compare c v => rfl
  | pattern text => rfl
  | oneOf positive vs => exact names_numberedFrom_replicate base 0 vs
  | missing positive => rfl
  | range low high => rfl

theorem condition_blank : test.form.blank.condition base column = test.condition base column := by
  cases test with
  | compare c v => rfl
  | pattern text => rfl
  | oneOf positive vs =>
    have hnames := names_numberedFrom_replicate base 0 vs
    show column ++ _ ++ join ", " ((numberedFrom base 0 (List.replicate vs.length .null)).map
        fun e => "@" ++ e.1) ++ ")" =
      column ++ _ ++ join ", " ((numberedFrom base 0 vs).map fun e => "@" ++ e.1) ++ ")"
    rw [map_mark, map_mark, hnames]
  | missing positive => rfl
  | range low high => rfl

theorem needsName_blank : test.form.blank.needsName = test.needsName := by
  cases test <;> rfl

end Test

/-! ## reading -/

/-- values between commas, blank ones left out -/
def entryCount (raw : String) : Nat := ((listed raw).filter (· ≠ "")).length

namespace Operator

/-- tests against a list of values -/
def isList : Operator → Bool
  | isIn => true
  | notIn => true
  | _ => false

def form (count : Nat) : Operator → Form
  | eq => .compare .eq
  | neq => .compare .neq
  | gt => .compare .gt
  | gte => .compare .gte
  | lt => .compare .lt
  | lte => .compare .lte
  | contains => .pattern
  | startsWith => .pattern
  | endsWith => .pattern
  | isIn => .oneOf true count
  | notIn => .oneOf false count
  | isNull => .missing true
  | isNotNull => .missing false
  | between => .range

/-- only lists are counted -/
theorem form_congr {op : Operator} {n m : Nat} (h : op.isList = true → n = m) :
    op.form n = op.form m := by
  cases op with
  | isIn => rw [h rfl]
  | notIn => rw [h rfl]
  | _ => rfl

end Operator

section
variable {kind : Kind} {raw : String} {test : Test}

theorem convert_eq_ok {v : Value} (h : convert kind raw = .ok v) : kind.read raw = some v := by
  unfold convert at h
  split at h
  · next w hw =>
    rw [hw, Except.ok.inj h]
  · cases h

theorem reads_of_convertAll {raws : List String} {vs : List Value}
    (h : convertAll kind raws = .ok vs) : raws.map kind.read = vs.map some := by
  induction raws generalizing vs with
  | nil =>
    cases h
    rfl
  | cons raw raws ih =>
    unfold convertAll at h
    split at h
    · cases h
    · next v hv =>
      split at h
      · cases h
      · next ws hws =>
        cases h
        rw [List.map_cons, List.map_cons, convert_eq_ok hv, ih hws]

theorem length_convertAll {raws : List String} {vs : List Value}
    (h : convertAll kind raws = .ok vs) : vs.length = raws.length := by
  have hlength := congrArg List.length (reads_of_convertAll h)
  rw [List.length_map, List.length_map] at hlength
  exact hlength.symm

namespace Test

theorem form_ofComparison {c : Comparison} (h : ofComparison c kind raw = .ok test) :
    test.form = .compare c := by
  unfold ofComparison at h
  split at h
  · cases h
  · cases h
    rfl

theorem form_ofList {op : Operator} {positive : Bool} (h : ofList op positive kind raw = .ok test) :
    test.form = .oneOf positive (entryCount raw) := by
  unfold ofList at h
  dsimp only at h
  split at h
  · cases h
  · split at h
    · cases h
    · next vs hvs =>
      cases h
      exact congrArg (Form.oneOf positive) (length_convertAll hvs)

theorem form_ofRange (h : ofRange kind raw = .ok test) : test.form = .range := by
  unfold ofRange at h
  split at h
  · split at h
    · cases h
    · split at h
      · cases h
      · split at h
        · cases h
        · cases h
          rfl
  · cases h

theorem form_of_ofFilter {op : Operator} (h : ofFilter op kind raw = .ok test) :
    test.form = op.form (entryCount raw) := by
  cases op with
  | eq => exact form_ofComparison h
  | neq => exact form_ofComparison h
  | gt => exact form_ofComparison h
  | gte => exact form_ofComparison h
  | lt => exact form_ofComparison h
  | lte => exact form_ofComparison h
  | isIn => exact form_ofList h
  | notIn => exact form_ofList h
  | between => exact form_ofRange h
  | contains => cases h; rfl
  | startsWith => cases h; rfl
  | endsWith => cases h; rfl
  | isNull => cases h; rfl
  | isNotNull => cases h; rfl

end Test
end

end PagedSql
