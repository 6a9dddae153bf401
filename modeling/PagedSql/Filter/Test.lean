import PagedSql.Filter.Operator
import PagedSql.Decimal.Integer

/-!
# Tests on a column

What a filter asks of a column, before it has a place in a query: the operator and the text of the
request are turned into values of the column's kind, or refused, whatever the query looks like.

* `Test`             a comparison, a pattern, a list of values, a range, or the absence of a value;
* `Test.ofFilter`    the test that an operator and a text stand for on a column of some kind;
* `Test.parameters`  the named values of a test, names made from a base name;
* `Test.condition`   its text, with placeholders for those names.
-/

namespace PagedSql
open PagedSql.Text PagedSql.Decimal

inductive Comparison where
  | eq
  | neq
  | gt
  | gte
  | lt
  | lte
  deriving DecidableEq, Repr

def Comparison.sql : Comparison → String
  | .eq => "="
  | .neq => "<>"
  | .gt => ">"
  | .gte => ">="
  | .lt => "<"
  | .lte => "<="

inductive Test where
  | compare (c : Comparison) (value : Value)
  | pattern (text : String)
  | oneOf (positive : Bool) (values : List Value)
  | missing (positive : Bool)
  | range (low high : Value)
  deriving DecidableEq

/-! ## reading -/

def convert (kind : Kind) (raw : String) : Except FilterError Value :=
  match kind.read raw with
  | some v => .ok v
  | none => .error (.invalidValue raw kind)

/-- the values of all texts, or the error of the first that has none -/
def convertAll (kind : Kind) : List String → Except FilterError (List Value)
  | [] => .ok []
  | raw :: raws =>
    match convert kind raw with
    | .error e => .error e
    | .ok v =>
      match convertAll kind raws with
      | .error e => .error e
      | .ok vs => .ok (v :: vs)

/-- the trimmed parts between the commas -/
def listed (raw : String) : List String := (splitOn ',' raw).map trim

namespace Test

def ofComparison (c : Comparison) (kind : Kind) (raw : String) : Except FilterError Test :=
  match convert kind raw with
  | .error e => .error e
  | .ok v => .ok (compare c v)

/-- blank parts do not count, but one part has to be left -/
def ofList (op : Operator) (positive : Bool) (kind : Kind) (raw : String) : Except FilterError Test :=
  let parts := (listed raw).filter (· ≠ "")
  if parts = [] then .error (.emptyValueList op)
  else
    match convertAll kind parts with
    | .error e => .error e
    | .ok vs => .ok (oneOf positive vs)

/-- exactly two parts, neither of them blank -/
def ofRange (kind : Kind) (raw : String) : Except FilterError Test :=
  match listed raw with
  | [low, high] =>
    if low = "" ∨ high = "" then .error .invalidRange
    else
      match convert kind low with
      | .error e => .error e
      | .ok lo =>
        match convert kind high with
        | .error e => .error e
        | .ok hi => .ok (range lo hi)
  | _ => .error .invalidRange

def ofFilter (op : Operator) (kind : Kind) (raw : String) : Except FilterError Test :=
  match op with
  | .eq => ofComparison .eq kind raw
  | .neq => ofComparison .neq kind raw
  | .gt => ofComparison .gt kind raw
  | .gte => ofComparison .gte kind raw
  | .lt => ofComparison .lt kind raw
  | .lte => ofComparison .lte kind raw
  | .contains => .ok (pattern ("%" ++ raw ++ "%"))
  | .startsWith => .ok (pattern (raw ++ "%"))
  | .endsWith => .ok (pattern ("%" ++ raw))
  | .isIn => ofList .isIn true kind raw
  | .notIn => ofList .notIn false kind raw
  | .isNull => .ok (missing true)
  | .isNotNull => .ok (missing false)
  | .between => ofRange kind raw

/-! ## parameters and text -/

/-- values under `base_0`, `base_1`, … from a first index on -/
def numberedFrom (base : String) : Nat → List Value → List (String × Value)
  | _, [] => []
  | i, v :: vs => (base ++ "_" ++ natText i, v) :: numberedFrom base (i + 1) vs

section
variable (base : String) (i : Nat) (vs : List Value)

theorem numberedFrom_eq_zip : numberedFrom base i vs =
    ((List.range' i vs.length).map fun k => base ++ "_" ++ natText k).zip vs := by
  induction vs generalizing i with
  | nil => rfl
  | cons v vs ih => exact congrArg ((base ++ "_" ++ natText i, v) :: ·) (ih (i + 1))

theorem map_fst_numberedFrom : (numberedFrom base i vs).map Prod.fst =
    (List.range' i vs.length).map fun k => base ++ "_" ++ natText k := by
  rw [numberedFrom_eq_zip]
  exact List.map_fst_zip (by simp)

theorem map_snd_numberedFrom : (numberedFrom base i vs).map Prod.snd = vs := by
  rw [numberedFrom_eq_zip]
  exact List.map_snd_zip (by simp)

theorem length_numberedFrom : (numberedFrom base i vs).length = vs.length := by
  simp [numberedFrom_eq_zip]

end

theorem exists_of_mem_numberedFrom {base : String} {i : Nat} {vs : List Value} {name : String}
    (h : name ∈ (numberedFrom base i vs).map Prod.fst) :
    ∃ k, name = base ++ "_" ++ natText k := by
  rw [map_fst_numberedFrom] at h
  obtain ⟨k, _, rfl⟩ := List.mem_map.mp h
  exact ⟨k, rfl⟩

def parameters (base : String) : Test → List (String × Value)
  | compare _ v => [(base, v)]
  | pattern text => [(base, .text text)]
  | oneOf _ vs => numberedFrom base 0 vs
  | missing _ => []
  | range low high => [(base ++ "_from", low), (base ++ "_to", high)]

def condition (base column : String) : Test → String
  | compare c _ => column ++ " " ++ c.sql ++ " @" ++ base
  | pattern _ => column ++ " LIKE @" ++ base
  | oneOf positive vs =>
    column ++ (if positive then " IN (" else " NOT IN (") ++
      join ", " ((numberedFrom base 0 vs).map fun (name, _) => "@" ++ name) ++ ")"
  | missing positive => column ++ if positive then " IS NULL" else " IS NOT NULL"
  | range _ _ => column ++ " BETWEEN @" ++ base ++ "_from AND @" ++ base ++ "_to"

/-- tests for the absence of a value have no parameters and take no name -/
def needsName : Test → Bool
  | missing _ => false
  | _ => true

end Test

end PagedSql
