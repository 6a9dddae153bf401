import PagedSql.Value.Kind
import PagedSql.Text.Split

/-!
# Operators of a filter

* `Operator`       the fourteen operators, with the names they go by;
* `FilterError`    why a filter is refused;
* `Operator.read`  an operator by its name, in any case and with blanks around it;
* `splitKey`       the key of a filter and the name of its operator: what stands before and after the
                   first `__`, or equality.
-/

namespace PagedSql
open PagedSql.Text

inductive Operator where
  | eq
  | neq
  | gt
  | gte
  | lt
  | lte
  | contains
  | startsWith
  | endsWith
  | isIn
  | notIn
  | isNull
  | isNotNull
  | between
  deriving DecidableEq, Repr

namespace Operator

def name : Operator → String
  | eq => "eq"
  | neq => "neq"
  | gt => "gt"
  | gte => "gte"
  | lt => "lt"
  | lte => "lte"
  | contains => "contains"
  | startsWith => "startswith"
  | endsWith => "endswith"
  | isIn => "in"
  | notIn => "notin"
  | isNull => "isnull"
  | isNotNull => "isnotnull"
  | between => "between"

def all : List Operator :=
  [eq, neq, gt, gte, lt, lte, contains, startsWith, endsWith, isIn, notIn, isNull, isNotNull, between]

theorem mem_all (op : Operator) : op ∈ all := by
  cases op <;> decide

theorem name_injective {a b : Operator} (h : a.name = b.name) : a = b := by
  revert h
  cases a <;> cases b <;> decide

end Operator

inductive FilterError where
  | unsupportedOperator (raw : String)
  | emptyValueList (op : Operator)
  | invalidRange
  | invalidValue (value : String) (expected : Kind)
  deriving DecidableEq, Repr

def FilterError.message : FilterError → String
  | .unsupportedOperator raw => "Unsupported filter operator: " ++ raw
  | .emptyValueList op => "Operator '" ++ op.name ++ "' requires at least one value"
  | .invalidRange => "Between operator requires two comma-separated values"
  | .invalidValue value expected => "Value '" ++ value ++ "' is not a valid " ++ expected.name

namespace Operator

def read (raw : String) : Except FilterError Operator :=
  match all.find? fun op => op.name = lowerAscii (trim raw) with
  | some op => .ok op
  | none => .error (.unsupportedOperator raw)

theorem read_name (op : Operator) : read op.name = .ok op := by
  cases op <;> rfl

end Operator

/-- stands between the key of a filter and the name of its operator -/
def operatorMark : String := "__"

def splitKey (raw : String) : String × String := (cutAt operatorMark raw).getD (raw, "eq")

end PagedSql
