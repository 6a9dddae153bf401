import PagedSql.KeyMap
import PagedSql.Query

/-!
# Filterable columns

* `Column`           a column as it is written in a statement, and the kind of its values;
* `Columns`          the columns that may be filtered, under their public keys;
* `Columns.resolve`  the column and the test behind a key and a text, `none` if the key is not public;
* `Columns.filter`   lays such a test on a query.
-/

namespace PagedSql

structure Column where
  column : String
  kind : Kind
  deriving DecidableEq, Repr

abbrev Columns := KeyMap Column

namespace Columns

/-- the key is looked up first, so that an unknown key is no error whatever its operator -/
def resolve (columns : Columns) (rawKey value : String) :
    Except FilterError (Option (Column × Test)) :=
  match columns.find? (splitKey rawKey).1 with
  | none => .ok none
  | some target =>
    match Operator.read (splitKey rawKey).2 with
    | .error e => .error e
    | .ok op =>
      match Test.ofFilter op target.kind value with
      | .error e => .error e
      | .ok test => .ok (some (target, test))

/-- the query with the filter laid on it, `none` if the key is not public -/
def filter (columns : Columns) (q : Query) (rawKey value : String) :
    Except FilterError (Option Query) :=
  match columns.resolve rawKey value with
  | .error e => .error e
  | .ok none => .ok none
  | .ok (some (target, test)) => .ok (some (q.impose target.column test))

end Columns

end PagedSql
