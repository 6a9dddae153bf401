import PagedSql.Query

/-!
# Statements of a query

Rows and count are read from the same source: the table, its joins and the conditions.

* `projectionSql`, `fromSql`, `conditionsSql`, `orderingSql`   the clauses;
* `sourceSql`        table, joins and conditions;
* `Query.rowsSql`    the statement for the rows, without a window;
* `Query.countSql`   the statement for their number;
* `windowSql`        a statement cut down to one page, offset and size given by parameters.
-/

namespace PagedSql

/-- the whole table unless something is asked for -/
def projectionSql (fragments : List String) (label : String) : String :=
  if fragments = [] then label ++ ".*" else Text.join ", " fragments

def joinsSql : List Join → String
  | [] => ""
  | j :: js => " " ++ j.sql ++ joinsSql js

theorem joinsSql_nil : joinsSql [] = "" := rfl
theorem joinsSql_cons (j : Join) (js : List Join) : joinsSql (j :: js) = " " ++ j.sql ++ joinsSql js := rfl

def fromSql (table label : String) (joins : List Join) : String :=
  "FROM " ++ table ++ " AS " ++ label ++ joinsSql joins

def conditionsSql (conditions : List String) : String :=
  if conditions = [] then "" else "WHERE " ++ Text.join " AND " conditions

/-- the first column orders the rows when nothing else is known -/
def orderingSql (columns : List String) (direction : Direction) : String :=
  if columns = [] then "ORDER BY 1"
  else "ORDER BY " ++ Text.join ", " (columns.map fun c => c ++ " " ++ direction.sql)

def sourceSql (table label : String) (joins : List Join) (conditions : List String) : String :=
  if conditions = [] then fromSql table label joins
  else fromSql table label joins ++ " " ++ conditionsSql conditions

def windowSql (statement offset size : String) : String :=
  statement ++ " OFFSET @" ++ offset ++ " ROWS FETCH NEXT @" ++ size ++ " ROWS ONLY"

namespace Query

def source (q : Query) : String := sourceSql q.table q.label q.joins q.conditions

def rowsSql (q : Query) : String :=
  "SELECT " ++ projectionSql q.projection q.label ++ " " ++ q.source ++ " " ++
    orderingSql q.ordering q.direction

def countSql (q : Query) : String := "SELECT COUNT(1) " ++ q.source

end Query

end PagedSql
