import PagedSql.Text.Blank

/-!
# Joined tables

* `BuildError`  what a query cannot be built of: a blank table, join table, label or condition;
* `Join`        a kind, a table, the label it goes by and the condition, as text of the caller;
* `Join.make`   a join of parts that are not blank, the first blank part refused;
* `Join.sql`    its text in a statement.
-/

namespace PagedSql
open PagedSql.Text

inductive BuildError where
  | emptyTable
  | emptyJoinTable
  | emptyJoinLabel (table : String)
  | emptyJoinCondition (table : String)
  deriving DecidableEq, Repr

def BuildError.message : BuildError → String
  | .emptyTable => "Table name cannot be empty"
  | .emptyJoinTable => "Join table cannot be empty"
  | .emptyJoinLabel table => "Join alias for table '" ++ table ++ "' cannot be empty"
  | .emptyJoinCondition table => "Join condition for table '" ++ table ++ "' cannot be empty"

inductive JoinKind where
  | inner
  | left
  | right
  deriving DecidableEq, Repr

def JoinKind.sql : JoinKind → String
  | .inner => "INNER JOIN"
  | .left => "LEFT JOIN"
  | .right => "RIGHT JOIN"

structure Join where
  kind : JoinKind
  table : String
  label : String
  condition : String
  deriving DecidableEq, Repr

namespace Join

def make (kind : JoinKind) (table label condition : String) : Except BuildError Join :=
  if Blank table then .error .emptyJoinTable
  else if Blank label then .error (.emptyJoinLabel table)
  else if Blank condition then .error (.emptyJoinCondition table)
  else .ok ⟨kind, table, label, condition⟩

def sql (j : Join) : String := j.kind.sql ++ " " ++ j.table ++ " AS " ++ j.label ++ " ON " ++ j.condition

end Join

end PagedSql
