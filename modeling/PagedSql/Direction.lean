import PagedSql.Text.Ascii
import PagedSql.Text.Blank

/-!
# Directions of an ordering

* `Direction`       ascending, unless said otherwise, or descending;
* `Direction.sql`   the keyword;
* `Direction.read`  `asc` or `desc` in any case, blanks around it.
-/

namespace PagedSql
open PagedSql.Text

inductive Direction where
  | asc
  | desc
  deriving DecidableEq, Repr

instance : Inhabited Direction := ⟨.asc⟩

namespace Direction

def sql : Direction → String
  | asc => "ASC"
  | desc => "DESC"

def read (s : String) : Option Direction :=
  let word := trim s
  if SameWord word "asc" then some asc
  else if SameWord word "desc" then some desc
  else none

theorem read_sql (d : Direction) : read d.sql = some d := by
  cases d <;> decide

end Direction

end PagedSql
