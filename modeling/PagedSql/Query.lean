import PagedSql.Join
import PagedSql.Direction
import PagedSql.Bindings
import PagedSql.Filter.Test
import PagedSql.Text.Letters

/-!
# Queries under construction

* `Query`           a table under a label, with projection, joins, conditions, ordering and named
                    parameters;
* `Query.make`      a query over a table; a blank label is replaced by the name of the table;
* `project`, `join`, `restrict`, `search`, `orderBy`, `bind`, `nextName`   what can be done to it;
* `Query.impose`    lays a test on a column: names and values for its parameters, and its condition.
-/

namespace PagedSql
open PagedSql.Text PagedSql.Decimal

structure Query where
  table : String
  label : String
  projection : List String
  joins : List Join
  conditions : List String
  ordering : List String
  direction : Direction
  parameters : Bindings
  counter : Nat
  deriving DecidableEq

namespace Query

def make (table label : String) : Except BuildError Query :=
  let table := trim table
  let label := trim label
  if table = "" then .error .emptyTable
  else .ok ⟨table, if label = "" then table else label, [], [], [], [], .asc, .empty, 0⟩

/-- a piece of the projection, kept as it stands; a blank one is ignored -/
def project (q : Query) (fragment : String) : Query :=
  if Blank fragment then q else { q with projection := q.projection ++ [fragment] }

def join (q : Query) (kind : JoinKind) (table label condition : String) : Except BuildError Query :=
  match Join.make kind table label condition with
  | .error e => .error e
  | .ok j => .ok { q with joins := q.joins ++ [j] }

/-- one more condition that every row has to meet, in parentheses; a blank one is ignored -/
def restrict (q : Query) (condition : String) : Query :=
  let condition := trim condition
  if condition = "" then q else { q with conditions := q.conditions ++ ["(" ++ condition ++ ")"] }

def bind (q : Query) (name : String) (value : Value) : Query :=
  { q with parameters := q.parameters.bind name value }

def bindAll (q : Query) (entries : List (String × Value)) : Query :=
  entries.foldl (fun q (name, value) => q.bind name value) q

/-- a stem and the next number, which is used up -/
def nextName (q : Query) (stem : String) : String × Query :=
  (stem ++ "_" ++ natText q.counter, { q with counter := q.counter + 1 })

/-- the ordering is replaced; blank columns are left out -/
def orderBy (q : Query) (columns : List String) (direction : Direction) : Query :=
  { q with ordering := columns.filter fun c => ¬ Blank c, direction := direction }

def hasOrdering (q : Query) : Bool := !q.ordering.isEmpty

/-! ## search -/

def searchCondition (name : String) (columns : List String) : String :=
  Text.join " OR " (columns.map fun c => "LOWER(" ++ c ++ ") LIKE @" ++ name)

/-- rows where one of the columns contains the term, case ignored.  A blank term and blank columns
ask for nothing. -/
def search (q : Query) (term : String) (columns : List String) : Query :=
  let term := trim term
  let columns := (columns.map trim).filter (· ≠ "")
  if term = "" ∨ columns = [] then q
  else
    let (name, q) := q.nextName "search"
    (q.bind name (.text ("%" ++ lowercase term ++ "%"))).restrict (searchCondition name columns)

/-! ## tests -/

def impose (q : Query) (column : String) (test : Test) : Query :=
  if test.needsName then
    let (base, q) := q.nextName "filter"
    (q.bindAll (test.parameters base)).restrict (test.condition base column)
  else q.restrict (test.condition "" column)

end Query

end PagedSql
