import PagedSql.Request
import PagedSql.Identifier
import PagedSql.Filter.Column
import PagedSql.Query.Statement
import PagedSql.Failure

/-!
# From a request to a batch of statements

Search, filters and ordering of a request are laid on a query, in this order, and the first that is
refused ends the plan.

* `Listing`, `Joined`   what a page is made of: one table, or a query that the caller has built;
* `Plan`                the filters that were passed over, and the query or the failure;
* `laySearch`, `layFilters`, `laySort`   one layer each, `layAll` all of them;
* `Listing.plan`, `Joined.plan`          the plans of the two;
* `Batch`               the two statements of a page and their parameters;
* `Query.batch`         the batch for a page of a query.
-/

namespace PagedSql
open PagedSql.Text PagedSql.Decimal

structure Listing where
  table : String
  columns : Option String
  searchable : List String
  filterable : Option Columns
  baseCondition : Option String
  defaultSort : Option (String × Direction)
  deriving DecidableEq

/-- blanks around the name of the table do not count -/
def Listing.ofTable (table : String) : Listing := ⟨trim table, none, [], none, none, none⟩

structure Plan where
  ignored : List String
  query : Except Failure Query

namespace Plan

def ok (q : Query) : Plan := ⟨[], .ok q⟩

def fail (f : Failure) : Plan := ⟨[], .error f⟩

/-- the plan goes on with the query, if there is one -/
def andThen (p : Plan) (next : Query → Plan) : Plan :=
  match p.query with
  | .error f => ⟨p.ignored, .error f⟩
  | .ok q => ⟨p.ignored ++ (next q).ignored, (next q).query⟩

def ofExcept : Except Failure Query → Plan
  | .ok q => ok q
  | .error f => fail f

end Plan

/-! ## layers -/

/-- the failure of a table name, if it has one -/
def tableFault? (place : Place) (table : String) : Option Failure :=
  if Blank table then
    some ⟨place, .invalidParameters place.entry.tableParameter "Table name is required"⟩
  else
    (Identifier.fault? table).map fun r =>
      ⟨place, .invalidParameters place.entry.tableParameter r.message⟩

/-- the columns are looked at only if something is searched for -/
def laySearch (place : Place) (r : Request) (searchable : List String) (q : Query) :
    Except Failure Query :=
  match r.searchTerm with
  | none => .ok q
  | some term =>
    match searchable.findSome? Identifier.fault? with
    | some fault =>
      .error ⟨place, .search term searchable ("Error applying search criteria: " ++ fault.message)⟩
    | none => .ok (q.search term searchable)

def filterFailure (place : Place) (rawKey value : String) (e : FilterError) : Failure :=
  let (key, operator) := splitKey rawKey
  ⟨place, .filter key value (lowerAscii operator)
    ("Error applying filter with operator '" ++ operator ++ "': " ++ e.message)⟩

def layFilters (place : Place) (columns : Columns) : List (String × String) → Query → Plan
  | [], q => .ok q
  | (rawKey, value) :: rest, q =>
    match columns.filter q rawKey value with
    | .error e => .fail (filterFailure place rawKey value e)
    | .ok (some filtered) => layFilters place columns rest filtered
    | .ok none =>
      let plan := layFilters place columns rest q
      ⟨(splitKey rawKey).1 :: plan.ignored, plan.query⟩

/-- without filterable columns no filter is looked at -/
def layFilters? (place : Place) (columns : Option Columns) (r : Request) (q : Query) : Plan :=
  match columns with
  | none => .ok q
  | some columns => layFilters place columns r.filters.entries q

/-- the query ordered by one column, whose name has to be faultless -/
def sortBy (place : Place) (column : String) (direction : Direction) (q : Query) :
    Except Failure Query :=
  match Identifier.fault? column with
  | some fault =>
    .error ⟨place, .sort column direction.sql ("Error applying sort criteria: " ++ fault.message)⟩
  | none => .ok (q.orderBy [column] direction)

/-- the ordering of the request, ascending if it has no direction; or else the given one -/
def laySort (place : Place) (r : Request) (otherwise : Query → Except Failure Query) (q : Query) :
    Except Failure Query :=
  match r.sortColumn with
  | none => otherwise q
  | some column =>
    let word := r.sortDirection.getD "asc"
    match Direction.read word with
    | none => .error ⟨place, .sort column word "Sort direction must be 'asc' or 'desc'"⟩
    | some direction => sortBy place column direction q

/-- all layers on a query -/
def layAll (place : Place) (r : Request) (searchable : List String) (columns : Option Columns)
    (otherwise : Query → Except Failure Query) (q : Query) : Plan :=
  ((Plan.ofExcept (laySearch place r searchable q)).andThen (layFilters? place columns r)).andThen
    fun q => .ofExcept (laySort place r otherwise q)

/-! ## plans -/

namespace Listing

def place (l : Listing) : Place := ⟨.table, l.table⟩

/-- the bare name of the table, without its schema -/
def label (l : Listing) : String := (splitOn '.' l.table).getLast?.getD ""

/-- the query before anything is laid on it -/
def baseQuery (l : Listing) : Except BuildError Query :=
  match Query.make l.table l.label with
  | .error e => .error e
  | .ok q =>
    let q := match l.columns with
      | none => q
      | some columns => q.project columns
    .ok (match l.baseCondition with
      | none => q
      | some condition => q.restrict condition)

def sortByDefault (l : Listing) (q : Query) : Except Failure Query :=
  match l.defaultSort with
  | none => .ok q
  | some (column, direction) => sortBy l.place column direction q

def plan (l : Listing) (r : Request) : Plan :=
  match tableFault? l.place l.table with
  | some f => .fail f
  | none =>
    match l.baseQuery with
    | .error e => .fail ⟨l.place, .invalidParameters l.place.entry.tableParameter e.message⟩
    | .ok q => layAll l.place r l.searchable l.filterable l.sortByDefault q

end Listing

/-- the caller's query, under the name of its main table -/
structure Joined where
  query : Query
  mainTable : String
  filterable : Option Columns
  searchable : List String
  deriving DecidableEq

namespace Joined

def place (j : Joined) : Place := ⟨.joined, j.mainTable⟩

def plan (j : Joined) (r : Request) : Plan :=
  match tableFault? j.place j.mainTable with
  | some f => .fail f
  | none => layAll j.place r j.searchable j.filterable .ok j.query

end Joined

/-! ## batches -/

def offsetName : String := "Offset"

def sizeName : String := "PageSize"

structure Batch where
  rowsSql : String
  countSql : String
  parameters : Bindings
  deriving DecidableEq

/-- both statements as one script -/
def Batch.script (b : Batch) : String := b.rowsSql ++ ";\n" ++ b.countSql ++ ";"

/-- the window of the page is bound last -/
def Query.batch (q : Query) (offset : Int64) (size : UInt32) : Batch :=
  let q := (q.bind offsetName (.int offset)).bind sizeName (.int (Int64.ofNat size.toNat))
  ⟨windowSql q.rowsSql offsetName sizeName, q.countSql, q.parameters⟩

end PagedSql
