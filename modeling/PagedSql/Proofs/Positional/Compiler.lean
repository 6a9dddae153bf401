import PagedSql.Run.Plan
import PagedSql.Proofs.Placeholder.Spelling

/-!
# A compiler without names

The statements of a page of one table, written down from the listing and the request with positions
from the start.  Every value is numbered where it is written; no name is made up, nothing is bound,
and no text is read again.

* `comparison`, `pattern`, `list`, `range`   conditions on a column, from the position `k` on;
* `condition`    the condition that an operator asks for, none if its values cannot be read;
* `search`       the search, one position for all of its columns;
* `filters`      filters in the order of their keys, those under unknown keys passed over;
* `compile`      the statements for the rows and for their number.
-/

namespace PagedSql
namespace Positional
open PagedSql.Text

/-! ## conditions -/

def comparison (k : Nat) (column symbol : String) (kind : Kind) (raw : String) : Option Numbered :=
  (kind.read raw).map fun v => ⟨column ++ " " ++ symbol ++ " " ++ positionText k, [v]⟩

def pattern (k : Nat) (column text : String) : Numbered :=
  ⟨column ++ " LIKE " ++ positionText k, [.text text]⟩

/-- the trimmed parts between commas that are not blank -/
def entries (raw : String) : List String := ((splitOn ',' raw).map trim).filter (· ≠ "")

def readAll (kind : Kind) : List String → Option (List Value)
  | [] => some []
  | raw :: raws =>
    match kind.read raw, readAll kind raws with
    | some v, some vs => some (v :: vs)
    | _, _ => none

/-- one position for each entry, and at least one entry -/
def list (k : Nat) (column word : String) (kind : Kind) (raw : String) : Option Numbered :=
  if entries raw = [] then none
  else
    (readAll kind (entries raw)).map fun vs =>
      ⟨column ++ " " ++ word ++ " (" ++ join ", " ((List.range' k vs.length).map positionText) ++ ")", vs⟩

/-- two positions for two parts that are not blank -/
def range (k : Nat) (column : String) (kind : Kind) (raw : String) : Option Numbered :=
  match (splitOn ',' raw).map trim with
  | [low, high] =>
    if low = "" ∨ high = "" then none
    else
      match kind.read low, kind.read high with
      | some lo, some hi =>
        some ⟨column ++ " BETWEEN " ++ positionText k ++ " AND " ++ positionText (k + 1), [lo, hi]⟩
      | _, _ => none
  | _ => none

def condition (k : Nat) (column : String) (kind : Kind) (raw : String) : Operator → Option Numbered
  | .eq => comparison k column "=" kind raw
  | .neq => comparison k column "<>" kind raw
  | .gt => comparison k column ">" kind raw
  | .gte => comparison k column ">=" kind raw
  | .lt => comparison k column "<" kind raw
  | .lte => comparison k column "<=" kind raw
  | .contains => some (pattern k column ("%" ++ raw ++ "%"))
  | .startsWith => some (pattern k column (raw ++ "%"))
  | .endsWith => some (pattern k column ("%" ++ raw))
  | .isIn => list k column "IN" kind raw
  | .notIn => list k column "NOT IN" kind raw
  | .isNull => some ⟨column ++ " IS NULL", []⟩
  | .isNotNull => some ⟨column ++ " IS NOT NULL", []⟩
  | .between => range k column kind raw

/-! ## conjuncts -/

def parenthesized (c : Numbered) : Numbered := ⟨"(" ++ trim c.sql ++ ")", c.values⟩

def values (cs : List Numbered) : List Value := cs.flatMap Numbered.values

/-- the condition of the listing, if it is not blank -/
def base : Option String → List Numbered
  | none => []
  | some condition => if Blank condition then [] else [parenthesized ⟨condition, []⟩]

def search (r : Request) (searchable : List String) : List Numbered :=
  match nonBlank r.searchTerm with
  | none => []
  | some term =>
    if searchable = [] then []
    else
      [parenthesized
        ⟨join " OR " (searchable.map fun c => "LOWER(" ++ c ++ ") LIKE " ++ positionText 0),
          [.text ("%" ++ lowercase term ++ "%")]⟩]

/-- the condition of one filter, none for an unknown key -/
def filter (columns : Columns) (k : Nat) (rawKey raw : String) : Option (Option Numbered) :=
  match columns.find? (splitKey rawKey).1 with
  | none => some none
  | some target =>
    match Operator.read (splitKey rawKey).2 with
    | .error _ => none
    | .ok op => (condition k target.column target.kind raw op).map some

def filters (columns : Columns) (k : Nat) : List (String × String) → Option (List Numbered)
  | [] => some []
  | (rawKey, raw) :: rest =>
    match filter columns k rawKey raw with
    | none => none
    | some none => filters columns k rest
    | some (some c) => (filters columns (k + c.values.length) rest).map (parenthesized c :: ·)

/-- base condition, search and filters in this order, values numbered through -/
def conjuncts (l : Listing) (r : Request) : Option (List Numbered) :=
  match l.filterable with
  | none => some (base l.baseCondition ++ search r l.searchable)
  | some columns =>
    (filters columns (values (search r l.searchable)).length r.filters.entries).map
      (base l.baseCondition ++ search r l.searchable ++ ·)

/-! ## statements -/

def projection (l : Listing) : String :=
  match l.columns with
  | none => l.label ++ ".*"
  | some columns => if Blank columns then l.label ++ ".*" else columns

def source (l : Listing) (cs : List Numbered) : String :=
  "FROM " ++ l.table ++ " AS " ++ l.label ++
    if cs = [] then "" else " WHERE " ++ join " AND " (cs.map Numbered.sql)

/-- what the request asks for, or else the default, or else the first column -/
def ordering (l : Listing) (r : Request) : Option String :=
  match r.sortColumn with
  | some column =>
    (Direction.read (r.sortDirection.getD "asc")).map fun d => "ORDER BY " ++ column ++ " " ++ d.sql
  | none =>
    match l.defaultSort with
    | some (column, d) => some ("ORDER BY " ++ column ++ " " ++ d.sql)
    | none => some "ORDER BY 1"

def rows (l : Listing) (r : Request) (cs : List Numbered) (ordering : String) : Numbered :=
  ⟨"SELECT " ++ projection l ++ " " ++ source l cs ++ " " ++ ordering ++
      " OFFSET " ++ positionText (values cs).length ++
      " ROWS FETCH NEXT " ++ positionText ((values cs).length + 1) ++ " ROWS ONLY",
    values cs ++ [.int (Int64.ofNat r.skip.toNat), .int (Int64.ofNat r.pageSize.toNat)]⟩

def count (l : Listing) (cs : List Numbered) : Numbered :=
  ⟨"SELECT COUNT(1) " ++ source l cs, values cs⟩

def compile (l : Listing) (r : Request) : Option (Numbered × Numbered) :=
  match conjuncts l r, ordering l r with
  | some cs, some o => some (rows l r cs o, count l cs)
  | _, _ => none

end Positional
end PagedSql
