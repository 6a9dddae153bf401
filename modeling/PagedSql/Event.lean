import PagedSql.Failure

/-!
# Events worth a line in a log

* `Event`                         a filter that was ignored, a failure, or a page that was fetched;
* `Event.level`, `message`, `fields`   how it is written down.
-/

namespace PagedSql
open PagedSql.Decimal

inductive Level where
  | debug
  | warn
  | error
  deriving DecidableEq, Repr

def Level.name : Level → String
  | .debug => "DEBUG"
  | .warn => "WARN"
  | .error => "ERROR"

inductive Event where
  | ignoredFilter (key : String)
  | failed (failure : Failure)
  | fetched (table : String) (page pageSize : UInt32) (items : Nat) (totalCount : UInt64)
  deriving DecidableEq, Repr

namespace Event

def level : Event → Level
  | ignoredFilter _ => .warn
  | failed f => if f.cause = .cancelled then .warn else .error
  | fetched _ _ _ _ _ => .debug

def message : Event → String
  | ignoredFilter _ => "Ignoring filter on non-filterable column"
  | failed f => if f.cause = .cancelled then "Pagination cancelled" else "Pagination failed"
  | fetched _ _ _ _ _ => "Fetched page"

def placeFields (p : Place) : List (String × String) :=
  [("component", Place.component), ("function", p.function), ("table", p.table)]

def fields : Event → List (String × String)
  | ignoredFilter key => [("filter_key", key)]
  | failed f =>
    if f.cause = .cancelled then placeFields f.place
    else ("error_code", f.code) :: placeFields f.place ++ [("error", f.message)]
  | fetched table page pageSize items totalCount =>
    [("table", table), ("page", natText page.toNat), ("page_size", natText pageSize.toNat),
      ("items", natText items), ("total_count", natText totalCount.toNat)]

end Event

end PagedSql
