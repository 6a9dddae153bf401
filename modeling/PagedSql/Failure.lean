import PagedSql.Placeholder.Numbered

/-!
# Failures

* `DriverError`     what the connection to the database reports;
* `ExecutorError`   what running a batch of statements can end in;
* `Entry`, `Place`  the entry points, and where a failure arose: an entry point and a table;
* `Cause`           the kinds of failure of a request for a page;
* `Failure`         a cause at a place, with its text, its code and what lies behind it.
-/

namespace PagedSql
open PagedSql.Decimal

/-! ## below the statements -/

inductive DriverError where
  | poolTimedOut
  | poolClosed
  | rowNotFound
  | workerCrashed
  | columnNotFound (name : String)
  | typeNotFound (name : String)
  | protocol (text : String)
  | communication (text : String)
  | server (text : String)
  | unexpectedNull (column : Nat)
  deriving DecidableEq, Repr

def DriverError.message : DriverError → String
  | .poolTimedOut => "pool timed out while waiting for an open connection"
  | .poolClosed => "attempted to acquire a connection on a closed pool"
  | .rowNotFound => "no rows returned by a query that expected to return at least one row"
  | .workerCrashed => "attempted to communicate with a crashed background worker"
  | .columnNotFound name => "no column found for name: " ++ name
  | .typeNotFound name => "type named " ++ name ++ " not found"
  | .protocol text => "encountered unexpected or invalid data: " ++ text
  | .communication text => "error communicating with database: " ++ text
  | .server text => "error returned from database: " ++ text
  | .unexpectedNull column =>
    "error occurred while decoding column " ++ natText column ++
      ": unexpected null; try decoding as an `Option`"

inductive ExecutorError where
  | driver (e : DriverError)
  | unbound (u : Unbound)
  | other (message : String)
  deriving DecidableEq, Repr

namespace ExecutorError

def message : ExecutorError → String
  | driver e => "Database error: " ++ e.message
  | unbound u => u.message
  | other message => "Executor error: " ++ message

def source? : ExecutorError → Option String
  | driver e => some e.message
  | _ => none

end ExecutorError

/-! ## where -/

/-- a page of one table, or of a query that the caller has built -/
inductive Entry where
  | table
  | joined
  deriving DecidableEq, Repr

namespace Entry

def function : Entry → String
  | table => "get_paginated_result"
  | joined => "get_paginated_data_with_joins"

/-- the parameter that names the table -/
def tableParameter : Entry → String
  | table => "table_name"
  | joined => "main_table"

end Entry

structure Place where
  entry : Entry
  table : String
  deriving DecidableEq, Repr

namespace Place

def component : String := "PaginationHelper"

def function (p : Place) : String := p.entry.function

def text (p : Place) : String := component ++ "::" ++ p.function ++ " on '" ++ p.table ++ "'"

end Place

/-! ## what -/

inductive Cause where
  | invalidParameters (parameter message : String)
  | filter (key value operator message : String)
  | search (term : String) (columns : List String) (message : String)
  | sort (column direction message : String)
  | database (message sql : String) (source : Option DriverError)
  | cancelled
  | unexpected (message : String) (source : Option Unbound)
  deriving DecidableEq, Repr

namespace Cause

def code : Cause → String
  | invalidParameters _ _ => "INVALID_PAGINATION_PARAMETERS"
  | filter _ _ _ _ => "FILTER_ERROR"
  | search _ _ _ => "SEARCH_ERROR"
  | sort _ _ _ => "SORT_ERROR"
  | database _ _ _ => "PAGINATION_DATABASE_ERROR"
  | cancelled => "PAGINATION_CANCELLED"
  | unexpected _ _ => "PAGINATION_ERROR"

/-- what was asked for caused the failure -/
def isClientError : Cause → Bool
  | invalidParameters _ _ => true
  | filter _ _ _ _ => true
  | search _ _ _ => true
  | sort _ _ _ => true
  | _ => false

/-- the statements that failed -/
def sql? : Cause → Option String
  | database _ sql _ => some sql
  | _ => none

/-- the text of the error behind it -/
def source? : Cause → Option String
  | database _ _ source => source.map DriverError.message
  | unexpected _ source => source.map Unbound.message
  | _ => none

end Cause

structure Failure where
  place : Place
  cause : Cause
  deriving DecidableEq, Repr

namespace Failure

def message (f : Failure) : String :=
  let place := " (" ++ f.place.text ++ ")"
  match f.cause with
  | .invalidParameters parameter message =>
    "Invalid pagination parameter '" ++ parameter ++ "'" ++ place ++ ": " ++ message
  | .filter key _ operator message =>
    "Filter error for '" ++ key ++ "' with operator '" ++ operator ++ "'" ++ place ++ ": " ++ message
  | .search term _ message => "Search error for term '" ++ term ++ "'" ++ place ++ ": " ++ message
  | .sort column _ message => "Sort error for column '" ++ column ++ "'" ++ place ++ ": " ++ message
  | .database message _ _ => "Database error" ++ place ++ ": " ++ message
  | .cancelled => "Pagination cancelled" ++ place
  | .unexpected message _ => "Pagination error" ++ place ++ ": " ++ message

def code (f : Failure) : String := f.cause.code

def isClientError (f : Failure) : Bool := f.cause.isClientError

end Failure

end PagedSql
