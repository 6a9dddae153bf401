import PagedSql.KeyMap
import PagedSql.Text.Blank
import PagedSql.Text.Ascii

/-!
# Requests for a page

Whatever is asked for, page and page size are brought into range and never refused.

* `Request`        number and size of a page, a search term, an ordering, and filters under their keys;
* `Request.make`   a request for a page of some size and nothing else;
* `Request.Edit`, `Request.edit`   what can be changed about a request afterwards;
* `RawRequest`     a request as it is sent, everything optional;
* `Request.ofRaw`  the request meant by it.
-/

namespace PagedSql
open PagedSql.Text

def defaultPageSize : UInt32 := 10

def maxPageSize : UInt32 := 100

/-- pages count from one, and their numbers fit a word of 32 bits -/
def clampPage (n : Int64) : UInt32 := UInt32.ofNat (max 1 (min n.toInt 4294967295)).toNat

/-- sizes below one are replaced by the default, larger ones cut to the maximum -/
def clampPageSize (n : Int64) : UInt32 :=
  if n.toInt < 1 then defaultPageSize
  else UInt32.ofNat (min n.toInt maxPageSize.toNat).toNat

/-- the trimmed text, if anything is left of it -/
def nonBlank (s : Option String) : Option String := (s.map trim).filter (· ≠ "")

structure Request where
  page : UInt32
  pageSize : UInt32
  searchTerm : Option String
  sortColumn : Option String
  sortDirection : Option String
  filters : KeyMap String
  deriving DecidableEq

namespace Request

def make (page pageSize : Int64) : Request :=
  ⟨clampPage page, clampPageSize pageSize, none, none, none, .empty⟩

instance : Inhabited Request := ⟨⟨1, defaultPageSize, none, none, none, .empty⟩⟩

/-! ## changes -/

inductive Edit where
  | page (n : Int64)
  | pageSize (n : Int64)
  | search (term : Option String)
  | sort (column direction : String)
  | filter (key value : String)
  | filters (entries : List (String × String))

def edit (r : Request) : Edit → Request
  | .page n => { r with page := clampPage n }
  | .pageSize n => { r with pageSize := clampPageSize n }
  | .search term => { r with searchTerm := nonBlank term }
  | .sort column direction =>
    { r with sortColumn := nonBlank (some column), sortDirection := nonBlank (some direction) }
  | .filter key value => { r with filters := r.filters.insert key value }
  | .filters entries => { r with filters := r.filters.insertAll entries }

def editAll (r : Request) (edits : List Edit) : Request := edits.foldl edit r

theorem editAll_nil (r : Request) : r.editAll [] = r := rfl
theorem editAll_cons (r : Request) (e : Edit) (es : List Edit) :
    r.editAll (e :: es) = (r.edit e).editAll es := rfl

/-! ## questions -/

/-- rows in front of the page -/
def skip (r : Request) : UInt64 := (r.page - 1).toUInt64 * r.pageSize.toUInt64

def hasSearch (r : Request) : Bool := r.searchTerm.isSome

def hasFilters (r : Request) : Bool := !r.filters.isEmpty

def hasSorting (r : Request) : Bool := r.sortColumn.isSome

/-- every direction but `desc` counts as ascending -/
def isAscending (r : Request) : Bool :=
  match r.sortDirection with
  | none => true
  | some d => ¬ SameWord (trim d) "desc"

end Request

/-! ## requests as they are sent -/

structure RawRequest where
  page : Option Int64
  pageSize : Option Int64
  searchTerm : Option String
  sortColumn : Option String
  sortDirection : Option String
  filters : KeyMap String
  deriving DecidableEq

def Request.ofRaw (raw : RawRequest) : Request where
  page := clampPage (raw.page.getD 1)
  pageSize := clampPageSize (raw.pageSize.getD 10)
  searchTerm := nonBlank raw.searchTerm
  sortColumn := nonBlank raw.sortColumn
  sortDirection := nonBlank raw.sortDirection
  filters := raw.filters

end PagedSql
