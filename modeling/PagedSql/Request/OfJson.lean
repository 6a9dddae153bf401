import PagedSql.Request
import PagedSql.Json.Reading

/-!
# Requests in JSON

A request is an object with the members `page`, `pageSize`, `searchTerm`, `sortColumn`,
`sortDirection` and `filters`, each at most once and none of them needed, others ignored; or an array
of their values in this order, which may end early.

* `RawRequest.ofJson`  the request that a value stands for;
* `Request.ofText?`    the request written in a text.
-/

namespace PagedSql
open PagedSql.Decimal

namespace Json

/-- a whole number without fraction and exponent; `-0` is none -/
def int64? : Json → Option Int64
  | number text => if text = "-0" then none else readInt64 text
  | _ => none

def text? : Json → Option String
  | string text => text
  | _ => none

/-- `null` stands for a value that is not given -/
def nullable {α : Type} (read : Json → Option α) : Json → Option (Option α)
  | null => some none
  | j => (read j).map some

/-- a map of texts; of equal names the last counts -/
def textMap? : Json → Option (KeyMap String)
  | object members =>
    (members.mapM fun ((name, j) : Option String × Json) =>
      match name, j.text? with
      | some name, some text => some (name, text)
      | _, _ => none).map KeyMap.ofList
  | _ => none

/-- the member of a name: given once, not given, or given more than once -/
def member {α : Type} (read : Json → Option α) (absent : α) (name : String)
    (members : List (Option String × Json)) : Option α :=
  match members.filter fun m => m.1 = some name with
  | [] => some absent
  | [(_, j)] => read j
  | _ => none

/-- the first of the remaining elements, if there is one -/
def element {α : Type} (read : Json → Option α) (absent : α) : List Json → Option (α × List Json)
  | [] => some (absent, [])
  | j :: js => (read j).map (·, js)

end Json

open Json

namespace RawRequest

def ofMembers (members : List (Option String × Json)) : Option RawRequest := do
  if members.any fun m => m.1 = none then none
  let page ← member (nullable int64?) none "page" members
  let pageSize ← member (nullable int64?) none "pageSize" members
  let searchTerm ← member (nullable text?) none "searchTerm" members
  let sortColumn ← member (nullable text?) none "sortColumn" members
  let sortDirection ← member (nullable text?) none "sortDirection" members
  let filters ← member textMap? .empty "filters" members
  return ⟨page, pageSize, searchTerm, sortColumn, sortDirection, filters⟩

def ofElements (elements : List Json) : Option RawRequest := do
  let (page, elements) ← element (nullable int64?) none elements
  let (pageSize, elements) ← element (nullable int64?) none elements
  let (searchTerm, elements) ← element (nullable text?) none elements
  let (sortColumn, elements) ← element (nullable text?) none elements
  let (sortDirection, elements) ← element (nullable text?) none elements
  let (filters, elements) ← element textMap? .empty elements
  if elements.isEmpty then return ⟨page, pageSize, searchTerm, sortColumn, sortDirection, filters⟩
  else none

def ofJson : Json → Option RawRequest
  | .object members => ofMembers members
  | .array elements => ofElements elements
  | _ => none

end RawRequest

def Request.ofText? (text : String) : Option Request :=
  ((Json.read text).bind RawRequest.ofJson).map Request.ofRaw

end PagedSql
