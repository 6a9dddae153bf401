import PagedSql.Json.Basic

/-!
# Pages of a result

* `Page`                       items with the number of all of them, and where the page stands;
* `Page.make`                  counts the pages: the total divided by the size, rounded up;
* `hasNext`, `hasPrevious`     whether there is a page after it and before it;
* `Page.map`                   other items, same place;
* `Page.toJson`                the page as an object.
-/

namespace PagedSql

structure Page (α : Type) where
  items : List α
  totalCount : UInt64
  page : UInt32
  pageSize : UInt32
  totalPages : UInt64
  deriving DecidableEq

/-- a last page that is not full counts; without a size there are no pages -/
def countPages (totalCount : UInt64) (pageSize : UInt32) : UInt64 :=
  let size := pageSize.toUInt64
  if size = 0 then 0
  else if totalCount % size = 0 then totalCount / size
  else totalCount / size + 1

namespace Page
variable {α β : Type}

def make (items : List α) (totalCount : UInt64) (page pageSize : UInt32) : Page α :=
  ⟨items, totalCount, page, pageSize, countPages totalCount pageSize⟩

def empty (page pageSize : UInt32) : Page α := make [] 0 page pageSize

def hasNext (p : Page α) : Bool := p.page.toUInt64 < p.totalPages

def hasPrevious (p : Page α) : Bool := 1 < p.page

def map (f : α → β) (p : Page α) : Page β := { p with items := p.items.map f }

def toJson (encode : α → Json) (p : Page α) : Json :=
  .ofMembers [("items", .array (p.items.map encode)), ("totalCount", .ofInt p.totalCount.toNat),
    ("page", .ofInt p.page.toNat), ("pageSize", .ofInt p.pageSize.toNat),
    ("totalPages", .ofInt p.totalPages.toNat)]

end Page

end PagedSql
