import EntitySearch.Json.Record
import EntitySearch.Json.Text
import EntitySearch.Paging.Saturating

/-!
# Pages

One page of results with the total number of results, and what follows from the two: the number of
pages, whether there is a next one, and the range that the `Content-Range` header reports.
-/

namespace EntitySearch

/-- One page of items. -/
structure Page (α : Type) where
  items : List α
  totalElements : UInt64
  pageNumber : UInt64
  pageSize : UInt64

/-- The range of items that a page covers, out of how many. -/
structure ContentRange where
  first : UInt64
  last : UInt64
  total : UInt64
deriving DecidableEq

namespace ContentRange

/-- Whether a character may appear in a resource's name: the ASCII characters that are not control
characters. -/
def isSafeChar (c : Char) : Bool := 0x20 ≤ c.toNat && c.toNat < 0x7F

/-- A range of a named resource, as the header has it: `name first-last/total`. Characters of the
name that could break the header are left out. -/
def header (r : ContentRange) (resource : String) : String :=
  String.ofList (resource.toList.filter isSafeChar ++ ' ' :: Decimal.digits r.first.toNat ++
    '-' :: Decimal.digits r.last.toNat ++ '/' :: Decimal.digits r.total.toNat)

end ContentRange

namespace Page

variable {α β : Type}

/-- The number of pages; none if pages are empty. -/
def totalPages (p : Page α) : UInt64 :=
  if p.pageSize = 0 then 0
  else clampWord ((p.totalElements.toNat + (p.pageSize.toNat - 1)) / p.pageSize.toNat)

/-- Whether a page comes after this one. -/
def hasNext (p : Page α) : Bool := saturatingAdd p.pageNumber 1 < p.totalPages

def isEmpty (p : Page α) : Bool := p.items.isEmpty

/-- The page with every item mapped. -/
def map (f : α → β) (p : Page α) : Page β :=
  ⟨p.items.map f, p.totalElements, p.pageNumber, p.pageSize⟩

/-- The range that the page covers. It ends where the page or the results end, whichever comes
first, but never before it starts. -/
def range (p : Page α) : ContentRange :=
  let offset := saturatingMul p.pageNumber p.pageSize
  let endOfPage := saturatingSub (saturatingAdd offset (max p.pageSize 1)) 1
  let endOfResults := saturatingSub p.totalElements 1
  ⟨offset, max (min endOfPage endOfResults) offset, p.totalElements⟩

/-- The `Content-Range` of the page for a named resource. -/
def contentRange (p : Page α) (resource : String) : String := p.range.header resource

/-- The headers that carry the range, by their names. Their values are what `headerValue?` makes of
texts; a text of which no value can be made is left out. -/
def contentRangeHeaders {ν : Type} (headerValue? : String → Option ν) (p : Page α)
    (resource : String) : List (String × ν) :=
  match headerValue? (p.contentRange resource) with
  | some value => [("Content-Range", value)]
  | none => []

/-- A page as JSON. -/
def toJson (item : α → Json) (p : Page α) : Json :=
  .object [("items", .array (p.items.map item)), ("totalElements", .ofWord64 p.totalElements),
    ("pageNumber", .ofWord64 p.pageNumber), ("pageSize", .ofWord64 p.pageSize)]

end Page

end EntitySearch
