import EntitySearch.Filter.Filters
import EntitySearch.Json.Record
import EntitySearch.Paging.Saturating
import EntitySearch.Paging.Sort

/-!
# Page requests

Which page of the results is asked for, and in what order: the number and size of the page, and two
lists, of sort properties and of their directions, which must be of equal length to be used
together. A whole request joins filters to a page request.
-/

namespace EntitySearch

/-- A request for one page. Pages are counted from zero. -/
structure Pageable where
  page : UInt64
  size : UInt64
  sortBy : List String
  sortDirection : List String
deriving DecidableEq

namespace Pageable

/-- How many items a page has unless the request says so. -/
def defaultSize : UInt64 := 20

/-- The first page of the default size, in no particular order. -/
def standard : Pageable := ⟨0, defaultSize, [], []⟩

/-- A page of the given size, in no particular order. -/
def new (page size : UInt64) : Pageable := ⟨page, size, [], []⟩

/-- The request with one more sort key. -/
def withSort (p : Pageable) (property direction : String) : Pageable :=
  { p with sortBy := p.sortBy ++ [property], sortDirection := p.sortDirection ++ [direction] }

/-- How many items come before the page. -/
def offset (p : Pageable) : UInt64 := saturatingMul p.page p.size

/-- The sort keys: the properties paired with their directions. Lists of different lengths are
refused before any direction is read. -/
def sortOrders (p : Pageable) : Except SearchError (List SortOrder) :=
  if p.sortBy.length ≠ p.sortDirection.length then
    .error (.mismatchedSort p.sortBy.length p.sortDirection.length)
  else
    (p.sortBy.zip p.sortDirection).mapM fun (property, direction) =>
      (Direction.read direction).map (SortOrder.mk property)

/-- The names of the members in JSON. -/
def memberNames : List String := ["page", "size", "sortBy", "sortDirection"]

/-- Decodes a page request; members left out are those of the standard one. -/
def decode? (v : Json) : Option Pageable :=
  match v.record? memberNames with
  | some [page, size, sortBy, sortDirection] => do
    let page ← Json.decodeOr? standard.page Json.word64? page
    let size ← Json.decodeOr? standard.size Json.word64? size
    let sortBy ← Json.decodeOr? standard.sortBy Json.strings? sortBy
    let sortDirection ← Json.decodeOr? standard.sortDirection Json.strings? sortDirection
    return ⟨page, size, sortBy, sortDirection⟩
  | _ => none

/-- Decodes a page request from JSON text. -/
def read? (s : String) : Option Pageable := (Json.read? s).bind decode?

/-- A page request as JSON. -/
def toJson (p : Pageable) : Json :=
  .object [("page", .ofWord64 p.page), ("size", .ofWord64 p.size),
    ("sortBy", .ofStrings p.sortBy), ("sortDirection", .ofStrings p.sortDirection)]

end Pageable

/-- A whole search request. -/
structure SearchRequest where
  filters : Filters
  pageable : Pageable

namespace SearchRequest

/-- The names of the members in JSON. -/
def memberNames : List String := ["filters", "pageable"]

/-- Decodes a request; members left out are empty or standard. -/
def decode? (v : Json) : Option SearchRequest :=
  match v.record? memberNames with
  | some [filters, pageable] => do
    let filters ← Json.decodeOr? Filters.empty Filters.decode? filters
    let pageable ← Json.decodeOr? Pageable.standard Pageable.decode? pageable
    return ⟨filters, pageable⟩
  | _ => none

/-- Decodes a request from JSON text. -/
def read? (s : String) : Option SearchRequest := (Json.read? s).bind decode?

end SearchRequest

end EntitySearch
