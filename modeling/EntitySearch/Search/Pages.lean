import EntitySearch.Paging.Window
import EntitySearch.Search.Resource
import EntitySearch.Search.Session

/-!
# Pages of results

Two searches for one page of an entity.

`search` counts the rows and fetches a slice of them in order. The identifier is the last sort key, so
that the order is total and pages neither overlap nor leave rows out, whatever the store does with
ties.

`searchWithChildren` is for predicates and orders that touch joined children. Joined rows repeat a
parent once per matching child, so a slice of them is not a page. Instead the identifiers of enough
joined rows are fetched in order, repetitions are dropped, the page is cut from what remains, and
its parents are fetched by identifier and put back in order. If a parent has more children than the
resource declares, the rows may not reach all the parents of the page, which then comes out short.
-/

namespace EntitySearch.Resource

variable {ι α : Type}

/-! ## Rows of the entity -/

/-- The order of a flat search: the keys of the request, then the identifier in the direction of the
last of them, ascending if there is none. -/
def flatOrder (r : Resource ι α) (p : Pageable) : Except SearchError (List Sql.SortKey) := do
  let orders := r.aliases.normalize (← p.sortOrders)
  let tieDirection := (orders.getLast?.map (·.direction)).getD .asc
  let keys ← orders.mapM fun o => (r.sortOperand o.property).map fun x => ⟨x, o.direction⟩
  return keys ++ [⟨.column r.idRef, tieDirection⟩]

/-- One page of the entity. The order is settled before the predicate, and both before the store is
asked anything. -/
def search (r : Resource ι α) (b : Sql.Backend) (request : SearchRequest) (parameters : Filters) :
    Session (Page α) := do
  let p := request.pageable
  let order ← Session.lift (r.flatOrder p)
  let condition ← Session.lift (r.condition b request.filters parameters)
  let rows := r.selection condition
  let total ← Session.query (.countRows r.columnRefs rows) (readRowCount b)
  let items ← Session.query (.slice r.columnRefs rows order p.size p.offset) r.readModels
  return ⟨items, total, p.page, p.size⟩

/-! ## Parents of joined rows -/

/-- The sort key of the parents. Only the first property and direction count; blank ones fall back
on the resource's own, and any direction but `asc` is descending. -/
def childrenSort (r : Resource ι α) (p : Pageable) : Except SearchError Sql.SortKey :=
  let direction := match p.sortDirection.head? with
    | some d => if Text.isBlank d then r.defaultDirection else Direction.readLeniently d
    | none => r.defaultDirection
  let property := match p.sortBy.head? with
    | some s => if Text.isBlank s then r.defaultSortBy else some (Text.trim s)
    | none => r.defaultSortBy
  match property with
  | none => .ok ⟨.column r.createdRef, direction⟩
  | some s => (r.sortOperand (r.aliases.path s)).map fun x => ⟨x, direction⟩

/-- The condition that picks the models of a page. -/
def idCondition (r : Resource ι α) (ids : List ι) : Sql.Condition :=
  .leaf (.member false (.column r.idRef) (ids.map r.idValue))

/-- The identifiers of the parents on a page; none are fetched if there is nothing to fetch. -/
def pageIds [DecidableEq ι] (r : Resource ι α) (p : Pageable) (key : Sql.SortKey)
    (rows : Sql.Selection) : Session (List ι) :=
  let window := oversampledWindow p.offset p.size r.fanOut.multiplier
  if window = 0 then pure []
  else do
    let ids ← Session.query
      (.sortedIds r.idRef key.operand r.createdRef rows key.direction window) r.readIds
    return distinctWindow ids p.offset p.size

/-- The models with the given identifiers, in their order. -/
def modelsByIds [DecidableEq ι] (r : Resource ι α) (ids : List ι) : Session (List α) :=
  if ids.isEmpty then pure []
  else do
    let models ← Session.query
      (.byIds r.columnRefs ⟨r.entity.table, [], some (r.idCondition ids)⟩) r.readModels
    return restoreOrder models ids r.idOf?

/-- One page of parents. The order is settled before the predicate, and both before the store is
asked anything. -/
def searchWithChildren [DecidableEq ι] (r : Resource ι α) (b : Sql.Backend)
    (request : SearchRequest) (parameters : Filters) : Session (Page α) := do
  let p := request.pageable
  let key ← Session.lift (r.childrenSort p)
  let condition ← Session.lift (r.condition b request.filters parameters)
  let rows := r.selection condition
  let total ← Session.query (.countDistinct r.idRef rows) readDistinctCount
  let ids ← r.pageIds p key rows
  let items ← r.modelsByIds ids
  return ⟨items, total, p.page, p.size⟩

end EntitySearch.Resource
