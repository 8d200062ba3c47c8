import EntitySearch.Paging.Page
import EntitySearch.Paging.Pageable
import EntitySearch.Paging.Window
import EntitySearch.Predicate.Scope
import EntitySearch.Search.Row
import EntitySearch.Sql.Statement

/-!
# Resources

A resource is an entity that can be searched: how its identifiers and its rows are read, which
predicate its filters make, and what it may be sorted by.

What a resource joins and sorts by is kept to what statements have words for: left joins, each on one
pair of columns, and operands, which are columns in upper case, cast to text or formatted at most. A
resource may want more of its query, such as inner joins, conditions on what it joins, or sort keys
that are other expressions; nothing is said here of resources that do.
-/

namespace EntitySearch

/-- A searchable entity, with identifiers of type `ι` and models of type `α`. -/
structure Resource (ι α : Type) where
  /-- The name in the `Content-Range` header. -/
  name : String
  entity : Entity
  idColumn : Column
  /-- The creation time, which breaks ties between parents. -/
  createdColumn : Column
  readId? : Sql.Value → Option ι
  idValue : ι → Sql.Value
  readModel? : Row → Option α
  idOf? : α → Option ι
  /-- The predicate of a search, from its filters and the caller's own parameters. -/
  predicate : Scope → Filters → Outcome
  /-- What a property that is sorted by stands for in statements. -/
  sortOperand : String → Except SearchError Sql.Operand :=
    fun path => (entity.resolve path).map Attribute.operand
  aliases : SortAliases := []
  /-- The joins that predicates and sort keys on child attributes need. -/
  joins : List Sql.LeftJoin := []
  fanOut : FanOut := .single
  /-- What parents are sorted by if the request does not say; nothing stands for the creation
  time. -/
  defaultSortBy : Option String := none
  defaultDirection : Direction := .desc

namespace Resource

variable {ι α : Type}

/-- The identifier in statements. -/
def idRef (r : Resource ι α) : ColumnRef := r.entity.columnRef r.idColumn

/-- The creation time in statements. -/
def createdRef (r : Resource ι α) : ColumnRef := r.entity.columnRef r.createdColumn

/-- All columns of the entity. -/
def columnRefs (r : Resource ι α) : List ColumnRef := r.entity.columns.map r.entity.columnRef

/-- The rows that a condition selects. -/
def selection (r : Resource ι α) (condition : Option Sql.Condition) : Sql.Selection :=
  ⟨r.entity.table, r.joins, condition⟩

/-- The condition of a request. -/
def condition (r : Resource ι α) (b : Sql.Backend) (filters parameters : Filters) : Outcome :=
  r.predicate (Scope.new r.entity filters b) parameters

/-- Reads the models of rows. -/
def readModels (r : Resource ι α) (rows : List Row) : Except SearchError (List α) :=
  readOr (rows.mapM r.readModel?)

/-- Reads the identifiers of rows from the column `id`. -/
def readIds (r : Resource ι α) (rows : List Row) : Except SearchError (List ι) :=
  readOr (rows.mapM fun row => (row.value? "id").bind r.readId?)

end Resource

end EntitySearch
