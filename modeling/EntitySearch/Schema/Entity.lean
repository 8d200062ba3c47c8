import EntitySearch.Error
import EntitySearch.Schema.Kind

/-!
# Entities and their attributes

An entity is a table together with the names under which requests may speak of its columns, and the
dotted paths under which they may speak of columns of joined tables.

* `Entity.resolve`: a name is looked up among the entity's own attributes first, and only a dotted
  path among the joined ones after that.
-/

namespace EntitySearch

/-- A column of a table. -/
structure Column where
  name : String
  type : ColumnType
deriving DecidableEq

/-- A column of a joined table, under its dotted path. `joinField` is the name the table is joined
under. -/
structure JoinedColumn where
  joinField : String
  columnName : String
  fullPath : String
  kind : ScalarKind
deriving DecidableEq

/-- A column as statements refer to it. -/
structure ColumnRef where
  table : String
  name : String
deriving DecidableEq

/-- A resolved attribute. -/
structure Attribute where
  path : String
  column : ColumnRef
  kind : ScalarKind
deriving DecidableEq

/-- A table, its columns in order, and its attributes. Of several attributes with one name the first
counts. -/
structure Entity where
  table : String
  columns : List Column
  attributes : List (String × Column)
  joined : List JoinedColumn

namespace Entity

/-- One of the entity's own columns. -/
def columnRef (e : Entity) (c : Column) : ColumnRef := ⟨e.table, c.name⟩

/-- The entity's own attribute of a name. -/
def ownAttribute? (e : Entity) (path : String) : Option Attribute :=
  (e.attributes.find? (·.1 == path)).map fun (name, c) => ⟨name, e.columnRef c, c.type.kind⟩

/-- The joined attribute of a dotted path. -/
def joinedAttribute? (e : Entity) (path : String) : Option Attribute :=
  if path.toList.contains '.' then
    (e.joined.find? (·.fullPath == path)).map fun j =>
      ⟨j.fullPath, ⟨j.joinField, j.columnName⟩, j.kind⟩
  else none

/-- The attribute of a name or dotted path. -/
def resolve (e : Entity) (path : String) : Except SearchError Attribute :=
  match (e.ownAttribute? path).or (e.joinedAttribute? path) with
  | some a => .ok a
  | none => .error (.unknownAttribute path)

/-- Whether a name or dotted path is declared. -/
def hasAttribute (e : Entity) (path : String) : Bool := (e.resolve path).toBool

end Entity

end EntitySearch
