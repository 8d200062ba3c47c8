import EntitySearch.Filter.Filters
import EntitySearch.Sql.Where

/-!
# Scopes

What a predicate is built from: the entity whose attributes it names, the filters it reads, the
backend it is for, and the names under which free text is looked up.

A predicate may fail, be absent, or be a condition. Absence is the answer to a filter that was not
given; the attribute is resolved before any filter is read, so a misspelt attribute fails even then.
-/

namespace EntitySearch

/-- What a predicate is built from. -/
structure Scope where
  entity : Entity
  filters : Filters
  backend : Sql.Backend
  searchKey : String
  fallbackSearchKey : String

/-- An error, no predicate, or a predicate. -/
abbrev Outcome := Except SearchError (Option Sql.Condition)

namespace Scope

/-- A scope with the usual names for free text. -/
def new (entity : Entity) (filters : Filters) (backend : Sql.Backend) : Scope :=
  ⟨entity, filters, backend, "search", "searchText"⟩

/-- The scope with other names for free text: the one to look up first, and the one to fall back
on. -/
def withSearchKeys (s : Scope) (key fallback : String) : Scope :=
  { s with searchKey := key, fallbackSearchKey := fallback }

/-- The attribute of a name or dotted path. -/
def resolve (s : Scope) (path : String) : Except SearchError Attribute := s.entity.resolve path

end Scope

/-- The name of the filter to read: the override unless it is blank, else the attribute's. -/
def filterKey (attr : String) (override : Option String) : String :=
  (override.filter fun k => !Text.isBlank k).getD attr

/-- The attribute's column as an operand. -/
def Attribute.operand (a : Attribute) : Sql.Operand := .column a.column

/-- The attribute in upper case, cast to text if it is not text already. -/
def Attribute.upperText (a : Attribute) : Sql.Operand :=
  .upper (if a.kind.isTextual then a.operand else .castText a.operand)

end EntitySearch
