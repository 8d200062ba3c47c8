import EntitySearch.Predicate.TypedText

/-!
# Membership predicates

`attr IN (…)` and `attr NOT IN (…)`. The elements of a list must all be text, all 32-bit integers or
all 64-bit integers, and suit the attribute's kind; a list that is empty, mixed or of another kind
gives no predicate rather than an error, and neither does one with a malformed UUID.
-/

namespace EntitySearch

/-- The string in a value, if it is text. -/
def FilterValue.string? : FilterValue → Option Sql.Value
  | text s => some (.string s)
  | _ => none

/-- The 32-bit integer in a value. -/
def FilterValue.int? : FilterValue → Option Sql.Value
  | int n => some (.int n)
  | _ => none

/-- The 64-bit integer in a value. -/
def FilterValue.long? : FilterValue → Option Sql.Value
  | long n => some (.bigInt n)
  | _ => none

/-- The UUID in a value, if it is text that spells one. -/
def FilterValue.uuid? : FilterValue → Option Sql.Value
  | text s => TypedForm.uuid.read? s
  | _ => none

/-- How an element of a list is read for an attribute of a kind; nothing for the kinds that lists do
not apply to. -/
def ScalarKind.element? : ScalarKind → Option (FilterValue → Option Sql.Value)
  | string => some FilterValue.string?
  | int => some FilterValue.int?
  | long => some FilterValue.long?
  | uuid => some FilterValue.uuid?
  | _ => none

/-- The values of a list for an attribute of a kind. -/
def listMembers? (kind : ScalarKind) (items : List FilterValue) : Option (List Sql.Value) :=
  if items.isEmpty then none else kind.element?.bind fun read? => items.mapM read?

/-- The values of a filter for an attribute of a kind. A scalar counts whatever the kind, except
that text for a UUID must spell one. -/
def FilterValue.members? (kind : ScalarKind) : FilterValue → Option (List Sql.Value)
  | list items => listMembers? kind items
  | text s =>
    if kind = .uuid then (TypedForm.uuid.read? s).map ([·]) else some [.string s]
  | int n => some [.int n]
  | long n => some [.bigInt n]
  | bool _ | float _ => none

namespace Scope

/-- The comparison of an attribute with the values of its filter. -/
def membership (s : Scope) (negated : Bool) (attr : String) (override : Option String) :
    Outcome := do
  let a ← s.resolve attr
  return ((s.filters.get? (filterKey attr override)).bind (FilterValue.members? a.kind)).map
    fun vs => .leaf (.member negated a.operand vs)

/-- The attribute is one of its filter's values. -/
def isIn (s : Scope) (attr : String) (override : Option String) : Outcome :=
  s.membership false attr override

/-- The attribute is none of its filter's values. -/
def notIn (s : Scope) (attr : String) (override : Option String) : Outcome :=
  s.membership true attr override

end Scope

end EntitySearch
