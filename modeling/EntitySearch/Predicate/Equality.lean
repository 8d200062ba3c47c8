import EntitySearch.Predicate.TypedText

/-!
# Equality and flags

`attr = value` and `attr <> value`. Zero and `false` are values like any other; a list has no value
to compare with and gives no predicate.

Flags are compared with a truth value that is given, or that a filter asks for. Those that read a
filter take nothing but a boolean for one: the text `true` is no flag. A null attribute is neither
true nor false, so "not true" includes it.
-/

namespace EntitySearch

/-- The value to compare an attribute of a kind with. Only text depends on the kind. -/
def FilterValue.coerce (key : String) (kind : ScalarKind) :
    FilterValue → Except SearchError (Option Sql.Value)
  | list _ => .ok none
  | bool b => .ok (some (.bool b))
  | int n => .ok (some (.int n))
  | long n => .ok (some (.bigInt n))
  | float x => .ok (some (.double x))
  | text s =>
    match kind.form? with
    | some form => (form.parse key s).map some
    | none => .ok (some (.string s))

namespace Scope

/-! ## Equality -/

/-- The comparison of an attribute with its filter's value. -/
def compareWithFilter (s : Scope) (op : Sql.CompareOp) (attr : String) (override : Option String) :
    Outcome := do
  let a ← s.resolve attr
  let key := filterKey attr override
  match s.filters.get? key with
  | none => return none
  | some v =>
    let value ← v.coerce key a.kind
    return value.map fun x => .leaf (.compare op a.operand x)

/-- The attribute equals its filter's value. -/
def equals (s : Scope) (attr : String) (override : Option String) : Outcome :=
  s.compareWithFilter .equal attr override

/-! ## Flags -/

/-- The attribute has the given truth value. -/
def isFlag (s : Scope) (value : Bool) (attr : String) : Except SearchError Sql.Condition :=
  (s.resolve attr).map fun a => .leaf (.compare .equal a.operand (.bool value))

/-- The attribute does not have the given truth value. -/
def isNotFlag (s : Scope) (value : Bool) (attr : String) : Except SearchError Sql.Condition :=
  (s.resolve attr).map fun a =>
    .anyOf [.isNull false a.operand, .compare .equal a.operand (.bool (!value))]

/-- The truth value that a filter gives, if it is a boolean. -/
def flagOf? (s : Scope) (attr : String) (override : Option String) : Option Bool :=
  match s.filters.get? (filterKey attr override) with
  | some (.bool b) => some b
  | _ => none

/-- The attribute has the given truth value, if the filter asks for just that. -/
def filterIsFlag (s : Scope) (value : Bool) (attr : String) (override : Option String) : Outcome :=
  (s.isFlag value attr).map fun c =>
    if s.flagOf? attr override = some value then some c else none

/-- The attribute does not have the given truth value, unless the filter is there and asks for
something else. -/
def filterIsNotFlag (s : Scope) (value : Bool) (attr : String) (override : Option String) :
    Outcome :=
  (s.isNotFlag value attr).map fun c =>
    if !s.filters.contains (filterKey attr override) ||
        s.flagOf? attr override == some (!value) then some c
    else none

end Scope

end EntitySearch
