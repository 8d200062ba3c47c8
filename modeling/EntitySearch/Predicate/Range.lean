import EntitySearch.Predicate.TypedText

/-!
# Range predicates

Bounds on an attribute, both inclusive, read from the filters named after a base with `From` and
`To` behind it. Text that is not of the family's form is an error; a bound that is no number at all
is left out.
-/

namespace EntitySearch

/-- The families of values with an order. -/
inductive RangeFamily where
  | date
  | dateTime
  | instant
  | number
deriving DecidableEq

/-- The side that a bound lies on. -/
inductive Side where
  | lower
  | upper
deriving DecidableEq

/-- What a side adds to the name of the filter. -/
def Side.suffix : Side → String
  | .lower => "From"
  | .upper => "To"

/-- The comparison with a bound. -/
def Side.compareOp : Side → Sql.CompareOp
  | .lower => .atLeast
  | .upper => .atMost

/-- The form of a family's bounds; numbers have none. -/
def RangeFamily.form? : RangeFamily → Option TypedForm
  | date => some .date
  | dateTime => some .dateTime
  | instant => some .timestamp
  | number => none

/-- The bound that a filter gives, if it gives one. -/
def RangeFamily.bound (family : RangeFamily) (filters : Filters) (key : String) :
    Except SearchError (Option Sql.Value) :=
  match family.form? with
  | none => .ok (filters.number? key)
  | some form =>
    match filters.nonBlankText? key with
    | none => .ok none
    | some text => (form.parse key text).map some

namespace Scope

/-- The name of the filter that gives a bound. -/
def boundKey (attr : String) (base : Option String) (side : Side) : String :=
  filterKey attr base ++ side.suffix

/-- The attribute is within one bound. -/
def bounded (s : Scope) (family : RangeFamily) (side : Side) (attr : String)
    (base : Option String) : Outcome := do
  let a ← s.resolve attr
  let v ← family.bound s.filters (boundKey attr base side)
  return v.map fun x => .leaf (.compare side.compareOp a.operand x)

/-- The attribute is within the bounds that are given. -/
def between (s : Scope) (family : RangeFamily) (attr : String) (base : Option String) :
    Outcome := do
  let low ← s.bounded family .lower attr base
  let high ← s.bounded family .upper attr base
  return Sql.Condition.all? [low, high]

end Scope

end EntitySearch
