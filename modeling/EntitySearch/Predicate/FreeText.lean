import EntitySearch.Predicate.TextMatch

/-!
# Free-text predicates

One search text matched against several attributes, any of which may match. The text is the first of
two filters that is not blank, cut to its first `searchTextLimit` characters; without it there is no
predicate, but the attributes are resolved all the same.

* `Scope.search`: anywhere in the text of the attribute, without regard to case.
* `Scope.searchNumeric`: anywhere in the decimal digits of the attribute, if the text is a whole
  number without leading zeros.
* `Scope.searchBoolean`: the attribute as the backend spells booleans, if the text is `true` or
  `false`.
* `Scope.searchDates`: the minute or the day that the text gives, else anywhere in the year, month,
  day, hour or minute.
-/

namespace EntitySearch

/-- How many characters of a search text count. -/
def searchTextLimit : Nat := 10000

/-- Whether a search text applies to numbers. Digits with a zero in front are codes, not numbers. -/
def isNumericSearch (s : String) : Bool :=
  !s.toList.isEmpty && s.toList.all Decimal.isDigit && s.toList.head? != some '0'

/-- The truth value that a search text names. -/
def searchedBoolean? (s : String) : Option Bool :=
  if Text.equalsIgnoringCase s "true" then some true
  else if Text.equalsIgnoringCase s "false" then some false
  else none

/-- What a search text says about dates. -/
inductive DateSearch where
  | minute (text : String)
  | day (text : String)
  | fragment (pattern : String)
deriving DecidableEq

/-- What a search text says about dates: a minute if it can be read as one, else a day, else a
fragment to look for. -/
def DateSearch.of (s : String) : DateSearch :=
  match Calendar.readSearchMinute? s.toList with
  | some t => minute t.minuteText
  | none =>
    match Calendar.readSearchDay? s.toList with
    | some d => day d.text
    | none => fragment (Text.Anchor.anywhere.literal s)

/-- The condition on a column that a date search stands for. -/
def DateSearch.condition (o : Sql.Operand) : DateSearch → Sql.Condition
  | minute text => .leaf (.compare .equal (.datePart .dateMinute o) (.string text))
  | day text => .leaf (.compare .equal (.datePart .date o) (.string text))
  | fragment pattern =>
    .anyOf (Sql.DatePart.components.map fun p => .like false (.datePart p o) pattern)

namespace Scope

/-- The text to search for. -/
def searchText? (s : Scope) : Option String :=
  ((s.filters.nonBlankText? s.searchKey).or (s.filters.nonBlankText? s.fallbackSearchKey)).map
    fun text => String.ofList (text.toList.take searchTextLimit)

/-- The attributes of several paths, failing at the first that is not declared. -/
def attributes (s : Scope) (paths : List String) : Except SearchError (List Attribute) :=
  paths.mapM s.resolve

/-- One match per attribute, any of which may hold. -/
def anyMatch (attributes : List Attribute) (condition : Attribute → Sql.Condition) :
    Option Sql.Condition :=
  Sql.Condition.any? (attributes.map fun a => some (condition a))

/-- The attribute's text contains the search text. -/
def search (s : Scope) (paths : List String) : Outcome := do
  let attributes ← s.attributes paths
  return s.searchText?.bind fun text =>
    anyMatch attributes fun a => .leaf (.like false a.upperText (uppercasePattern .anywhere text))

/-- The attribute's digits contain the search text. -/
def searchNumeric (s : Scope) (paths : List String) : Outcome := do
  let attributes ← s.attributes paths
  return (s.searchText?.filter isNumericSearch).bind fun text =>
    anyMatch attributes fun a =>
      .leaf (.like false (.castText a.operand) (Text.Anchor.anywhere.plain text))

/-- The attribute has the truth value that the search text names. -/
def searchBoolean (s : Scope) (paths : List String) : Outcome := do
  let attributes ← s.attributes paths
  return (s.searchText?.bind searchedBoolean?).bind fun value =>
    let pattern := Text.Anchor.anywhere.plain (s.backend.booleanText value)
    anyMatch attributes fun a => .leaf (.like false (.castText a.operand) pattern)

/-- The attribute lies in the minute or day, or has the date fragment, of the search text. -/
def searchDates (s : Scope) (paths : List String) : Outcome := do
  let attributes ← s.attributes paths
  return s.searchText?.bind fun text =>
    anyMatch attributes fun a => (DateSearch.of text).condition a.operand

end Scope

end EntitySearch
