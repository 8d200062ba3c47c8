import EntitySearch.Predicate.Scope
import EntitySearch.Text.LetterCase
import EntitySearch.Text.Pattern

/-!
# Text predicates

Matching an attribute with the filter's text wherever it occurs, at the start or at the end, without
regard to case: both sides are upper-cased. The text is taken literally, blank characters around it
included; blank text gives no predicate. Beside these stand the predicates on attributes that have
no text at all.
-/

namespace EntitySearch

/-- The pattern that finds text without regard to case in upper-cased text. -/
def uppercasePattern (anchor : Text.Anchor) (s : String) : String :=
  anchor.literal (Text.upperCase s)

namespace Scope

/-- The match of an attribute with its filter's text. -/
def matchFilterText (s : Scope) (anchor : Text.Anchor) (negated : Bool) (attr : String)
    (override : Option String) : Outcome := do
  let a ← s.resolve attr
  return (s.filters.nonBlankText? (filterKey attr override)).map fun text =>
    .leaf (.like negated a.upperText (uppercasePattern anchor text))

/-- The attribute contains its filter's text. -/
def contains (s : Scope) (attr : String) (override : Option String) : Outcome :=
  s.matchFilterText .anywhere false attr override

/-- The attribute does not contain its filter's text. -/
def notContains (s : Scope) (attr : String) (override : Option String) : Outcome :=
  s.matchFilterText .anywhere true attr override

/-- The attribute starts with its filter's text. -/
def startsWith (s : Scope) (attr : String) (override : Option String) : Outcome :=
  s.matchFilterText .atStart false attr override

/-- The attribute ends with its filter's text. -/
def endsWith (s : Scope) (attr : String) (override : Option String) : Outcome :=
  s.matchFilterText .atEnd false attr override

/-- The attribute is null or the empty text. -/
def isBlank (s : Scope) (attr : String) : Except SearchError Sql.Condition :=
  (s.resolve attr).map fun a =>
    .anyOf [.isNull false a.operand, .compare .equal a.operand (.string "")]

/-- The attribute is neither null nor the empty text. -/
def isNotBlank (s : Scope) (attr : String) : Except SearchError Sql.Condition :=
  (s.resolve attr).map fun a =>
    .allOf [.isNull true a.operand, .compare .notEqual a.operand (.string "")]

end Scope

end EntitySearch
