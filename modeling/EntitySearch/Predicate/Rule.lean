import EntitySearch.Predicate.Equality
import EntitySearch.Predicate.FreeText
import EntitySearch.Predicate.Membership
import EntitySearch.Predicate.Range

/-!
# Search rules

The predicate of an entity as data: a tree of criteria, each one predicate that the library can
build, under conjunctions and disjunctions. `Rule.outcome` builds the predicate of a tree. All its
criteria are evaluated, from left to right, and the first error ends everything.
-/

namespace EntitySearch

/-- The four kinds of free-text search. -/
inductive SearchKind where
  | text
  | numeric
  | boolean
  | dates
deriving DecidableEq

/-- One predicate that can be built. `key` is the name of the filter to read in place of the
attribute's. -/
inductive Criterion where
  | equality (op : Sql.CompareOp) (attr : String) (key : Option String)
  | textMatch (anchor : Text.Anchor) (negated : Bool) (attr : String) (key : Option String)
  | blank (negated : Bool) (attr : String)
  | flag (value : Bool) (attr : String)
  | notFlag (value : Bool) (attr : String)
  | filterFlag (value : Bool) (attr : String) (key : Option String)
  | filterNotFlag (value : Bool) (attr : String) (key : Option String)
  | membership (negated : Bool) (attr : String) (key : Option String)
  | bounded (family : RangeFamily) (side : Side) (attr : String) (base : Option String)
  | between (family : RangeFamily) (attr : String) (base : Option String)
  | freeText (kind : SearchKind) (attrs : List String)
deriving DecidableEq

/-- The predicate of a criterion. -/
def Criterion.outcome (s : Scope) : Criterion → Outcome
  | equality op attr key => s.compareWithFilter op attr key
  | textMatch anchor negated attr key => s.matchFilterText anchor negated attr key
  | blank false attr => (s.isBlank attr).map some
  | blank true attr => (s.isNotBlank attr).map some
  | flag value attr => (s.isFlag value attr).map some
  | notFlag value attr => (s.isNotFlag value attr).map some
  | filterFlag value attr key => s.filterIsFlag value attr key
  | filterNotFlag value attr key => s.filterIsNotFlag value attr key
  | membership negated attr key => s.membership negated attr key
  | bounded family side attr base => s.bounded family side attr base
  | between family attr base => s.between family attr base
  | freeText .text attrs => s.search attrs
  | freeText .numeric attrs => s.searchNumeric attrs
  | freeText .boolean attrs => s.searchBoolean attrs
  | freeText .dates attrs => s.searchDates attrs

/-- The predicate of an entity. -/
inductive Rule where
  /-- No predicate. -/
  | nothing
  | criterion (c : Criterion)
  | all (rules : List Rule)
  | any (rules : List Rule)
  /-- The rule with other names for free text. -/
  | withSearchKeys (key fallback : String) (rule : Rule)
  /-- The rule over the parameters that the caller supplies beside the filters. -/
  | overParameters (rule : Rule)

namespace Rule

mutual

/-- The predicate of a rule. -/
def outcome (parameters : Filters) (s : Scope) : Rule → Outcome
  | nothing => .ok none
  | criterion c => c.outcome s
  | all rules => (outcomes parameters s rules).map Sql.Condition.all?
  | any rules => (outcomes parameters s rules).map Sql.Condition.any?
  | withSearchKeys key fallback rule => outcome parameters (s.withSearchKeys key fallback) rule
  | overParameters rule => outcome parameters (Scope.new s.entity parameters s.backend) rule

/-- The predicates of several rules in order. -/
def outcomes (parameters : Filters) (s : Scope) :
    List Rule → Except SearchError (List (Option Sql.Condition))
  | [] => .ok []
  | r :: rs =>
    (outcome parameters s r).bind fun c => (outcomes parameters s rs).map (c :: ·)

end

end Rule

end EntitySearch
