import EntitySearch.Schema.Entity
import EntitySearch.Sql.Backend
import EntitySearch.Sql.Fragment

/-!
# Conditions

What a `WHERE` clause says, as data: comparisons of a column with bound values, joined by `AND` and
`OR`. A junction of conditions is built by `Condition.combine?`, which leaves absent members out and
is itself absent if no member is present; absence is not the same as a condition that always holds.
-/

namespace EntitySearch.Sql

/-- What a comparison looks at. -/
inductive Operand where
  | column (c : ColumnRef)
  | upper (o : Operand)
  | castText (o : Operand)
  | datePart (p : DatePart) (o : Operand)
deriving DecidableEq

/-- The comparisons with one value. -/
inductive CompareOp where
  | equal
  | notEqual
  | atLeast
  | atMost
deriving DecidableEq

/-- A comparison. `negated` turns it into its opposite. -/
inductive Comparison where
  | compare (op : CompareOp) (o : Operand) (v : Value)
  | isNull (negated : Bool) (o : Operand)
  | member (negated : Bool) (o : Operand) (vs : List Value)
  | like (negated : Bool) (o : Operand) (pattern : String)
deriving DecidableEq

/-- How the members of a junction are joined. -/
inductive Connective where
  | and
  | or
deriving DecidableEq

/-- A comparison, or several conditions joined. -/
inductive Condition where
  | leaf (c : Comparison)
  | junction (op : Connective) (members : List Condition)

namespace Condition

/-- A condition as a member of a junction: a junction of one stands for its only member. -/
def asMember : Condition → Condition
  | junction _ [m] => m
  | c => c

/-- The junction of the conditions that are present, if any is. -/
def combine? (op : Connective) (conditions : List (Option Condition)) : Option Condition :=
  match conditions.filterMap id with
  | [] => none
  | present => some (junction op (present.map asMember))

/-- All the conditions that are present. -/
def all? (conditions : List (Option Condition)) : Option Condition := combine? .and conditions

/-- Any of the conditions that are present. -/
def any? (conditions : List (Option Condition)) : Option Condition := combine? .or conditions

/-- One of the comparisons holds. -/
def anyOf (cs : List Comparison) : Condition := junction .or (cs.map leaf)

/-- All of the comparisons hold. -/
def allOf (cs : List Comparison) : Condition := junction .and (cs.map leaf)

theorem combine?_eq_none_iff (op : Connective) (conditions : List (Option Condition)) :
    combine? op conditions = none ↔ ∀ c ∈ conditions, c = none := by
  unfold combine?
  split
  · rename_i h
    simpa [List.filterMap_eq_nil_iff] using h
  · rename_i h
    constructor
    · simp
    · intro hn
      exact absurd (List.filterMap_eq_nil_iff.2 (by simpa using hn)) h

end Condition

end EntitySearch.Sql
