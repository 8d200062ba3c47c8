import EntitySearch.Sql.Condition
import EntitySearch.Sql.Fragment

/-!
# Conditions as SQL

The fragments of a condition. A junction of one member is written as that member. A junction of
several stands in parentheses inside another, except as the first member of one with the same
connective, where it makes no difference; a whole condition has none around it.
-/

namespace EntitySearch.Sql

/-- The fragments of a column. -/
def columnFragments (c : ColumnRef) : List Fragment := [.name c.table, .words ".", .name c.name]

/-- The fragments of an operand. -/
def Operand.fragments (b : Backend) : Operand → List Fragment
  | column c => columnFragments c
  | upper o => .words "UPPER(" :: o.fragments b ++ [.words ")"]
  | castText o => .words "CAST(" :: o.fragments b ++ [.words (" AS " ++ b.textType ++ ")")]
  | datePart p o =>
    let format := [Fragment.bound (.string (p.format b))]
    let (first, second) := match b with
      | .sqlite => (format, o.fragments b)
      | _ => (o.fragments b, format)
    .words (b.dateFunction ++ "(") :: first ++ .words ", " :: second ++ [.words ")"]

/-- The sign of a comparison. -/
def CompareOp.sign : CompareOp → String
  | equal => " = "
  | notEqual => " <> "
  | atLeast => " >= "
  | atMost => " <= "

/-- The fragments of a comparison. -/
def Comparison.fragments (b : Backend) : Comparison → List Fragment
  | compare op o v => o.fragments b ++ [.words op.sign, .bound v]
  | isNull negated o => o.fragments b ++ [.words (if negated then " IS NOT NULL" else " IS NULL")]
  | member negated o vs =>
    o.fragments b ++ .words (if negated then " NOT IN (" else " IN (") ::
      Fragment.separated ", " (vs.map fun v => [.bound v]) ++ [.words ")"]
  | like negated o pattern =>
    o.fragments b ++ [.words (if negated then " NOT LIKE " else " LIKE "),
      .bound (.string pattern), .words " ESCAPE '!'"]

/-- The word of a connective. -/
def Connective.word : Connective → String
  | and => " AND "
  | or => " OR "

/-- What a junction of no members says: all of none hold, any of none does not. -/
def Connective.emptyWord : Connective → String
  | and => "TRUE"
  | or => "FALSE"

namespace Condition

/-- The connective that the text of a condition is joined by, if there is one. -/
def connective? : Condition → Option Connective
  | leaf _ => none
  | junction _ [] => none
  | junction _ [m] => m.connective?
  | junction op (_ :: _ :: _) => some op

/-- Whether a member of a junction stands in parentheses. -/
def needsParentheses (op : Connective) (isFirst : Bool) (member : Condition) : Bool :=
  match member.connective? with
  | none => false
  | some op' => !(isFirst && op' == op)

/-- Fragments, in parentheses if they need them. -/
def parenthesize (needed : Bool) (fs : List Fragment) : List Fragment :=
  if needed then .words "(" :: fs ++ [.words ")"] else fs

mutual

/-- The fragments of a condition. -/
def fragments (b : Backend) : Condition → List Fragment
  | leaf c => c.fragments b
  | junction op [] => [.words op.emptyWord]
  | junction _ [m] => m.fragments b
  | junction op (m :: n :: ms) =>
    parenthesize (needsParentheses op true m) (m.fragments b) ++
      laterFragments b op (n :: ms)

/-- The fragments of the members after the first, each with the connective in front. -/
def laterFragments (b : Backend) (op : Connective) : List Condition → List Fragment
  | [] => []
  | m :: ms =>
    .words op.word ::
      (parenthesize (needsParentheses op false m) (m.fragments b) ++ laterFragments b op ms)

end

/-- The text of a condition as a `WHERE` clause has it. -/
def sql (b : Backend) (c : Condition) : String := sqlText b (c.fragments b)

/-- The bound values of a condition. -/
def values (b : Backend) (c : Condition) : List Value := boundValues (c.fragments b)

end Condition

end EntitySearch.Sql
