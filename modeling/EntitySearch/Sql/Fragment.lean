import EntitySearch.Calendar.Instant
import EntitySearch.Decimal.Binary64
import EntitySearch.Sql.Backend
import EntitySearch.Uuid

/-!
# Fragments of SQL

A statement is put together from fragments: words of SQL, identifiers, and places of bound values.
Only the last step turns them into text, numbering the placeholders from left to right, so the
values of a statement are those of its fragments in the order of their placeholders, and no value
can reach the text.
-/

namespace EntitySearch.Sql

/-- A value bound to a placeholder. -/
inductive Value where
  | bool (b : Bool)
  | int (n : Int32)
  | bigInt (n : Int64)
  | bigUnsigned (n : UInt64)
  | double (x : Binary64)
  | string (s : String)
  | date (d : Calendar.Date)
  | dateTime (t : Calendar.DateTime)
  | timestamp (t : Calendar.Instant)
  | uuid (u : Uuid)
deriving DecidableEq

/-- A piece of a statement. -/
inductive Fragment where
  | words (s : String)
  | name (s : String)
  | bound (v : Value)
deriving DecidableEq

namespace Fragment

/-- The value of a fragment, if it is the place of one. -/
def value? : Fragment → Option Value
  | bound v => some v
  | _ => none

/-- The text of fragments after `seen` placeholders. -/
def charsFrom (b : Backend) : Nat → List Fragment → List Char
  | _, [] => []
  | seen, words s :: r => s.toList ++ charsFrom b seen r
  | seen, name s :: r => b.quoteName s ++ charsFrom b seen r
  | seen, bound _ :: r => b.placeholder (seen + 1) ++ charsFrom b (seen + 1) r

/-- The parts with `separator` between them. -/
def separated (separator : String) : List (List Fragment) → List Fragment
  | [] => []
  | [part] => part
  | part :: rest => part ++ words separator :: separated separator rest

end Fragment

/-- The text of fragments. -/
def sqlText (b : Backend) (fs : List Fragment) : String := String.ofList (Fragment.charsFrom b 0 fs)

/-- The bound values of fragments, in the order of their placeholders. -/
def boundValues (fs : List Fragment) : List Value := fs.filterMap Fragment.value?

theorem boundValues_append (a b : List Fragment) :
    boundValues (a ++ b) = boundValues a ++ boundValues b := by
  simp [boundValues]

end EntitySearch.Sql
