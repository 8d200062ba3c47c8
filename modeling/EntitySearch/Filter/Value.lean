import EntitySearch.Decimal.Binary64
import EntitySearch.Decimal.Shortest
import EntitySearch.Json.Value
import EntitySearch.Sql.Fragment
import EntitySearch.Text.Blank

/-!
# Filter values

What a request says about one filter. JSON numbers keep the width of the integer they fit in, which
membership filters rely on; `null` and objects mean nothing as a filter, and a list with such a hole
directly in it is taken as empty, so that it matches no column type.

* `FilterValue.text?`: the view of text filters, which lists lack.
* `FilterValue.number?`: the view of numeric bounds, which also reads numerals in text.
-/

namespace EntitySearch

inductive FilterValue where
  | bool (b : Bool)
  | int (n : Int32)
  | long (n : Int64)
  | float (x : Binary64)
  | text (s : String)
  | list (items : List FilterValue)

namespace FilterValue

/-- An integer token: 32 bits if they suffice, else 64, else the nearest double. -/
def ofInt (n : Int) : FilterValue :=
  if -0x80000000 ≤ n ∧ n < 0x80000000 then int (Int32.ofInt n)
  else if -0x8000000000000000 ≤ n ∧ n < 0x8000000000000000 then long (Int64.ofInt n)
  else float (Binary64.ofRatio (n < 0) n.natAbs 1)

/-- A JSON number. -/
def ofNumber : Json.Number → FilterValue
  | .integer n => ofInt n
  | .double x => float x

mutual

/-- The filter value of a JSON value, if it has one. -/
def ofJson? : Json → Option FilterValue
  | .null | .object _ | .unreadable => none
  | .bool b => some (bool b)
  | .number n => some (ofNumber n)
  | .string s => some (text s)
  | .array items => some (list ((listOfJson? items).getD []))

/-- The values of all items, if every item has one. -/
def listOfJson? : List Json → Option (List FilterValue)
  | [] => some []
  | v :: r =>
    match ofJson? v, listOfJson? r with
    | some x, some xs => some (x :: xs)
    | _, _ => none

end

/-- A scalar as text. -/
def text? : FilterValue → Option String
  | text s => some s
  | bool b => some (if b then "true" else "false")
  | int n => some (Decimal.intText n.toInt)
  | long n => some (Decimal.intText n.toInt)
  | float x => some (Decimal.plainText x)
  | list _ => none

/-- The number that text spells once trimmed: a 64-bit integer before anything else, so that no
integer passes through a double. -/
def numberOfText? (s : String) : Option Sql.Value :=
  let cs := Text.trimChars s.toList
  ((Decimal.readInt64? cs).map .bigInt).or ((Decimal.readBinary64? cs).map .double)

/-- A number, or text that spells one. -/
def number? : FilterValue → Option Sql.Value
  | int n => some (.int n)
  | long n => some (.bigInt n)
  | float x => some (.double x)
  | text s => numberOfText? s
  | bool _ | list _ => none

mutual

/-- Whether two values are equal. Values of different kinds never are, and floats compare as
numbers: a NaN differs from itself. -/
def same : FilterValue → FilterValue → Bool
  | bool a, bool b => a == b
  | int a, int b => a == b
  | long a, long b => a == b
  | float a, float b => a.same b
  | text a, text b => a == b
  | list a, list b => sameList a b
  | _, _ => false

/-- Whether two lists are equal item by item. -/
def sameList : List FilterValue → List FilterValue → Bool
  | [], [] => true
  | a :: r, b :: s => same a b && sameList r s
  | _, _ => false

end

end FilterValue

end EntitySearch
