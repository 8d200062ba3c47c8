import EntitySearch.Decimal.Numeral

/-!
# Backends

The SQL dialects that statements are written in. They differ in spelling only: how identifiers are
quoted, how placeholders look, what text is cast to, and how dates are formatted. Free text is
compared with parts of stored dates, for which each backend has its own notation.
-/

namespace EntitySearch.Sql

/-- A database whose dialect statements can be written in. -/
inductive Backend where
  | sqlite
  | postgres
  | mysql
deriving DecidableEq

namespace Backend

/-- The character around identifiers: a double quote, or on MySQL a grave accent. -/
def quoteMark : Backend → Char
  | mysql => '\x60'
  | _ => '"'

/-- An identifier in quotes; a quote mark inside it is doubled. -/
def quoteName (b : Backend) (name : String) : List Char :=
  b.quoteMark :: (name.toList.flatMap fun c => if c = b.quoteMark then [c, c] else [c]) ++
    [b.quoteMark]

/-- The placeholder of the value at a position, counted from 1. -/
def placeholder : Backend → Nat → List Char
  | postgres, position => '$' :: Decimal.digits position
  | _, _ => ['?']

/-- The type that values are cast to in order to be matched as text. -/
def textType : Backend → String
  | mysql => "CHAR"
  | _ => "TEXT"

/-- How a boolean reads once cast to text. -/
def booleanText : Backend → Bool → String
  | postgres, true => "true"
  | postgres, false => "false"
  | _, true => "1"
  | _, false => "0"

end Backend

/-! ## Parts of dates -/

/-- A part of a stored date or date-time, as text. -/
inductive DatePart where
  | year
  | month
  | day
  | hour
  | minute
  /-- The whole date, as `YYYY-MM-DD`. -/
  | date
  /-- Date and time to the minute, as `YYYY-MM-DD HH:MM`. -/
  | dateMinute
deriving DecidableEq

namespace DatePart

/-- The parts that a fragment of a date is looked for in. -/
def components : List DatePart := [year, month, day, hour, minute]

/-- The format that makes a backend's formatting function give the part. -/
def format : DatePart → Backend → String
  | year, .postgres => "YYYY"
  | month, .postgres => "MM"
  | day, .postgres => "DD"
  | hour, .postgres => "HH24"
  | minute, .postgres => "MI"
  | date, .postgres => "YYYY-MM-DD"
  | dateMinute, .postgres => "YYYY-MM-DD HH24:MI"
  | year, _ => "%Y"
  | month, _ => "%m"
  | day, _ => "%d"
  | hour, _ => "%H"
  | minute, .mysql => "%i"
  | minute, .sqlite => "%M"
  | date, _ => "%Y-%m-%d"
  | dateMinute, .mysql => "%Y-%m-%d %H:%i"
  | dateMinute, .sqlite => "%Y-%m-%d %H:%M"

end DatePart

/-- The function that formats a date. SQLite's takes the format before the value. -/
def Backend.dateFunction : Backend → String
  | .sqlite => "STRFTIME"
  | .postgres => "TO_CHAR"
  | .mysql => "DATE_FORMAT"

end EntitySearch.Sql
