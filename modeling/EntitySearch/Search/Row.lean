import EntitySearch.Error
import EntitySearch.Sql.Backend
import EntitySearch.Sql.Fragment

/-!
# Rows

What a store answers with, and how searches read it. A cell that is missing, null or of another type
than the one asked for cannot be read, which counts as a failure of the store.
-/

namespace EntitySearch

/-- A cell: a value, or null. -/
abbrev Cell := Option Sql.Value

/-- A row: its cells by column name, in the order of the columns. -/
abbrev Row := List (String × Cell)

/-- The answer of a store to a statement. -/
inductive Reply where
  | failure (reason : String)
  | rows (rows : List Row)

namespace Row

/-- The value in a column; none if the column is missing or null. -/
def value? (row : Row) (column : String) : Option Sql.Value := (row.lookup column).bind id

/-- The value in the first column. -/
def firstValue? (row : Row) : Option Sql.Value := row.head?.bind (·.2)

end Row

/-- A value that was read, or a failure of the store. -/
def readOr {α : Type} (v : Option α) : Except SearchError α :=
  match v with
  | some x => .ok x
  | none => .error .database

/-- The number of rows in a value: a 64-bit integer on Postgres and a 32-bit one elsewhere, taken as
64 bits without sign. -/
def rowCount? (b : Sql.Backend) (v : Sql.Value) : Option UInt64 :=
  match b, v with
  | .postgres, .bigInt n => some n.toUInt64
  | .postgres, _ => none
  | _, .int n => some n.toInt64.toUInt64
  | _, _ => none

/-- Reads the answer to a count of rows: the column `num_items` of the first row, and zero if there
is no row. -/
def readRowCount (b : Sql.Backend) : List Row → Except SearchError UInt64
  | [] => .ok 0
  | row :: _ => readOr ((row.value? "num_items").bind (rowCount? b))

/-- The number of distinct values in a value: a 64-bit integer, and zero if it is negative. -/
def distinctCount? : Sql.Value → Option UInt64
  | .bigInt n => some (if n < 0 then 0 else n.toUInt64)
  | _ => none

/-- Reads the answer to a count of distinct values: the first column of the first row, and zero if
there is no row. -/
def readDistinctCount : List Row → Except SearchError UInt64
  | [] => .ok 0
  | row :: _ => readOr (row.firstValue?.bind distinctCount?)

end EntitySearch
