import EntitySearch.Paging.Sort
import EntitySearch.Sql.Where

/-!
# Statements

The queries of a search, as data. A `Selection` says which rows are meant: a table, its joins, and a
condition; the statements that count rows and those that fetch them share it, and each adds only
its own columns, order and limits. Of joins there is one kind, the left join on one pair of columns,
and a sort key is an operand with a direction.
-/

namespace EntitySearch.Sql

/-- A joined table: every row is kept, with the matching rows of the other table or with nulls. -/
structure LeftJoin where
  table : String
  left : ColumnRef
  right : ColumnRef
deriving DecidableEq

/-- The rows that a search is about. -/
structure Selection where
  table : String
  joins : List LeftJoin
  condition : Option Condition

/-- One key of an order. -/
structure SortKey where
  operand : Operand
  direction : Direction
deriving DecidableEq

/-- A query. -/
inductive Statement where
  /-- The number of rows; the rows are selected with the given columns. -/
  | countRows (columns : List ColumnRef) (rows : Selection)
  /-- A slice of the rows in order. -/
  | slice (columns : List ColumnRef) (rows : Selection) (order : List SortKey)
      (limit offset : UInt64)
  /-- The number of different values of a column. -/
  | countDistinct (column : ColumnRef) (rows : Selection)
  /-- The first different combinations of identifier, sort key and creation time, in the order of
  the sort key, the creation time and the identifier, all in one direction. -/
  | sortedIds (id : ColumnRef) (key : Operand) (created : ColumnRef) (rows : Selection)
      (direction : Direction) (limit : UInt64)
  /-- The rows of a table with one of the given identifiers. -/
  | byIds (columns : List ColumnRef) (rows : Selection)

/-- The fragments of a join, with a space in front. -/
def LeftJoin.fragments (j : LeftJoin) : List Fragment :=
  [.words " LEFT JOIN ", .name j.table, .words " ON "] ++ columnFragments j.left ++
    .words " = " :: columnFragments j.right

/-- The fragments of a condition as a clause, with a space in front. -/
def whereFragments (b : Backend) : Option Condition → List Fragment
  | none => []
  | some c => .words " WHERE " :: c.fragments b

/-- The fragments of a selection, from the table on. -/
def Selection.fragments (b : Backend) (s : Selection) : List Fragment :=
  .words " FROM " :: .name s.table :: s.joins.flatMap LeftJoin.fragments ++
    whereFragments b s.condition

/-- The fragments of a list of columns. -/
def columnsFragments (columns : List ColumnRef) : List Fragment :=
  Fragment.separated ", " (columns.map columnFragments)

/-- The fragments of one sort key. -/
def SortKey.fragments (b : Backend) (k : SortKey) : List Fragment :=
  k.operand.fragments b ++ [.words (" " ++ k.direction.keyword)]

/-- The fragments of an order, with a space in front. -/
def orderFragments (b : Backend) (order : List SortKey) : List Fragment :=
  .words " ORDER BY " :: Fragment.separated ", " (order.map (SortKey.fragments b))

/-- The fragments of a limit, with a space in front. -/
def limitFragments (limit : UInt64) : List Fragment :=
  [.words " LIMIT ", .bound (.bigUnsigned limit)]

namespace Statement

/-- The fragments of a statement. -/
def fragments (b : Backend) : Statement → List Fragment
  | countRows columns rows =>
    .words "SELECT COUNT(*) AS num_items FROM (SELECT " :: columnsFragments columns ++
      rows.fragments b ++ [.words ") AS ", .name "sub_query"]
  | slice columns rows order limit offset =>
    .words "SELECT " :: columnsFragments columns ++ rows.fragments b ++ orderFragments b order ++
      limitFragments limit ++ [.words " OFFSET ", .bound (.bigUnsigned offset)]
  | countDistinct column rows =>
    .words "SELECT COUNT(DISTINCT " :: columnFragments column ++ .words ")" :: rows.fragments b ++
      limitFragments 1
  | sortedIds id key created rows direction limit =>
    .words "SELECT DISTINCT " :: columnFragments id ++ [.words " AS ", .name "id", .words ", "] ++
      key.fragments b ++ [.words " AS ", .name "sort_key", .words ", "] ++
      columnFragments created ++ [.words " AS ", .name "tie_key"] ++ rows.fragments b ++
      orderFragments b [⟨key, direction⟩, ⟨.column created, direction⟩, ⟨.column id, direction⟩] ++
      limitFragments limit
  | byIds columns rows =>
    .words "SELECT " :: columnsFragments columns ++ rows.fragments b

/-- The text of a statement. -/
def sql (b : Backend) (s : Statement) : String := sqlText b (s.fragments b)

/-- The bound values of a statement. -/
def values (b : Backend) (s : Statement) : List Value := boundValues (s.fragments b)

end Statement

end EntitySearch.Sql
