import EntitySearch.Proofs.Sql.Fragment
import EntitySearch.Sql.Statement

/-!
# Statements about the same rows

Statements for one selection have the same joins and the same condition in their text, and bind the
values of the condition before anything of their own.

* `Statement.Carries`: a statement is about the rows of a selection, and binds some values of its
  own.
* `carries_countRows`, `carries_slice`, `carries_countDistinct`, `carries_sortedIds`: what the
  statements of searches carry, if no order binds values.
-/

namespace EntitySearch.Sql

variable {b : Backend}

/-! ## Fragments without values -/

theorem boundValues_columnFragments (c : ColumnRef) : boundValues (columnFragments c) = [] := rfl

theorem boundValues_columnsFragments (columns : List ColumnRef) :
    boundValues (columnsFragments columns) = [] := by
  simp [columnsFragments, Fragment.boundValues_separated, boundValues_columnFragments]

theorem boundValues_joins (joins : List LeftJoin) :
    boundValues (joins.flatMap LeftJoin.fragments) = [] := by
  induction joins with
  | nil => rfl
  | cons j js ih => simpa [boundValues_append, LeftJoin.fragments, columnFragments] using ih

theorem boundValues_orderFragments {order : List SortKey}
    (h : ∀ k ∈ order, boundValues (k.operand.fragments b) = []) :
    boundValues (orderFragments b order) = [] := by
  have hkeys : ∀ k ∈ order, boundValues (k.fragments b) = [] := by
    intro k hk
    simp [SortKey.fragments, boundValues_append, h k hk]
  simpa [orderFragments, Fragment.boundValues_separated] using hkeys

/-! ## Selections -/

namespace Selection

/-- The text of the table and the joins of a selection. -/
def sourceText (b : Backend) (rows : Selection) : String :=
  sqlText b (.words " FROM " :: .name rows.table :: rows.joins.flatMap LeftJoin.fragments)

/-- The text of the condition of a selection with its word in front; none without a condition. -/
def whereText (b : Backend) (rows : Selection) : String :=
  match rows.condition with
  | none => ""
  | some c => " WHERE " ++ c.sql b

/-- The values that the condition of a selection binds. -/
def conditionValues (b : Backend) (rows : Selection) : List Value :=
  match rows.condition with
  | none => []
  | some c => c.values b

variable (rows : Selection)

theorem sqlText_fragments :
    sqlText b (rows.fragments b) = rows.sourceText b ++ rows.whereText b := by
  have hwhere : sqlText b (whereFragments b rows.condition) = rows.whereText b := by
    unfold whereText
    cases rows.condition with
    | none => rfl
    | some c => exact String.ofList_append
  rw [Selection.fragments, sqlText_append (by simp [boundValues_joins]), hwhere]
  rfl

theorem boundValues_fragments : boundValues (rows.fragments b) = rows.conditionValues b := by
  have hwhere : boundValues (whereFragments b rows.condition) = rows.conditionValues b := by
    unfold conditionValues
    cases rows.condition <;> rfl
  simp [Selection.fragments, boundValues_append, boundValues_joins, hwhere]

end Selection

/-! ## Statements -/

namespace Statement

/-- A statement has the joins and the condition of a selection in its text, and binds the values of
the condition first, then `own`. -/
def Carries (b : Backend) (rows : Selection) (own : List Value) (s : Statement) : Prop :=
  (∃ before after, s.sql b = before ++ (rows.sourceText b ++ rows.whereText b) ++ after) ∧
    s.values b = rows.conditionValues b ++ own

variable {rows : Selection}

/-- Fragments in front of the selection bind nothing; those behind it bind what is left. -/
theorem carries_of_fragments {s : Statement} {own : List Value} (before after : List Fragment)
    (hs : s.fragments b = before ++ (rows.fragments b ++ after))
    (hbefore : boundValues before = []) (hafter : boundValues after = own) :
    s.Carries b rows own := by
  constructor
  · obtain ⟨rest, hrest⟩ := exists_sqlText_append b (rows.fragments b) after
    refine ⟨sqlText b before, rest, ?_⟩
    simp only [sql, hs, sqlText_append hbefore, hrest, rows.sqlText_fragments, String.append_assoc]
  · rw [values, hs, boundValues_append, boundValues_append, hbefore, rows.boundValues_fragments,
      hafter, List.nil_append]

theorem carries_countRows (columns : List ColumnRef) :
    (countRows columns rows).Carries b rows [] := by
  refine carries_of_fragments
    (.words "SELECT COUNT(*) AS num_items FROM (SELECT " :: columnsFragments columns)
    [.words ") AS ", .name "sub_query"] ?_ ?_ rfl
  · simp [fragments]
  · simp [boundValues_columnsFragments]

theorem carries_slice (columns : List ColumnRef) {order : List SortKey} (limit offset : UInt64)
    (horder : ∀ k ∈ order, boundValues (k.operand.fragments b) = []) :
    (slice columns rows order limit offset).Carries b rows
      [.bigUnsigned limit, .bigUnsigned offset] := by
  refine carries_of_fragments (.words "SELECT " :: columnsFragments columns)
    (orderFragments b order ++ (limitFragments limit ++
      [.words " OFFSET ", .bound (.bigUnsigned offset)])) ?_ ?_ ?_
  · simp [fragments]
  · simp [boundValues_columnsFragments]
  · simp [boundValues_append, boundValues_orderFragments horder, limitFragments]

theorem carries_countDistinct (column : ColumnRef) :
    (countDistinct column rows).Carries b rows [.bigUnsigned 1] := by
  refine carries_of_fragments
    (.words "SELECT COUNT(DISTINCT " :: (columnFragments column ++ [.words ")"]))
    (limitFragments 1) ?_ ?_ rfl
  · simp [fragments]
  · simp [boundValues_append, boundValues_columnFragments]

theorem carries_sortedIds (id created : ColumnRef) {key : Operand} (direction : Direction)
    (limit : UInt64) (hkey : boundValues (key.fragments b) = []) :
    (sortedIds id key created rows direction limit).Carries b rows [.bigUnsigned limit] := by
  have horder : boundValues (orderFragments b [⟨key, direction⟩, ⟨.column created, direction⟩,
      ⟨.column id, direction⟩]) = [] := by
    refine boundValues_orderFragments ?_
    simp [hkey, Operand.fragments, boundValues_columnFragments]
  refine carries_of_fragments
    (.words "SELECT DISTINCT " :: (columnFragments id ++
      (.words " AS " :: .name "id" :: .words ", " :: (key.fragments b ++
        (.words " AS " :: .name "sort_key" :: .words ", " :: (columnFragments created ++
          [.words " AS ", .name "tie_key"]))))))
    (orderFragments b [⟨key, direction⟩, ⟨.column created, direction⟩, ⟨.column id, direction⟩] ++
      limitFragments limit) ?_ ?_ ?_
  · simp [fragments]
  · simp [boundValues_append, boundValues_columnFragments, hkey]
  · simp [boundValues_append, horder, limitFragments]

end Statement

end EntitySearch.Sql
