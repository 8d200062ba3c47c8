import EntitySearch.Sql.Fragment

/-!
# Texts and values of longer fragments

* `charsFrom_append`: the text of fragments in a row. The later ones go on counting placeholders
  where the earlier ones stop.
* `boundValues_separated`: separators bind nothing.
-/

namespace EntitySearch.Sql

variable {b : Backend} {fs gs : List Fragment}

@[simp] theorem boundValues_nil : boundValues [] = [] := rfl

@[simp] theorem boundValues_words (s : String) : boundValues (.words s :: fs) = boundValues fs := rfl

@[simp] theorem boundValues_name (s : String) : boundValues (.name s :: fs) = boundValues fs := rfl

@[simp] theorem boundValues_bound (v : Value) :
    boundValues (.bound v :: fs) = v :: boundValues fs := rfl

namespace Fragment

theorem charsFrom_append (seen : Nat) (fs gs : List Fragment) :
    charsFrom b seen (fs ++ gs) =
      charsFrom b seen fs ++ charsFrom b (seen + (boundValues fs).length) gs := by
  induction fs generalizing seen with
  | nil => rfl
  | cons f fs ih =>
    cases f with
    | words s | name s => simp [charsFrom, ih]
    | bound v =>
      have hseen : seen + 1 + (boundValues fs).length = seen + ((boundValues fs).length + 1) := by
        omega
      simp [charsFrom, ih, hseen]

theorem boundValues_separated (separator : String) (parts : List (List Fragment)) :
    boundValues (separated separator parts) = parts.flatMap boundValues := by
  induction parts with
  | nil => rfl
  | cons part parts ih =>
    cases parts with
    | nil => simp [separated]
    | cons next parts => simpa [separated, boundValues_append] using ih

end Fragment

/-- Behind fragments without values the text of others is what it is alone. -/
theorem sqlText_append (h : boundValues fs = []) :
    sqlText b (fs ++ gs) = sqlText b fs ++ sqlText b gs := by
  rw [sqlText, Fragment.charsFrom_append, h, String.ofList_append]
  rfl

/-- Fragments behind others leave their text as it is. -/
theorem exists_sqlText_append (b : Backend) (fs gs : List Fragment) :
    ∃ rest, sqlText b (fs ++ gs) = sqlText b fs ++ rest := by
  refine ⟨String.ofList (Fragment.charsFrom b (boundValues fs).length gs), ?_⟩
  rw [sqlText, Fragment.charsFrom_append, String.ofList_append, Nat.zero_add]
  rfl

end EntitySearch.Sql
