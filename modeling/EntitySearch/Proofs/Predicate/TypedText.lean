import EntitySearch.Predicate.Equality
import EntitySearch.Predicate.Range
import EntitySearch.Proofs.Error
import EntitySearch.Proofs.Text.Trim

/-!
# Filters that are text of a form

What comparisons and bounds make of the text of a filter that has to be of a form.

* `TypedForm.read?_of_amidBlanks`: blank characters around the text do not count.
* `Scope.compareWithFilter_of_text`, `Scope.bounded_of_text`: the predicate has the value that the
  text is read as, and there is none if it cannot be read.
* `Scope.compareWithFilter_of_amidBlanks`, `Scope.bounded_of_amidBlanks`: the predicate of a text
  that can be read.
-/

namespace EntitySearch

namespace TypedForm

variable {form : TypedForm} {key t : String} {cs : List Char}

theorem read?_of_amidBlanks (h : Text.AmidBlanks t cs) (hcs : Text.IsTrimmed cs) :
    form.read? t = form.readChars? cs := by
  rw [read?, h.trimChars_eq hcs]

theorem parse_of_read? {v : Sql.Value} (h : form.read? t = some v) : form.parse key t = .ok v := by
  rw [parse, h]

theorem parse_of_read?_eq_none (h : form.read? t = none) :
    form.parse key t = .error (.invalidFilterValue key t form.name) := by
  rw [parse, h]

end TypedForm

namespace Scope

variable {s : Scope} {attr : String} {override : Option String} {a : Attribute} {form : TypedForm}
  {t : String} {cs : List Char}

theorem compareWithFilter_of_text (op : Sql.CompareOp) (ha : s.resolve attr = .ok a)
    (hform : a.kind.form? = some form)
    (ht : s.filters.get? (filterKey attr override) = some (.text t)) :
    s.compareWithFilter op attr override = (form.parse (filterKey attr override) t).map fun x =>
      some (.leaf (.compare op a.operand x)) := by
  simp only [compareWithFilter, ha, bind, Except.bind, ht, FilterValue.coerce, hform]
  cases form.parse (filterKey attr override) t <;> rfl

theorem bounded_of_text {family : RangeFamily} (side : Side) (ha : s.resolve attr = .ok a)
    (hform : family.form? = some form)
    (ht : s.filters.nonBlankText? (boundKey attr override side) = some t) :
    s.bounded family side attr override = (form.parse (boundKey attr override side) t).map fun x =>
      some (.leaf (.compare side.compareOp a.operand x)) := by
  simp only [bounded, ha, bind, Except.bind, RangeFamily.bound, hform, ht]
  cases form.parse (boundKey attr override side) t <;> rfl

variable {v : Sql.Value}

/-- The value that stands amid blanks is compared with. -/
theorem compareWithFilter_of_amidBlanks (op : Sql.CompareOp) (ha : s.resolve attr = .ok a)
    (hform : a.kind.form? = some form)
    (ht : s.filters.get? (filterKey attr override) = some (.text t)) (hcs : Text.AmidBlanks t cs)
    (htrimmed : Text.IsTrimmed cs) (hv : form.readChars? cs = some v) :
    s.compareWithFilter op attr override = .ok (some (.leaf (.compare op a.operand v))) := by
  have hread : form.read? t = some v := (TypedForm.read?_of_amidBlanks hcs htrimmed).trans hv
  rw [compareWithFilter_of_text op ha hform ht, TypedForm.parse_of_read? hread]
  rfl

/-- The value that stands amid blanks is the bound. -/
theorem bounded_of_amidBlanks {family : RangeFamily} (side : Side) (ha : s.resolve attr = .ok a)
    (hform : family.form? = some form)
    (ht : s.filters.get? (boundKey attr override side) = some (.text t))
    (hcs : Text.AmidBlanks t cs) (htrimmed : Text.IsTrimmed cs) (hne : cs ≠ [])
    (hv : form.readChars? cs = some v) : s.bounded family side attr override =
      .ok (some (.leaf (.compare side.compareOp a.operand v))) := by
  have htext : s.filters.nonBlankText? (boundKey attr override side) = some t := by
    rw [Filters.nonBlankText?, Filters.text?, ht, Option.bind_some, FilterValue.text?,
      Option.filter_some, hcs.isBlank_eq htrimmed hne]
    rfl
  have hread : form.read? t = some v := (TypedForm.read?_of_amidBlanks hcs htrimmed).trans hv
  rw [bounded_of_text side ha hform htext, TypedForm.parse_of_read? hread]
  rfl

end Scope

end EntitySearch
