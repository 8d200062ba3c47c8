import EntitySearch.Proofs.Predicate.Refusal

/-!
# Blank filters

Where every filter that a criterion reads is absent or blank text, it is hardly ever an error
(`Criterion.refuses_blank_exactly`): only text to compare a typed attribute with is read as a value
however blank it is.

* `TypedForm.read?_blank`: no typed value is spelled by blank text.
* `Criterion.outcome_eq_none_of_blank`: what skips blank text asks for nothing.
-/

namespace EntitySearch

/-- No date, date-time, timestamp or UUID is spelled by blank text. -/
theorem TypedForm.read?_blank {t : String} (form : TypedForm) (ht : Text.isBlank t = true) :
    form.read? t = none := by
  have htrim : Text.trimChars t.toList = [] :=
    (Text.trimChars_eq_nil_iff t.toList).mpr ((Text.isBlank_iff t).mp ht)
  rw [read?, htrim]
  cases form <;> rfl

/-- A name has no value, or blank text for one. -/
def Filters.IsBlankAt (f : Filters) (key : String) : Prop :=
  ∀ v, f.get? key = some v → ∃ t, v = .text t ∧ Text.isBlank t = true

theorem Filters.IsBlankAt.given?_eq_none {f : Filters} {key : String} (h : f.IsBlankAt key) :
    f.given? key = none := by
  unfold given?
  cases hv : f.get? key with
  | none => rfl
  | some v =>
    obtain ⟨t, rfl, ht⟩ := h v hv
    simp [FilterValue.isBlankText, ht]

/-- A comparison of a typed attribute with blank text, and the error that it comes to. -/
def Criterion.ComparesBlank (s : Scope) (e : SearchError) (x : Criterion) : Prop :=
  ∃ op attr key a form t, x = .equality op attr key ∧ s.resolve attr = .ok a ∧
    a.kind.form? = some form ∧ s.filters.get? (filterKey attr key) = some (.text t) ∧
    e = .invalidFilterValue (filterKey attr key) t form.name

namespace Criterion

variable {s : Scope} {x : Criterion} {e : SearchError}

/-- A criterion that skips blank text asks for nothing where it finds no other. -/
theorem outcome_eq_none_of_blank (hx : x.skipsBlank = true)
    (hattrs : ∀ attr ∈ x.attributes, ∃ a, s.resolve attr = .ok a)
    (hblank : ∀ k ∈ x.keys s.searchKey s.fallbackSearchKey, s.filters.IsBlankAt k) :
    x.outcome s = .ok none := by
  have hneeds : x.needsFilter = true := by
    cases x with
    | textMatch _ _ _ _ | bounded _ _ _ _ | between _ _ _ | freeText _ _ => rfl
    | _ => cases hx
  rw [outcome_eq_of_given (f := .empty) hx fun k hk => (hblank k hk).given?_eq_none]
  exact outcome_eq_none hneeds hattrs fun _ _ => rfl

/-- Blank text is an error only as the value of a typed attribute. -/
theorem outcome_eq_error_iff_of_blank
    (hattrs : ∀ attr ∈ x.attributes, ∃ a, s.resolve attr = .ok a)
    (hblank : ∀ k ∈ x.keys s.searchKey s.fallbackSearchKey, s.filters.IsBlankAt k) :
    x.outcome s = .error e ↔ x.ComparesBlank s e := by
  cases x with
  | equality op attr key =>
    obtain ⟨a, ha⟩ := hattrs attr (by simp [attributes])
    rw [outcome, Scope.compareWithFilter_eq_error_iff ha]
    simp only [FilterValue.coerce_eq_error_iff]
    constructor
    · rintro ⟨v, hv, t, form, rfl, hform, -, rfl⟩
      exact ⟨op, attr, key, a, form, t, rfl, ha, hform, hv, rfl⟩
    · rintro ⟨_, _, _, a', form, t, hx, ha', hform, hv, rfl⟩
      obtain ⟨rfl, rfl, rfl⟩ := Criterion.equality.inj hx
      obtain rfl := Except.ok.inj (ha.symm.trans ha')
      obtain ⟨_, ht, hspace⟩ := hblank (filterKey attr key) (by simp [keys]) _ hv
      obtain rfl := FilterValue.text.inj ht
      exact ⟨_, hv, t, form, rfl, hform, form.read?_blank hspace, rfl⟩
  | textMatch _ _ _ _ | bounded _ _ _ _ | between _ _ _ | freeText _ _ =>
    simp [outcome_eq_none_of_blank rfl hattrs hblank, ComparesBlank]
  | blank _ _ | flag _ _ | notFlag _ _ | filterFlag _ _ _ | filterNotFlag _ _ _
  | membership _ _ _ =>
    obtain ⟨o, ho⟩ := exists_outcome_eq_ok (s := s) rfl hattrs
    simp [ho, ComparesBlank]

/-- **Blank filters.** On declared attributes, and if every filter that it reads is absent or blank
text, a criterion is an error just if it compares an attribute of dates, date-times, timestamps or
UUIDs with the blank text of a filter. Any other criterion, and this one where the filter is absent,
comes to a predicate or to nothing. -/
theorem refuses_blank_exactly (s : Scope) (x : Criterion)
    (hattrs : ∀ attr ∈ x.attributes, ∃ a, s.resolve attr = .ok a)
    (hblank : ∀ k ∈ x.keys s.searchKey s.fallbackSearchKey, s.filters.IsBlankAt k) :
    (∀ e, x.outcome s = .error e ↔ x.ComparesBlank s e) ∧
    ((∃ o, x.outcome s = .ok o) ↔ ∀ e, ¬ x.ComparesBlank s e) := by
  have herror : ∀ e, x.outcome s = .error e ↔ x.ComparesBlank s e :=
    fun e => outcome_eq_error_iff_of_blank hattrs hblank
  refine ⟨herror, ?_⟩
  simp only [← herror]
  cases x.outcome s with
  | error e => simp
  | ok o => simp

open Sample in
/-- A blank date is an error for a comparison, and none for a bound. -/
theorem refuses_blank_exactly_birthDates :
    let customers := Customer.entityWith Customer.attributes Customer.vehicleColumns
    let s : Scope := .new customers
      (.ofList [("birth_date", .text " \t"), ("birth_dateFrom", .text " ")]) .sqlite
    let born : Criterion := .equality .equal "birth_date" none
    let after : Criterion := .bounded .date .lower "birth_date" none
    (∀ x ∈ [born, after], (∀ attr ∈ x.attributes, ∃ a, s.resolve attr = .ok a) ∧
      ∀ k ∈ x.keys s.searchKey s.fallbackSearchKey, s.filters.IsBlankAt k) ∧
    born.outcome s = .error (.invalidFilterValue "birth_date" " \t" "date") ∧
    ∃ o, after.outcome s = .ok o := by
  intro customers s born after
  have hdeclared : ∀ x ∈ [born, after], ∀ attr ∈ x.attributes, ∃ a, s.resolve attr = .ok a := by
    intro x hx attr hattr
    simp only [List.mem_cons, List.not_mem_nil, or_false] at hx
    rcases hx with rfl | rfl <;>
    · obtain rfl := List.mem_singleton.mp hattr
      exact ⟨_, rfl⟩
  have hblank : ∀ x ∈ [born, after], ∀ k ∈ x.keys s.searchKey s.fallbackSearchKey,
      s.filters.IsBlankAt k := by
    intro x hx k hk v hv
    simp only [List.mem_cons, List.not_mem_nil, or_false] at hx
    rcases hx with rfl | rfl <;>
    · obtain rfl := List.mem_singleton.mp hk
      obtain rfl := Option.some.inj hv
      exact ⟨_, rfl, by decide⟩
  refine ⟨fun x hx => ⟨hdeclared x hx, hblank x hx⟩, ?_, ?_⟩
  · refine ((refuses_blank_exactly s born (hdeclared born (by simp)) (hblank born (by simp))).1
      _).mpr ?_
    exact ⟨.equal, "birth_date", none, _, .date, " \t", rfl, rfl, rfl, rfl, rfl⟩
  · refine (refuses_blank_exactly s after (hdeclared after (by simp))
      (hblank after (by simp))).2.mpr ?_
    rintro e ⟨_, _, _, _, _, _, hx, -⟩
    exact absurd hx (by simp [after])

open Sample in
/-- Blank text is not always as good as no filter: compared with a date, it is an error. -/
theorem blank_birthDate_is_refused :
    ¬ ∀ (s : Scope) (x : Criterion), (∀ attr ∈ x.attributes, ∃ a, s.resolve attr = .ok a) →
      (∀ k ∈ x.keys s.searchKey s.fallbackSearchKey, s.filters.IsBlankAt k) →
      ∀ key value expected, x.outcome s ≠ .error (.invalidFilterValue key value expected) := by
  intro hall
  let s : Scope := .new (Customer.entityWith Customer.attributes Customer.vehicleColumns)
    (.ofList [("birth_date", .text " ")]) .sqlite
  refine hall s (.equality .equal "birth_date" none) ?_ ?_ "birth_date" " " "date" rfl
  · intro attr hattr
    obtain rfl := List.mem_singleton.mp hattr
    exact ⟨_, rfl⟩
  · intro k hk v hv
    obtain rfl := List.mem_singleton.mp hk
    obtain rfl := Option.some.inj hv
    exact ⟨_, rfl, by decide⟩

end Criterion

end EntitySearch
