import EntitySearch.Proofs.Predicate.Reads

/-!
# Refused filters

Which filters are errors, and which are left out because they do not suit a criterion
(`Criterion.refuses_exactly`).

* `Refusal`: a filter whose text is not of the form that is asked for, with its error.
* `Criterion.Refuses`: the filter that a criterion refuses, if it refuses one: text to compare a
  typed attribute with, and bounds of dates and times, the lower before the upper.
* `FilterValue.coerce_eq_error_iff`, `RangeFamily.bound_eq_error_iff`: where errors come from.
-/

namespace EntitySearch

/-- A filter that is refused: its name, its text as it was given, and the form that it lacks. -/
structure Refusal where
  key : String
  text : String
  form : TypedForm

/-- The error of a refused filter. -/
def Refusal.error (r : Refusal) : SearchError := .invalidFilterValue r.key r.text r.form.name

/-- Where refused filters are the only errors, there is a result if none is refused. -/
theorem exists_eq_ok_iff_of_refusals {α : Type} {x : Except SearchError α} {P : Refusal → Prop}
    (h : ∀ e, x = .error e ↔ ∃ r, P r ∧ e = r.error) : (∃ a, x = .ok a) ↔ ∀ r, ¬ P r := by
  cases x with
  | error e =>
    obtain ⟨r, hr, -⟩ := (h e).mp rfl
    simpa using ⟨r, hr⟩
  | ok a =>
    simp only [Except.ok.injEq, exists_eq', true_iff]
    intro r hr
    cases (h r.error).mpr ⟨r, hr, rfl⟩

/-- A family of ranges refuses a bound: it has a form, and the value, as text, is not of that form. -/
def RangeFamily.Refuses (family : RangeFamily) (filters : Filters) (r : Refusal) : Prop :=
  family.form? = some r.form ∧ filters.text? r.key = some r.text ∧ r.form.read? r.text = none

/-- The filter that a criterion refuses. -/
def Criterion.Refuses (s : Scope) (r : Refusal) : Criterion → Prop
  | equality _ attr key =>
    r.key = filterName attr key ∧ s.filters.get? r.key = some (.text r.text) ∧
      (∃ a, s.resolve attr = .ok a ∧ a.kind.form? = some r.form) ∧ r.form.read? r.text = none
  | bounded family side attr base =>
    r.key = boundName attr base side ∧ family.Refuses s.filters r
  | between family attr base =>
    (r.key = boundName attr base .lower ∧ family.Refuses s.filters r) ∨
      (r.key = boundName attr base .upper ∧ family.Refuses s.filters r ∧
        ∀ r', r'.key = boundName attr base .lower → ¬ family.Refuses s.filters r')
  | _ => False

/-- Whether a criterion may refuse a filter. -/
def Criterion.mayRefuse : Criterion → Bool
  | equality _ _ _ | bounded _ _ _ _ | between _ _ _ => true
  | _ => false

variable {e : SearchError} {key : String}

/-! ## Values -/

theorem TypedForm.parse_eq_error_iff {form : TypedForm} {t : String} :
    form.parse key t = .error e ↔ form.read? t = none ∧ e = Refusal.error ⟨key, t, form⟩ := by
  unfold parse
  cases form.read? t with
  | none => simp [Refusal.error, eq_comm]
  | some v => simp

/-- Only text is refused as a value to compare with, and only for kinds that have a form. -/
theorem FilterValue.coerce_eq_error_iff {v : FilterValue} {kind : ScalarKind} :
    v.coerce key kind = .error e ↔
      ∃ t form, v = .text t ∧ kind.form? = some form ∧ form.read? t = none ∧
        e = Refusal.error ⟨key, t, form⟩ := by
  cases v with
  | text t =>
    unfold coerce
    cases kind.form? with
    | none => simp
    | some form => simp [map_eq_error_iff, TypedForm.parse_eq_error_iff]
  | _ => simp [coerce]

/-- Text that is not blank is seen as it is. -/
theorem Filters.nonBlankText?_eq_text? {f : Filters}
    (hblank : ∀ t, f.get? key = some (.text t) → Text.isBlank t = false) :
    f.nonBlankText? key = f.text? key := by
  unfold nonBlankText? text?
  cases hv : f.get? key with
  | none => rfl
  | some v =>
    have hfilled : v.isBlankText = false := by
      cases v with
      | text t => exact hblank t hv
      | _ => rfl
    rw [Option.bind_some]
    cases ht : v.text? with
    | none => rfl
    | some t => rw [Option.filter_some, FilterValue.isBlank_text? ht hfilled]; rfl

/-- Bounds of families with a form are refused if they have a text that is not of the form. -/
theorem RangeFamily.bound_eq_error_iff {family : RangeFamily} {f : Filters}
    (hblank : ∀ t, f.get? key = some (.text t) → Text.isBlank t = false) :
    family.bound f key = .error e ↔
      ∃ r : Refusal, (r.key = key ∧ family.Refuses f r) ∧ e = r.error := by
  unfold bound
  rw [Filters.nonBlankText?_eq_text? hblank]
  cases hform : family.form? with
  | none => simp [Refuses, hform]
  | some form =>
    constructor
    · intro h
      cases ht : f.text? key with
      | none => simp [ht] at h
      | some t =>
        simp only [ht, map_eq_error_iff, TypedForm.parse_eq_error_iff] at h
        exact ⟨⟨key, t, form⟩, ⟨rfl, hform, ht, h.1⟩, h.2⟩
    · rintro ⟨r, ⟨rfl, hr, ht, hread⟩, rfl⟩
      obtain rfl := Option.some.inj (hform.symm.trans hr)
      simp only [ht, map_eq_error_iff, TypedForm.parse_eq_error_iff, and_true]
      exact hread

/-! ## Criteria -/

variable {s : Scope} {attr : String} {a : Attribute}

namespace Scope

theorem compareWithFilter_eq_error_iff {op : Sql.CompareOp} {override : Option String}
    (ha : s.resolve attr = .ok a) :
    s.compareWithFilter op attr override = .error e ↔
      ∃ v, s.filters.get? (filterKey attr override) = some v ∧
        v.coerce (filterKey attr override) a.kind = .error e := by
  rw [compareWithFilter, ha, bind_eq_error_iff]
  simp only [reduceCtorEq, Except.ok.injEq, exists_eq_left', false_or]
  cases s.filters.get? (filterKey attr override) with
  | none => simp [pure, Except.pure]
  | some v => simp [bind_eq_error_iff, pure, Except.pure]

variable {family : RangeFamily} {side : Side} {base : Option String}

theorem bounded_eq_error_iff (ha : s.resolve attr = .ok a)
    (hblank : ∀ t, s.filters.get? (boundKey attr base side) = some (.text t) →
      Text.isBlank t = false) :
    s.bounded family side attr base = .error e ↔
      ∃ r : Refusal, (r.key = boundKey attr base side ∧ family.Refuses s.filters r) ∧
        e = r.error := by
  rw [← RangeFamily.bound_eq_error_iff hblank, bounded, ha, bind_eq_error_iff]
  simp only [reduceCtorEq, Except.ok.injEq, exists_eq_left', false_or, bind_eq_error_iff]
  simp [pure, Except.pure]

/-- The lower bound is read first: only where it is not refused can the upper one be. -/
theorem between_eq_error_iff :
    s.between family attr base = .error e ↔
      s.bounded family .lower attr base = .error e ∨
        (∃ o, s.bounded family .lower attr base = .ok o) ∧
          s.bounded family .upper attr base = .error e := by
  simp only [between, bind_eq_error_iff]
  simp [pure, Except.pure]

end Scope

namespace Criterion

/-- A criterion that takes whatever it finds comes to something on declared attributes. -/
theorem exists_outcome_eq_ok {x : Criterion} (hx : x.mayRefuse = false)
    (hattrs : ∀ attr ∈ x.attributes, ∃ a, s.resolve attr = .ok a) :
    ∃ o, x.outcome s = .ok o := by
  cases x with
  | textMatch _ _ attr _ | membership _ attr _ | flag _ attr | notFlag _ attr
  | filterFlag _ attr _ | filterNotFlag _ attr _ =>
    obtain ⟨a, ha⟩ := hattrs attr (by simp [attributes])
    simp only [outcome, Scope.matchFilterText, Scope.membership, Scope.isFlag, Scope.isNotFlag,
      Scope.filterIsFlag, Scope.filterIsNotFlag, ha]
    exact ⟨_, rfl⟩
  | blank negated attr =>
    obtain ⟨a, ha⟩ := hattrs attr (by simp [attributes])
    cases negated <;>
    · simp only [outcome, Scope.isBlank, Scope.isNotBlank, ha]
      exact ⟨_, rfl⟩
  | freeText kind attrs =>
    obtain ⟨as, has⟩ := Scope.exists_attributes_eq hattrs
    replace has : s.attributes attrs = .ok as := has
    cases kind <;>
    · simp only [outcome, Scope.search, Scope.searchNumeric, Scope.searchBoolean,
        Scope.searchDates, has]
      exact ⟨_, rfl⟩
  | equality _ _ _ | bounded _ _ _ _ | between _ _ _ => cases hx

/-- The error of a criterion on declared attributes is that of the filter that it refuses. -/
theorem outcome_eq_error_iff {x : Criterion}
    (hattrs : ∀ attr ∈ x.attributes, ∃ a, s.resolve attr = .ok a)
    (hblank : ∀ k ∈ x.keys s.searchKey s.fallbackSearchKey, ∀ t,
      s.filters.get? k = some (.text t) → Text.isBlank t = false) :
    x.outcome s = .error e ↔ ∃ r, x.Refuses s r ∧ e = r.error := by
  cases x with
  | equality op attr key =>
    obtain ⟨a, ha⟩ := hattrs attr (by simp [attributes])
    rw [outcome, Scope.compareWithFilter_eq_error_iff ha]
    simp only [FilterValue.coerce_eq_error_iff, Refuses, filterName_eq]
    constructor
    · rintro ⟨v, hv, t, form, rfl, hform, hread, rfl⟩
      exact ⟨⟨filterKey attr key, t, form⟩, ⟨rfl, hv, ⟨a, ha, hform⟩, hread⟩, rfl⟩
    · rintro ⟨⟨k, t, form⟩, ⟨rfl, hv, ⟨a', ha', hform⟩, hread⟩, rfl⟩
      obtain rfl := Except.ok.inj (ha.symm.trans ha')
      exact ⟨_, hv, t, form, rfl, hform, hread, rfl⟩
  | bounded family side attr base =>
    obtain ⟨a, ha⟩ := hattrs attr (by simp [attributes])
    simp only [Refuses, boundName_eq]
    exact Scope.bounded_eq_error_iff ha (hblank (Scope.boundKey attr base side) (by simp [keys]))
  | between family attr base =>
    obtain ⟨a, ha⟩ := hattrs attr (by simp [attributes])
    have hlower := hblank (Scope.boundKey attr base .lower) (by simp [keys])
    have hupper := hblank (Scope.boundKey attr base .upper) (by simp [keys])
    have hlow : (∃ o, s.bounded family .lower attr base = .ok o) ↔
        ∀ r : Refusal, ¬ (r.key = Scope.boundKey attr base .lower ∧ family.Refuses s.filters r) :=
      exists_eq_ok_iff_of_refusals fun _ => Scope.bounded_eq_error_iff ha hlower
    rw [outcome, Scope.between_eq_error_iff, hlow, Scope.bounded_eq_error_iff ha hlower,
      Scope.bounded_eq_error_iff ha hupper]
    simp only [Refuses, boundName_eq]
    constructor
    · rintro (⟨r, hr, he⟩ | ⟨hfirst, r, ⟨hkey, hr⟩, he⟩)
      · exact ⟨r, .inl hr, he⟩
      · exact ⟨r, .inr ⟨hkey, hr, fun r' hkey' hr' => hfirst r' ⟨hkey', hr'⟩⟩, he⟩
    · rintro ⟨r, hr | ⟨hkey, hr, hfirst⟩, he⟩
      · exact .inl ⟨r, hr, he⟩
      · exact .inr ⟨fun r' hr' => hfirst r' hr'.1 hr'.2, r, ⟨hkey, hr⟩, he⟩
  | textMatch _ _ _ _ | blank _ _ | flag _ _ | notFlag _ _ | filterFlag _ _ _
  | filterNotFlag _ _ _ | membership _ _ _ | freeText _ _ =>
    obtain ⟨o, ho⟩ := exists_outcome_eq_ok rfl hattrs
    simp [ho, Refuses]

end Criterion

end EntitySearch
