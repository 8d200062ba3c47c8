import EntitySearch.Proofs.Predicate.Refusal
import EntitySearch.Proofs.Schema.Resolution

/-!
# Attributes that are not declared

Every criterion looks up all the attributes that it names before it reads a filter
(`Criterion.names_checked_first`), so that a name that is not declared is an error whatever the
filters are.

* `Scope.attributes_eq_error_iff`: of several names, the first that is not declared is the error.
* `FilterValue.coerce_ne_unknown`, `RangeFamily.bound_ne_unknown`: what a filter holds never makes a
  name unknown.
* `Criterion.outcome_eq_unknown_iff`: an unknown attribute is one of those that the criterion names.
-/

namespace EntitySearch

variable {s : Scope} {e : SearchError} {path : String}

/-! ## Filters -/

theorem FilterValue.coerce_ne_unknown (v : FilterValue) (key : String) (kind : ScalarKind) :
    v.coerce key kind ≠ .error (.unknownAttribute path) := by
  intro h
  obtain ⟨t, form, -, -, -, he⟩ := FilterValue.coerce_eq_error_iff.mp h
  cases he

theorem RangeFamily.bound_ne_unknown (family : RangeFamily) (f : Filters) (key : String) :
    family.bound f key ≠ .error (.unknownAttribute path) := by
  intro h
  unfold bound at h
  split at h
  · cases h
  · split at h
    · cases h
    · cases (TypedForm.parse_eq_error_iff.mp (map_eq_error_iff.mp h)).2

/-! ## Attributes -/

namespace Scope

theorem resolve_eq_error_iff :
    s.resolve path = .error e ↔ ¬ s.entity.Declares path ∧ e = .unknownAttribute path :=
  Entity.resolve_eq_error_iff

theorem attributes_eq_error_iff {paths : List String} :
    s.attributes paths = .error e ↔
      ∃ path, s.entity.FirstUndeclared paths path ∧ e = .unknownAttribute path := by
  have hdeclares : ∀ p, (∃ a, s.resolve p = .ok a) ↔ s.entity.Declares p :=
    fun _ => Entity.exists_resolve_eq_ok_iff
  rw [attributes, mapM_eq_error_iff]
  simp only [hdeclares, resolve_eq_error_iff]
  constructor
  · rintro ⟨before, path, after, hpaths, hbefore, hpath, he⟩
    exact ⟨path, ⟨before, after, hpaths, hbefore, hpath⟩, he⟩
  · rintro ⟨path, ⟨before, after, hpaths, hbefore, hpath⟩, he⟩
    exact ⟨before, path, after, hpaths, hbefore, hpath, he⟩

/-- A criterion of one attribute finds it unknown just if its name is not declared. -/
theorem attributes_singleton_eq_error_iff {attr : String} :
    s.attributes [attr] = .error e ↔ s.resolve attr = .error e := by
  rw [attributes_eq_error_iff, resolve_eq_error_iff]
  simp only [Entity.firstUndeclared_singleton, and_assoc, exists_eq_left]

theorem compareWithFilter_eq_unknown_iff {op : Sql.CompareOp} {attr : String}
    {override : Option String} :
    s.compareWithFilter op attr override = .error (.unknownAttribute path) ↔
      s.resolve attr = .error (.unknownAttribute path) := by
  refine bind_eq_error_iff_of_ne fun a h => ?_
  dsimp only at h
  split at h
  · cases h
  · next v _ =>
    rw [bind_eq_error_iff_of_ne (fun _ h => by cases h)] at h
    exact v.coerce_ne_unknown _ _ h

theorem bounded_eq_unknown_iff {family : RangeFamily} {side : Side} {attr : String}
    {base : Option String} :
    s.bounded family side attr base = .error (.unknownAttribute path) ↔
      s.resolve attr = .error (.unknownAttribute path) := by
  refine bind_eq_error_iff_of_ne fun a h => ?_
  rw [bind_eq_error_iff_of_ne (fun _ h => by cases h)] at h
  exact family.bound_ne_unknown _ _ h

end Scope

namespace Criterion

/-- An attribute is unknown to a criterion if it is so among those that the criterion names. -/
theorem outcome_eq_unknown_iff {x : Criterion} :
    x.outcome s = .error (.unknownAttribute path) ↔
      s.attributes x.attributes = .error (.unknownAttribute path) := by
  cases x with
  | equality op attr key =>
    exact Scope.compareWithFilter_eq_unknown_iff.trans Scope.attributes_singleton_eq_error_iff.symm
  | textMatch _ _ attr _ | membership _ attr _ =>
    rw [attributes, Scope.attributes_singleton_eq_error_iff]
    exact bind_eq_error_iff_of_ne fun _ h => by cases h
  | flag _ attr | notFlag _ attr | filterFlag _ attr _ | filterNotFlag _ attr _ =>
    rw [attributes, Scope.attributes_singleton_eq_error_iff]
    simp only [outcome, Scope.isFlag, Scope.isNotFlag, Scope.filterIsFlag, Scope.filterIsNotFlag,
      map_eq_error_iff]
  | blank negated attr =>
    rw [attributes, Scope.attributes_singleton_eq_error_iff]
    cases negated <;> simp only [outcome, Scope.isBlank, Scope.isNotBlank, map_eq_error_iff]
  | bounded family side attr base =>
    exact Scope.bounded_eq_unknown_iff.trans Scope.attributes_singleton_eq_error_iff.symm
  | between family attr base =>
    -- The upper bound looks the attribute up again, and finds what the lower one found.
    rw [attributes, Scope.attributes_singleton_eq_error_iff, outcome, Scope.between_eq_error_iff,
      Scope.bounded_eq_unknown_iff, Scope.bounded_eq_unknown_iff]
    exact or_iff_left_of_imp And.right
  | freeText kind attrs =>
    cases kind <;> exact bind_eq_error_iff_of_ne fun _ h => by cases h

/-- **Names come first.** A path is resolved just if it is a name among the attributes of the
entity, or has a dot and is the path of a joined attribute. The attribute found has the path that was
asked for; the first attribute of a name counts, whatever is joined under it, and attributes declared
behind those of the entity leave its names alone. A criterion, whatever the filters hold, finds an
attribute unknown just if it is the first of those that it names that is not declared; so none is
unknown where all are declared. -/
theorem names_checked_first (s : Scope) :
    (∀ path, (∃ a, s.resolve path = .ok a) ↔ path ∈ s.entity.attributes.map (·.1) ∨
      '.' ∈ path.toList ∧ path ∈ s.entity.joined.map (·.fullPath)) ∧
    (∀ path a, s.resolve path = .ok a → a.path = path) ∧
    (∀ path c before after, s.entity.attributes = before ++ (path, c) :: after →
      (∀ x ∈ before, x.1 ≠ path) →
      s.resolve path = .ok ⟨path, s.entity.columnRef c, c.type.kind⟩) ∧
    (∀ path ∈ s.entity.attributes.map (·.1), ∀ attributes joined,
      (s.entity.append attributes joined).resolve path = s.resolve path) ∧
    (∀ (x : Criterion) path, x.outcome s = .error (.unknownAttribute path) ↔
      s.entity.FirstUndeclared x.attributes path) ∧
    ∀ x : Criterion, (∀ attr ∈ x.attributes, ∃ a, s.resolve attr = .ok a) →
      ∀ path, x.outcome s ≠ .error (.unknownAttribute path) := by
  have hunknown : ∀ (x : Criterion) path, x.outcome s = .error (.unknownAttribute path) ↔
      s.entity.FirstUndeclared x.attributes path := by
    intro x path
    rw [outcome_eq_unknown_iff, Scope.attributes_eq_error_iff]
    simp
  refine ⟨fun path => Entity.exists_resolve_eq_ok_iff, fun path a => Entity.path_of_resolve,
    fun path c before after => Entity.resolve_of_first, fun path => Entity.resolve_append, hunknown,
    fun x hattrs path h => ?_⟩
  exact Entity.not_firstUndeclared
    (fun attr hattr => Entity.exists_resolve_eq_ok_iff.mp (hattrs attr hattr))
    ((hunknown x path).mp h)

open Sample in
/-- A misspelt name beside dates that are none, and one among names that are searched: the misspelt
name is the error. An attribute that is declared keeps to its date, and so has another error. -/
theorem names_checked_first_misspelt :
    let customers := Customer.entityWith Customer.attributes Customer.vehicleColumns
    let f : Filters := .ofList [("birthdateFrom", .text "soon"), ("birth_dateFrom", .text "soon")]
    let s : Scope := .new customers f .postgres
    (between .date "birthdate" none).outcome s = .error (.unknownAttribute "birthdate") ∧
    (freeText .text ["name", "vehicles.model", "nme"]).outcome s =
      .error (.unknownAttribute "vehicles.model") ∧
    (between .date "birth_date" none).outcome s =
      .error (.invalidFilterValue "birth_dateFrom" "soon" "date") ∧
    ∀ path, (between .date "birth_date" none).outcome s ≠ .error (.unknownAttribute path) := by
  intro customers f s
  obtain ⟨hresolve, -, -, -, hunknown, hdeclared⟩ := names_checked_first s
  have hundeclared : ∀ path, path ∉ customers.attributes.map (·.1) →
      path ∉ customers.joined.map (·.fullPath) → ¬ customers.Declares path :=
    fun path hown hjoined h => h.elim hown fun h => hjoined h.2
  have hname : s.entity.Declares "name" := .inl (by decide)
  refine ⟨?_, ?_, rfl, ?_⟩
  · exact (hunknown _ _).mpr ⟨[], [], rfl, by simp, hundeclared _ (by decide) (by decide)⟩
  · refine (hunknown _ _).mpr ⟨["name"], ["nme"], rfl, List.forall_mem_singleton.mpr hname, ?_⟩
    exact hundeclared _ (by decide) (by decide)
  · refine hdeclared _ fun attr hattr => ?_
    obtain rfl := List.mem_singleton.mp hattr
    exact (hresolve "birth_date").mpr (.inl (by decide))

end Criterion

end EntitySearch
