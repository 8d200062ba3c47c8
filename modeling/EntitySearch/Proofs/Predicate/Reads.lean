import EntitySearch.Proofs.Filter.Given
import EntitySearch.Proofs.Predicate.Outcome
import EntitySearch.Sample.Customer

/-!
# What rules read

A rule depends on the filters that its criteria name and on no others (`Rule.reads_only`). A filter
that is not given is as good as a criterion that is not there.

* `filterName`, `boundName`: the names of filters. `Criterion.attributes`, `Criterion.keys`: the
  attributes that a criterion names, and the filters that it reads.
* `Rule.uses`: the criteria of a rule, each with the place that says where it finds its filters.
  `Rule.outcome_congr`: what these come to decides what the rule comes to.
* `Criterion.outcome_eq_of_views`: text, ranges and searches see no more of a filter than its text
  and its number; only ranges of numbers look at the number.
-/

namespace EntitySearch

/-! ## Names in a criterion -/

/-- The name of the filter for an attribute: one that is given in place of the attribute's own, unless
it is blank. -/
def filterName (attr : String) : Option String → String
  | none => attr
  | some name => if name.toList.all Text.isBlankChar then attr else name

/-- The name of the filter for a bound. -/
def boundName (attr : String) (base : Option String) : Side → String
  | .lower => filterName attr base ++ "From"
  | .upper => filterName attr base ++ "To"

@[simp] theorem filterName_eq (attr : String) (override : Option String) :
    filterName attr override = filterKey attr override := by
  cases override with
  | none => rfl
  | some name =>
    rw [filterName, filterKey, Option.filter_some, Text.isBlank]
    cases name.toList.all Text.isBlankChar <;> rfl

@[simp] theorem boundName_eq (attr : String) (base : Option String) (side : Side) :
    boundName attr base side = Scope.boundKey attr base side := by
  cases side <;> rw [boundName, filterName_eq] <;> rfl

namespace Criterion

/-- The attributes that a criterion names. -/
def attributes : Criterion → List String
  | equality _ attr _ | textMatch _ _ attr _ | blank _ attr | flag _ attr | notFlag _ attr
  | filterFlag _ attr _ | filterNotFlag _ attr _ | membership _ attr _ | bounded _ _ attr _
  | between _ attr _ => [attr]
  | freeText _ attrs => attrs

/-- The filters that a criterion reads, given the names for free text. -/
def keys (searchKey fallback : String) : Criterion → List String
  | equality _ attr key | textMatch _ _ attr key | filterFlag _ attr key
  | filterNotFlag _ attr key | membership _ attr key => [filterName attr key]
  | bounded _ side attr base => [boundName attr base side]
  | between _ attr base => [boundName attr base .lower, boundName attr base .upper]
  | freeText _ _ => [searchKey, fallback]
  | blank _ _ | flag _ _ | notFlag _ _ => []

/-- Whether a criterion asks for nothing unless a filter is given. -/
def needsFilter : Criterion → Bool
  | blank _ _ | flag _ _ | notFlag _ _ | filterNotFlag _ _ _ => false
  | _ => true

/-- Whether blank text is no value for a criterion. It is one to compare an attribute with. -/
def skipsBlank : Criterion → Bool
  | textMatch _ _ _ _ | bounded _ _ _ _ | between _ _ _ | freeText _ _ => true
  | _ => false

/-- Whether a criterion looks for numbers in its filters. -/
def readsNumbers : Criterion → Bool
  | bounded .number _ _ _ | between .number _ _ => true
  | _ => false

end Criterion

/-! ## Criteria under other filters -/

variable {s : Scope} {f g : Filters}

theorem RangeFamily.bound_congr {family : RangeFamily} {key : String}
    (htext : f.nonBlankText? key = g.nonBlankText? key)
    (hnumber : family = .number → f.number? key = g.number? key) :
    family.bound f key = family.bound g key := by
  cases family with
  | number => exact congrArg Except.ok (hnumber rfl)
  | date | dateTime | instant =>
    simp only [bound, form?, htext]

namespace Scope

/-- The scope with other filters. -/
def withFilters (s : Scope) (f : Filters) : Scope := { s with filters := f }

theorem bounded_congr {family : RangeFamily} {side : Side} {attr : String} {base : Option String}
    (h : family.bound s.filters (boundKey attr base side) =
      family.bound f (boundKey attr base side)) :
    s.bounded family side attr base = (s.withFilters f).bounded family side attr base := by
  unfold bounded
  rw [h]
  rfl

theorem searchText?_congr (h : s.filters.nonBlankText? s.searchKey = f.nonBlankText? s.searchKey)
    (hfallback : s.filters.nonBlankText? s.fallbackSearchKey =
      f.nonBlankText? s.fallbackSearchKey) :
    s.searchText? = (s.withFilters f).searchText? := by
  unfold searchText?
  rw [h, hfallback]
  rfl

/-- Attributes that are all declared are found. -/
theorem exists_attributes_eq {paths : List String}
    (h : ∀ path ∈ paths, ∃ a, s.resolve path = .ok a) :
    ∃ attributes, s.attributes paths = .ok attributes := by
  induction paths with
  | nil => exact ⟨[], rfl⟩
  | cons path paths ih =>
    obtain ⟨a, ha⟩ := h path List.mem_cons_self
    obtain ⟨as, has⟩ := ih fun path' hpath' => h path' (List.mem_cons_of_mem path hpath')
    refine ⟨a :: as, ?_⟩
    rw [attributes, List.mapM_cons, bind_eq_ok_iff]
    exact ⟨a, ha, bind_eq_ok_iff.mpr ⟨as, has, rfl⟩⟩

end Scope

namespace Criterion

/-- A criterion that skips blank text depends on the text of the filters that it reads and, if it is
a range of numbers, on their numbers. -/
theorem outcome_eq_of_views {x : Criterion} (hx : x.skipsBlank = true)
    (htext : ∀ k ∈ x.keys s.searchKey s.fallbackSearchKey,
      s.filters.nonBlankText? k = f.nonBlankText? k)
    (hnumber : x.readsNumbers = true →
      ∀ k ∈ x.keys s.searchKey s.fallbackSearchKey, s.filters.number? k = f.number? k) :
    x.outcome s = x.outcome (s.withFilters f) := by
  cases x with
  | textMatch anchor negated attr key =>
    have hkey := htext (filterKey attr key) (by simp [keys])
    show s.matchFilterText anchor negated attr key = _
    rw [Scope.matchFilterText, hkey]
    rfl
  | bounded family side attr base =>
    have hkey : Scope.boundKey attr base side ∈
        (bounded family side attr base).keys s.searchKey s.fallbackSearchKey := by simp [keys]
    refine Scope.bounded_congr (RangeFamily.bound_congr (htext _ hkey) ?_)
    rintro rfl
    exact hnumber rfl _ hkey
  | between family attr base =>
    have hside : ∀ side, s.bounded family side attr base =
        (s.withFilters f).bounded family side attr base := by
      intro side
      have hkey : Scope.boundKey attr base side ∈
          (between family attr base).keys s.searchKey s.fallbackSearchKey := by
        cases side <;> simp [keys]
      refine Scope.bounded_congr (RangeFamily.bound_congr (htext _ hkey) ?_)
      rintro rfl
      exact hnumber rfl _ hkey
    show s.between family attr base = (s.withFilters f).between family attr base
    unfold Scope.between
    rw [hside .lower, hside .upper]
  | freeText kind attrs =>
    have hsearch := Scope.searchText?_congr (htext s.searchKey (by simp [keys]))
      (htext s.fallbackSearchKey (by simp [keys]))
    cases kind with
    | text =>
      show s.search attrs = _
      rw [Scope.search, hsearch]
      rfl
    | numeric =>
      show s.searchNumeric attrs = _
      rw [Scope.searchNumeric, hsearch]
      rfl
    | boolean =>
      show s.searchBoolean attrs = _
      rw [Scope.searchBoolean, hsearch]
      rfl
    | dates =>
      show s.searchDates attrs = _
      rw [Scope.searchDates, hsearch]
      rfl
  | _ => cases hx

/-- A criterion that skips blank text depends on what is given under the names that it reads. -/
theorem outcome_eq_of_given {x : Criterion} (hx : x.skipsBlank = true)
    (h : ∀ k ∈ x.keys s.searchKey s.fallbackSearchKey, s.filters.given? k = f.given? k) :
    x.outcome s = x.outcome (s.withFilters f) :=
  outcome_eq_of_views hx (fun k hk => Filters.nonBlankText?_congr (h k hk))
    fun _ k hk => Filters.number?_congr (h k hk)

/-- A criterion depends on the filters that it reads. -/
theorem outcome_congr {x : Criterion}
    (h : ∀ k ∈ x.keys s.searchKey s.fallbackSearchKey, s.filters.get? k = f.get? k) :
    x.outcome s = x.outcome (s.withFilters f) := by
  cases x with
  | textMatch _ _ _ _ | bounded _ _ _ _ | between _ _ _ | freeText _ _ =>
    exact outcome_eq_of_given rfl fun k hk => Filters.given?_congr (h k hk)
  | equality op attr key =>
    show s.compareWithFilter op attr key = _
    unfold Scope.compareWithFilter
    dsimp only
    rw [h (filterKey attr key) (by simp [keys])]
    rfl
  | membership negated attr key =>
    show s.membership negated attr key = _
    rw [Scope.membership, h (filterKey attr key) (by simp [keys])]
    rfl
  | filterFlag value attr key =>
    show s.filterIsFlag value attr key = _
    rw [Scope.filterIsFlag, Scope.flagOf?, h (filterKey attr key) (by simp [keys])]
    rfl
  | filterNotFlag value attr key =>
    show s.filterIsNotFlag value attr key = _
    rw [Scope.filterIsNotFlag, Scope.flagOf?, Filters.contains,
      h (filterKey attr key) (by simp [keys])]
    rfl
  | blank negated attr => cases negated <;> rfl
  | flag _ _ | notFlag _ _ => rfl

/-- Without the filters that it needs, a criterion asks for nothing. -/
theorem outcome_eq_none {x : Criterion} (hx : x.needsFilter = true)
    (hattrs : ∀ attr ∈ x.attributes, ∃ a, s.resolve attr = .ok a)
    (h : ∀ k ∈ x.keys s.searchKey s.fallbackSearchKey, s.filters.get? k = none) :
    x.outcome s = .ok none := by
  -- No filters at all come to the same, and with none there is nothing left to read.
  rw [outcome_congr (f := .empty) h]
  cases x with
  | equality _ attr _ | textMatch _ _ attr _ | filterFlag _ attr _ | membership _ attr _ =>
    obtain ⟨a, ha⟩ := hattrs attr (by simp [attributes])
    replace ha : (s.withFilters .empty).resolve attr = .ok a := ha
    simp only [outcome, Scope.compareWithFilter, Scope.matchFilterText, Scope.filterIsFlag,
      Scope.isFlag, Scope.membership, ha]
    rfl
  | bounded family _ attr _ | between family attr _ =>
    obtain ⟨a, ha⟩ := hattrs attr (by simp [attributes])
    replace ha : (s.withFilters .empty).resolve attr = .ok a := ha
    simp only [outcome, Scope.between, Scope.bounded, ha]
    cases family <;> rfl
  | freeText kind attrs =>
    obtain ⟨as, has⟩ := Scope.exists_attributes_eq hattrs
    replace has : (s.withFilters .empty).attributes attrs = .ok as := has
    cases kind <;>
    · simp only [outcome, Scope.search, Scope.searchNumeric, Scope.searchBoolean,
        Scope.searchDates, has]
      rfl
  | _ => cases hx

end Criterion

/-! ## The criteria of a rule in their places -/

/-- Where filters come from: the request, or the caller, who may supply parameters beside it. -/
inductive Source where
  | request
  | caller
deriving DecidableEq

/-- The filters of a source. -/
def Source.pick (filters parameters : Filters) : Source → Filters
  | request => filters
  | caller => parameters

/-- A place in a rule: the source of the filters there, and the names for free text. -/
structure Place where
  source : Source
  searchKey : String
  fallbackSearchKey : String

/-- The place of the parameters, where the names for free text are the usual ones. -/
def Place.parameters : Place := ⟨.caller, "search", "searchText"⟩

/-- The scope of a place. -/
def Place.scope (l : Place) (e : Entity) (b : Sql.Backend) (filters parameters : Filters) : Scope :=
  ⟨e, l.source.pick filters parameters, b, l.searchKey, l.fallbackSearchKey⟩

namespace Rule

mutual

/-- The criteria of a rule, each with its place, from the place of the rule. -/
def uses (l : Place) : Rule → List (Place × Criterion)
  | nothing => []
  | criterion x => [(l, x)]
  | all rules => usesOf l rules
  | any rules => usesOf l rules
  | withSearchKeys key fallback rule =>
    uses { l with searchKey := key, fallbackSearchKey := fallback } rule
  | overParameters rule => uses .parameters rule

/-- The criteria of several rules. -/
def usesOf (l : Place) : List Rule → List (Place × Criterion)
  | [] => []
  | r :: rs => uses l r ++ usesOf l rs

end

/-- The names that a rule reads from a source. -/
def keysFrom (source : Source) (l : Place) (rule : Rule) : List String :=
  ((rule.uses l).filter fun u => u.1.source = source).flatMap fun u =>
    u.2.keys u.1.searchKey u.1.fallbackSearchKey

theorem mem_usesOf {l : Place} {rules : List Rule} {u : Place × Criterion} :
    u ∈ usesOf l rules ↔ ∃ r ∈ rules, u ∈ r.uses l := by
  induction rules with
  | nil => simp [usesOf]
  | cons r rs ih => simp [usesOf, ih]

theorem outcomes_congr {p q : Filters} {s t : Scope} {rules : List Rule}
    (h : ∀ r ∈ rules, r.outcome p s = r.outcome q t) :
    outcomes p s rules = outcomes q t rules := by
  induction rules with
  | nil => rfl
  | cons r rs ih =>
    rw [outcomes, outcomes, h r List.mem_cons_self, ih fun r' hr' => h r' (List.mem_cons_of_mem r hr')]

variable {e : Entity} {b : Sql.Backend} {f g p q : Filters}

/-- The criteria of a rule decide what it comes to. -/
theorem outcome_congr {l : Place} {rule : Rule}
    (h : ∀ u ∈ rule.uses l, u.2.outcome (u.1.scope e b f p) = u.2.outcome (u.1.scope e b g q)) :
    rule.outcome p (l.scope e b f p) = rule.outcome q (l.scope e b g q) := by
  induction rule using Rule.induction generalizing l with
  | nothing => rfl
  | criterion x => exact h (l, x) (List.mem_singleton.mpr rfl)
  | all rules ih | any rules ih =>
    rw [outcome, outcome, outcomes_congr fun r hr => ih r hr fun u hu => h u ?_]
    exact mem_usesOf.mpr ⟨r, hr, hu⟩
  | withSearchKeys key fallback r ih => exact ih h
  | overParameters r ih => exact ih h

/-! ## Members that ask for nothing -/

theorem outcomes_append (p : Filters) (s : Scope) (before after : List Rule) :
    outcomes p s (before ++ after) =
      (outcomes p s before).bind fun cs => (outcomes p s after).map (cs ++ ·) := by
  induction before with
  | nil =>
    rw [List.nil_append, outcomes]
    cases outcomes p s after <;> rfl
  | cons r rs ih =>
    rw [List.cons_append, outcomes, outcomes, ih]
    cases r.outcome p s with
    | error e => rfl
    | ok c =>
      cases outcomes p s rs with
      | error e => rfl
      | ok cs => cases outcomes p s after <;> rfl

/-- A rule that comes to nothing can be taken out of a list of rules. -/
theorem outcomes_delete {s : Scope} {r : Rule} (h : r.outcome p s = .ok none)
    (before after : List Rule) (op : Sql.Connective) :
    (outcomes p s (before ++ r :: after)).map (Sql.Condition.combine? op) =
      (outcomes p s (before ++ after)).map (Sql.Condition.combine? op) := by
  rw [outcomes_append, outcomes_append, outcomes, h]
  cases outcomes p s before with
  | error e => rfl
  | ok cs =>
    cases outcomes p s after with
    | error e => rfl
    | ok ds =>
      have hcombine : Sql.Condition.combine? op (cs ++ none :: ds) =
          Sql.Condition.combine? op (cs ++ ds) := by
        simp [Sql.Condition.combine?]
      exact congrArg Except.ok hcombine

/-- **What rules read.** A rule comes to the same, error, nothing or condition, under filters and
parameters that agree on the names that it reads from them. A criterion that needs a filter asks for
nothing without it, so that it may as well not be there. Where blank text is no value, it is as good
as none. -/
theorem reads_only (e : Entity) (b : Sql.Backend) :
    (∀ (rule : Rule) (searchKey fallback : String) (f g p q : Filters),
      (∀ source, ∀ k ∈ rule.keysFrom source ⟨.request, searchKey, fallback⟩,
        (source.pick f p).get? k = (source.pick g q).get? k) →
      rule.outcome p ⟨e, f, b, searchKey, fallback⟩ =
        rule.outcome q ⟨e, g, b, searchKey, fallback⟩) ∧
    (∀ (s : Scope) (x : Criterion), x.needsFilter = true →
      (∀ attr ∈ x.attributes, ∃ a, s.resolve attr = .ok a) →
      (∀ k ∈ x.keys s.searchKey s.fallbackSearchKey, s.filters.get? k = none) →
      x.outcome s = .ok none ∧ ∀ (before after : List Rule) (p : Filters),
        (all (before ++ criterion x :: after)).outcome p s = (all (before ++ after)).outcome p s ∧
        (any (before ++ criterion x :: after)).outcome p s = (any (before ++ after)).outcome p s) ∧
    (∀ (s : Scope) (x : Criterion), x.skipsBlank = true →
      ∀ k t, Text.isBlank t = true →
        x.outcome (s.withFilters (s.filters.insert k (.text t))) =
          x.outcome (s.withFilters (s.filters.erase k))) := by
  refine ⟨fun rule searchKey fallback f g p q h => ?_, fun s x hx hattrs habsent => ?_,
    fun s x hx k t ht => ?_⟩
  · refine outcome_congr (l := ⟨.request, searchKey, fallback⟩) fun u hu => ?_
    refine Criterion.outcome_congr (f := u.1.source.pick g q) fun k hk => h u.1.source k ?_
    exact List.mem_flatMap.mpr ⟨u, List.mem_filter.mpr ⟨hu, by simp⟩, hk⟩
  · have hnone := Criterion.outcome_eq_none hx hattrs habsent
    refine ⟨hnone, fun before after p => ⟨?_, ?_⟩⟩
    · exact outcomes_delete (r := criterion x) hnone before after .and
    · exact outcomes_delete (r := criterion x) hnone before after .or
  · exact Criterion.outcome_eq_of_given (s := s.withFilters (s.filters.insert k (.text t))) hx
      fun key _ => Filters.given?_insert_blank ht k

open Sample.Customer in
/-- A filter that no criterion reads changes nothing, a tier that is not given asks for nothing, and
a blank name is none. -/
theorem reads_only_discounts :
    let s := discounts
    let g := s.filters.insert "page" (.int 7)
    let tier := Criterion.equality .equal "tier" none
    let name := Criterion.textMatch .anywhere false "name" none
    (∀ source, ∀ k ∈ discountRule.keysFrom source ⟨.request, "search", "searchText"⟩,
      (source.pick s.filters .empty).get? k = (source.pick g .empty).get? k) ∧
    discountRule.outcome .empty s = discountRule.outcome .empty (s.withFilters g) ∧
    (tier.needsFilter = true ∧ (∀ attr ∈ tier.attributes, ∃ a, s.resolve attr = .ok a) ∧
      (∀ k ∈ tier.keys s.searchKey s.fallbackSearchKey, s.filters.get? k = none) ∧
      tier.outcome s = .ok none ∧ (all [criterion name, criterion tier]).outcome .empty s =
        (all [criterion name]).outcome .empty s) ∧
    (name.skipsBlank = true ∧ Text.isBlank " \t" = true ∧
      name.outcome (s.withFilters (s.filters.insert "name" (.text " \t"))) =
        name.outcome (s.withFilters (s.filters.erase "name"))) := by
  intro s g tier name
  obtain ⟨hagree, habsent, hblank⟩ := reads_only s.entity s.backend
  have hkeys : ∀ source, ∀ k ∈ discountRule.keysFrom source ⟨.request, "search", "searchText"⟩,
      (source.pick s.filters .empty).get? k = (source.pick g .empty).get? k := by
    intro source k hk
    cases source with
    | caller => rfl
    | request =>
      have hne : k ≠ "page" := by
        rintro rfl
        revert hk
        decide
      exact ((Filters.get?_insert s.filters "page" (.int 7) k).trans (if_neg hne)).symm
  have hattrs : ∀ attr ∈ tier.attributes, ∃ a, s.resolve attr = .ok a := by
    intro attr hattr
    obtain rfl := List.mem_singleton.mp hattr
    exact ⟨_, rfl⟩
  have hget : ∀ k ∈ tier.keys s.searchKey s.fallbackSearchKey, s.filters.get? k = none := by
    intro k hk
    obtain rfl := List.mem_singleton.mp hk
    rfl
  obtain ⟨hnone, hdelete⟩ := habsent s tier rfl hattrs hget
  exact ⟨hkeys, hagree discountRule "search" "searchText" s.filters g .empty .empty hkeys,
    ⟨rfl, hattrs, hget, hnone, (hdelete [criterion name] [] .empty).1⟩,
    rfl, by decide, hblank s name rfl "name" " \t" (by decide)⟩

end Rule

end EntitySearch
