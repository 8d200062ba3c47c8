import EntitySearch.Proofs.Predicate.Outcome
import EntitySearch.Proofs.Sql.Reading
import EntitySearch.Sample.Customer

/-!
# The meaning of rules

Combining criteria keeps their meaning at every depth, in the condition and in its text
(`meaning_preserved`).

* `Criterion.truth?`: what a criterion says, given the truth of comparisons. It is there if the
  criterion yields a predicate.
* `Rule.truth?`: the Kleene conjunction or disjunction of the members that are there, all the way
  down.
* `Rule.criteria`: the criteria of a rule, each with the scope it is evaluated in.
* `Criterion.truth?_eq`, `Rule.truth?_eq`: the predicate, if any, comes to the same.
-/

namespace EntitySearch

open Sql

/-! ## What rules say -/

/-- The truth of a predicate that is one comparison. -/
def Outcome.truth? (v : Comparison → Truth) : Outcome → Option Truth
  | .ok (some (.leaf x)) => some (v x)
  | _ => none

/-- The attribute is null, or it has a certain value. -/
def nullOrEqual (v : Comparison → Truth) (o : Operand) (x : Value) : Truth :=
  (v (.isNull false o)).or (v (.compare .equal o x))

/-- What a date search says of a column: it is in the minute or on the day, or the text is in one of
its five parts. -/
def DateSearch.truth (v : Comparison → Truth) (o : Operand) : DateSearch → Truth
  | minute text => v (.compare .equal (.datePart .dateMinute o) (.string text))
  | day text => v (.compare .equal (.datePart .date o) (.string text))
  | fragment pattern =>
    (v (.like false (.datePart .year o) pattern)).or <|
    (v (.like false (.datePart .month o) pattern)).or <|
    (v (.like false (.datePart .day o) pattern)).or <|
    (v (.like false (.datePart .hour o) pattern)).or <|
    v (.like false (.datePart .minute o) pattern)

/-- What a free-text search says of each attribute, if there is text to search for. -/
def SearchKind.truth? (s : Scope) (v : Comparison → Truth) :
    SearchKind → Option (Attribute → Truth)
  | text => s.searchText?.map fun t a =>
    v (.like false a.upperText (uppercasePattern .anywhere t))
  | numeric => (s.searchText?.filter isNumericSearch).map fun t a =>
    v (.like false (.castText a.operand) (Text.Anchor.anywhere.plain t))
  | boolean => (s.searchText?.bind searchedBoolean?).map fun value a =>
    v (.like false (.castText a.operand) (Text.Anchor.anywhere.plain (s.backend.booleanText value)))
  | dates => s.searchText?.map fun t a => (DateSearch.of t).truth v a.operand

/-- What a criterion says, if it says anything. -/
def Criterion.truth? (s : Scope) (v : Comparison → Truth) : Criterion → Option Truth
  | blank false attr => (s.resolve attr).toOption.map fun a => nullOrEqual v a.operand (.string "")
  | blank true attr => (s.resolve attr).toOption.map fun a =>
    (v (.isNull true a.operand)).and (v (.compare .notEqual a.operand (.string "")))
  | notFlag value attr => (s.resolve attr).toOption.map fun a =>
    nullOrEqual v a.operand (.bool (!value))
  | filterNotFlag value attr key =>
    match s.filters.get? (filterKey attr key) with
    | none => (s.resolve attr).toOption.map fun a => nullOrEqual v a.operand (.bool (!value))
    | some (.bool b) =>
      if b = value then none
      else (s.resolve attr).toOption.map fun a => nullOrEqual v a.operand (.bool (!value))
    | some _ => none
  | between family attr base =>
    Connective.and.joined? [(s.bounded family .lower attr base).truth? v,
      (s.bounded family .upper attr base).truth? v]
  | freeText kind attrs =>
    (s.attributes attrs).toOption.bind fun attributes =>
      (kind.truth? s v).bind fun truth => Connective.or.joined? (attributes.map (some ∘ truth))
  | equality op attr key => (s.compareWithFilter op attr key).truth? v
  | textMatch anchor negated attr key => (s.matchFilterText anchor negated attr key).truth? v
  | flag value attr => Outcome.truth? v ((s.isFlag value attr).map some)
  | filterFlag value attr key => (s.filterIsFlag value attr key).truth? v
  | membership negated attr key => (s.membership negated attr key).truth? v
  | bounded family side attr base => (s.bounded family side attr base).truth? v

namespace Rule

mutual

/-- What a rule says, if it says anything. -/
def truth? (parameters : Filters) (s : Scope) (v : Comparison → Truth) : Rule → Option Truth
  | nothing => none
  | criterion x => x.truth? s v
  | all rules => Connective.and.joined? (truths parameters s v rules)
  | any rules => Connective.or.joined? (truths parameters s v rules)
  | withSearchKeys key fallback rule => truth? parameters (s.withSearchKeys key fallback) v rule
  | overParameters rule => truth? parameters (Scope.new s.entity parameters s.backend) v rule

/-- What several rules say. -/
def truths (parameters : Filters) (s : Scope) (v : Comparison → Truth) :
    List Rule → List (Option Truth)
  | [] => []
  | r :: rs => truth? parameters s v r :: truths parameters s v rs

end

mutual

/-- The criteria of a rule, with the scopes that they are evaluated in. -/
def criteria (parameters : Filters) (s : Scope) : Rule → List (Scope × Criterion)
  | nothing => []
  | criterion x => [(s, x)]
  | all rules => criteriaOf parameters s rules
  | any rules => criteriaOf parameters s rules
  | withSearchKeys key fallback rule => criteria parameters (s.withSearchKeys key fallback) rule
  | overParameters rule => criteria parameters (Scope.new s.entity parameters s.backend) rule

/-- The criteria of several rules. -/
def criteriaOf (parameters : Filters) (s : Scope) : List Rule → List (Scope × Criterion)
  | [] => []
  | r :: rs => criteria parameters s r ++ criteriaOf parameters s rs

end

end Rule

/-! ## Criteria -/

variable {s : Scope} {v : Comparison → Truth} {o : Option Condition}

theorem Outcome.Single.truth?_eq {r : Outcome} (h : r.Single) (hr : r = .ok o) :
    r.truth? v = o.map (Condition.eval v) := by
  obtain ⟨x, rfl, -⟩ := h o hr
  subst hr
  cases x <;> rfl

theorem DateSearch.eval_condition (d : DateSearch) (operand : Operand) :
    (d.condition operand).eval v = d.truth v operand := by
  cases d with
  | minute text => rfl
  | day text => rfl
  | fragment pattern =>
    rw [condition, Condition.anyOf, Condition.eval_leaves]
    simp [DatePart.components, truth, Connective.apply]

theorem Scope.map_eval_anyMatch (attributes : List Attribute) (condition : Attribute → Condition) :
    (anyMatch attributes condition).map (Condition.eval v) =
      Connective.or.joined? (attributes.map fun a => some ((condition a).eval v)) := by
  unfold anyMatch Condition.any?
  rw [Condition.eval_combine?, List.map_map]
  rfl

theorem Scope.eval_isNotFlag {value : Bool} {attr : String} {c : Condition}
    (h : s.isNotFlag value attr = .ok c) :
    (s.resolve attr).toOption.map (fun a => nullOrEqual v a.operand (.bool (!value))) =
      some (c.eval v) := by
  obtain ⟨a, ha, rfl⟩ := map_eq_ok_iff.mp h
  rw [ha, Condition.anyOf, Condition.eval_leaves]
  simp [nullOrEqual, Connective.apply, Except.toOption]

/-- A free-text search says what it says of any of the attributes. -/
theorem Scope.eval_freeText {α : Type} {x : Option α} {attributes : List Attribute}
    {condition : α → Attribute → Condition} {truth : α → Attribute → Truth}
    (h : ∀ y a, (condition y a).eval v = truth y a) :
    ((x.map truth).bind fun truth => Connective.or.joined? (attributes.map (some ∘ truth))) =
      (x.bind fun y => anyMatch attributes (condition y)).map (Condition.eval v) := by
  cases x with
  | none => rfl
  | some y =>
    rw [Option.bind_some, map_eval_anyMatch]
    simp only [Option.map_some, Option.bind_some, h]
    rfl

theorem Criterion.truth?_eq {x : Criterion} (h : x.outcome s = .ok o) :
    x.truth? s v = o.map (Condition.eval v) := by
  cases x with
  | equality op attr key => exact (s.single_compareWithFilter op).truth?_eq h
  | textMatch anchor negated attr key => exact (s.single_matchFilterText anchor negated).truth?_eq h
  | membership negated attr key => exact (s.single_membership negated).truth?_eq h
  | bounded family side attr base => exact (s.single_bounded family side).truth?_eq h
  | flag value attr => exact (s.single_flag value).truth?_eq h
  | filterFlag value attr key => exact (s.single_filterIsFlag value).truth?_eq h
  | blank negated attr =>
    cases negated with
    | false =>
      obtain ⟨c, hc, rfl⟩ := map_eq_ok_iff.mp h
      obtain ⟨a, ha, rfl⟩ := map_eq_ok_iff.mp hc
      rw [truth?, ha, Option.map_some, Condition.anyOf, Condition.eval_leaves]
      simp [nullOrEqual, Connective.apply, Except.toOption]
    | true =>
      obtain ⟨c, hc, rfl⟩ := map_eq_ok_iff.mp h
      obtain ⟨a, ha, rfl⟩ := map_eq_ok_iff.mp hc
      rw [truth?, ha, Option.map_some, Condition.allOf, Condition.eval_leaves]
      simp [Connective.apply, Except.toOption]
  | notFlag value attr =>
    obtain ⟨c, hc, rfl⟩ := map_eq_ok_iff.mp h
    exact Scope.eval_isNotFlag hc
  | filterNotFlag value attr key =>
    obtain ⟨c, hc, rfl⟩ := map_eq_ok_iff.mp h
    rw [truth?, Filters.contains, Scope.flagOf?]
    cases hfilter : s.filters.get? (filterKey attr key) with
    | none => simpa using Scope.eval_isNotFlag hc
    | some w =>
      cases w with
      | bool b =>
        by_cases hb : b = value
        · subst hb
          simp
        · obtain rfl : b = !value := by cases b <;> cases value <;> simp_all
          simpa using Scope.eval_isNotFlag hc
      | _ => simp
  | between family attr base =>
    obtain ⟨low, hlow, h⟩ := bind_eq_ok_iff.mp h
    obtain ⟨high, hhigh, h⟩ := bind_eq_ok_iff.mp h
    obtain rfl := Except.ok.inj h
    rw [truth?, (s.single_bounded family .lower).truth?_eq hlow,
      (s.single_bounded family .upper).truth?_eq hhigh, Condition.all?, Condition.eval_combine?]
    rfl
  | freeText kind attrs =>
    cases kind with
    | text | numeric | boolean =>
      obtain ⟨attributes, ha, h⟩ := bind_eq_ok_iff.mp h
      obtain rfl := Except.ok.inj h
      rw [truth?, ha]
      exact Scope.eval_freeText fun _ _ => rfl
    | dates =>
      obtain ⟨attributes, ha, h⟩ := bind_eq_ok_iff.mp h
      obtain rfl := Except.ok.inj h
      rw [truth?, ha]
      exact Scope.eval_freeText fun _ _ => DateSearch.eval_condition _ _

/-! ## Rules -/

namespace Rule

variable {parameters : Filters}

theorem truths_eq_map (rules : List Rule) :
    truths parameters s v rules = rules.map (truth? parameters s v) := by
  induction rules with
  | nil => rfl
  | cons r rs ih => rw [truths, ih, List.map_cons]

/-- What members say is what their predicates come to. -/
theorem truths_eq {rules : List Rule} {os : List (Option Condition)}
    (h : rules.map (outcome parameters s) = os.map .ok)
    (ih : ∀ r ∈ rules, ∀ o, r.outcome parameters s = .ok o →
      r.truth? parameters s v = o.map (Condition.eval v)) :
    truths parameters s v rules = os.map fun o => o.map (Condition.eval v) := by
  rw [truths_eq_map]
  induction rules generalizing os with
  | nil =>
    obtain rfl := List.map_eq_nil_iff.mp h.symm
    rfl
  | cons r rs ihrs =>
    obtain ⟨o, os, rfl, ho, hos⟩ := List.map_eq_cons_iff.mp h.symm
    rw [List.map_cons, List.map_cons, ih r List.mem_cons_self o ho.symm,
      ihrs hos.symm fun r' hr' => ih r' (List.mem_cons_of_mem r hr')]

/-- The predicate of a rule comes to what the rule says, and is there if it says anything. -/
theorem truth?_eq {rule : Rule} (h : rule.outcome parameters s = .ok o) :
    rule.truth? parameters s v = o.map (Condition.eval v) := by
  induction rule using Rule.induction generalizing s o with
  | nothing =>
    obtain rfl := Except.ok.inj h
    rfl
  | criterion x => exact x.truth?_eq h
  | all rules ih =>
    obtain ⟨os, hos, rfl⟩ := outcome_all_eq_ok_iff.mp h
    rw [truth?, truths_eq hos fun r hr o ho => ih r hr ho, Condition.eval_combine?]
  | any rules ih =>
    obtain ⟨os, hos, rfl⟩ := outcome_any_eq_ok_iff.mp h
    rw [truth?, truths_eq hos fun r hr o ho => ih r hr ho, Condition.eval_combine?]
  | withSearchKeys key fallback r ih => exact ih h
  | overParameters r ih => exact ih h

/-- Members combine to nothing if none of them yields a predicate. -/
theorem exists_combine?_eq_none_iff {op : Connective} {rules : List Rule} :
    (∃ os : List (Option Condition), rules.map (outcome parameters s) = os.map .ok ∧
      Condition.combine? op os = none) ↔
      ∀ r ∈ rules, r.outcome parameters s = .ok none := by
  constructor
  · rintro ⟨os, hos, hnone⟩ r hr
    have hmem : r.outcome parameters s ∈ os.map .ok := hos ▸ List.mem_map_of_mem hr
    obtain ⟨o, ho, heq⟩ := List.mem_map.mp hmem
    rw [← heq, (Condition.combine?_eq_none_iff op os).mp hnone o ho]
  · intro h
    refine ⟨rules.map fun _ => none, ?_, ?_⟩
    · rw [List.map_map]
      exact List.map_congr_left h
    · rw [Condition.combine?_eq_none_iff]
      simp

theorem forall_criteriaOf_iff {rules : List Rule}
    (ih : ∀ r ∈ rules, (r.outcome parameters s = .ok none ↔
      ∀ x ∈ r.criteria parameters s, x.2.outcome x.1 = .ok none)) :
    (∀ r ∈ rules, r.outcome parameters s = .ok none) ↔
      ∀ x ∈ criteriaOf parameters s rules, x.2.outcome x.1 = .ok none := by
  induction rules with
  | nil => simp [criteriaOf]
  | cons r rs ihrs =>
    rw [criteriaOf, List.forall_mem_cons, List.forall_mem_append, ih r List.mem_cons_self,
      ihrs fun r' hr' => ih r' (List.mem_cons_of_mem r hr')]

theorem outcome_eq_none_iff {rule : Rule} :
    rule.outcome parameters s = .ok none ↔
      ∀ x ∈ rule.criteria parameters s, x.2.outcome x.1 = .ok none := by
  induction rule using Rule.induction generalizing s with
  | nothing => simp [outcome, criteria]
  | criterion x => simp [outcome, criteria]
  | all rules ih =>
    rw [outcome_all_eq_ok_iff, exists_combine?_eq_none_iff, criteria]
    exact forall_criteriaOf_iff fun r hr => ih r hr
  | any rules ih =>
    rw [outcome_any_eq_ok_iff, exists_combine?_eq_none_iff, criteria]
    exact forall_criteriaOf_iff fun r hr => ih r hr
  | withSearchKeys key fallback r ih => exact ih
  | overParameters r ih => exact ih

/-- **Meaning.** A rule yields no predicate exactly if none of its criteria does. Otherwise its
condition comes to what the rule says, whatever is true of the comparisons, and so does the text of
the condition, read with its values. -/
theorem meaning_preserved (rule : Rule) (parameters : Filters) (s : Scope) :
    (rule.outcome parameters s = .ok none ↔
      ∀ x ∈ rule.criteria parameters s, x.2.outcome x.1 = .ok none) ∧
    ∀ c, rule.outcome parameters s = .ok (some c) →
      (∀ v, rule.truth? parameters s v = some (c.eval v)) ∧
      ∀ b, ∃ f : Formula Comparison,
        readCondition? b (c.sql b) (c.values b) = some (f.map (Comparison.lexemes b)) ∧
        ∀ v, rule.truth? parameters s v = some (f.eval v) := by
  refine ⟨outcome_eq_none_iff, fun c hc => ⟨fun v => truth?_eq hc, fun b => ?_⟩⟩
  obtain ⟨f, hf, heval⟩ := Condition.readCondition?_sql (every_outcome hc) b
  refine ⟨f, hf, fun v => ?_⟩
  rw [heval v]
  exact truth?_eq hc

theorem meaning_preserved_discounts :
    (Rule.all [.criterion (.equality .equal "tier" none), .nothing]).outcome .empty
      Sample.Customer.discounts = .ok none ∧
    ∃ c, Sample.Customer.discountRule.outcome .empty Sample.Customer.discounts = .ok (some c) ∧
      (∀ v, Sample.Customer.discountRule.truth? .empty Sample.Customer.discounts v =
        some (c.eval v)) ∧
      ∃ f : Formula Comparison,
        readCondition? .postgres (c.sql .postgres) (c.values .postgres) =
          some (f.map (Comparison.lexemes .postgres)) ∧
        ∀ v, Sample.Customer.discountRule.truth? .empty Sample.Customer.discounts v =
          some (f.eval v) := by
  refine ⟨(meaning_preserved _ _ _).1.mpr fun x hx => ?_, ?_⟩
  · obtain rfl := List.mem_singleton.mp hx
    rfl
  · have hc : Sample.Customer.discountRule.outcome .empty Sample.Customer.discounts =
        .ok (some _) := rfl
    obtain ⟨htruth, hread⟩ := (meaning_preserved _ _ _).2 _ hc
    exact ⟨_, hc, htruth, hread .postgres⟩

end Rule

end EntitySearch
