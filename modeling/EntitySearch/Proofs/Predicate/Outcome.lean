import EntitySearch.Predicate.Rule
import EntitySearch.Proofs.Error
import EntitySearch.Proofs.Sql.Truth
import EntitySearch.Proofs.Text.Like

/-!
# What rules come to

The condition of each criterion, and from them what holds of the conditions of whole rules.

* `Outcome.Single`: the criteria that yield one comparison or nothing.
* `Rule.outcomes_eq_ok_iff`: the outcomes of several rules are there if each of them is.
* `Rule.every_outcome`: every pattern in the condition of a rule finds some text as it is, and no
  junction in it is empty. By induction on the rule (`Rule.induction`), from the same for criteria.
-/

namespace EntitySearch

/-- A pattern in a comparison is well formed and finds some text as it is, at some place. -/
def Sql.Comparison.IsLiteral : Sql.Comparison → Prop
  | .like _ _ p =>
    ∃ (a : Text.Anchor) (t : List Char), Text.FindsExactly p fun x => a.Finds t x.toList
  | _ => True

/-- One comparison, without a pattern or with a literal one, or no predicate at all. -/
def Outcome.Single (r : Outcome) : Prop :=
  ∀ o, r = .ok o → ∃ x : Option Sql.Comparison, o = x.map .leaf ∧ ∀ c ∈ x, c.IsLiteral

namespace Outcome

variable {α : Type}

theorem single_none : Single (.ok none) := by
  intro o ho
  exact ⟨none, (Except.ok.inj ho).symm, by simp⟩

theorem single_leaf {c : Sql.Comparison} (h : c.IsLiteral) : Single (.ok (some (.leaf c))) := by
  intro o ho
  exact ⟨some c, (Except.ok.inj ho).symm, by simpa using h⟩

theorem single_leaf? {x : Option α} {f : α → Sql.Comparison} (h : ∀ a, (f a).IsLiteral) :
    Single (.ok (x.map fun a => .leaf (f a))) := by
  cases x with
  | none => exact single_none
  | some a => exact single_leaf (h a)

theorem Single.bind {x : Except SearchError α} {f : α → Outcome} (h : ∀ a, (f a).Single) :
    Single (x >>= f) := by
  intro o ho
  obtain ⟨a, -, ha⟩ := bind_eq_ok_iff.mp ho
  exact h a o ha

end Outcome

namespace Scope

variable {s : Scope} {attr : String} {key : Option String}

/-! ## Criteria of one comparison -/

theorem single_compareWithFilter (op : Sql.CompareOp) :
    Outcome.Single (s.compareWithFilter op attr key) := by
  refine .bind fun a => ?_
  dsimp only
  split
  · exact Outcome.single_none
  · exact .bind fun v => Outcome.single_leaf? fun _ => trivial

theorem single_matchFilterText (anchor : Text.Anchor) (negated : Bool) :
    Outcome.Single (s.matchFilterText anchor negated attr key) :=
  .bind fun _ => Outcome.single_leaf? fun _ => ⟨anchor, _, Text.findsExactly_literal anchor _⟩

theorem single_membership (negated : Bool) : Outcome.Single (s.membership negated attr key) :=
  .bind fun _ => Outcome.single_leaf? fun _ => trivial

theorem single_bounded (family : RangeFamily) (side : Side) :
    Outcome.Single (s.bounded family side attr key) :=
  .bind fun _ => .bind fun _ => Outcome.single_leaf? fun _ => trivial

theorem single_flag (value : Bool) : Outcome.Single ((s.isFlag value attr).map some) := by
  intro o h
  obtain ⟨c, hc, rfl⟩ := map_eq_ok_iff.mp h
  obtain ⟨a, -, rfl⟩ := map_eq_ok_iff.mp hc
  exact Outcome.single_leaf (c := .compare .equal a.operand (.bool value)) trivial _ rfl

theorem single_filterIsFlag (value : Bool) : Outcome.Single (s.filterIsFlag value attr key) := by
  intro o h
  obtain ⟨c, hc, rfl⟩ := map_eq_ok_iff.mp h
  obtain ⟨a, -, rfl⟩ := map_eq_ok_iff.mp hc
  split
  · exact Outcome.single_leaf (c := .compare .equal a.operand (.bool value)) trivial _ rfl
  · exact Outcome.single_none _ rfl

/-! ## Criteria of several comparisons -/

theorem anyMatch_eq_some_iff {attributes : List Attribute} {condition : Attribute → Sql.Condition}
    {c : Sql.Condition} :
    anyMatch attributes condition = some c ↔
      attributes ≠ [] ∧ c = .junction .or (attributes.map fun a => (condition a).asMember) := by
  have hpresent : (attributes.map fun a => some (condition a)).filterMap id =
      attributes.map condition := by
    rw [List.filterMap_map]
    exact congrFun (List.filterMap_eq_map (f := condition)) attributes
  unfold anyMatch Sql.Condition.any? Sql.Condition.combine?
  rw [hpresent]
  cases attributes with
  | nil => simp
  | cons a as => simp [eq_comm, Function.comp_def]

theorem every_anyMatch {α : Type} {P : Sql.Comparison → Prop} {x : Option α}
    {attributes : List Attribute} {condition : α → Attribute → Sql.Condition} {c : Sql.Condition}
    (h : ∀ y ∈ x, ∀ a, (condition y a).Every P)
    (hc : (x.bind fun y => anyMatch attributes (condition y)) = some c) : c.Every P := by
  obtain ⟨y, hy, hc⟩ := Option.bind_eq_some_iff.mp hc
  refine Sql.Condition.every_combine? (fun d hd => ?_) hc
  obtain ⟨a, -, ha⟩ := List.mem_map.mp hd
  exact Option.some.inj ha ▸ h y hy a

theorem every_isNotFlag {value : Bool} {c : Sql.Condition} (h : s.isNotFlag value attr = .ok c) :
    c.Every Sql.Comparison.IsLiteral := by
  obtain ⟨a, -, rfl⟩ := map_eq_ok_iff.mp h
  exact Sql.Condition.every_leaves (by simp) (by simp [Sql.Comparison.IsLiteral])

theorem not_special_of_isNumericSearch {text : String} (h : isNumericSearch text = true) :
    ∀ c ∈ text.toList, Text.isSpecial c = false := by
  intro c hc
  simp only [isNumericSearch, Bool.and_eq_true, List.all_eq_true] at h
  have hdigit := h.1.2 c hc
  cases hs : Text.isSpecial c with
  | false => rfl
  | true =>
    simp only [Text.isSpecial, Bool.or_eq_true, beq_iff_eq] at hs
    rcases hs with (rfl | rfl) | rfl <;> exact absurd hdigit (by decide)

theorem not_special_booleanText (b : Sql.Backend) (value : Bool) :
    ∀ c ∈ (b.booleanText value).toList, Text.isSpecial c = false := by
  have hall : ((b.booleanText value).toList.all fun c => !Text.isSpecial c) = true := by
    cases b <;> cases value <;> decide
  simpa using hall

end Scope

/-! ## Criteria -/

/-- The pattern of a date search, if it has one, finds the text as it is. -/
theorem DateSearch.every_condition (o : Sql.Operand) (text : String) :
    ((DateSearch.of text).condition o).Every Sql.Comparison.IsLiteral := by
  unfold DateSearch.of
  split
  · exact .leaf trivial
  · split
    · exact .leaf trivial
    · refine Sql.Condition.every_leaves (by simp [Sql.DatePart.components]) fun x hx => ?_
      obtain ⟨part, -, rfl⟩ := List.mem_map.mp hx
      exact ⟨.anywhere, _, Text.findsExactly_literal .anywhere text⟩

theorem Outcome.Single.every {r : Outcome} {c : Sql.Condition} (h : r.Single)
    (hr : r = .ok (some c)) : c.Every Sql.Comparison.IsLiteral := by
  obtain ⟨x, hx, hlit⟩ := h _ hr
  obtain ⟨y, rfl, rfl⟩ := Option.map_eq_some_iff.mp hx.symm
  exact .leaf (hlit y rfl)

theorem Criterion.every_outcome {s : Scope} {x : Criterion} {c : Sql.Condition}
    (h : x.outcome s = .ok (some c)) : c.Every Sql.Comparison.IsLiteral := by
  cases x with
  | equality op attr key => exact (s.single_compareWithFilter op).every h
  | textMatch anchor negated attr key => exact (s.single_matchFilterText anchor negated).every h
  | membership negated attr key => exact (s.single_membership negated).every h
  | bounded family side attr base => exact (s.single_bounded family side).every h
  | flag value attr => exact (s.single_flag value).every h
  | filterFlag value attr key => exact (s.single_filterIsFlag value).every h
  | blank negated attr =>
    cases negated <;>
    · obtain ⟨d, hd, hc⟩ := map_eq_ok_iff.mp h
      obtain ⟨a, -, rfl⟩ := map_eq_ok_iff.mp hd
      obtain rfl := Option.some.inj hc
      exact Sql.Condition.every_leaves (by simp) (by simp [Sql.Comparison.IsLiteral])
  | notFlag value attr =>
    obtain ⟨d, hd, hc⟩ := map_eq_ok_iff.mp h
    exact Scope.every_isNotFlag (Option.some.inj hc ▸ hd)
  | filterNotFlag value attr key =>
    obtain ⟨d, hd, hc⟩ := map_eq_ok_iff.mp h
    split at hc
    · exact Scope.every_isNotFlag (Option.some.inj hc ▸ hd)
    · cases hc
  | between family attr base =>
    obtain ⟨low, hlow, h⟩ := bind_eq_ok_iff.mp h
    obtain ⟨high, hhigh, h⟩ := bind_eq_ok_iff.mp h
    refine Sql.Condition.every_combine? (fun d hd => ?_) (Except.ok.inj h)
    simp only [List.mem_cons, List.not_mem_nil, or_false] at hd
    rcases hd with rfl | rfl
    · exact (s.single_bounded family .lower).every hlow
    · exact (s.single_bounded family .upper).every hhigh
  | freeText kind attrs =>
    cases kind with
    | text =>
      obtain ⟨attributes, -, h⟩ := bind_eq_ok_iff.mp h
      refine Scope.every_anyMatch (fun text _ a => .leaf ?_) (Except.ok.inj h)
      exact ⟨.anywhere, _, Text.findsExactly_literal .anywhere _⟩
    | numeric =>
      obtain ⟨attributes, -, h⟩ := bind_eq_ok_iff.mp h
      refine Scope.every_anyMatch (fun text htext a => .leaf ?_) (Except.ok.inj h)
      have hnum := (Option.filter_eq_some_iff.mp htext).2
      exact ⟨.anywhere, _, Text.findsExactly_plain .anywhere
        (Scope.not_special_of_isNumericSearch hnum)⟩
    | boolean =>
      obtain ⟨attributes, -, h⟩ := bind_eq_ok_iff.mp h
      refine Scope.every_anyMatch (fun value _ a => .leaf ?_) (Except.ok.inj h)
      exact ⟨.anywhere, _, Text.findsExactly_plain .anywhere
        (Scope.not_special_booleanText s.backend value)⟩
    | dates =>
      obtain ⟨attributes, -, h⟩ := bind_eq_ok_iff.mp h
      exact Scope.every_anyMatch (fun text _ a => DateSearch.every_condition a.operand text)
        (Except.ok.inj h)

/-! ## Rules -/

namespace Rule

/-- Induction on rules: the members of a conjunction or disjunction come first. -/
theorem induction {motive : Rule → Prop} (nothing : motive nothing)
    (criterion : ∀ x, motive (criterion x))
    (all : ∀ rules, (∀ r ∈ rules, motive r) → motive (all rules))
    (any : ∀ rules, (∀ r ∈ rules, motive r) → motive (any rules))
    (withSearchKeys : ∀ key fallback r, motive r → motive (withSearchKeys key fallback r))
    (overParameters : ∀ r, motive r → motive (overParameters r)) (rule : Rule) : motive rule := by
  refine rule.rec (motive_2 := fun rules => ∀ r ∈ rules, motive r) nothing criterion all any
    withSearchKeys overParameters (by simp) ?_
  intro r rules hr hrules
  simpa using ⟨hr, hrules⟩

variable {parameters : Filters} {s : Scope}

theorem outcomes_eq_ok_iff {rules : List Rule} {os : List (Option Sql.Condition)} :
    outcomes parameters s rules = .ok os ↔ rules.map (outcome parameters s) = os.map .ok := by
  induction rules generalizing os with
  | nil => cases os <;> simp [outcomes]
  | cons r rs ih =>
    rw [outcomes, List.map_cons]
    constructor
    · intro h
      obtain ⟨o, ho, h⟩ := bind_eq_ok_iff.mp h
      obtain ⟨os, hos, rfl⟩ := map_eq_ok_iff.mp h
      rw [ho, ih.mp hos, List.map_cons]
    · intro h
      obtain ⟨o, os, rfl, ho, hos⟩ := List.map_eq_cons_iff.mp h.symm
      exact bind_eq_ok_iff.mpr ⟨o, ho.symm, map_eq_ok_iff.mpr ⟨os, ih.mpr hos.symm, rfl⟩⟩

/-- The outcome of a conjunction: all members have one, and those are combined. -/
theorem outcome_all_eq_ok_iff {rules : List Rule} {o : Option Sql.Condition} :
    outcome parameters s (.all rules) = .ok o ↔
      ∃ os : List (Option Sql.Condition),
        rules.map (outcome parameters s) = os.map .ok ∧ Sql.Condition.combine? .and os = o := by
  rw [outcome, map_eq_ok_iff]
  simp only [outcomes_eq_ok_iff]
  rfl

/-- The outcome of a disjunction. -/
theorem outcome_any_eq_ok_iff {rules : List Rule} {o : Option Sql.Condition} :
    outcome parameters s (.any rules) = .ok o ↔
      ∃ os : List (Option Sql.Condition),
        rules.map (outcome parameters s) = os.map .ok ∧ Sql.Condition.combine? .or os = o := by
  rw [outcome, map_eq_ok_iff]
  simp only [outcomes_eq_ok_iff]
  rfl

theorem exists_outcome_eq {rules : List Rule} {os : List (Option Sql.Condition)}
    {o : Option Sql.Condition} (h : rules.map (outcome parameters s) = os.map .ok) (ho : o ∈ os) :
    ∃ r ∈ rules, r.outcome parameters s = .ok o :=
  List.mem_map.mp (h ▸ List.mem_map_of_mem ho)

/-- **Conditions of rules.** No junction in the condition of a rule is empty, and every pattern in it
finds some text as it is. -/
theorem every_outcome {rule : Rule} {c : Sql.Condition}
    (h : rule.outcome parameters s = .ok (some c)) : c.Every Sql.Comparison.IsLiteral := by
  induction rule using Rule.induction generalizing s c with
  | nothing => cases h
  | criterion x => exact x.every_outcome h
  | all rules ih =>
    obtain ⟨os, hos, hc⟩ := outcome_all_eq_ok_iff.mp h
    refine Sql.Condition.every_combine? (fun d hd => ?_) hc
    obtain ⟨r, hr, hrd⟩ := exists_outcome_eq hos hd
    exact ih r hr hrd
  | any rules ih =>
    obtain ⟨os, hos, hc⟩ := outcome_any_eq_ok_iff.mp h
    refine Sql.Condition.every_combine? (fun d hd => ?_) hc
    obtain ⟨r, hr, hrd⟩ := exists_outcome_eq hos hd
    exact ih r hr hrd
  | withSearchKeys key fallback r ih => exact ih h
  | overParameters r ih => exact ih h

end Rule

end EntitySearch
