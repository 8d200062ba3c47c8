import EntitySearch.Proofs.Predicate.Reads
import EntitySearch.Proofs.Sql.Erasure

/-!
# The shape of predicates

What filters hold reaches the values that a predicate binds, and never its text
(`Rule.text_carries_no_values`). What they do decide is which criteria ask for something.

* `Outcome.shape?`: an outcome without its values, and without what its error says.
* `Criterion.Alike`: a criterion does the same under two scopes, up to the values.
* `Criterion.parts`: a pair of bounds as the two bounds that it is, each of which may be missing.
* `Criterion.shape?_congr`, `Rule.shape?_congr`: criteria that do the same have one shape, and so has
  a rule.
-/

namespace EntitySearch

/-! ## Shapes -/

/-- The classes of outcomes: an error, no predicate, or a predicate. -/
inductive OutcomeClass where
  | error
  | nothing
  | predicate
deriving DecidableEq

namespace Outcome

/-- The class of an outcome. -/
def toClass : Outcome → OutcomeClass
  | .error _ => .error
  | .ok none => .nothing
  | .ok (some _) => .predicate

/-- The outcome without values; all errors are taken for one. -/
def shape? (r : Outcome) : Option (Option Sql.Condition) :=
  r.toOption.map (Option.map Sql.Condition.erase)

variable {r r' : Outcome}

theorem shape?_eq_of_toClass_eq (hclass : r.toClass = r'.toClass)
    (h : ∀ c d, r = .ok (some c) → r' = .ok (some d) → c.erase = d.erase) :
    r.shape? = r'.shape? := by
  match r, r' with
  | .error _, .error _ | .ok none, .ok none => rfl
  | .ok (some c), .ok (some d) =>
    simpa [shape?, Except.toOption] using h c d rfl rfl
  | .error _, .ok none | .error _, .ok (some _) | .ok none, .error _ | .ok none, .ok (some _)
  | .ok (some _), .error _ | .ok (some _), .ok none => cases hclass

theorem erase_eq_of_shape?_eq {c d : Sql.Condition} (h : r.shape? = r'.shape?)
    (hr : r = .ok (some c)) (hr' : r' = .ok (some d)) : c.erase = d.erase := by
  subst hr hr'
  simpa [shape?, Except.toOption] using h

end Outcome

/-- Two date searches look for the same: a minute, a day, or a fragment. -/
def DateSearch.SameForm : DateSearch → DateSearch → Prop
  | minute _, minute _ | day _, day _ | fragment _, fragment _ => True
  | _, _ => False

namespace Criterion

/-- The conditions of a criterion under two scopes agree in what their values can decide: how many
values an attribute is looked for among, and what a date search looks for. -/
def SameForm (s t : Scope) (c d : Sql.Condition) : Criterion → Prop
  | membership _ _ _ => (c.values s.backend).length = (d.values t.backend).length
  | freeText .dates _ => ∀ text ∈ s.searchText?, ∀ text' ∈ t.searchText?,
    (DateSearch.of text).SameForm (DateSearch.of text')
  | _ => True

/-- A criterion does the same under two scopes, up to the values. -/
structure Alike (s t : Scope) (x : Criterion) : Prop where
  toClass_eq : (x.outcome s).toClass = (x.outcome t).toClass
  sameForm : ∀ c d, x.outcome s = .ok (some c) → x.outcome t = .ok (some d) → x.SameForm s t c d

/-- The criteria that a criterion is made of. -/
def parts : Criterion → List Criterion
  | between family attr base => [bounded family .lower attr base, bounded family .upper attr base]
  | x => [x]

end Criterion

/-! ## Criteria -/

variable {s : Scope} {f : Filters} {attr : String} {key : Option String} {c d : Sql.Condition}

namespace Scope

theorem compareWithFilter_eq_some {op : Sql.CompareOp}
    (h : s.compareWithFilter op attr key = .ok (some c)) :
    ∃ a v, s.resolve attr = .ok a ∧ c = .leaf (.compare op a.operand v) := by
  obtain ⟨a, ha, h⟩ := bind_eq_ok_iff.mp h
  dsimp only at h
  split at h
  · cases h
  · obtain ⟨v, -, h⟩ := bind_eq_ok_iff.mp h
    obtain ⟨x, -, rfl⟩ := Option.map_eq_some_iff.mp (Except.ok.inj h)
    exact ⟨a, x, ha, rfl⟩

theorem matchFilterText_eq_some {anchor : Text.Anchor} {negated : Bool}
    (h : s.matchFilterText anchor negated attr key = .ok (some c)) :
    ∃ a pattern, s.resolve attr = .ok a ∧ c = .leaf (.like negated a.upperText pattern) := by
  obtain ⟨a, ha, h⟩ := bind_eq_ok_iff.mp h
  obtain ⟨text, -, rfl⟩ := Option.map_eq_some_iff.mp (Except.ok.inj h)
  exact ⟨a, _, ha, rfl⟩

theorem membership_eq_some {negated : Bool} (h : s.membership negated attr key = .ok (some c)) :
    ∃ a vs, s.resolve attr = .ok a ∧ c = .leaf (.member negated a.operand vs) := by
  obtain ⟨a, ha, h⟩ := bind_eq_ok_iff.mp h
  obtain ⟨vs, -, rfl⟩ := Option.map_eq_some_iff.mp (Except.ok.inj h)
  exact ⟨a, vs, ha, rfl⟩

theorem bounded_eq_some {family : RangeFamily} {side : Side}
    (h : s.bounded family side attr key = .ok (some c)) :
    ∃ a v, s.resolve attr = .ok a ∧ c = .leaf (.compare side.compareOp a.operand v) := by
  obtain ⟨a, ha, h⟩ := bind_eq_ok_iff.mp h
  obtain ⟨v, -, h⟩ := bind_eq_ok_iff.mp h
  obtain ⟨x, -, rfl⟩ := Option.map_eq_some_iff.mp (Except.ok.inj h)
  exact ⟨a, x, ha, rfl⟩

theorem filterIsFlag_eq_some {value : Bool} (h : s.filterIsFlag value attr key = .ok (some c)) :
    s.isFlag value attr = .ok c := by
  obtain ⟨d, hd, h⟩ := map_eq_ok_iff.mp h
  split at h
  · exact Option.some.inj h ▸ hd
  · cases h

theorem filterIsNotFlag_eq_some {value : Bool}
    (h : s.filterIsNotFlag value attr key = .ok (some c)) : s.isNotFlag value attr = .ok c := by
  obtain ⟨d, hd, h⟩ := map_eq_ok_iff.mp h
  split at h
  · exact Option.some.inj h ▸ hd
  · cases h

/-- Comparisons of the same attribute are the same if they are so for all values. -/
theorem erase_eq_of_leaf {α : Type} {comparison : Attribute → α → Sql.Comparison}
    (h : ∀ a v w, (comparison a v).erase = (comparison a w).erase)
    (hc : ∃ a v, s.resolve attr = .ok a ∧ c = .leaf (comparison a v))
    (hd : ∃ a w, s.resolve attr = .ok a ∧ d = .leaf (comparison a w)) : c.erase = d.erase := by
  obtain ⟨a, v, ha, rfl⟩ := hc
  obtain ⟨a', w, ha', rfl⟩ := hd
  obtain rfl := Except.ok.inj (ha.symm.trans ha')
  rw [Sql.Condition.erase_leaf, Sql.Condition.erase_leaf, h a v w]

/-- Matches of the same attributes are the same if they are so for each attribute. -/
theorem erase_eq_of_anyMatch {α : Type} {x y : Option α} {attributes : List Attribute}
    {condition : α → Attribute → Sql.Condition}
    (h : ∀ u ∈ x, ∀ v ∈ y, ∀ a, (condition u a).erase = (condition v a).erase)
    (hc : (x.bind fun u => anyMatch attributes (condition u)) = some c)
    (hd : (y.bind fun v => anyMatch attributes (condition v)) = some d) : c.erase = d.erase := by
  obtain ⟨u, hu, hc⟩ := Option.bind_eq_some_iff.mp hc
  obtain ⟨v, hv, hd⟩ := Option.bind_eq_some_iff.mp hd
  have hmatch : (anyMatch attributes (condition u)).map Sql.Condition.erase =
      (anyMatch attributes (condition v)).map Sql.Condition.erase := by
    simp only [anyMatch, Sql.Condition.any?, Sql.Condition.erase_combine?, List.map_map,
      Function.comp_def, Option.map_some, h u hu v hv]
  rw [hc, hd] at hmatch
  exact Option.some.inj hmatch

end Scope

theorem DateSearch.erase_condition_eq {x y : DateSearch} (o : Sql.Operand) (h : x.SameForm y) :
    (x.condition o).erase = (y.condition o).erase := by
  match x, y with
  | .minute _, .minute _ | .day _, .day _ => simp [condition, Sql.Comparison.erase]
  | .fragment _, .fragment _ =>
    simp [condition, Sql.Condition.anyOf, Function.comp_def, Sql.Comparison.erase]
  | .minute _, .day _ | .minute _, .fragment _ | .day _, .minute _ | .day _, .fragment _
  | .fragment _, .minute _ | .fragment _, .day _ => cases h

namespace Criterion

/-- The conditions of a criterion under two sets of filters are the same but for their values. -/
theorem erase_eq {x : Criterion} (hx : x.parts = [x]) (hc : x.outcome s = .ok (some c))
    (hd : x.outcome (s.withFilters f) = .ok (some d)) (h : x.SameForm s (s.withFilters f) c d) :
    c.erase = d.erase := by
  cases x with
  | equality op attr key =>
    exact Scope.erase_eq_of_leaf (fun _ _ _ => rfl) (Scope.compareWithFilter_eq_some hc)
      (Scope.compareWithFilter_eq_some (s := s.withFilters f) hd)
  | textMatch anchor negated attr key =>
    exact Scope.erase_eq_of_leaf (fun _ _ _ => rfl) (Scope.matchFilterText_eq_some hc)
      (Scope.matchFilterText_eq_some (s := s.withFilters f) hd)
  | membership negated attr key =>
    obtain ⟨a, vs, ha, rfl⟩ := Scope.membership_eq_some hc
    obtain ⟨a', ws, ha', rfl⟩ := Scope.membership_eq_some hd
    obtain rfl := Except.ok.inj (ha.symm.trans ha')
    have hlength : vs.length = ws.length := by
      simpa only [SameForm, Attribute.operand, Sql.Condition.values_member] using h
    simp [Sql.Comparison.erase, List.map_const', hlength]
  | bounded family side attr base =>
    exact Scope.erase_eq_of_leaf (fun _ _ _ => rfl) (Scope.bounded_eq_some hc)
      (Scope.bounded_eq_some (s := s.withFilters f) hd)
  | filterFlag value attr key =>
    have hflag : (s.withFilters f).isFlag value attr = .ok d := Scope.filterIsFlag_eq_some hd
    rw [Except.ok.inj ((Scope.filterIsFlag_eq_some hc).symm.trans hflag)]
  | filterNotFlag value attr key =>
    have hflag : (s.withFilters f).isNotFlag value attr = .ok d :=
      Scope.filterIsNotFlag_eq_some hd
    rw [Except.ok.inj ((Scope.filterIsNotFlag_eq_some hc).symm.trans hflag)]
  | blank _ _ | flag _ _ | notFlag _ _ =>
    rw [outcome_congr (f := f) (by simp [keys]), hd] at hc
    rw [Option.some.inj (Except.ok.inj hc)]
  | between _ _ _ => cases hx
  | freeText kind attrs =>
    cases kind with
    | text | numeric | boolean =>
      obtain ⟨as, has, hc⟩ := bind_eq_ok_iff.mp hc
      obtain ⟨bs, hbs, hd⟩ := bind_eq_ok_iff.mp hd
      obtain rfl := Except.ok.inj (has.symm.trans hbs)
      exact Scope.erase_eq_of_anyMatch (fun _ _ _ _ _ => by simp [Sql.Comparison.erase])
        (Except.ok.inj hc) (Except.ok.inj hd)
    | dates =>
      obtain ⟨as, has, hc⟩ := bind_eq_ok_iff.mp hc
      obtain ⟨bs, hbs, hd⟩ := bind_eq_ok_iff.mp hd
      obtain rfl := Except.ok.inj (has.symm.trans hbs)
      exact Scope.erase_eq_of_anyMatch
        (fun text htext text' htext' a =>
          DateSearch.erase_condition_eq a.operand (h text htext text' htext'))
        (Except.ok.inj hc) (Except.ok.inj hd)

/-- A criterion that is made of itself, and does the same under other filters, has one shape. -/
theorem shape?_eq_of_parts {x : Criterion} (hx : x.parts = [x])
    (h : x.keys s.searchKey s.fallbackSearchKey ≠ [] → x.Alike s (s.withFilters f)) :
    (x.outcome s).shape? = (x.outcome (s.withFilters f)).shape? := by
  by_cases hkeys : x.keys s.searchKey s.fallbackSearchKey = []
  · rw [outcome_congr (f := f) (by simp [hkeys])]
  · obtain ⟨hclass, hform⟩ := h hkeys
    exact Outcome.shape?_eq_of_toClass_eq hclass fun c d hc hd =>
      erase_eq hx hc hd (hform c d hc hd)

end Criterion

/-! ## Rules -/

namespace Rule

/-- The outcomes of several rules without values. -/
def shapes? (rs : Except SearchError (List (Option Sql.Condition))) :
    Option (List (Option Sql.Condition)) :=
  rs.toOption.map (List.map (Option.map Sql.Condition.erase))

theorem shape?_map_combine? (op : Sql.Connective)
    (rs : Except SearchError (List (Option Sql.Condition))) :
    Outcome.shape? (rs.map (Sql.Condition.combine? op)) =
      (shapes? rs).map (Sql.Condition.combine? op) := by
  cases rs with
  | error e => rfl
  | ok os => exact congrArg some (Sql.Condition.erase_combine? op os)

variable {p q : Filters} {s t : Scope}

theorem shapes?_outcomes_cons (p : Filters) (s : Scope) (r : Rule) (rs : List Rule) :
    shapes? (outcomes p s (r :: rs)) =
      (Outcome.shape? (r.outcome p s)).bind fun o => (shapes? (outcomes p s rs)).map (o :: ·) := by
  rw [outcomes]
  cases r.outcome p s with
  | error e => rfl
  | ok o => cases outcomes p s rs <;> rfl

theorem shapes?_outcomes_congr {rules : List Rule}
    (h : ∀ r ∈ rules, Outcome.shape? (r.outcome p s) = Outcome.shape? (r.outcome q t)) :
    shapes? (outcomes p s rules) = shapes? (outcomes q t rules) := by
  induction rules with
  | nil => rfl
  | cons r rs ih =>
    have hr := h r List.mem_cons_self
    have hrs := ih fun r' hr' => h r' (List.mem_cons_of_mem r hr')
    rw [shapes?_outcomes_cons, shapes?_outcomes_cons, hr, hrs]

/-- Members of the same shapes have a combination of one shape. -/
theorem shape?_combine?_congr (op : Sql.Connective) {rules : List Rule}
    (h : ∀ r ∈ rules, Outcome.shape? (r.outcome p s) = Outcome.shape? (r.outcome q t)) :
    Outcome.shape? ((outcomes p s rules).map (Sql.Condition.combine? op)) =
      Outcome.shape? ((outcomes q t rules).map (Sql.Condition.combine? op)) := by
  rw [shape?_map_combine?, shape?_map_combine?, shapes?_outcomes_congr h]

end Rule

/-- A pair of bounds asks for both of its bounds. -/
theorem Scope.between_eq_outcome_all (p : Filters) (family : RangeFamily) (base : Option String) :
    s.between family attr base =
      (Rule.all ((Criterion.between family attr base).parts.map .criterion)).outcome p s := by
  simp only [Criterion.parts, List.map_cons, List.map_nil, Rule.outcome, Rule.outcomes,
    Criterion.outcome]
  unfold between
  cases s.bounded family .lower attr base with
  | error e => rfl
  | ok low => cases s.bounded family .upper attr base <;> rfl

namespace Criterion

/-- A criterion whose parts do the same under other filters has one shape. -/
theorem shape?_congr {x : Criterion}
    (h : ∀ part ∈ x.parts, part.keys s.searchKey s.fallbackSearchKey ≠ [] →
      part.Alike s (s.withFilters f)) :
    (x.outcome s).shape? = (x.outcome (s.withFilters f)).shape? := by
  cases x with
  | between family attr base =>
    have hparts : ∀ part ∈ (between family attr base).parts,
        (part.outcome s).shape? = (part.outcome (s.withFilters f)).shape? := by
      intro part hpart
      refine shape?_eq_of_parts ?_ (h part hpart)
      simp only [parts, List.mem_cons, List.not_mem_nil, or_false] at hpart
      rcases hpart with rfl | rfl <;> rfl
    have hrules : ∀ r ∈ (between family attr base).parts.map Rule.criterion,
        Outcome.shape? (r.outcome .empty s) =
          Outcome.shape? (r.outcome .empty (s.withFilters f)) := by
      intro r hr
      obtain ⟨part, hpart, rfl⟩ := List.mem_map.mp hr
      simpa only [Rule.outcome] using hparts part hpart
    simp only [outcome, Scope.between_eq_outcome_all .empty, Rule.outcome]
    exact Rule.shape?_combine?_congr .and hrules
  | _ => exact shape?_eq_of_parts rfl (h _ List.mem_cons_self)

end Criterion

namespace Rule

variable {e : Entity} {b : Sql.Backend} {f g p q : Filters}

/-- The shapes of the criteria of a rule decide its shape. -/
theorem shape?_congr {l : Place} {rule : Rule}
    (h : ∀ u ∈ rule.uses l, Outcome.shape? (u.2.outcome (u.1.scope e b f p)) =
      Outcome.shape? (u.2.outcome (u.1.scope e b g q))) :
    Outcome.shape? (rule.outcome p (l.scope e b f p)) =
      Outcome.shape? (rule.outcome q (l.scope e b g q)) := by
  induction rule using Rule.induction generalizing l with
  | nothing => rfl
  | criterion x => exact h (l, x) (List.mem_singleton.mpr rfl)
  | all rules ih | any rules ih =>
    rw [outcome, outcome]
    exact shape?_combine?_congr _ fun r hr => ih r hr fun u hu => h u (mem_usesOf.mpr ⟨r, hr, hu⟩)
  | withSearchKeys key fallback r ih => exact ih h
  | overParameters r ih => exact ih h

/-- **Text carries no values.** Take a rule under two sets of filters, and two of parameters, under
which each criterion that reads filters does the same: it is an error, nothing or a predicate under
both, memberships bind equally many values, and date searches look for the same, a minute, a day or
a fragment. Each bound of a pair counts as a criterion of its own. If the rule yields a predicate
under both, the two have the same text, character for character, and bind equally many values. -/
theorem text_carries_no_values (e : Entity) (b : Sql.Backend) (rule : Rule)
    (searchKey fallback : String) (f g p q : Filters)
    (halike : ∀ u ∈ rule.uses ⟨.request, searchKey, fallback⟩, ∀ x ∈ u.2.parts,
      x.keys u.1.searchKey u.1.fallbackSearchKey ≠ [] →
        x.Alike (u.1.scope e b f p) (u.1.scope e b g q))
    {c d : Sql.Condition}
    (hc : rule.outcome p ⟨e, f, b, searchKey, fallback⟩ = .ok (some c))
    (hd : rule.outcome q ⟨e, g, b, searchKey, fallback⟩ = .ok (some d)) :
    c.sql b = d.sql b ∧ (c.values b).length = (d.values b).length := by
  have hshape : Outcome.shape? (rule.outcome p ⟨e, f, b, searchKey, fallback⟩) =
      Outcome.shape? (rule.outcome q ⟨e, g, b, searchKey, fallback⟩) :=
    shape?_congr (l := ⟨.request, searchKey, fallback⟩) fun u hu =>
      Criterion.shape?_congr (halike u hu)
  have herase : c.erase = d.erase := Outcome.erase_eq_of_shape?_eq hshape hc hd
  exact ⟨Sql.Condition.sql_eq_of_erase herase, Sql.Condition.length_values_eq_of_erase herase⟩

open Sample in
/-- Two requests for customers of some tiers whom something happened to on some date. The text of the
second does not escape into the statement. -/
theorem text_carries_no_values_tiers :
    let customers := Customer.entityWith Customer.attributes Customer.vehicleColumns
    let rule : Rule := .all [.criterion (.membership false "tier" none),
      .criterion (.freeText .dates ["created_at"]), .criterion (.blank true "email")]
    let f : Filters := .ofList [("tier", .list [.text "gold", .text "silver"]),
      ("search", .text "12")]
    let g : Filters := .ofList [("tier", .list [.text "') OR TRUE --", .text "?"]),
      ("search", .text "$1")]
    (∀ u ∈ rule.uses ⟨.request, "search", "searchText"⟩, ∀ x ∈ u.2.parts,
      x.keys u.1.searchKey u.1.fallbackSearchKey ≠ [] →
        x.Alike (u.1.scope customers .postgres f .empty)
          (u.1.scope customers .postgres g .empty)) ∧
    ∃ c d, rule.outcome .empty ⟨customers, f, .postgres, "search", "searchText"⟩ = .ok (some c) ∧
      rule.outcome .empty ⟨customers, g, .postgres, "search", "searchText"⟩ = .ok (some d) ∧
      c.sql .postgres = d.sql .postgres ∧
      (c.values .postgres).length = (d.values .postgres).length := by
  intro customers rule f g
  have halike : ∀ u ∈ rule.uses ⟨.request, "search", "searchText"⟩, ∀ x ∈ u.2.parts,
      x.keys u.1.searchKey u.1.fallbackSearchKey ≠ [] →
        x.Alike (u.1.scope customers .postgres f .empty)
          (u.1.scope customers .postgres g .empty) := by
    intro u hu x hx hkeys
    simp only [rule, uses, usesOf, List.append_nil, List.cons_append, List.nil_append,
      List.mem_cons, List.not_mem_nil, or_false] at hu
    rcases hu with rfl | rfl | rfl
    · obtain rfl := List.mem_singleton.mp hx
      refine ⟨.trans (b := .predicate) rfl rfl, fun c d hc hd => ?_⟩
      obtain rfl := Option.some.inj (Except.ok.inj hc)
      obtain rfl := Option.some.inj (Except.ok.inj hd)
      rfl
    · obtain rfl := List.mem_singleton.mp hx
      refine ⟨.trans (b := .predicate) rfl rfl, fun c d hc hd text htext text' htext' => ?_⟩
      obtain rfl := Option.some.inj htext
      obtain rfl := Option.some.inj htext'
      trivial
    · obtain rfl := List.mem_singleton.mp hx
      exact absurd rfl hkeys
  exact ⟨halike, _, _, rfl, rfl,
    text_carries_no_values customers .postgres rule "search" "searchText" f g .empty .empty halike
      rfl rfl⟩

open Sample in
/-- Two bounds are not one criterion: under either alone the pair is a predicate, but not the same
one. -/
theorem text_depends_on_bounds :
    let customers := Customer.entityWith Customer.attributes Customer.vehicleColumns
    let rule : Rule := .criterion (.between .date "birth_date" none)
    let f : Filters := .ofList [("birth_dateFrom", .text "2024-01-31")]
    let g : Filters := .ofList [("birth_dateTo", .text "2024-01-31")]
    (∀ u ∈ rule.uses ⟨.request, "search", "searchText"⟩,
      u.2.Alike (u.1.scope customers .sqlite f .empty) (u.1.scope customers .sqlite g .empty)) ∧
    ∃ c d, rule.outcome .empty ⟨customers, f, .sqlite, "search", "searchText"⟩ = .ok (some c) ∧
      rule.outcome .empty ⟨customers, g, .sqlite, "search", "searchText"⟩ = .ok (some d) ∧
      c.sql .sqlite ≠ d.sql .sqlite := by
  intro customers rule f g
  refine ⟨fun u hu => ?_, _, _, rfl, rfl, by decide⟩
  obtain rfl := List.mem_singleton.mp hu
  exact ⟨.trans (b := .predicate) rfl rfl, fun _ _ _ _ => trivial⟩

end Rule

end EntitySearch
