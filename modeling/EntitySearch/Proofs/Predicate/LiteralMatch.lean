import EntitySearch.Proofs.Predicate.SearchDispatch

/-!
# Literal matching

The text of a request is matched as it is, wherever it goes into a pattern (`matches_literally`): no
character of it ever acts as a wildcard, and no pattern is malformed.

* `matchFilterText_eq`: the match of an attribute with its filter's text.
* `search_eq`, `searchNumeric_eq`, `searchDates_eq`: the free-text searches that use patterns.
-/

namespace EntitySearch

namespace Scope

open Text Sql.Condition

variable {s : Scope} {attr : String} {key : Option String} {a : Attribute} {paths : List String}
  {attributes : List Attribute} {t : String}

theorem matchFilterText_eq (anchor : Anchor) (negated : Bool) (ha : s.resolve attr = .ok a)
    (ht : s.filters.nonBlankText? (filterKey attr key) = some t) :
    s.matchFilterText anchor negated attr key =
      .ok (some (.leaf (.like negated a.upperText (anchor.literal (upperCase t))))) := by
  rw [matchFilterText, ha]
  show Except.ok _ = Except.ok _
  rw [ht]
  rfl

theorem search_eq (hne : attributes ≠ []) (ha : s.attributes paths = .ok attributes)
    (ht : s.searchText? = some t) :
    s.search paths = .ok (some (.junction .or (attributes.map fun a =>
      .leaf (.like false a.upperText (Anchor.anywhere.literal (upperCase t)))))) := by
  have happlies : SearchKind.text.Applies t := trivial
  exact outcome_freeText_of_applies ha hne ht happlies

theorem searchNumeric_eq (hne : attributes ≠ []) (ha : s.attributes paths = .ok attributes)
    (ht : s.searchText? = some t) (hnum : isNumericSearch t = true) :
    s.searchNumeric paths = .ok (some (.junction .or (attributes.map fun a =>
      .leaf (.like false (.castText a.operand) (Anchor.anywhere.plain t))))) :=
  outcome_freeText_of_applies ha hne ht (isNumericSearch_iff.mp hnum)

theorem searchDates_eq (hne : attributes ≠ []) (ha : s.attributes paths = .ok attributes)
    (ht : s.searchText? = some t) (hminute : Calendar.readSearchMinute? t.toList = none)
    (hday : Calendar.readSearchDay? t.toList = none) :
    s.searchDates paths = .ok (some (.junction .or (attributes.map fun a =>
      .junction .or (Sql.DatePart.components.map fun part =>
        .leaf (.like false (.datePart part a.operand) (Anchor.anywhere.literal t)))))) := by
  have happlies : SearchKind.dates.Applies t := trivial
  have hsearch := outcome_freeText_of_applies ha hne ht happlies
  simp only [SearchKind.condition, DateSearch.of_fragment hminute hday] at hsearch
  exact hsearch

/-- **Literal matching.** The patterns that stand for a text `t` match the texts that it occurs in,
starts or ends, once it is in upper case where the column is, and no others; the text of a search is
its first 10000 characters. Every pattern in the condition of a rule is of this kind. -/
theorem matches_literally (s : Scope) :
    (∀ attr key a t, s.resolve attr = .ok a →
      s.filters.nonBlankText? (filterKey attr key) = some t →
      ∃ inside front back,
        s.contains attr key = .ok (some (.leaf (.like false a.upperText inside))) ∧
        s.notContains attr key = .ok (some (.leaf (.like true a.upperText inside))) ∧
        s.startsWith attr key = .ok (some (.leaf (.like false a.upperText front))) ∧
        s.endsWith attr key = .ok (some (.leaf (.like false a.upperText back))) ∧
        FindsExactly inside (fun x => (upperCase t).toList <:+: x.toList) ∧
        FindsExactly front (fun x => (upperCase t).toList <+: x.toList) ∧
        FindsExactly back (fun x => (upperCase t).toList <:+ x.toList)) ∧
    (∀ paths attributes t, paths ≠ [] → s.attributes paths = .ok attributes →
      (s.filters.nonBlankText? s.searchKey).or
        (s.filters.nonBlankText? s.fallbackSearchKey) = some t →
      let c := String.ofList (t.toList.take 10000)
      (∃ p, s.search paths = .ok (some (.junction .or
          (attributes.map fun a => .leaf (.like false a.upperText p)))) ∧
        FindsExactly p fun x => (upperCase c).toList <:+: x.toList) ∧
      (isNumericSearch c = true →
        ∃ p, s.searchNumeric paths = .ok (some (.junction .or
          (attributes.map fun a => .leaf (.like false (.castText a.operand) p)))) ∧
        FindsExactly p fun x => c.toList <:+: x.toList) ∧
      (Calendar.readSearchMinute? c.toList = none → Calendar.readSearchDay? c.toList = none →
        ∃ p, s.searchDates paths = .ok (some (.junction .or (attributes.map fun a =>
          .junction .or (Sql.DatePart.components.map fun part =>
            .leaf (.like false (.datePart part a.operand) p))))) ∧
        FindsExactly p fun x => c.toList <:+: x.toList)) ∧
    (∀ (rule : Rule) parameters c, rule.outcome parameters s = .ok (some c) →
      c.Every Sql.Comparison.IsLiteral) := by
  refine ⟨?_, ?_, fun rule parameters c h => rule.every_outcome h⟩
  · intro attr key a t ha ht
    exact ⟨_, _, _, matchFilterText_eq .anywhere false ha ht,
      matchFilterText_eq .anywhere true ha ht, matchFilterText_eq .atStart false ha ht,
      matchFilterText_eq .atEnd false ha ht,
      findsExactly_literal .anywhere _, findsExactly_literal .atStart _,
      findsExactly_literal .atEnd _⟩
  · intro paths attributes t hne ha ht c
    have hne' := attributes_ne_nil hne ha
    have hc : s.searchText? = some c := by
      rw [searchText?, ht]
      rfl
    refine ⟨⟨_, search_eq hne' ha hc, findsExactly_literal .anywhere _⟩, fun hnum => ?_,
      fun hminute hday => ?_⟩
    · exact ⟨_, searchNumeric_eq hne' ha hc hnum,
        findsExactly_plain .anywhere (not_special_of_isNumericSearch hnum)⟩
    · exact ⟨_, searchDates_eq hne' ha hc hminute hday, findsExactly_literal .anywhere c⟩

theorem matches_literally_discounts :
    let s := Sample.Customer.discounts
    let name : Attribute := ⟨"name", ⟨"customers", "name"⟩, .string⟩
    let score : Attribute := ⟨"score", ⟨"customers", "score"⟩, .int⟩
    let created : Attribute := ⟨"created_at", ⟨"customers", "created_at"⟩, .dateTime⟩
    (∃ inside, s.contains "name" none = .ok (some (.leaf (.like false name.upperText inside))) ∧
      FindsExactly inside fun x => "OFF 5%_!".toList <:+: x.toList) ∧
    (∃ p, s.search ["name"] = .ok (some (.junction .or [.leaf (.like false name.upperText p)])) ∧
      FindsExactly p fun x => "12".toList <:+: x.toList) ∧
    (∃ p, s.searchNumeric ["score"] =
        .ok (some (.junction .or [.leaf (.like false (.castText score.operand) p)])) ∧
      FindsExactly p fun x => "12".toList <:+: x.toList) ∧
    (∃ p, s.searchDates ["created_at"] = .ok (some (.junction .or [.junction .or
        (Sql.DatePart.components.map fun part =>
          .leaf (.like false (.datePart part created.operand) p))])) ∧
      FindsExactly p fun x => "12".toList <:+: x.toList) ∧
    (Sql.Condition.leaf (.like true name.upperText "%OFF 5!%!_!!%")).Every
      Sql.Comparison.IsLiteral := by
  obtain ⟨htext, hfree, hrule⟩ := matches_literally Sample.Customer.discounts
  obtain ⟨inside, _, _, hcontains, _, _, _, hinside, _, _⟩ :=
    htext "name" none _ "off 5%_!" rfl rfl
  obtain ⟨hsearch, _, _⟩ := hfree ["name"] _ "12" (by decide) rfl rfl
  obtain ⟨_, hnumeric, _⟩ := hfree ["score"] _ "12" (by decide) rfl rfl
  obtain ⟨_, _, hdates⟩ := hfree ["created_at"] _ "12" (by decide) rfl rfl
  exact ⟨⟨inside, hcontains, hinside⟩, hsearch, hnumeric rfl, hdates rfl rfl,
    hrule (.criterion (.textMatch .anywhere true "name" none)) .empty _ rfl⟩

end Scope

end EntitySearch
