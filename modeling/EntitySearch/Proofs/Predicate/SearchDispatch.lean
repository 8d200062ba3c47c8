import EntitySearch.Proofs.Predicate.SearchText

/-!
# Which searches apply

What each kind of free-text search comes to for a text (`Scope.search_dispatch`): one match per
attribute if the kind applies to the text, and nothing otherwise.

* `SearchKind.Applies`: the texts that a kind applies to. Numbers are the decimal digits of positive
  integers (`isNumericSearch_iff`), and no such text is a truth value (`not_numeric_and_boolean`).
* `SearchKind.condition`: the match of one attribute.
-/

namespace EntitySearch

/-! ## Texts -/

/-- The word of a truth value. -/
def booleanWord (value : Bool) : String := if value then "true" else "false"

/-- The texts that a kind of search applies to. -/
def SearchKind.Applies (c : String) : SearchKind → Prop
  | text | dates => True
  | numeric => ∃ n : Int, 1 ≤ n ∧ c = Decimal.intText n
  | boolean => ∃ value, Text.equalsIgnoringCase c (booleanWord value) = true

/-- Whether a kind of search applies to a text, as it is decided. -/
def SearchKind.applies (c : String) : SearchKind → Bool
  | text | dates => true
  | numeric => isNumericSearch c
  | boolean => (searchedBoolean? c).isSome

variable {c : String}

/-- A search text applies to numbers if it is how a positive integer is written. -/
theorem isNumericSearch_iff : isNumericSearch c = true ↔ SearchKind.numeric.Applies c := by
  simp only [isNumericSearch, Bool.and_eq_true, Bool.not_eq_true', List.isEmpty_eq_false_iff,
    List.all_eq_true, bne_iff_ne]
  constructor
  · rintro ⟨⟨hne, hdigits⟩, hhead⟩
    have hwritten := Decimal.digits_value hdigits hne hhead
    have hpos : Decimal.value c.toList ≠ 0 := by
      intro hzero
      rw [hzero, Decimal.digits] at hwritten
      exact hhead (hwritten ▸ rfl)
    refine ⟨Decimal.value c.toList, by omega, ?_⟩
    rw [Decimal.intText, Decimal.intChars, if_neg (by omega), Int.natAbs_natCast, hwritten,
      String.ofList_toList]
  · rintro ⟨n, hn, rfl⟩
    have hchars : (Decimal.intText n).toList = Decimal.digits n.natAbs := by
      rw [Decimal.intText, String.toList_ofList, Decimal.intChars, if_neg (by omega)]
    rw [hchars]
    exact ⟨⟨Decimal.digits_ne_nil _, fun d => Decimal.isDigit_of_mem_digits⟩,
      Decimal.head?_digits_ne_zero (by omega)⟩

/-- The truth value that a search text names is the one whose word it is. -/
theorem searchedBoolean?_eq_some_iff {value : Bool} :
    searchedBoolean? c = some value ↔ Text.equalsIgnoringCase c (booleanWord value) = true := by
  have hother : Text.equalsIgnoringCase c "true" = true →
      Text.equalsIgnoringCase c "false" = false := by
    intro htrue
    have hletters : c.toList.map Text.lowerAscii = "true".toList.map Text.lowerAscii :=
      beq_iff_eq.mp htrue
    rw [Text.equalsIgnoringCase, Text.sameLetters, hletters]
    decide
  unfold searchedBoolean?
  cases htrue : Text.equalsIgnoringCase c "true" with
  | true => cases value <;> simp [booleanWord, htrue, hother htrue]
  | false => cases value <;> simp [booleanWord, htrue]

theorem eq_of_searchedBoolean? {value : Bool} (h : searchedBoolean? c = some value) :
    Text.equalsIgnoringCase c "true" = value := by
  unfold searchedBoolean? at h
  split at h
  · rename_i htrue
    exact htrue.trans (Option.some.inj h)
  · rename_i htrue
    rw [Bool.not_eq_true] at htrue
    split at h
    · exact htrue.trans (Option.some.inj h)
    · cases h

theorem SearchKind.applies_iff {kind : SearchKind} : kind.applies c = true ↔ kind.Applies c := by
  cases kind with
  | text | dates => simp [applies, Applies]
  | numeric => exact isNumericSearch_iff
  | boolean => simp only [applies, Applies, Option.isSome_iff_exists, searchedBoolean?_eq_some_iff]

/-- No text is both a number and a truth value: the words of truth values have no digits. -/
theorem not_numeric_and_boolean :
    ¬ (SearchKind.numeric.Applies c ∧ SearchKind.boolean.Applies c) := by
  rintro ⟨hnum, value, hword⟩
  have hdigits := isNumericSearch_iff.mpr hnum
  simp only [isNumericSearch, Bool.and_eq_true, List.all_eq_true] at hdigits
  have hletters : c.toList.map Text.lowerAscii = (booleanWord value).toList.map Text.lowerAscii :=
    beq_iff_eq.mp hword
  have hsame : c.toList.map Text.lowerAscii = c.toList :=
    (List.map_congr_left fun d hd => Text.lowerAscii_of_isDigit (hdigits.1.2 d hd)).trans
      (List.map_id _)
  rw [hsame] at hletters
  have hall : ((booleanWord value).toList.map Text.lowerAscii).all Decimal.isDigit = true :=
    List.all_eq_true.mpr (hletters ▸ hdigits.1.2)
  cases value <;> revert hall <;> decide

/-! ## Matches -/

/-- The match of an attribute with a text that a kind of search applies to. -/
def SearchKind.condition (b : Sql.Backend) (c : String) (a : Attribute) : SearchKind → Sql.Condition
  | text => .leaf (.like false a.upperText (uppercasePattern .anywhere c))
  | numeric => .leaf (.like false (.castText a.operand) (Text.Anchor.anywhere.plain c))
  | boolean =>
    let value := b.booleanText (Text.equalsIgnoringCase c "true")
    .leaf (.like false (.castText a.operand) (Text.Anchor.anywhere.plain value))
  | dates => (DateSearch.of c).condition a.operand

namespace Scope

variable {s : Scope} {paths : List String} {attributes : List Attribute} {kind : SearchKind}

/-- Each kind of search matches the text with every attribute, if it applies to the text. -/
theorem outcome_freeText_eq (kind : SearchKind) (ha : s.attributes paths = .ok attributes) :
    (Criterion.freeText kind paths).outcome s =
      .ok ((s.searchText?.filter (kind.applies ·)).bind fun c =>
        anyMatch attributes fun a => kind.condition s.backend c a) := by
  cases kind with
  | text | dates =>
    simp only [Criterion.outcome, search, searchDates, ha]
    cases s.searchText? <;> rfl
  | numeric =>
    simp only [Criterion.outcome, searchNumeric, ha]
    rfl
  | boolean =>
    simp only [Criterion.outcome, searchBoolean, ha]
    refine congrArg Except.ok ?_
    cases s.searchText? with
    | none => rfl
    | some c =>
      rw [Option.bind_some, Option.filter_some, SearchKind.applies]
      cases hvalue : searchedBoolean? c with
      | none => rfl
      | some value =>
        obtain rfl := eq_of_searchedBoolean? hvalue
        rfl

theorem asMember_condition (b : Sql.Backend) (c : String) (a : Attribute) (kind : SearchKind) :
    (kind.condition b c a).asMember = kind.condition b c a := by
  cases kind with
  | dates => exact (DateSearch.of c).asMember_condition a.operand
  | _ => rfl

/-- A search that applies to its text has one match for each attribute. -/
theorem outcome_freeText_of_applies (ha : s.attributes paths = .ok attributes)
    (hne : attributes ≠ []) {c : String} (hc : s.searchText? = some c)
    (happlies : kind.Applies c) : (Criterion.freeText kind paths).outcome s =
      .ok (some (.junction .or (attributes.map fun a => kind.condition s.backend c a))) := by
  rw [outcome_freeText_eq kind ha, hc, Option.filter_some,
    if_pos (SearchKind.applies_iff.mpr happlies), Option.bind_some,
    anyMatch_eq_some_iff.mpr ⟨hne, rfl⟩]
  simp only [asMember_condition]

/-- Attributes are as many as their paths. -/
theorem attributes_eq_nil_iff (ha : s.attributes paths = .ok attributes) :
    attributes = [] ↔ paths = [] := by
  rw [← List.map_eq_nil_iff (f := s.resolve), mapM_eq_ok_iff.mp ha, List.map_eq_nil_iff]

theorem attributes_ne_nil (hne : paths ≠ []) (ha : s.attributes paths = .ok attributes) :
    attributes ≠ [] :=
  mt (attributes_eq_nil_iff ha).mp hne

/-- **Which searches apply.** Free text is searched for in attributes that are all declared, in the
order of their paths. The text `c` is that of the first of the two filters that has a text that is
not blank, which a list never has, cut to 10000 characters. Without a text or an attribute no search
has a predicate. Otherwise a search has one just if it applies to `c`: those for text and dates
always do, the one for numbers if `c` is how a positive integer is written, the one for truth values
if it is `true` or `false` in any case, so never both of these. The predicate has one match for each
attribute, in order. -/
theorem search_dispatch (s : Scope) {paths : List String} {attributes : List Attribute}
    (ha : s.attributes paths = .ok attributes) :
    paths.map s.resolve = attributes.map .ok ∧
    (∀ c, s.searchText? = some c ↔ ∃ u, c = String.ofList (u.toList.take 10000) ∧
      (s.filters.nonBlankText? s.searchKey = some u ∨
        s.filters.nonBlankText? s.searchKey = none ∧
          s.filters.nonBlankText? s.fallbackSearchKey = some u)) ∧
    (∀ key u, s.filters.nonBlankText? key = some u ↔
      ∃ v, s.filters.get? key = some v ∧ v.text? = some u ∧ Text.isBlank u = false) ∧
    (s.searchText? = none ∨ paths = [] →
      ∀ kind, (Criterion.freeText kind paths).outcome s = .ok none) ∧
    (∀ c, s.searchText? = some c → paths ≠ [] → ∀ kind : SearchKind,
      (kind.Applies c → (Criterion.freeText kind paths).outcome s =
        .ok (some (.junction .or (attributes.map fun a => kind.condition s.backend c a)))) ∧
      (¬ kind.Applies c → (Criterion.freeText kind paths).outcome s = .ok none)) ∧
    (s.searchNumeric paths = .ok none ∨ s.searchBoolean paths = .ok none) := by
  have hnot : ∀ {c kind}, s.searchText? = some c → ¬ kind.Applies c →
      (Criterion.freeText kind paths).outcome s = .ok none := by
    intro c kind hc happlies
    rw [outcome_freeText_eq kind ha, hc, Option.filter_some,
      if_neg (mt SearchKind.applies_iff.mp happlies)]
    rfl
  have hnone : s.searchText? = none ∨ paths = [] →
      ∀ kind, (Criterion.freeText kind paths).outcome s = .ok none := by
    rintro (hc | hempty) kind
    · rw [outcome_freeText_eq kind ha, hc]
      rfl
    · obtain rfl := (attributes_eq_nil_iff ha).mpr hempty
      rw [outcome_freeText_eq kind ha]
      cases s.searchText?.filter (kind.applies ·) <;> rfl
  refine ⟨mapM_eq_ok_iff.mp ha, fun c => ?_, fun key u => Filters.nonBlankText?_eq_some_iff, hnone,
    fun c hc hne kind => ⟨?_, hnot hc⟩, ?_⟩
  · rw [searchText?_eq_some_iff]
    simp only [givenSearchText?, Option.or_eq_some_iff, searchTextLimit, and_comm]
  · exact outcome_freeText_of_applies ha (attributes_ne_nil hne ha) hc
  · cases hc : s.searchText? with
    | none => exact .inl (hnone (.inl hc) .numeric)
    | some c =>
      by_cases hnum : SearchKind.numeric.Applies c
      · exact .inr (hnot hc fun hbool => not_numeric_and_boolean ⟨hnum, hbool⟩)
      · exact .inl (hnot hc hnum)

open Sample in
/-- A number is searched for in place of a list, in three attributes of which two are the same. -/
theorem search_dispatch_repeated :
    let customers := Customer.entityWith Customer.attributes Customer.vehicleColumns
    let s : Scope := .new customers
      (.ofList [("search", .list [.text "7"]), ("searchText", .int 42)]) .postgres
    let paths := ["score", "name", "score"]
    let score : Attribute := ⟨"score", ⟨"customers", "score"⟩, .int⟩
    let name : Attribute := ⟨"name", ⟨"customers", "name"⟩, .string⟩
    let matching (a : Attribute) := Sql.Condition.leaf (.like false (.castText a.operand) "%42%")
    s.attributes paths = .ok [score, name, score] ∧
    s.searchText? = some "42" ∧
    s.searchNumeric paths =
      .ok (some (.junction .or [matching score, matching name, matching score])) ∧
    s.searchBoolean paths = .ok none := by
  intro customers s paths score name matching
  have ha : s.attributes paths = .ok [score, name, score] := rfl
  obtain ⟨-, htext, hfilter, -, hsearch, -⟩ := search_dispatch s ha
  have hgiven : s.filters.nonBlankText? s.fallbackSearchKey = some "42" := by
    refine (hfilter _ _).mpr ⟨.int 42, rfl, ?_, by decide⟩
    decide +kernel
  have hc : s.searchText? = some "42" :=
    (htext "42").mpr ⟨"42", by decide, .inr ⟨rfl, hgiven⟩⟩
  have hnumeric : SearchKind.numeric.Applies "42" := ⟨42, by decide, by decide +kernel⟩
  have hboolean : ¬ SearchKind.boolean.Applies "42" :=
    fun h => not_numeric_and_boolean ⟨hnumeric, h⟩
  exact ⟨ha, hc, (hsearch "42" hc (by simp [paths]) .numeric).1 hnumeric,
    (hsearch "42" hc (by simp [paths]) .boolean).2 hboolean⟩

end Scope

end EntitySearch
