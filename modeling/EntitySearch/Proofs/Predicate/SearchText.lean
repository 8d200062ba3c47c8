import EntitySearch.Proofs.Filter.Given
import EntitySearch.Proofs.Predicate.Outcome
import EntitySearch.Proofs.Text.Caseless
import EntitySearch.Sample.Customer

/-!
# Search texts

What free text is searched for, and when that is blank (`Scope.searches_blank_exactly`). A filter
is passed over if its text is blank, but only the first `searchTextLimit` characters of the text
that is left are searched for, and those may be blank although what follows them is not.

* `Scope.givenSearchText?`: the text before it is cut. It is never blank.
* `Scope.isBlank_take_iff`: the texts that are blank once they are cut.
* `Scope.exists_search_eq`, `Scope.exists_searchDates_eq`: the predicates of a search text.
* `not_isNumericSearch_of_isBlank`, `searchedBoolean?_of_isBlank`: blank text is no number and no
  truth value.
-/

namespace EntitySearch

/-! ## Blank text -/

theorem not_isNumericSearch_of_isBlank {t : String} (h : Text.isBlank t = true) :
    isNumericSearch t = false := by
  cases hnum : isNumericSearch t with
  | false => rfl
  | true =>
    simp only [isNumericSearch, Bool.and_eq_true, List.all_eq_true, Bool.not_eq_true',
      List.isEmpty_eq_false_iff] at hnum
    obtain ⟨c, hc⟩ := List.exists_mem_of_ne_nil _ hnum.1.1
    have hblank := (Text.isBlank_iff t).mp h c hc
    rw [Decimal.isBlankChar_of_isDigit (hnum.1.2 c hc)] at hblank
    cases hblank

theorem searchedBoolean?_of_isBlank {t : String} (h : Text.isBlank t = true) :
    searchedBoolean? t = none := by
  have hword : ∀ w, Text.isBlank w = false → Text.equalsIgnoringCase t w = false := by
    intro w hw
    cases heq : Text.equalsIgnoringCase t w with
    | false => rfl
    | true => rw [Text.isBlank_congr heq, hw] at h; cases h
  rw [searchedBoolean?, hword "true" (by decide), hword "false" (by decide)]
  rfl

/-- What a date search says of a column stands for itself in a junction. -/
theorem DateSearch.asMember_condition (x : DateSearch) (o : Sql.Operand) :
    (x.condition o).asMember = x.condition o := by
  cases x <;> rfl

/-- A text that is neither a minute nor a day is a fragment. -/
theorem DateSearch.of_fragment {text : String}
    (hminute : Calendar.readSearchMinute? text.toList = none)
    (hday : Calendar.readSearchDay? text.toList = none) :
    of text = .fragment (Text.Anchor.anywhere.literal text) := by
  rw [of, hminute, hday]

namespace Scope

/-! ## The text -/

/-- The text of the first of the two filters that is not blank. -/
def givenSearchText? (s : Scope) : Option String :=
  (s.filters.nonBlankText? s.searchKey).or (s.filters.nonBlankText? s.fallbackSearchKey)

variable {s : Scope} {paths : List String} {attributes : List Attribute} {t u : String}

theorem searchText?_eq_some_iff : s.searchText? = some t ↔
    ∃ u, s.givenSearchText? = some u ∧ t = String.ofList (u.toList.take searchTextLimit) := by
  rw [searchText?, Option.map_eq_some_iff]
  simp only [eq_comm, givenSearchText?]

theorem isBlank_of_givenSearchText? (h : s.givenSearchText? = some u) : Text.isBlank u = false := by
  have hkey : ∀ key, s.filters.nonBlankText? key = some u → Text.isBlank u = false := by
    intro key hu
    simpa using (Option.filter_eq_some_iff.mp hu).2
  rcases Option.or_eq_some_iff.mp h with hu | ⟨-, hu⟩
  · exact hkey _ hu
  · exact hkey _ hu

/-- A text that is not blank is blank once it is cut just if it has blanks up to there and goes on
behind them. -/
theorem isBlank_take_iff (hu : Text.isBlank u = false) (n : Nat) :
    Text.isBlank (String.ofList (u.toList.take n)) = true ↔
      n < u.toList.length ∧ ∀ c ∈ u.toList.take n, Text.isBlankChar c = true := by
  rw [Text.isBlank_iff, String.toList_ofList]
  refine ⟨fun h => ⟨Nat.lt_of_not_le fun hle => ?_, h⟩, fun h => h.2⟩
  rw [List.take_of_length_le hle, ← Text.isBlank_iff, hu] at h
  cases h

/-! ## The predicates -/

/-- One match per attribute, for a text or value that may be missing. -/
theorem bind_anyMatch_eq_some_iff {α : Type} {x : Option α}
    {condition : α → Attribute → Sql.Condition} {c : Sql.Condition}
    (hmember : ∀ y a, (condition y a).asMember = condition y a) :
    (x.bind fun y => anyMatch attributes (condition y)) = some c ↔
      attributes ≠ [] ∧ ∃ y, x = some y ∧ c = .junction .or (attributes.map (condition y)) := by
  simp only [Option.bind_eq_some_iff, anyMatch_eq_some_iff, hmember]
  constructor
  · rintro ⟨y, hy, hne, hc⟩
    exact ⟨hne, y, hy, hc⟩
  · rintro ⟨hne, y, hy, hc⟩
    exact ⟨y, hy, hne, hc⟩

theorem exists_search_eq (ha : s.attributes paths = .ok attributes) :
    ∃ o, s.search paths = .ok o ∧ ∀ c, o = some c ↔
      attributes ≠ [] ∧ ∃ t, s.searchText? = some t ∧
        c = .junction .or (attributes.map fun a =>
          .leaf (.like false a.upperText (uppercasePattern .anywhere t))) := by
  rw [search, ha]
  exact ⟨_, rfl, fun c => bind_anyMatch_eq_some_iff fun _ _ => rfl⟩

theorem exists_searchDates_eq (ha : s.attributes paths = .ok attributes) :
    ∃ o, s.searchDates paths = .ok o ∧ ∀ c, o = some c ↔
      attributes ≠ [] ∧ ∃ t, s.searchText? = some t ∧
        c = .junction .or (attributes.map fun a => (DateSearch.of t).condition a.operand) := by
  rw [searchDates, ha]
  exact ⟨_, rfl, fun c => bind_anyMatch_eq_some_iff fun t a =>
    (DateSearch.of t).asMember_condition a.operand⟩

/-- **Blank search texts.** The free-text search for text or dates is a predicate just if an
attribute is listed and one of the two filters is not blank: one match per attribute, all with the
same text `t`, the first 10000 characters of that filter. This text is blank just if those
characters are and there are more behind them. Then there is a predicate all the same; only the
searches for numbers and truth values have none. -/
theorem searches_blank_exactly (s : Scope) {paths : List String} {attributes : List Attribute}
    (ha : s.attributes paths = .ok attributes) :
    (∃ o, s.search paths = .ok o ∧ ∀ c, o = some c ↔
      attributes ≠ [] ∧ ∃ t, s.searchText? = some t ∧
        c = .junction .or (attributes.map fun a =>
          .leaf (.like false a.upperText (uppercasePattern .anywhere t)))) ∧
    (∃ o, s.searchDates paths = .ok o ∧ ∀ c, o = some c ↔
      attributes ≠ [] ∧ ∃ t, s.searchText? = some t ∧
        c = .junction .or (attributes.map fun a => (DateSearch.of t).condition a.operand)) ∧
    (∀ t, s.searchText? = some t ↔ ∃ u, s.givenSearchText? = some u ∧ Text.isBlank u = false ∧
      t = String.ofList (u.toList.take 10000)) ∧
    (∀ t u, s.searchText? = some t → s.givenSearchText? = some u →
      (Text.isBlank t = true ↔
        10000 < u.toList.length ∧ ∀ c ∈ u.toList.take 10000, Text.isBlankChar c = true)) ∧
    (∀ t, s.searchText? = some t → Text.isBlank t = true →
      s.searchNumeric paths = .ok none ∧ s.searchBoolean paths = .ok none) := by
  refine ⟨exists_search_eq ha, exists_searchDates_eq ha, fun t => ?_, fun t u ht hu => ?_,
    fun t ht hblank => ⟨?_, ?_⟩⟩
  · rw [searchText?_eq_some_iff]
    constructor
    · rintro ⟨u, hu, rfl⟩
      exact ⟨u, hu, isBlank_of_givenSearchText? hu, rfl⟩
    · rintro ⟨u, hu, -, rfl⟩
      exact ⟨u, hu, rfl⟩
  · obtain ⟨_, hu', rfl⟩ := searchText?_eq_some_iff.mp ht
    obtain rfl := Option.some.inj (hu.symm.trans hu')
    exact isBlank_take_iff (isBlank_of_givenSearchText? hu) searchTextLimit
  · rw [searchNumeric, ha, ht, Option.filter_some, not_isNumericSearch_of_isBlank hblank]
    rfl
  · rw [searchBoolean, ha, ht, Option.bind_some, searchedBoolean?_of_isBlank hblank]
    rfl

end Scope

namespace Sample.Customer

/-- A letter behind more blanks than are searched for. -/
def paddedText : String := String.ofList (List.replicate searchTextLimit ' ' ++ ['a'])

/-- A search for the padded letter. -/
def paddedSearch : Scope :=
  .new (entityWith attributes vehicleColumns) (.ofList [("search", .text paddedText)]) .sqlite

theorem givenSearchText?_paddedSearch : paddedSearch.givenSearchText? = some paddedText := by
  -- The letter alone decides, so the blanks in front of it are never looked at.
  have hblank : Text.isBlank paddedText = false := Text.isBlank_ofList ⟨'a', by simp, by decide⟩
  have htext : paddedSearch.filters.text? paddedSearch.searchKey = some paddedText := rfl
  rw [Scope.givenSearchText?, Filters.nonBlankText?, htext, Option.filter_some, hblank]
  rfl

theorem take_paddedText :
    paddedText.toList.take searchTextLimit = List.replicate searchTextLimit ' ' := by
  rw [paddedText, String.toList_ofList, List.take_left' List.length_replicate]

theorem length_paddedText : paddedText.toList.length = searchTextLimit + 1 := by
  rw [paddedText, String.toList_ofList, List.length_append, List.length_replicate]
  rfl

end Sample.Customer

namespace Scope

open Sample.Customer

/-- The padded letter is searched for as blanks, in the name and in the date. -/
theorem searches_blank_exactly_padded :
    let name : Attribute := ⟨"name", ⟨"customers", "name"⟩, .string⟩
    let t := String.ofList (List.replicate 10000 ' ')
    paddedSearch.attributes ["name"] = .ok [name] ∧
    paddedSearch.searchText? = some t ∧ Text.isBlank t = true ∧
    paddedSearch.search ["name"] = .ok (some (.junction .or
      [.leaf (.like false name.upperText (uppercasePattern .anywhere t))])) ∧
    paddedSearch.searchNumeric ["name"] = .ok none := by
  intro name t
  have ha : paddedSearch.attributes ["name"] = .ok [name] := rfl
  obtain ⟨⟨o, ho, hsearch⟩, -, htext, hblank, hothers⟩ := searches_blank_exactly paddedSearch ha
  have hgiven := givenSearchText?_paddedSearch
  have ht : paddedSearch.searchText? = some t := by
    refine (htext t).mpr ⟨paddedText, hgiven, isBlank_of_givenSearchText? hgiven, ?_⟩
    exact congrArg String.ofList take_paddedText.symm
  have htblank : Text.isBlank t = true := by
    refine (hblank t paddedText ht hgiven).mpr ⟨?_, fun c hc => ?_⟩
    · rw [length_paddedText]
      decide
    · obtain rfl := List.eq_of_mem_replicate (take_paddedText ▸ hc)
      decide
  refine ⟨ha, ht, htblank, ?_, (hothers t ht htblank).1⟩
  rw [ho, (hsearch _).mpr ⟨by simp, t, ht, rfl⟩]
  rfl

/-- What free text is searched for is not always more than blanks. -/
theorem blanks_are_searched :
    ¬ ∀ (s : Scope) (paths : List String) (c : Sql.Condition) (u : String),
      s.search paths = .ok (some c) →
      (s.filters.nonBlankText? s.searchKey).or (s.filters.nonBlankText? s.fallbackSearchKey) =
        some u →
      ∃ ch ∈ u.toList.take 10000, Text.isBlankChar ch = false := by
  intro hall
  have ha : paddedSearch.attributes ["name"] =
      .ok [⟨"name", ⟨"customers", "name"⟩, .string⟩] := rfl
  have hgiven := givenSearchText?_paddedSearch
  obtain ⟨o, ho, hsearch⟩ := exists_search_eq ha
  have ht := searchText?_eq_some_iff.mpr ⟨paddedText, hgiven, rfl⟩
  obtain ⟨ch, hmem, hch⟩ := hall paddedSearch ["name"] _ paddedText
    (ho.trans (congrArg _ ((hsearch _).mpr ⟨by simp, _, ht, rfl⟩))) hgiven
  obtain rfl := List.eq_of_mem_replicate (take_paddedText ▸ hmem)
  exact absurd hch (by decide)

end Scope

end EntitySearch
