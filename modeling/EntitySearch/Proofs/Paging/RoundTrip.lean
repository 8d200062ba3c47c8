import EntitySearch.Proofs.Paging.Decoding

/-!
# Page requests and their texts

A page request is read back from its text and from every text that says the same, alone or as part of
a search request (`Pageable.roundTrips`).

* `Pageable.layout_toJson`: the text of a page request is one of the tokens of its members.
* `SearchRequest.decode?_insert_pageable`: a search request with a page request in it is the one
  without it, with this page request in place of the standard one.
* `SearchRequest.Spoils`: members that no search request has.
-/

namespace EntitySearch

open Json (Token Layout MemberDenotes Denotes IsValue namedTokens)

namespace Pageable

theorem layout_toJson (p : Pageable) :
    Layout (namedTokens p.tokenMembers) p.toJson.render.toList := by
  rw [Json.render, String.toList_ofList]
  exact Json.layout_object (.cons ⟨rfl, Json.layout_word64 p.page⟩
    (.cons ⟨rfl, Json.layout_word64 p.size⟩ (.cons ⟨rfl, Json.layout_strings p.sortBy⟩
      (.cons ⟨rfl, Json.layout_strings p.sortDirection⟩ .nil))))

/-- A page request says what it says. -/
theorem saidBy_tokenMembers (p : Pageable) : p.SaidBy p.tokenMembers :=
  ⟨p.tokenMembers, [], by simp, List.Sublist.refl _, fun _ hm hkept => absurd hm hkept, by simp⟩

variable {p : Pageable} {ms : List (String × List Token)} {cs : List Char}

theorem read?_of_saidBy (h : p.SaidBy ms) (hcs : Layout (namedTokens ms) cs) :
    read? (String.ofList cs) = some p := by
  obtain ⟨js, hjs⟩ := Json.exists_memberDenotes (isValue_of_saidBy h) 1
  rw [read?, hcs.read?_object hjs, Option.bind_some, decode?_of_saidBy (by decide) h hjs]

theorem read?_of_spoils (hms : ∀ m ∈ ms, IsValue m.2) (h : Spoils ms)
    (hcs : Layout (namedTokens ms) cs) : read? (String.ofList cs) = none := by
  obtain ⟨js, hjs⟩ := Json.exists_memberDenotes hms 1
  rw [read?, hcs.read?_object hjs, Option.bind_some, decode?_of_spoils hjs h]

end Pageable

/-! ## Search requests -/

namespace SearchRequest

variable {before after : List (String × Json)} {js : List (String × Json)} {v : Json}

/-- A search request is decoded from the members that it has under its two names. -/
theorem decode?_object (js : List (String × Json)) :
    decode? (.object js) = (do
      let filters ← Json.member? js "filters"
      let pageable ← Json.member? js "pageable"
      let filters ← Json.decodeOr? Filters.empty Filters.decode? filters
      let pageable ← Json.decodeOr? Pageable.standard Pageable.decode? pageable
      return ⟨filters, pageable⟩) := by
  unfold decode? Json.record? memberNames
  simp only [List.mapM_cons, List.mapM_nil]
  cases Json.member? js "filters" with
  | none => rfl
  | some filters => cases Json.member? js "pageable" <;> rfl

/-- The filters of a search request do not depend on the page request in it. -/
theorem decode?_insert_pageable {p : Pageable} (hv : Pageable.decode? v = some p)
    (hothers : ∀ j ∈ before ++ after, j.1 ≠ "pageable") :
    decode? (.object (before ++ ("pageable", v) :: after)) =
      (decode? (.object (before ++ after))).map fun r => { r with pageable := p } := by
  have hfilters : Json.member? (before ++ ("pageable", v) :: after) "filters" =
      Json.member? (before ++ after) "filters" := by
    unfold Json.member?
    rw [List.filter_append, List.filter_cons_of_neg (by simp), ← List.filter_append]
  have hnone : ∀ l : List (String × Json), (∀ j ∈ l, j.1 ≠ "pageable") →
      l.filter (·.1 == "pageable") = [] := by
    intro l hl
    rw [List.filter_eq_nil_iff]
    exact fun j hj heq => hl j hj (beq_iff_eq.mp heq)
  have hbefore := hnone before fun j hj => hothers j (List.mem_append_left after hj)
  have hafter := hnone after fun j hj => hothers j (List.mem_append_right before hj)
  have hpageable : Json.member? (before ++ ("pageable", v) :: after) "pageable" =
      some (some v) := by
    unfold Json.member?
    rw [List.filter_append, List.filter_cons_of_pos (by simp), hbefore, hafter]
    rfl
  have habsent : Json.member? (before ++ after) "pageable" = some none := by
    unfold Json.member?
    rw [hnone _ hothers]
  rw [decode?_object, decode?_object, hfilters, hpageable, habsent]
  cases Json.member? (before ++ after) "filters" with
  | none => rfl
  | some o =>
    simp only [Option.bind_eq_bind, Option.bind_some]
    cases Json.decodeOr? Filters.empty Filters.decode? o with
    | none => rfl
    | some f =>
      simp only [Option.bind_some, Json.decodeOr?, hv]
      rfl

/-- Members that no search request has: a member of it that is given twice or is null, or a page
request with members that none has. -/
def Spoils (rs : List (String × List Token)) : Prop :=
  (∃ name ∈ memberNames, 2 ≤ (rs.filter (·.1 == name)).length) ∨
  (∃ name ∈ memberNames, (name, [Token.null]) ∈ rs) ∨
  ∃ ms, (∀ m ∈ ms, IsValue m.2) ∧ Pageable.Spoils ms ∧ ("pageable", namedTokens ms) ∈ rs

theorem decode?_of_spoils {rs : List (String × List Token)}
    (hjs : List.Forall₂ (MemberDenotes 1) rs js) (h : Spoils rs) : decode? (.object js) = none := by
  rw [Option.eq_none_iff_forall_ne_some]
  intro r hr
  rw [decode?_object] at hr
  simp only [Option.bind_eq_bind, Option.bind_eq_some_iff] at hr
  obtain ⟨_, hfilters, _, hpageable, _, hfilters', _, hpageable', -⟩ := hr
  have hknown : ∀ name ∈ memberNames, ∃ o, Json.member? js name = some o := by
    intro name hname
    simp only [memberNames, List.mem_cons, List.not_mem_nil, or_false] at hname
    rcases hname with rfl | rfl
    · exact ⟨_, hfilters⟩
    · exact ⟨_, hpageable⟩
  have hmember : ∀ name ∈ memberNames, ∀ v, (name, v) ∈ js →
      Json.member? js name = some (some v) := by
    intro name hname v hmem
    obtain ⟨o, ho⟩ := hknown name hname
    exact (Json.member?_of_mem hmem).resolve_left (by simp [ho])
  have hdecoded : ∀ v, ("pageable", v) ∈ js → Pageable.decode? v ≠ none := by
    intro v hmem
    obtain rfl := Option.some.inj (hpageable.symm.trans (hmember "pageable" (by decide) v hmem))
    exact Json.decode?_ne_none_of_decodeOr? hpageable' v rfl
  rcases h with ⟨name, hname, htwice⟩ | ⟨name, hname, hnull⟩ | ⟨ms, hms, hspoils, hmem⟩
  · obtain ⟨o, ho⟩ := hknown name hname
    cases (Json.member?_eq_none_of_repeated hjs htwice).symm.trans ho
  · obtain ⟨v, hv, hmem⟩ := Json.exists_mem_of_mem hjs hnull
    obtain rfl := hv.eq .null
    simp only [memberNames, List.mem_cons, List.not_mem_nil, or_false] at hname
    rcases hname with rfl | rfl
    · obtain rfl := Option.some.inj (hfilters.symm.trans (hmember "filters" (by decide) _ hmem))
      exact Json.decode?_ne_none_of_decodeOr? hfilters' _ rfl rfl
    · exact hdecoded _ hmem rfl
  · obtain ⟨v, hv, hmem⟩ := Json.exists_mem_of_mem hjs hmem
    obtain ⟨js', hjs'⟩ := Json.exists_memberDenotes hms 2
    obtain rfl := hv.eq (Json.denotes_object (by decide) hjs')
    exact hdecoded _ hmem (Pageable.decode?_of_spoils hjs' hspoils)

/-- Without its two names a search request is the standard one. -/
theorem decode?_of_others (h : ∀ j ∈ js, j.1 ∉ memberNames) :
    decode? (.object js) = some ⟨.empty, .standard⟩ := by
  have habsent : ∀ name ∈ memberNames, Json.member? js name = some none := by
    intro name hname
    have hfilter : js.filter (·.1 == name) = [] := by
      rw [List.filter_eq_nil_iff]
      intro j hj heq
      exact h j hj (beq_iff_eq.mp heq ▸ hname)
    rw [Json.member?, hfilter]
  rw [decode?_object, habsent "filters" (by decide), habsent "pageable" (by decide)]
  rfl

/-- Around a page request, the members of a search request are read as without it. -/
theorem exists_read?_insert_pageable {p : Pageable} {ms before after : List (String × List Token)}
    {cs : List Char} (h : p.SaidBy ms)
    (hothers : ∀ m ∈ before ++ after, m.1 ≠ "pageable" ∧ IsValue m.2)
    (hcs : Layout (namedTokens (before ++ ("pageable", namedTokens ms) :: after)) cs) :
    ∃ js, List.Forall₂ (MemberDenotes 1) (before ++ after) js ∧
      read? (String.ofList cs) = (decode? (.object js)).map fun r => { r with pageable := p } := by
  obtain ⟨jb, hjb⟩ := Json.exists_memberDenotes
    (fun m hm => (hothers m (List.mem_append_left after hm)).2) 1
  obtain ⟨ja, hja⟩ := Json.exists_memberDenotes
    (fun m hm => (hothers m (List.mem_append_right before hm)).2) 1
  obtain ⟨js, hjs⟩ := Json.exists_memberDenotes (Pageable.isValue_of_saidBy h) 2
  have hrequest : MemberDenotes 1 ("pageable", namedTokens ms) ("pageable", Json.object js) :=
    ⟨rfl, Json.denotes_object (by decide) hjs⟩
  have hothers' : List.Forall₂ (MemberDenotes 1) (before ++ after) (jb ++ ja) :=
    List.rel_append hjb hja
  have hkeys : ∀ j ∈ jb ++ ja, j.1 ≠ "pageable" := by
    intro j hj
    obtain ⟨m, hm, hkey⟩ := Json.exists_key_eq hothers' hj
    exact hkey ▸ (hothers m hm).1
  refine ⟨jb ++ ja, hothers', ?_⟩
  rw [read?, hcs.read?_object (List.rel_append hjb (.cons hrequest hja)), Option.bind_some]
  exact decode?_insert_pageable (Pageable.decode?_of_saidBy (by decide) h hjs) hkeys

end SearchRequest

/-! ## Round trips -/

/-- **Round trips.** A page request is read back from its text, whatever numbers and strings are in
it. So it is from any text of an object that has its members in any order, leaves out members that
are standard, has others among them, of other names and with any JSON value, and has space around its
tokens; and if such an object is the page request of a search request, that is the request without
it, but with this page request: one with no filters if it has none. An object in which a member of
the page request is given twice or is null, or in which the page number or size has a sign, a fraction
or an exponent, or is too large for 64 bits, is an error, and so is a search request with it. -/
theorem Pageable.roundTrips :
    (∀ p : Pageable, read? p.toJson.render = some p ∧
      Layout (namedTokens p.tokenMembers) p.toJson.render.toList) ∧
    (∀ (p : Pageable) ms cs, p.SaidBy ms → Layout (namedTokens ms) cs →
      read? (String.ofList cs) = some p) ∧
    (∀ (p : Pageable) ms before after cs cs', p.SaidBy ms →
      (∀ m ∈ before ++ after, m.1 ≠ "pageable" ∧ IsValue m.2) →
      Layout (namedTokens (before ++ ("pageable", namedTokens ms) :: after)) cs →
      Layout (namedTokens (before ++ after)) cs' →
      SearchRequest.read? (String.ofList cs) =
        (SearchRequest.read? (String.ofList cs')).map fun r => { r with pageable := p }) ∧
    (∀ (p : Pageable) ms before after cs, p.SaidBy ms →
      (∀ m ∈ before ++ after, m.1 ∉ SearchRequest.memberNames ∧ IsValue m.2) →
      Layout (namedTokens (before ++ ("pageable", namedTokens ms) :: after)) cs →
      SearchRequest.read? (String.ofList cs) = some ⟨.empty, p⟩) ∧
    (∀ ms cs, (∀ m ∈ ms, IsValue m.2) → Spoils ms → Layout (namedTokens ms) cs →
      read? (String.ofList cs) = none) ∧
    (∀ rs cs, (∀ m ∈ rs, IsValue m.2) → SearchRequest.Spoils rs → Layout (namedTokens rs) cs →
      SearchRequest.read? (String.ofList cs) = none) := by
  refine ⟨fun p => ⟨?_, p.layout_toJson⟩, fun p ms cs h hcs => read?_of_saidBy h hcs,
    fun p ms before after cs cs' h hothers hcs hcs' => ?_,
    fun p ms before after cs h hothers hcs => ?_,
    fun ms cs hms h hcs => read?_of_spoils hms h hcs, fun rs cs hrs h hcs => ?_⟩
  · have hread := read?_of_saidBy p.saidBy_tokenMembers p.layout_toJson
    rwa [String.ofList_toList] at hread
  · obtain ⟨js, hjs, hread⟩ := SearchRequest.exists_read?_insert_pageable h hothers hcs
    rw [hread, SearchRequest.read?, hcs'.read?_object hjs, Option.bind_some]
  · have hnames : ∀ m ∈ before ++ after, m.1 ≠ "pageable" ∧ IsValue m.2 := fun m hm =>
      ⟨fun heq => (hothers m hm).1 (heq ▸ by decide), (hothers m hm).2⟩
    obtain ⟨js, hjs, hread⟩ := SearchRequest.exists_read?_insert_pageable h hnames hcs
    have hothers' : ∀ j ∈ js, j.1 ∉ SearchRequest.memberNames := by
      intro j hj
      obtain ⟨m, hm, hkey⟩ := Json.exists_key_eq hjs hj
      exact hkey ▸ (hothers m hm).1
    rw [hread, SearchRequest.decode?_of_others hothers']
    rfl
  · obtain ⟨js, hjs⟩ := Json.exists_memberDenotes hrs 1
    rw [SearchRequest.read?, hcs.read?_object hjs, Option.bind_some,
      SearchRequest.decode?_of_spoils hjs h]

/-- A page request with space and a note in it, alone and in a search request; a negative page is an
error. -/
theorem Pageable.roundTrips_note :
    let p : Pageable := ⟨0, 5, [], []⟩
    let ms := [("note", [Token.null]), ("size", Json.word64Tokens 5)]
    let cs := "\x7b\"note\" : null, \"size\":5\x7d".toList
    let negative : Json.Lexeme := ⟨true, ['1'], none, none⟩
    (p.SaidBy ms ∧ Layout (namedTokens ms) cs ∧ read? (String.ofList cs) = some p) ∧
    SearchRequest.read? "\x7b\"pageable\":\x7b\"note\" : null, \"size\":5\x7d\x7d" =
      some ⟨.empty, p⟩ ∧
    Spoils [("page", [Token.number negative.number?])] ∧
    read? "\x7b\"page\":-1\x7d" = none := by
  intro p ms cs negative
  obtain ⟨-, hread, -, hrequest, hspoils, -⟩ := roundTrips
  have hsaid : p.SaidBy ms := by
    refine ⟨[("size", Json.word64Tokens 5)], [("note", [Token.null])], .swap _ _ _, ?_, ?_, ?_⟩
    · exact .cons _ (.cons_cons _ (.cons _ (.cons _ .slnil)))
    · intro m hm hkept
      simp only [tokenMembers, List.mem_cons, List.not_mem_nil, or_false] at hm
      rcases hm with rfl | rfl | rfl | rfl
      · exact .head _
      · exact absurd List.mem_cons_self hkept
      · exact .tail _ (.tail _ (.head _))
      · exact .tail _ (.tail _ (.tail _ (.head _)))
    · intro m hm
      obtain rfl := List.mem_singleton.mp hm
      exact ⟨by decide, .null⟩
  have hspace : ∀ c ∈ [' '], Token.isSpace c = true := fun c hc =>
    List.mem_singleton.mp hc ▸ rfl
  have hkey : ∀ name : String, Layout [.text (some name)] (Json.quoted name) := fun name =>
    .token (Json.spelled_quoted name)
  have hdigits : ∀ c, Decimal.isDigit c = true → c ≠ '0' → ∀ minus : Bool,
      Layout [.number (Json.Lexeme.number? ⟨minus, [c], none, none⟩)]
        ((if minus then ['-'] else []) ++ ([c] ++ ([] ++ []))) := fun c hc hzero minus =>
    .token (.numeral (.mk ⟨by simp, by simpa using hc⟩ (by simp [hzero]) .none .none))
  have hfive : Layout (Json.word64Tokens 5) ['5'] := hdigits '5' (by decide) (by decide) false
  have hend : Layout [.closeObject] ['}'] := .token (.mark rfl)
  have hlayout : Layout (namedTokens ms) cs :=
    .cons_mark rfl ((hkey "note").append (.space_append hspace (.cons_mark rfl
      (.space_append hspace ((Layout.token .nullWord).append (.cons_mark rfl
        (.space_append hspace ((hkey "size").append (.cons_mark rfl (hfive.append hend))))))))))
  have hspoilt : Spoils [("page", [Token.number negative.number?])] :=
    .inr (.inr ⟨"page", by decide, negative, .inl rfl, List.mem_singleton.mpr rfl⟩)
  refine ⟨⟨hsaid, hlayout, hread p ms cs hsaid hlayout⟩, ?_, hspoilt, ?_⟩
  · exact hrequest p ms [] [] _ hsaid (by simp) (.cons_mark rfl ((hkey "pageable").append
      (.cons_mark rfl (hlayout.append hend))))
  · refine hspoils _ _ ?_ hspoilt (.cons_mark rfl ((hkey "page").append
      (.cons_mark rfl ((hdigits '1' (by decide) (by decide) true).append hend))))
    simpa using IsValue.number _

end EntitySearch
