import EntitySearch.Paging.Pageable
import EntitySearch.Proofs.Json.Rendering
import Mathlib.Algebra.Group.Nat.Defs

/-!
# Page requests in JSON

A page request is decoded from every object that says it (`Pageable.decode?_of_saidBy`), and from no
object with a member that no page request has (`Pageable.decode?_of_spoils`).

* `Json.member?_eq_some_of_filter`, `Json.member?_eq_none_of_filter`: what an object has under a name,
  from the tokens of its members.
* `Pageable.SaidBy`: the members of objects that say what a page request says. They may come in any
  order, be left out if they are standard, and stand among others.
* `Pageable.Spoils`: members that no page request has.
-/

namespace EntitySearch

open Json (Token MemberDenotes Denotes IsValue namedTokens)

/-! ## Members by name -/

namespace Json

variable {depth : Nat} {ms : List (String × List Token)} {js : List (String × Json)} {name : String}

theorem forall₂_filter_key (h : List.Forall₂ (MemberDenotes depth) ms js) (name : String) :
    List.Forall₂ (MemberDenotes depth) (ms.filter (·.1 == name)) (js.filter (·.1 == name)) := by
  induction h with
  | nil => exact .nil
  | @cons m j ms js hm _ ih =>
    by_cases hname : m.1 = name
    · rw [List.filter_cons_of_pos (by simpa using hname),
        List.filter_cons_of_pos (by simpa [← hm.key_eq] using hname)]
      exact .cons hm ih
    · rw [List.filter_cons_of_neg (by simpa using hname),
        List.filter_cons_of_neg (by simpa [← hm.key_eq] using hname)]
      exact ih

theorem member?_eq_none_of_filter (h : List.Forall₂ (MemberDenotes depth) ms js)
    (hname : ms.filter (·.1 == name) = []) : member? js name = some none := by
  have hjs := forall₂_filter_key h name
  rw [hname, List.forall₂_nil_left_iff] at hjs
  rw [member?, hjs]

theorem member?_eq_some_of_filter (h : List.Forall₂ (MemberDenotes depth) ms js)
    {ts : List Token} (hname : ms.filter (·.1 == name) = [(name, ts)]) :
    ∃ v, Denotes depth ts v ∧ member? js name = some (some v) := by
  have hjs := forall₂_filter_key h name
  rw [hname] at hjs
  obtain ⟨j, js', hj, hnil, heq⟩ := List.forall₂_cons_left_iff.mp hjs
  obtain rfl := List.forall₂_nil_left_iff.mp hnil
  refine ⟨j.2, hj.denotes, ?_⟩
  rw [member?, heq]

/-- A name that is given twice is an error. -/
theorem member?_eq_none_of_repeated (h : List.Forall₂ (MemberDenotes depth) ms js)
    (hname : 2 ≤ (ms.filter (·.1 == name)).length) : member? js name = none := by
  have hlength := (forall₂_filter_key h name).length_eq
  unfold member?
  match hfilter : js.filter (·.1 == name) with
  | [] | [_] => simp [hlength, hfilter] at hname
  | _ :: _ :: _ => rw [hfilter]

theorem exists_key_eq (h : List.Forall₂ (MemberDenotes depth) ms js) {j : String × Json}
    (hj : j ∈ js) : ∃ m ∈ ms, m.1 = j.1 := by
  induction h with
  | nil => cases hj
  | @cons m k ms js hm _ ih =>
    rcases List.mem_cons.mp hj with rfl | hj
    · exact ⟨m, List.mem_cons_self, hm.key_eq⟩
    · obtain ⟨m', hm', hkey⟩ := ih hj
      exact ⟨m', List.mem_cons_of_mem m hm', hkey⟩

/-- A member that is there is found under its name, unless the name is given twice. -/
theorem member?_of_mem {v : Json} (h : (name, v) ∈ js) :
    member? js name = none ∨ member? js name = some (some v) := by
  have hfilter : (name, v) ∈ js.filter (·.1 == name) := List.mem_filter.mpr ⟨h, by simp⟩
  unfold member?
  match hjs : js.filter (·.1 == name) with
  | [] => rw [hjs] at hfilter; cases hfilter
  | [j] =>
    rw [hjs, List.mem_singleton] at hfilter
    subst hfilter
    exact .inr (by rw [hjs])
  | _ :: _ :: _ => exact .inl (by rw [hjs])

theorem decode?_ne_none_of_decodeOr? {α : Type} {default x : α} {decode? : Json → Option α}
    {o : Option Json} (h : decodeOr? default decode? o = some x) : ∀ v ∈ o, decode? v ≠ none := by
  rintro v rfl
  rw [show decode? v = some x from h]
  exact Option.some_ne_none x

theorem exists_mem_of_mem (h : List.Forall₂ (MemberDenotes depth) ms js) {ts : List Token}
    (hmem : (name, ts) ∈ ms) : ∃ v, Denotes depth ts v ∧ (name, v) ∈ js := by
  induction h with
  | nil => cases hmem
  | @cons m j ms js hm _ ih =>
    rcases List.mem_cons.mp hmem with rfl | hmem
    · exact ⟨j.2, hm.denotes, by simp [show name = j.1 from hm.key_eq]⟩
    · obtain ⟨v, hv, hjs⟩ := ih hmem
      exact ⟨v, hv, List.mem_cons_of_mem j hjs⟩

end Json

/-! ## Page requests -/

namespace Pageable

/-- The tokens of the members of a page request. -/
def tokenMembers (p : Pageable) : List (String × List Token) := [
  ("page", Json.word64Tokens p.page), ("size", Json.word64Tokens p.size),
  ("sortBy", Json.stringsTokens p.sortBy), ("sortDirection", Json.stringsTokens p.sortDirection)]

/-- The members of an object say what a page request says: members of the request in any order, of
which standard ones may be missing, among others of other names. -/
def SaidBy (p : Pageable) (ms : List (String × List Token)) : Prop :=
  ∃ kept others, ms.Perm (kept ++ others) ∧ kept.Sublist p.tokenMembers ∧
    (∀ m ∈ p.tokenMembers, m ∉ kept → m ∈ standard.tokenMembers) ∧
    ∀ m ∈ others, m.1 ∉ memberNames ∧ IsValue m.2

variable {p : Pageable} {ms : List (String × List Token)} {js : List (String × Json)} {depth : Nat}

theorem isValue_of_saidBy (h : p.SaidBy ms) : ∀ m ∈ ms, IsValue m.2 := by
  obtain ⟨kept, others, hperm, hkept, -, hothers⟩ := h
  intro m hm
  rcases List.mem_append.mp (hperm.mem_iff.mp hm) with hm | hm
  · have hm := hkept.subset hm
    simp only [tokenMembers, List.mem_cons, List.not_mem_nil, or_false] at hm
    rcases hm with rfl | rfl | rfl | rfl
    · exact Json.isValue_word64 _
    · exact Json.isValue_word64 _
    · exact Json.isValue_strings _
    · exact Json.isValue_strings _
  · exact (hothers m hm).2

/-- A member of the request is there once, or else it is standard. -/
theorem filter_of_saidBy (h : p.SaidBy ms) {name : String} (hname : name ∈ memberNames)
    {tokens : Pageable → List Token}
    (htokens : ∀ q : Pageable, q.tokenMembers.filter (·.1 == name) = [(name, tokens q)]) :
    ms.filter (·.1 == name) = [(name, tokens p)] ∨
      ms.filter (·.1 == name) = [] ∧ tokens p = tokens standard := by
  obtain ⟨kept, others, hperm, hkept, homitted, hothers⟩ := h
  have hothers : others.filter (·.1 == name) = [] := by
    rw [List.filter_eq_nil_iff]
    intro m hm heq
    obtain rfl := beq_iff_eq.mp heq
    exact (hothers m hm).1 hname
  have hms : (ms.filter (·.1 == name)).Perm (kept.filter (·.1 == name)) := by
    have hfilter := hperm.filter (·.1 == name)
    rwa [List.filter_append, hothers, List.append_nil] at hfilter
  have hsub : (kept.filter (·.1 == name)).Sublist [(name, tokens p)] :=
    htokens p ▸ hkept.filter _
  rcases List.sublist_singleton.mp hsub with hnil | hone
  · right
    rw [hnil] at hms
    refine ⟨hms.eq_nil, ?_⟩
    have hp : (name, tokens p) ∈ p.tokenMembers :=
      List.mem_of_mem_filter (p := (·.1 == name)) (by simp [htokens p])
    have hkept : (name, tokens p) ∉ kept := fun hmem =>
      List.filter_eq_nil_iff.mp hnil _ hmem (by simp)
    have hstandard : (name, tokens p) ∈ standard.tokenMembers.filter (·.1 == name) :=
      List.mem_filter.mpr ⟨homitted _ hp hkept, by simp⟩
    rw [htokens standard, List.mem_singleton] at hstandard
    exact (Prod.mk.inj hstandard).2
  · left
    rw [hone] at hms
    exact hms.eq_singleton

/-- A member is decoded as the request has it, there or not. -/
theorem exists_member_of_saidBy {α : Type} (h : p.SaidBy ms)
    (hjs : List.Forall₂ (MemberDenotes depth) ms js) (name : String) (hname : name ∈ memberNames)
    (tokens : Pageable → List Token) {value : Pageable → Json} {field : Pageable → α}
    {decode? : Json → Option α}
    (htokens : ∀ q : Pageable, q.tokenMembers.filter (·.1 == name) = [(name, tokens q)])
    (hvalue : ∀ q, Denotes depth (tokens q) (value q))
    (hfield : ∀ q, decode? (value q) = some (field q)) :
    ∃ o, Json.member? js name = some o ∧
      Json.decodeOr? (field standard) decode? o = some (field p) := by
  rcases filter_of_saidBy h hname htokens with hone | ⟨hnone, hstandard⟩
  · obtain ⟨v, hv, hmember⟩ := Json.member?_eq_some_of_filter hjs hone
    obtain rfl := hv.eq (hvalue p)
    exact ⟨_, hmember, hfield p⟩
  · refine ⟨none, Json.member?_eq_none_of_filter hjs hnone, ?_⟩
    have hsame : value p = value standard := (hvalue p).eq (hstandard ▸ hvalue standard)
    rw [Json.decodeOr?, ← hfield standard, ← hsame, hfield p]

/-- An object is decoded from the members that it has under the names of the request. -/
theorem decode?_object (js : List (String × Json)) :
    decode? (.object js) = (do
      let page ← Json.member? js "page"
      let size ← Json.member? js "size"
      let sortBy ← Json.member? js "sortBy"
      let sortDirection ← Json.member? js "sortDirection"
      let page ← Json.decodeOr? standard.page Json.word64? page
      let size ← Json.decodeOr? standard.size Json.word64? size
      let sortBy ← Json.decodeOr? standard.sortBy Json.strings? sortBy
      let sortDirection ← Json.decodeOr? standard.sortDirection Json.strings? sortDirection
      return ⟨page, size, sortBy, sortDirection⟩) := by
  unfold decode? Json.record? memberNames
  simp only [List.mapM_cons, List.mapM_nil]
  cases Json.member? js "page" with
  | none => rfl
  | some page =>
    cases Json.member? js "size" with
    | none => rfl
    | some size =>
      cases Json.member? js "sortBy" with
      | none => rfl
      | some sortBy => cases Json.member? js "sortDirection" <;> rfl

/-- **Decoding.** An object that says what a page request says is decoded as it. -/
theorem decode?_of_saidBy (hdepth : depth < Json.depthLimit) (h : p.SaidBy ms)
    (hjs : List.Forall₂ (MemberDenotes depth) ms js) : decode? (.object js) = some p := by
  obtain ⟨page, hpage, hpage'⟩ := exists_member_of_saidBy h hjs "page" (by decide)
    (fun q => Json.word64Tokens q.page) (fun _ => rfl)
    (fun q => Json.denotes_word64 depth q.page) fun q => Json.word64?_ofWord64 q.page
  obtain ⟨size, hsize, hsize'⟩ := exists_member_of_saidBy h hjs "size" (by decide)
    (fun q => Json.word64Tokens q.size) (fun _ => rfl)
    (fun q => Json.denotes_word64 depth q.size) fun q => Json.word64?_ofWord64 q.size
  obtain ⟨sortBy, hsortBy, hsortBy'⟩ := exists_member_of_saidBy h hjs "sortBy" (by decide)
    (fun q => Json.stringsTokens q.sortBy) (fun _ => rfl)
    (fun q => Json.denotes_strings hdepth q.sortBy) fun q => Json.strings?_ofStrings q.sortBy
  obtain ⟨direction, hdirection, hdirection'⟩ :=
    exists_member_of_saidBy h hjs "sortDirection" (by decide)
      (fun q => Json.stringsTokens q.sortDirection) (fun _ => rfl)
      (fun q => Json.denotes_strings hdepth q.sortDirection)
      fun q => Json.strings?_ofStrings q.sortDirection
  rw [decode?_object]
  simp only [hpage, hsize, hsortBy, hdirection, hpage', hsize', hsortBy', hdirection',
    Option.bind_eq_bind, Option.bind_some]
  rfl

/-! ### Errors -/

/-- Members that no page request has: a member of it that is given twice or is null, or a page number
or size that has a sign, a fraction or an exponent, or does not fit in 64 bits. -/
def Spoils (ms : List (String × List Token)) : Prop :=
  (∃ name ∈ memberNames, 2 ≤ (ms.filter (·.1 == name)).length) ∨
  (∃ name ∈ memberNames, (name, [Token.null]) ∈ ms) ∨
  ∃ name ∈ ["page", "size"], ∃ l : Json.Lexeme,
    (l.negative = true ∨ l.fraction ≠ none ∨ l.exponent ≠ none ∨
      2 ^ 64 ≤ Decimal.value l.whole) ∧
    (name, [Token.number l.number?]) ∈ ms

/-- What is decoded from an object is decoded from its members. -/
theorem exists_members_of_decode? {q : Pageable} (h : decode? (.object js) = some q) :
    ∀ name ∈ memberNames, ∃ o, Json.member? js name = some o ∧
      ∀ v ∈ o, (name ∈ ["page", "size"] → Json.word64? v ≠ none) ∧
        (name ∈ ["sortBy", "sortDirection"] → Json.strings? v ≠ none) := by
  rw [decode?_object] at h
  simp only [Option.bind_eq_bind, Option.bind_eq_some_iff] at h
  obtain ⟨_, hpage', _, hsize', _, hsortBy', _, hdirection', _, hpage, _, hsize, _, hsortBy, _,
    hdirection, -⟩ := h
  intro name hname
  simp only [memberNames, List.mem_cons, List.not_mem_nil, or_false] at hname
  rcases hname with rfl | rfl | rfl | rfl
  · refine ⟨_, hpage', fun v hv => ⟨fun _ => ?_, by simp⟩⟩
    exact Json.decode?_ne_none_of_decodeOr? hpage v hv
  · refine ⟨_, hsize', fun v hv => ⟨fun _ => ?_, by simp⟩⟩
    exact Json.decode?_ne_none_of_decodeOr? hsize v hv
  · refine ⟨_, hsortBy', fun v hv => ⟨by simp, fun _ => ?_⟩⟩
    exact Json.decode?_ne_none_of_decodeOr? hsortBy v hv
  · refine ⟨_, hdirection', fun v hv => ⟨by simp, fun _ => ?_⟩⟩
    exact Json.decode?_ne_none_of_decodeOr? hdirection v hv

/-- One member that cannot be decoded spoils the object. -/
theorem decode?_eq_none_of_mem {name : String} {v : Json} (hname : name ∈ memberNames)
    (hmem : (name, v) ∈ js) (hpage : name ∈ ["page", "size"] → Json.word64? v = none)
    (hsort : name ∈ ["sortBy", "sortDirection"] → Json.strings? v = none) :
    decode? (.object js) = none := by
  rw [Option.eq_none_iff_forall_ne_some]
  intro q hq
  obtain ⟨o, ho, hdecoded⟩ := exists_members_of_decode? hq name hname
  rcases Json.member?_of_mem hmem with hnone | hsome
  · cases hnone.symm.trans ho
  · obtain rfl := Option.some.inj (hsome.symm.trans ho)
    obtain ⟨hword, hstrings⟩ := hdecoded v rfl
    rcases List.mem_append.mp (show name ∈ ["page", "size"] ++ ["sortBy", "sortDirection"] from hname)
      with h | h
    · exact hword h (hpage h)
    · exact hstrings h (hsort h)

theorem word64?_eq_none_of_lexeme {l : Json.Lexeme}
    (h : l.negative = true ∨ l.fraction ≠ none ∨ l.exponent ≠ none ∨
      2 ^ 64 ≤ Decimal.value l.whole) {v : Json}
    (hv : Denotes depth [.number l.number?] v) : Json.word64? v = none := by
  cases hn : l.number? with
  | none =>
    rw [hn] at hv
    obtain rfl := hv.eq (w := .unreadable) fun _ _ => rfl
    rfl
  | some m =>
    rw [hn] at hv
    obtain rfl := hv.eq (.number m)
    cases m with
    | double x => rfl
    | integer n =>
      obtain ⟨hinteger, -, hhigh⟩ := Json.Lexeme.number?_eq_integer_iff.mp hn
      have hnegative : n < 0 := by
        unfold Json.Lexeme.integer? at hinteger
        split at hinteger
        · rename_i hfraction hexponent
          simp only [hfraction, hexponent, ne_eq, not_true_eq_false, false_or] at h
          split at hinteger
          · split at hinteger
            · cases hinteger
            · obtain rfl := Option.some.inj hinteger
              omega
          · rename_i hsign
            obtain rfl := Option.some.inj hinteger
            have hlarge := h.resolve_left hsign
            omega
        · cases hinteger
      rw [Json.word64?, if_neg fun hrange => absurd hrange.1 (by omega)]

/-- **Errors.** Members that no page request has are not decoded, whatever else is there. -/
theorem decode?_of_spoils (hjs : List.Forall₂ (MemberDenotes depth) ms js) (h : Spoils ms) :
    decode? (.object js) = none := by
  rcases h with ⟨name, hname, htwice⟩ | ⟨name, hname, hnull⟩ | ⟨name, hname, l, hl, hmem⟩
  · rw [Option.eq_none_iff_forall_ne_some]
    intro q hq
    obtain ⟨o, ho, -⟩ := exists_members_of_decode? hq name hname
    cases (Json.member?_eq_none_of_repeated hjs htwice).symm.trans ho
  · obtain ⟨v, hv, hmem⟩ := Json.exists_mem_of_mem hjs hnull
    obtain rfl := hv.eq .null
    exact decode?_eq_none_of_mem hname hmem (fun _ => rfl) fun _ => rfl
  · obtain ⟨v, hv, hmem⟩ := Json.exists_mem_of_mem hjs hmem
    have hnames : name ∈ memberNames := List.mem_append_left ["sortBy", "sortDirection"] hname
    refine decode?_eq_none_of_mem hnames hmem (fun _ => word64?_eq_none_of_lexeme hl hv) ?_
    have hother : ∀ other ∈ ["page", "size"], other ∉ ["sortBy", "sortDirection"] := by decide
    exact fun hsort => absurd hsort (hother name hname)

end Pageable

end EntitySearch
