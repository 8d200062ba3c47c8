import EntitySearch.Proofs.Predicate.Shape
import EntitySearch.Proofs.Sql.Spelling

/-!
# Rules in three dialects

A rule comes to the same on every backend, in the backend's spelling (`Rule.spelled_alike`).

* `Outcome.SpelledAs`: an outcome is an error, or absent, or the spelling of a phrase.
* `Criterion.Binds`: what a criterion may bind. Only searches for truth values and for dates bind
  what is not the same everywhere.
* `Criterion.exists_phrase`, `Rule.exists_phrase`: what a criterion comes to has one phrase for all
  backends, and so has what a rule comes to.
-/

namespace EntitySearch

open Sql (Phrase Binding SpelledAlike)

/-! ## Outcomes -/

/-- The outcome on a backend fails as a phrase does, or is a spelling of it if it is there. -/
def Outcome.SpelledAs (b : Sql.Backend) (r : Outcome) (o : Except SearchError (Option Phrase)) :
    Prop :=
  ExceptRel (Option.Rel (Sql.Condition.SpelledAs b)) r o

/-- The outcomes on the backends are spellings of one phrase, in which only certain lists of bindings
follow each other. -/
def Outcome.SpelledAlike {γ : Type} (binds : γ → List Binding) (R : Sql.Backend → Outcome) : Prop :=
  ∃ o, (∀ b, Outcome.SpelledAs b (R b) o) ∧
    ∀ q, o = .ok q → ∃ parts : List γ, Phrase.bound q = parts.flatMap binds

namespace Outcome.SpelledAlike

variable {γ : Type} {binds : γ → List Binding} {R : Sql.Backend → Outcome}

theorem error {e : SearchError} (h : ∀ b, R b = .error e) : SpelledAlike binds R := by
  refine ⟨.error e, fun b => ?_, fun q hq => nomatch hq⟩
  rw [h b]
  exact .error e

theorem nothing (h : ∀ b, R b = .ok none) : SpelledAlike binds R := by
  refine ⟨.ok none, fun b => ?_, fun q hq => ⟨[], ?_⟩⟩
  · rw [h b]
    exact .ok .none
  · obtain rfl := Except.ok.inj hq
    rfl

theorem predicate {F : Sql.Backend → Sql.Condition} (hF : Sql.SpelledAlike binds F)
    (h : ∀ b, R b = .ok (some (F b))) : SpelledAlike binds R := by
  obtain ⟨p, parts, hp, hparts⟩ := hF
  refine ⟨.ok (some p), fun b => ?_, fun q hq => ⟨parts, ?_⟩⟩
  · rw [h b]
    exact .ok (.some (hp b))
  · obtain rfl := Except.ok.inj hq
    exact hparts

/-- An outcome that is the same on all backends. -/
theorem const {r : Outcome} (hr : ∀ c, r = .ok (some c) → Sql.SpelledAlike binds fun _ => c) :
    SpelledAlike binds fun _ => r := by
  match r with
  | .error e => exact error fun _ => rfl
  | .ok none => exact nothing fun _ => rfl
  | .ok (some c) => exact predicate (hr c rfl) fun _ => rfl

/-- A match per attribute, if there is something to match. -/
theorem anyMatch {α : Type} (paths : Except SearchError (List Attribute)) (x : Option α)
    {condition : Sql.Backend → α → Attribute → Sql.Condition}
    (h : ∀ y ∈ x, ∀ a, Sql.SpelledAlike binds fun b => condition b y a) :
    SpelledAlike binds fun b => paths >>= fun attributes =>
      .ok (x.bind fun y => Scope.anyMatch attributes (condition b y)) := by
  match paths, x with
  | .error e, _ => exact error fun b => rfl
  | .ok _, none => exact nothing fun b => rfl
  | .ok attributes, some y =>
    by_cases hnil : attributes = []
    · subst hnil
      exact nothing fun b => rfl
    · exact predicate (.junction .or fun a _ => (h y rfl a).asMember) fun b =>
        congrArg Except.ok (Scope.anyMatch_eq_some_iff.mpr ⟨hnil, rfl⟩)

end Outcome.SpelledAlike

/-! ## Criteria -/

/-- A value by itself. -/
def bindsValue (v : Sql.Value) : List Binding := [.value v]

/-- A format, and the value that is compared with what it gives. -/
def bindsFormatted (u : Sql.DatePart × Sql.Value) : List Binding := [.format u.1, .value u.2]

/-- What a criterion may bind: for truth values, patterns of one of them; for dates, formats, each
with a value behind it; else, values. -/
def Criterion.Binds (bs : List Binding) : Criterion → Prop
  | freeText .boolean _ => ∃ t n, bs = List.replicate n (.truth t)
  | freeText .dates _ => ∃ us : List (Sql.DatePart × Sql.Value), bs = us.flatMap bindsFormatted
  | _ => ∃ vs : List Sql.Value, bs = vs.flatMap bindsValue

namespace Attribute

open Sql.Comparison (spells_compare spells_isNull spells_member spells_like)

variable (a : Attribute)

theorem exists_tokens_upperText :
    ∃ ts, a.upperText.HasTokens ts ∧ Sql.Token.bindings ts = [] := by
  unfold upperText
  split
  · exact ⟨_, .upper (.column a.column), rfl⟩
  · exact ⟨_, .upper (.castText (.column a.column)), rfl⟩

theorem spelledAlike_compare (op : Sql.CompareOp) (v : Sql.Value) :
    SpelledAlike bindsValue fun _ => .leaf (.compare op a.operand v) :=
  .leaf [v] (fun _ => spells_compare op (.column a.column) v) rfl

theorem spelledAlike_isNull (negated : Bool) :
    SpelledAlike bindsValue fun _ => .leaf (.isNull negated a.operand) :=
  .leaf [] (fun _ => spells_isNull negated (.column a.column)) rfl

theorem spelledAlike_member (negated : Bool) (vs : List Sql.Value) :
    SpelledAlike bindsValue fun _ => .leaf (.member negated a.operand vs) := by
  refine .leaf vs (fun _ => spells_member negated (.column a.column) vs) ?_
  simp only [Sql.Token.bindings_append, Sql.Token.bindings_name, Sql.Token.bindings_words,
    Sql.Token.bindings_nil, Sql.Token.bindings_places, List.nil_append, List.append_nil]
  exact List.map_eq_flatMap

theorem spelledAlike_likeUpper (negated : Bool) (pattern : String) :
    SpelledAlike bindsValue fun _ => .leaf (.like negated a.upperText pattern) := by
  obtain ⟨ts, hts, hbindings⟩ := a.exists_tokens_upperText
  refine .leaf [.string pattern]
    (fun _ => spells_like negated hts (x := .value (.string pattern)) rfl) ?_
  rw [Sql.Token.bindings_append, hbindings]
  rfl

/-- A truth value cast to text is matched with the backend's own text for it. -/
theorem spelledAlike_truth (t : Bool) :
    SpelledAlike (fun _ : Unit => [.truth t]) fun b => .leaf (.like false (.castText a.operand)
      (Text.Anchor.anywhere.plain (b.booleanText t))) :=
  .leaf [()] (fun _ => spells_like false (.castText (.column a.column)) (x := .truth t) rfl) rfl

theorem spelledAlike_digits (pattern : String) :
    SpelledAlike bindsValue fun _ => .leaf (.like false (.castText a.operand) pattern) :=
  .leaf [.string pattern]
    (fun _ => spells_like false (.castText (.column a.column)) (x := .value (.string pattern)) rfl)
    rfl

theorem spelledAlike_dates (search : DateSearch) :
    SpelledAlike bindsFormatted fun _ => search.condition a.operand := by
  cases search with
  | minute text | day text =>
    exact .leaf [(_, .string text)] (fun _ => spells_compare .equal (.datePart _ a.column) _) rfl
  | fragment pattern =>
    refine .junction .or fun x hx => ?_
    obtain ⟨part, -, rfl⟩ := List.mem_map.mp hx
    exact .leaf [(part, .string pattern)]
      (fun _ => spells_like false (.datePart part a.column) (x := .value (.string pattern)) rfl) rfl

end Attribute

namespace Criterion

variable {s : Scope} {c : Sql.Condition} {attr : String}

theorem spelledAlike_isFlag {value : Bool} (h : s.isFlag value attr = .ok c) :
    SpelledAlike bindsValue fun _ => c := by
  obtain ⟨a, -, rfl⟩ := map_eq_ok_iff.mp h
  exact a.spelledAlike_compare .equal (.bool value)

theorem spelledAlike_isNotFlag {value : Bool} (h : s.isNotFlag value attr = .ok c) :
    SpelledAlike bindsValue fun _ => c := by
  obtain ⟨a, -, rfl⟩ := map_eq_ok_iff.mp h
  refine .junction .or fun x hx => ?_
  simp only [List.mem_cons, List.not_mem_nil, or_false] at hx
  rcases hx with rfl | rfl
  · exact a.spelledAlike_isNull false
  · exact a.spelledAlike_compare .equal (.bool !value)

/-- Away from free text, what a criterion comes to is made of comparisons with values. -/
theorem spelledAlike_of_some {x : Criterion} (hx : ∀ kind attrs, x ≠ .freeText kind attrs)
    (h : x.outcome s = .ok (some c)) : SpelledAlike bindsValue fun _ => c := by
  cases x with
  | equality op attr key =>
    obtain ⟨a, v, -, rfl⟩ := Scope.compareWithFilter_eq_some h
    exact a.spelledAlike_compare op v
  | textMatch anchor negated attr key =>
    obtain ⟨a, pattern, -, rfl⟩ := Scope.matchFilterText_eq_some h
    exact a.spelledAlike_likeUpper negated pattern
  | membership negated attr key =>
    obtain ⟨a, vs, -, rfl⟩ := Scope.membership_eq_some h
    exact a.spelledAlike_member negated vs
  | bounded family side attr base =>
    obtain ⟨a, v, -, rfl⟩ := Scope.bounded_eq_some h
    exact a.spelledAlike_compare side.compareOp v
  | filterFlag value attr key => exact spelledAlike_isFlag (Scope.filterIsFlag_eq_some h)
  | filterNotFlag value attr key => exact spelledAlike_isNotFlag (Scope.filterIsNotFlag_eq_some h)
  | flag value attr =>
    obtain ⟨d, hd, hc⟩ := map_eq_ok_iff.mp h
    exact spelledAlike_isFlag (Option.some.inj hc ▸ hd)
  | notFlag value attr =>
    obtain ⟨d, hd, hc⟩ := map_eq_ok_iff.mp h
    exact spelledAlike_isNotFlag (Option.some.inj hc ▸ hd)
  | blank negated attr =>
    cases negated <;>
    · obtain ⟨d, hd, hc⟩ := map_eq_ok_iff.mp h
      obtain ⟨a, -, rfl⟩ := map_eq_ok_iff.mp hd
      obtain rfl := Option.some.inj hc
      refine .junction _ fun x hx => ?_
      simp only [List.mem_cons, List.not_mem_nil, or_false] at hx
      rcases hx with rfl | rfl
      · exact a.spelledAlike_isNull _
      · exact a.spelledAlike_compare _ _
  | between family attr base =>
    obtain ⟨low, hlow, h⟩ := bind_eq_ok_iff.mp h
    obtain ⟨high, hhigh, h⟩ := bind_eq_ok_iff.mp h
    refine SpelledAlike.combine? (fun d hd => ?_) (Except.ok.inj h)
    simp only [List.mem_cons, List.not_mem_nil, or_false] at hd
    rcases hd with rfl | rfl
    · obtain ⟨a, v, -, rfl⟩ := Scope.bounded_eq_some hlow
      exact a.spelledAlike_compare _ v
    · obtain ⟨a, v, -, rfl⟩ := Scope.bounded_eq_some hhigh
      exact a.spelledAlike_compare _ v
  | freeText kind attrs => exact absurd rfl (hx kind attrs)

variable (e : Entity) (f p : Filters) (l : Place)

/-- Away from free text, a criterion does not depend on the backend at all. -/
theorem spelledAlike_outcome {x : Criterion} (hx : ∀ kind attrs, x ≠ .freeText kind attrs) :
    Outcome.SpelledAlike bindsValue fun b => x.outcome (l.scope e b f p) := by
  let s : Scope := l.scope e .sqlite f p
  have hsame : (fun b => x.outcome (l.scope e b f p)) = fun _ => x.outcome s := by
    funext b
    cases x with
    | freeText kind attrs => exact absurd rfl (hx kind attrs)
    | blank negated attr => cases negated <;> rfl
    | _ => rfl
  rw [hsame]
  exact Outcome.SpelledAlike.const fun c hc => spelledAlike_of_some hx hc

theorem binds_nil (x : Criterion) : x.Binds [] := by
  cases x with
  | freeText kind attrs =>
    cases kind with
    | boolean => exact ⟨true, 0, rfl⟩
    | _ => exact ⟨[], rfl⟩
  | _ => exact ⟨[], rfl⟩

/-- **Criteria.** What a criterion comes to is a spelling of one phrase on every backend. -/
theorem exists_phrase (x : Criterion) :
    ∃ o, (∀ b, Outcome.SpelledAs b (x.outcome (l.scope e b f p)) o) ∧
      ∀ q, o = .ok q → x.Binds (Phrase.bound q) := by
  -- What is searched for, and where, does not depend on the backend.
  let s : Scope := l.scope e .sqlite f p
  cases x with
  | freeText kind attrs =>
    cases kind with
    | text =>
      exact Outcome.SpelledAlike.anyMatch (s.attributes attrs) s.searchText?
        fun text _ a => a.spelledAlike_likeUpper false (uppercasePattern .anywhere text)
    | numeric =>
      exact Outcome.SpelledAlike.anyMatch (s.attributes attrs) (s.searchText?.filter isNumericSearch)
        fun text _ a => a.spelledAlike_digits (Text.Anchor.anywhere.plain text)
    | boolean =>
      let named := s.searchText?.bind searchedBoolean?
      have hnamed : ∀ t ∈ named, ∀ a : Attribute,
          SpelledAlike (fun _ : Unit => [.truth (named.getD true)]) fun b =>
            .leaf (.like false (.castText a.operand)
              (Text.Anchor.anywhere.plain (b.booleanText t))) := by
        intro t ht a
        obtain rfl : t = named.getD true := by rw [ht]; rfl
        exact a.spelledAlike_truth _
      obtain ⟨o, ho, hbinds⟩ :=
        Outcome.SpelledAlike.anyMatch (s.attributes attrs) named hnamed
      refine ⟨o, ho, fun q hq => ?_⟩
      obtain ⟨parts, hparts⟩ := hbinds q hq
      refine ⟨named.getD true, parts.length, hparts.trans ?_⟩
      rw [← List.map_eq_flatMap, List.map_const']
    | dates =>
      exact Outcome.SpelledAlike.anyMatch (s.attributes attrs) s.searchText?
        fun text _ a => a.spelledAlike_dates (DateSearch.of text)
  | _ => exact spelledAlike_outcome e f p l (by simp)

end Criterion

/-! ## Rules -/

namespace Rule

variable {e : Entity} {f p : Filters} {phrases : Place × Criterion → Except SearchError (Option Phrase)}

/-- What is bound by the phrase of a criterion, if it has one. -/
def boundBy (o : Except SearchError (Option Phrase)) : List Binding :=
  match o with
  | .ok q => Phrase.bound q
  | .error _ => []

/-- A rule has one phrase for all backends, in which its criteria bind what they bind by themselves,
in their order. -/
def HasPhrase (e : Entity) (f p : Filters)
    (phrases : Place × Criterion → Except SearchError (Option Phrase)) (l : Place) (rule : Rule) :
    Prop :=
  ∃ o, (∀ b, Outcome.SpelledAs b (rule.outcome p (l.scope e b f p)) o) ∧
    ∀ q, o = .ok q → Phrase.bound q = (rule.uses l).flatMap fun u => boundBy (phrases u)

theorem exists_phrases {l : Place} {rules : List Rule}
    (h : ∀ r ∈ rules, r.HasPhrase e f p phrases l) :
    ∃ os, (∀ b, ExceptRel (List.Forall₂ (Option.Rel (Sql.Condition.SpelledAs b)))
        (outcomes p (l.scope e b f p) rules) os) ∧
      ∀ qs, os = .ok qs →
        qs.flatMap Phrase.bound = (usesOf l rules).flatMap fun u => boundBy (phrases u) := by
  induction rules with
  | nil =>
    refine ⟨.ok [], fun b => .ok .nil, fun qs hqs => ?_⟩
    obtain rfl := Except.ok.inj hqs
    rfl
  | cons r rs ih =>
    obtain ⟨o, ho, hbound⟩ := h r List.mem_cons_self
    obtain ⟨os, hos, hbounds⟩ := ih fun r' hr' => h r' (List.mem_cons_of_mem r hr')
    refine ⟨o.bind fun q => os.map (q :: ·), fun b => ?_, fun qs hqs => ?_⟩
    · rw [outcomes]
      exact (ho b).bind fun _ _ hc => (hos b).map fun _ _ hcs => .cons hc hcs
    · obtain ⟨q, hq, hrest⟩ := bind_eq_ok_iff.mp hqs
      obtain ⟨qs, hos', rfl⟩ := map_eq_ok_iff.mp hrest
      rw [usesOf, List.flatMap_cons, List.flatMap_append, hbound q hq, hbounds qs hos']

theorem hasPhrase_combine? {l : Place} {rules : List Rule} (op : Sql.Connective)
    (h : ∀ r ∈ rules, r.HasPhrase e f p phrases l) :
    ∃ o, (∀ b, Outcome.SpelledAs b
        ((outcomes p (l.scope e b f p) rules).map (Sql.Condition.combine? op)) o) ∧
      ∀ q, o = .ok q →
        Phrase.bound q = (usesOf l rules).flatMap fun u => boundBy (phrases u) := by
  obtain ⟨os, hos, hbounds⟩ := exists_phrases h
  refine ⟨os.map (Phrase.combine? op), fun b => ?_, fun q hq => ?_⟩
  · exact (hos b).map fun _ _ hcs => Sql.Condition.spelledAs_combine? op hcs
  · obtain ⟨qs, hqs, rfl⟩ := map_eq_ok_iff.mp hq
    rw [Phrase.bound_combine?, hbounds qs hqs]

/-- **Rules.** What a rule comes to is a spelling of one phrase on every backend. By induction on the
rule, from the same for its criteria. -/
theorem exists_phrase {l : Place} (rule : Rule)
    (h : ∀ u b, Outcome.SpelledAs b (u.2.outcome (u.1.scope e b f p)) (phrases u)) :
    rule.HasPhrase e f p phrases l := by
  induction rule using Rule.induction generalizing l with
  | nothing =>
    refine ⟨.ok none, fun b => .ok .none, fun q hq => ?_⟩
    obtain rfl := Except.ok.inj hq
    rfl
  | criterion x =>
    refine ⟨phrases (l, x), h (l, x), fun q hq => ?_⟩
    rw [uses, List.flatMap_singleton, hq]
    rfl
  | all rules ih => exact hasPhrase_combine? .and fun r hr => ih r hr
  | any rules ih => exact hasPhrase_combine? .or fun r hr => ih r hr
  | withSearchKeys key fallback r ih =>
    exact @ih { l with searchKey := key, fallbackSearchKey := fallback }
  | overParameters r ih => exact @ih .parameters

/-- **Three dialects.** On every backend a rule comes to the same error, or to nothing, or to a
predicate that is the same but for its spelling. Its text is that of one list of tokens, of which
each backend writes names, the type for text, the calls that format dates, and the places of values
in its own way; all other words are the same, and have nothing in them to be taken for a name or a
place. From left to right the places are `$1`, `$2` and so on for Postgres, and `?` for the others.
Its values are those of the bindings at the places, in order, so that the one at position `k` belongs
to the place with that number: as many on each backend, and equal but for the patterns of searches for
truth values and the formats in searches for dates. -/
theorem spelled_alike (e : Entity) (rule : Rule) (searchKey fallback : String) (f p : Filters) :
    (∃ err, ∀ b, rule.outcome p ⟨e, f, b, searchKey, fallback⟩ = .error err) ∨
    (∀ b, rule.outcome p ⟨e, f, b, searchKey, fallback⟩ = .ok none) ∨
    ∃ (ts : List Sql.Token) (binds : Place × Criterion → List Binding),
      (∀ u : Place × Criterion, u.2.Binds (binds u)) ∧
      Sql.Token.bindings ts = (rule.uses ⟨.request, searchKey, fallback⟩).flatMap binds ∧
      (∀ t ∈ ts, t.plain = true) ∧
      ∀ b, ∃ c, rule.outcome p ⟨e, f, b, searchKey, fallback⟩ = .ok (some c) ∧
        c.sql b = Sql.Token.text b ts ∧
        c.values b = (Sql.Token.bindings ts).map (Binding.on b) := by
  choose phrases hphrases hbinds using
    fun u : Place × Criterion => Criterion.exists_phrase e f p u.1 u.2
  obtain ⟨o, ho, hbound⟩ : rule.HasPhrase e f p phrases ⟨.request, searchKey, fallback⟩ :=
    exists_phrase rule hphrases
  match o with
  | .error err => exact .inl ⟨err, fun b => (ho b).eq_error⟩
  | .ok none =>
    refine .inr (.inl fun b => ?_)
    obtain ⟨_, hb, ⟨⟩⟩ := (ho b).exists_eq_ok
    exact hb
  | .ok (some q) =>
    have hspelled : ∀ b, ∃ c, rule.outcome p ⟨e, f, b, searchKey, fallback⟩ = .ok (some c) ∧
        c.SpelledAs b q := by
      intro b
      obtain ⟨_, hb, hc⟩ := (ho b).exists_eq_ok
      cases hc with
      | some hc => exact ⟨_, hb, hc⟩
    refine .inr (.inr ⟨q.tokens, fun u => boundBy (phrases u), fun u => ?_, hbound _ rfl, ?_, ?_⟩)
    · show u.2.Binds (boundBy (phrases u))
      cases hu : phrases u with
      | error err => exact u.2.binds_nil
      | ok q => exact hbinds u q hu
    · obtain ⟨c, -, hc⟩ := hspelled .sqlite
      exact hc.spells.plain
    · intro b
      obtain ⟨c, hb, hc⟩ := hspelled b
      exact ⟨c, hb, hc.spells.text_eq, hc.spells.values_eq⟩

end Rule

end EntitySearch
