import EntitySearch.Proofs.Predicate.ListMembership

/-!
# The kinds of members

Whether the values that a membership binds suit the attribute (`Scope.membership_suits_exactly`). A
list is only taken if its elements are of the attribute's kind, but text and integers alone are
taken for almost every kind.

* `Sql.Value.suits`: the values that an attribute of a kind may have.
* `FilterValue.isStray`: the scalars that are taken all the same.
* `FilterValue.suits_of_members?`, `FilterValue.members?_of_isStray`: whatever else is taken suits,
  and those never do.
-/

namespace EntitySearch

/-- The kinds of numbers. -/
def ScalarKind.isNumeric : ScalarKind → Bool
  | int | long | float | decimal => true
  | _ => false

/-- Whether a bound value suits an attribute of a kind: text suits strings, UUIDs suit UUIDs, and
integers of either width suit numbers. -/
def Sql.Value.suits (kind : ScalarKind) : Sql.Value → Bool
  | string _ => kind = .string
  | uuid _ => kind = .uuid
  | int _ | bigInt _ => kind.isNumeric
  | _ => false

namespace FilterValue

/-- Whether a scalar is of a kind. -/
def isOf (kind : ScalarKind) : FilterValue → Bool
  | text s => kind = .string || (kind = .uuid && (TypedForm.uuid.read? s).isSome)
  | int _ | long _ => kind.isNumeric
  | bool _ | float _ | list _ => false

/-- Whether the value of a membership is of a kind: as a scalar, or as a list of at least one scalar
of that kind. -/
def matchesKind (kind : ScalarKind) : FilterValue → Bool
  | list items => !items.isEmpty && items.all (isOf kind)
  | v => v.isOf kind

/-- The scalars that a membership takes although they are not of the kind. -/
def isStray (kind : ScalarKind) : FilterValue → Bool
  | text _ => kind ≠ .string && kind ≠ .uuid
  | int _ | long _ => !kind.isNumeric
  | bool _ | float _ | list _ => false

variable {kind : ScalarKind} {v : FilterValue} {vs : List Sql.Value} {x : Sql.Value}

/-! ## Lists -/

/-- An element that is read for a kind is of that kind, and so is its value. -/
theorem suits_of_element? {read? : FilterValue → Option Sql.Value}
    (hread : kind.element? = some read?) (hv : read? v = some x) :
    v.isOf kind = true ∧ x.suits kind = true := by
  cases kind with
  | string | int | long =>
    obtain rfl := Option.some.inj hread
    cases v <;> cases hv
    exact ⟨rfl, rfl⟩
  | uuid =>
    obtain rfl := Option.some.inj hread
    cases v with
    | text s =>
      have hs : TypedForm.uuid.read? s = some x := hv
      obtain ⟨u, -, rfl⟩ := Option.map_eq_some_iff.mp hs
      exact ⟨by simp [isOf, hs], rfl⟩
    | _ => cases hv
  | _ => cases hread

/-- The values of a list are there if the list is of the kind, and suit it. -/
theorem suits_of_listMembers? {items : List FilterValue} (h : listMembers? kind items = some vs) :
    vs ≠ [] ∧ matchesKind kind (list items) = true ∧ ∀ x ∈ vs, x.suits kind = true := by
  unfold listMembers? at h
  split at h
  · cases h
  · rename_i hne
    obtain ⟨read?, hread, h⟩ := Option.bind_eq_some_iff.mp h
    have hvs : items.map read? = vs.map some := mapM_eq_some_iff.mp h
    refine ⟨?_, ?_, fun x hx => ?_⟩
    · rintro rfl
      exact hne (by simpa using hvs)
    · have hall : ∀ v ∈ items, v.isOf kind = true := by
        intro v hv
        obtain ⟨x, -, hx⟩ := List.mem_map.mp (hvs ▸ List.mem_map_of_mem hv)
        exact (suits_of_element? hread hx.symm).1
      simp only [matchesKind, Bool.and_eq_true, List.all_eq_true]
      exact ⟨by simpa using hne, hall⟩
    · obtain ⟨v, -, hv⟩ := List.mem_map.mp (hvs ▸ List.mem_map_of_mem hx)
      exact (suits_of_element? hread hv).2

/-! ## All values -/

/-- A membership takes a value that is of the kind or strays from it, and what it binds suits the
kind unless the value strays. -/
theorem suits_of_members? (h : v.members? kind = some vs) :
    vs ≠ [] ∧ (v.matchesKind kind = true ∨ v.isStray kind = true) ∧
      ∀ x ∈ vs, x.suits kind = !v.isStray kind := by
  cases v with
  | list items =>
    obtain ⟨hne, hmatches, hsuits⟩ := suits_of_listMembers? h
    exact ⟨hne, .inl hmatches, hsuits⟩
  | text s =>
    rw [members?] at h
    split at h
    · rename_i hkind
      subst hkind
      obtain ⟨x, hx, rfl⟩ := Option.map_eq_some_iff.mp h
      obtain ⟨u, -, rfl⟩ := Option.map_eq_some_iff.mp hx
      exact ⟨by simp, .inl (by simp [matchesKind, isOf, hx]), by simp [Sql.Value.suits, isStray]⟩
    · rename_i hkind
      obtain rfl := Option.some.inj h
      by_cases hstring : kind = .string
      · exact ⟨by simp, .inl (by simp [matchesKind, isOf, hstring]),
          by simp [Sql.Value.suits, isStray, hstring]⟩
      · exact ⟨by simp, .inr (by simp [isStray, hkind, hstring]),
          by simp [Sql.Value.suits, isStray, hkind, hstring]⟩
  | int n | long n =>
    obtain rfl := Option.some.inj h
    cases hkind : kind.isNumeric <;>
      simp [matchesKind, isOf, isStray, Sql.Value.suits, hkind]
  | bool _ | float _ => cases h

/-- A value that strays from the kind is taken for it as it is. -/
theorem members?_of_isStray (h : v.isStray kind = true) :
    ∃ x, v.members? kind = some [x] ∧ x.suits kind = false := by
  cases v with
  | text s =>
    simp only [isStray, Bool.and_eq_true, decide_eq_true_eq] at h
    exact ⟨.string s, if_neg h.2, by simp [Sql.Value.suits, h.1]⟩
  | int n => exact ⟨.int n, rfl, by simpa [isStray, Sql.Value.suits] using h⟩
  | long n => exact ⟨.bigInt n, rfl, by simpa [isStray, Sql.Value.suits] using h⟩
  | bool _ | float _ | list _ => cases h

end FilterValue

namespace Scope

/-- **The kinds of members.** A membership, of either polarity, never fails on a declared attribute.
It yields a predicate only for a value of the attribute's kind, or else for text or an integer alone
that strays from it. The values of the predicate are of a type that suits the attribute exactly if
the filter does not stray; so those of a list always are. A filter that strays always yields one, so
that no row need match. -/
theorem membership_suits_exactly (s : Scope) (attr : String) (override : Option String)
    {a : Attribute} {v : FilterValue} (ha : s.resolve attr = .ok a)
    (hv : s.filters.get? (filterKey attr override) = some v) (negated : Bool) :
    (∃ o, s.membership negated attr override = .ok o) ∧
    (∀ c, s.membership negated attr override = .ok (some c) →
      (v.matchesKind a.kind = true ∨ v.isStray a.kind = true) ∧
      ∃ vs, vs ≠ [] ∧ c = .leaf (.member negated a.operand vs) ∧ (∀ b, c.values b = vs) ∧
        ∀ x ∈ vs, (x.suits a.kind = true ↔ v.isStray a.kind = false)) ∧
    (v.isStray a.kind = true → ∃ x, x.suits a.kind = false ∧
      s.membership negated attr override = .ok (some (.leaf (.member negated a.operand [x])))) := by
  rw [membership_eq ha, hv, Option.bind_some]
  refine ⟨⟨_, rfl⟩, fun c hc => ?_, fun hstray => ?_⟩
  · obtain ⟨vs, hvs, rfl⟩ := Option.map_eq_some_iff.mp (Except.ok.inj hc)
    obtain ⟨hne, hmatches, hsuits⟩ := FilterValue.suits_of_members? hvs
    refine ⟨hmatches, vs, hne, rfl, fun b => Sql.Condition.values_member negated a.column vs,
      fun x hx => ?_⟩
    rw [hsuits x hx, Bool.not_eq_true']
  · obtain ⟨x, hx, hsuits⟩ := FilterValue.members?_of_isStray hstray
    exact ⟨x, hsuits, by rw [hx]; rfl⟩

open Sample in
/-- A tier alone strays among scores, and is looked for; in a list it is not. -/
theorem membership_suits_exactly_scores :
    let customers := Customer.entityWith Customer.attributes Customer.vehicleColumns
    let f : Filters := .ofList [("score", .text "gold"), ("scores", .list [.text "gold"])]
    let s : Scope := .new customers f .sqlite
    s.resolve "score" = .ok ⟨"score", ⟨"customers", "score"⟩, .int⟩ ∧
    s.filters.get? (filterKey "score" none) = some (.text "gold") ∧
    s.filters.get? (filterKey "score" (some "scores")) = some (.list [.text "gold"]) ∧
    (∃ x, x.suits .int = false ∧ s.membership true "score" none =
      .ok (some (.leaf (.member true (.column ⟨"customers", "score"⟩) [x])))) ∧
    ∀ c, s.membership false "score" (some "scores") ≠ .ok (some c) := by
  intro customers f s
  have hscore : s.resolve "score" = .ok ⟨"score", ⟨"customers", "score"⟩, .int⟩ := rfl
  refine ⟨hscore, rfl, rfl, (membership_suits_exactly s "score" none hscore rfl true).2.2 rfl,
    fun c hc => ?_⟩
  obtain ⟨hmatches, -⟩ :=
    (membership_suits_exactly s "score" (some "scores") hscore rfl false).2.1 c hc
  exact absurd hmatches (by decide)

open Sample in
/-- What a membership binds does not always suit the attribute: text is looked for among scores. -/
theorem text_is_bound_among_scores :
    ¬ ∀ (s : Scope) (attr : String) (override : Option String) (a : Attribute) (c : Sql.Condition),
      s.resolve attr = .ok a → s.isIn attr override = .ok (some c) →
      ∃ vs, c = .leaf (.member false a.operand vs) ∧ ∀ x ∈ vs, x.suits a.kind = true := by
  intro hall
  let s : Scope := .new (Customer.entityWith Customer.attributes Customer.vehicleColumns)
    (.ofList [("score", .text "gold")]) .sqlite
  obtain ⟨vs, hc, hvs⟩ := hall s "score" none ⟨"score", ⟨"customers", "score"⟩, .int⟩
    (.leaf (.member false (.column ⟨"customers", "score"⟩) [.string "gold"])) rfl rfl
  obtain ⟨-, -, rfl⟩ := Sql.Comparison.member.inj (Sql.Condition.leaf.inj hc)
  exact absurd (hvs (.string "gold") (List.mem_singleton.mpr rfl)) (by decide)

end Scope

end EntitySearch
