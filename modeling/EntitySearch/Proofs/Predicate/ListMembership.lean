import EntitySearch.Proofs.Json.Number
import EntitySearch.Proofs.Predicate.Reads
import EntitySearch.Proofs.Sql.Erasure
import Mathlib.Data.List.Forall2

/-!
# Lists of members

From a JSON array to the values that a membership binds (`Scope.isIn_exact`).

* `Json.Suits`: what an element of an array may be for an attribute of a kind, and the value that it
  stands for.
* `FilterValue.members?_ofJson?_array`: an array gives values if it has elements and all of them suit.
-/

namespace EntitySearch

/-- The elements of arrays that stand for values of a kind. -/
inductive Json.Suits : ScalarKind → Json → Sql.Value → Prop where
  | string (s : String) : Suits .string (.string s) (.string s)
  | int {n : Int} (hlow : -2 ^ 31 ≤ n) (hhigh : n < 2 ^ 31) :
      Suits .int (.number (.integer n)) (.int (Int32.ofInt n))
  /-- An integer that 32 bits could hold is none of 64 bits. -/
  | long {n : Int} (hlow : -2 ^ 63 ≤ n) (hhigh : n < 2 ^ 63) (hwide : n < -2 ^ 31 ∨ 2 ^ 31 ≤ n) :
      Suits .long (.number (.integer n)) (.bigInt (Int64.ofInt n))
  | uuid {s : String} {u : Uuid} (h : Uuid.read? (Text.trimChars s.toList) = some u) :
      Suits .uuid (.string s) (.uuid u)

/-- The values that stand for no element of an array, whatever the kind. -/
def Json.IsNoMember : Json → Prop
  | .null | .bool _ | .number (.double _) | .array _ | .object _ => True
  | _ => False

theorem Json.Suits.not_isNoMember {kind : ScalarKind} {v : Json} {x : Sql.Value}
    (h : v.Suits kind x) : ¬ v.IsNoMember := by
  cases h <;> exact id

namespace FilterValue

variable {kind : ScalarKind} {items : List Json} {v : Json} {vs : List Sql.Value} {x : Sql.Value}

/-! ## Elements -/

theorem int?_ofInt_eq_some_iff {n : Int} :
    (ofInt n).int? = some x ↔ -2 ^ 31 ≤ n ∧ n < 2 ^ 31 ∧ x = .int (Int32.ofInt n) := by
  unfold ofInt
  split
  · rename_i h
    simp only [int?, Option.some.injEq]
    constructor
    · rintro rfl
      exact ⟨by omega, by omega, rfl⟩
    · rintro ⟨-, -, rfl⟩
      rfl
  · split <;>
    · simp only [int?, reduceCtorEq, false_iff]
      omega

theorem long?_ofInt_eq_some_iff {n : Int} :
    (ofInt n).long? = some x ↔ -2 ^ 63 ≤ n ∧ n < 2 ^ 63 ∧ (n < -2 ^ 31 ∨ 2 ^ 31 ≤ n) ∧
      x = .bigInt (Int64.ofInt n) := by
  unfold ofInt
  split
  · simp only [long?, reduceCtorEq, false_iff]
    omega
  · split
    · rename_i hnarrow h
      simp only [long?, Option.some.injEq]
      constructor
      · rintro rfl
        exact ⟨by omega, by omega, by omega, rfl⟩
      · rintro ⟨-, -, -, rfl⟩
        rfl
    · simp only [long?, reduceCtorEq, false_iff]
      omega

theorem string?_ofInt (n : Int) : (ofInt n).string? = none := by
  unfold ofInt
  split
  · rfl
  · split <;> rfl

theorem uuid?_ofInt (n : Int) : (ofInt n).uuid? = none := by
  unfold ofInt
  split
  · rfl
  · split <;> rfl

/-- The elements that suit a kind are those that are read as the kind has it. -/
theorem suits_iff : Json.Suits kind v x ↔
    ∃ read?, kind.element? = some read? ∧ (ofJson? v).bind read? = some x := by
  constructor
  · rintro (⟨s⟩ | ⟨hlow, hhigh⟩ | ⟨hlow, hhigh, hwide⟩ | h)
    · exact ⟨_, rfl, rfl⟩
    · exact ⟨_, rfl, int?_ofInt_eq_some_iff.mpr ⟨hlow, hhigh, rfl⟩⟩
    · exact ⟨_, rfl, long?_ofInt_eq_some_iff.mpr ⟨hlow, hhigh, hwide, rfl⟩⟩
    · exact ⟨_, rfl, Option.map_eq_some_iff.mpr ⟨_, h, rfl⟩⟩
  · rintro ⟨read?, hread, h⟩
    cases v with
    | null | object members | unreadable => cases h
    | bool b | array items => cases kind <;> cases hread <;> cases h
    | string s =>
      cases kind with
      | string =>
        obtain rfl := Option.some.inj hread
        obtain rfl := Option.some.inj h
        exact .string s
      | uuid =>
        obtain rfl := Option.some.inj hread
        obtain ⟨u, hu, rfl⟩ := Option.map_eq_some_iff.mp h
        exact .uuid hu
      | _ => cases hread <;> cases h
    | number m =>
      cases m with
      | double y => cases kind <;> cases hread <;> cases h
      | integer n =>
        cases kind with
        | int =>
          obtain rfl := Option.some.inj hread
          obtain ⟨hlow, hhigh, rfl⟩ := int?_ofInt_eq_some_iff.mp h
          exact .int hlow hhigh
        | long =>
          obtain rfl := Option.some.inj hread
          obtain ⟨hlow, hhigh, hwide, rfl⟩ := long?_ofInt_eq_some_iff.mp h
          exact .long hlow hhigh hwide
        | string =>
          obtain rfl := Option.some.inj hread
          cases (string?_ofInt n).symm.trans h
        | uuid =>
          obtain rfl := Option.some.inj hread
          cases (uuid?_ofInt n).symm.trans h
        | _ => cases hread

/-! ## Arrays -/

/-- All elements of an array are read, or none is. -/
theorem listOfJson?_bind_mapM {read? : FilterValue → Option Sql.Value}
    (hread : kind.element? = some read?) :
    (listOfJson? items).bind (fun xs => xs.mapM read?) = some vs ↔
      List.Forall₂ (Json.Suits kind) items vs := by
  have hsuits : ∀ v x, Json.Suits kind v x ↔ (ofJson? v).bind read? = some x := by
    intro v x
    rw [suits_iff, hread]
    simp
  induction items generalizing vs with
  | nil => cases vs <;> simp [listOfJson?, pure]
  | cons v items ih =>
    have hlist : (listOfJson? (v :: items)).bind (fun xs => xs.mapM read?) = some vs ↔
        ∃ x, (ofJson? v).bind read? = some x ∧
          ∃ xs, (listOfJson? items).bind (fun xs => xs.mapM read?) = some xs ∧ vs = x :: xs := by
      rw [listOfJson?]
      cases ofJson? v with
      | none => simp
      | some y =>
        cases listOfJson? items with
        | none => simp
        | some ys =>
          simp only [Option.bind_some, List.mapM_cons, Option.bind_eq_bind,
            Option.bind_eq_some_iff, Option.pure_def, Option.some.injEq]
          grind
    rw [hlist, List.forall₂_cons_left_iff]
    constructor
    · rintro ⟨x, hx, xs, hxs, rfl⟩
      exact ⟨x, xs, (hsuits v x).mpr hx, ih.mp hxs, rfl⟩
    · rintro ⟨x, xs, hx, hxs, rfl⟩
      exact ⟨x, (hsuits v x).mp hx, xs, ih.mpr hxs, rfl⟩

theorem listOfJson?_eq_nil_iff : listOfJson? items = some [] ↔ items = [] := by
  cases items with
  | nil => simp [listOfJson?]
  | cons v items =>
    rw [listOfJson?]
    cases ofJson? v <;> cases listOfJson? items <;> simp

/-- An array gives the values of a membership just if it has elements and each of them suits. -/
theorem members?_ofJson?_array :
    (ofJson? (.array items)).bind (members? kind) = some vs ↔
      items ≠ [] ∧ List.Forall₂ (Json.Suits kind) items vs := by
  have hmembers : (ofJson? (.array items)).bind (members? kind) =
      listMembers? kind ((listOfJson? items).getD []) := by rw [ofJson?]; rfl
  rw [hmembers, listMembers?]
  cases hread : kind.element? with
  | none =>
    have hnone : ¬ (items ≠ [] ∧ List.Forall₂ (Json.Suits kind) items vs) := by
      rintro ⟨hne, ⟨⟩ | ⟨hv, -⟩⟩
      · exact hne rfl
      · obtain ⟨read?, h, -⟩ := suits_iff.mp hv
        cases hread.symm.trans h
    simp [hnone]
  | some read? =>
    have hempty : ((listOfJson? items).getD []).isEmpty = true ↔
        items = [] ∨ listOfJson? items = none := by
      rw [← listOfJson?_eq_nil_iff]
      cases listOfJson? items <;> simp
    rw [← listOfJson?_bind_mapM hread, Option.bind_some]
    by_cases hne : items = [] ∨ listOfJson? items = none
    · rw [if_pos (hempty.mpr hne)]
      rcases hne with rfl | hne
      · simp
      · simp [hne]
    · rw [if_neg (mt hempty.mp hne)]
      obtain ⟨xs, hxs⟩ := Option.ne_none_iff_exists'.mp (mt Or.inr hne)
      simp only [hxs, Option.getD_some, Option.bind_some, ne_eq, mt Or.inl hne, not_false_iff,
        true_and]

/-- A value that is read as an element of a list is also read alone. -/
theorem members?_eq_of_element? {y : FilterValue} {read? : FilterValue → Option Sql.Value}
    (hread : kind.element? = some read?) (hy : read? y = some x) : y.members? kind = some [x] := by
  cases kind with
  | string | int | long =>
    obtain rfl := Option.some.inj hread
    cases y <;> cases hy
    rfl
  | uuid =>
    obtain rfl := Option.some.inj hread
    cases y with
    | text s => exact Option.map_eq_some_iff.mpr ⟨x, hy, rfl⟩
    | _ => cases hy
  | _ => cases hread

/-- An element alone stands for the same value as the array of it, if that has one. -/
theorem members?_ofJson?_of_array (h : (ofJson? (.array [v])).bind (members? kind) = some vs) :
    (ofJson? v).bind (members? kind) = some vs := by
  obtain ⟨-, hvs⟩ := members?_ofJson?_array.mp h
  obtain ⟨x, xs, hx, hxs, rfl⟩ := List.forall₂_cons_left_iff.mp hvs
  obtain rfl := List.forall₂_nil_left_iff.mp hxs
  obtain ⟨read?, hread, hx⟩ := suits_iff.mp hx
  obtain ⟨y, hy, hx⟩ := Option.bind_eq_some_iff.mp hx
  rw [hy]
  exact members?_eq_of_element? hread hx

end FilterValue

/-! ## Predicates -/

namespace Scope

variable {s : Scope} {negated : Bool} {attr : String} {override : Option String} {a : Attribute}
  {items : List Json} {c : Sql.Condition}

/-- What a membership with an array in its filter comes to. -/
theorem membership_eq (ha : s.resolve attr = .ok a) :
    s.membership negated attr override =
      .ok (((s.filters.get? (filterKey attr override)).bind (FilterValue.members? a.kind)).map
        fun vs => .leaf (.member negated a.operand vs)) := by
  rw [membership, ha]
  rfl

theorem membership_eq_some_iff (ha : s.resolve attr = .ok a)
    (hfilter : s.filters.get? (filterKey attr override) = FilterValue.ofJson? (.array items)) :
    s.membership negated attr override = .ok (some c) ↔
      items ≠ [] ∧ ∃ vs, List.Forall₂ (Json.Suits a.kind) items vs ∧
        c = .leaf (.member negated a.operand vs) ∧ ∀ b, c.values b = vs := by
  rw [membership_eq ha, hfilter]
  simp only [Except.ok.injEq, Option.map_eq_some_iff, FilterValue.members?_ofJson?_array]
  constructor
  · rintro ⟨vs, ⟨hne, hvs⟩, rfl⟩
    exact ⟨hne, vs, hvs, rfl, fun b => Sql.Condition.values_member negated a.column vs⟩
  · rintro ⟨hne, vs, hvs, rfl, -⟩
    exact ⟨vs, ⟨hne, hvs⟩, rfl⟩

/-- One element without meaning, anywhere, takes the predicate away. -/
theorem membership_eq_none (ha : s.resolve attr = .ok a)
    (hfilter : s.filters.get? (filterKey attr override) = FilterValue.ofJson? (.array items))
    (hitem : ∃ v ∈ items, v.IsNoMember) : s.membership negated attr override = .ok none := by
  have hnone : ∀ c, s.membership negated attr override ≠ .ok (some c) := by
    intro c hc
    obtain ⟨-, vs, hvs, -⟩ := (membership_eq_some_iff ha hfilter).mp hc
    obtain ⟨v, hv, hv'⟩ := hitem
    have hmeans : ∀ w ∈ items, ¬ w.IsNoMember :=
      ((List.forall₂_and_left _ _).mp (hvs.imp fun _ _ hw => ⟨hw.not_isNoMember, hw⟩)).1
    exact hmeans v hv hv'
  rw [membership_eq ha] at hnone ⊢
  exact congrArg Except.ok (Option.eq_none_iff_forall_ne_some.mpr fun c hc => hnone c (by rw [hc]))

/-- **Lists of members are exact.** Let the filter of an attribute be a JSON array. The attribute is
looked for among its elements, and the search is one for those outside them, just if there are
elements and each of them suits the attribute's kind: a string for a string, an integer of 32 bits
for such a column, an integer of 64 bits but not of 32 for a wide one, and a string that trims to a
UUID for a UUID. The values bound are then those of the elements, in order. Otherwise neither gives
a predicate, and neither ever fails; one null, Boolean, object, array or number that is written with
a point or an exponent is enough for that. An element that gives a predicate as an array of one gives
the same without the array. What an integer is, its token decides: it has no point and no exponent,
is not `-0`, and fits in 64 bits. -/
theorem isIn_exact (s : Scope) (attr : String) (override : Option String) {a : Attribute}
    {items : List Json} (ha : s.resolve attr = .ok a)
    (hfilter : s.filters.get? (filterKey attr override) = FilterValue.ofJson? (.array items)) :
    (∀ c, s.isIn attr override = .ok (some c) ↔ items ≠ [] ∧
      ∃ vs, List.Forall₂ (Json.Suits a.kind) items vs ∧
        c = .leaf (.member false a.operand vs) ∧ ∀ b, c.values b = vs) ∧
    (∀ c, s.notIn attr override = .ok (some c) ↔ items ≠ [] ∧
      ∃ vs, List.Forall₂ (Json.Suits a.kind) items vs ∧
        c = .leaf (.member true a.operand vs) ∧ ∀ b, c.values b = vs) ∧
    (∃ o, s.isIn attr override = .ok o) ∧ (∃ o, s.notIn attr override = .ok o) ∧
    ((∃ v ∈ items, v.IsNoMember) →
      s.isIn attr override = .ok none ∧ s.notIn attr override = .ok none) ∧
    (∀ v f c, items = [v] → f.get? (filterKey attr override) = FilterValue.ofJson? v →
      s.isIn attr override = .ok (some c) → (s.withFilters f).isIn attr override = .ok (some c)) ∧
    ∀ (l : Json.Lexeme) (n : Int),
      l.number? = some (.integer n) ↔ l.integer? = some n ∧ -2 ^ 63 ≤ n ∧ n < 2 ^ 64 := by
  refine ⟨fun c => membership_eq_some_iff ha hfilter, fun c => membership_eq_some_iff ha hfilter,
    ⟨_, membership_eq ha⟩, ⟨_, membership_eq ha⟩,
    fun hitem => ⟨membership_eq_none ha hfilter hitem, membership_eq_none ha hfilter hitem⟩,
    ?_, fun l n => Json.Lexeme.number?_eq_integer_iff⟩
  rintro v f c rfl hf hc
  rw [isIn, membership_eq ha, hfilter] at hc
  rw [isIn, membership_eq (s := s.withFilters f) ha, withFilters, hf]
  obtain ⟨vs, hvs, rfl⟩ := Option.map_eq_some_iff.mp (Except.ok.inj hc)
  rw [FilterValue.members?_ofJson?_of_array hvs]
  rfl

open Sample in
/-- One large identifier, in an array and alone; next to a small one it is no list of any kind. -/
theorem isIn_exact_ids :
    let customers := Customer.entityWith Customer.attributes Customer.vehicleColumns
    let f : Filters := .ofMembers [("id", .array [.number (.integer 5000000000)])]
    let g : Filters := .ofMembers [("id", .number (.integer 5000000000))]
    let s : Scope := .new customers f .postgres
    let c : Sql.Condition :=
      .leaf (.member false (.column ⟨"customers", "id"⟩) [.bigInt 5000000000])
    s.isIn "id" none = .ok (some c) ∧ (s.withFilters g).isIn "id" none = .ok (some c) := by
  intro customers f g s c
  have hfilter : s.filters.get? (filterKey "id" none) =
      FilterValue.ofJson? (.array [.number (.integer 5000000000)]) := rfl
  have hexact := isIn_exact s "id" none rfl hfilter
  have hc : s.isIn "id" none = .ok (some c) :=
    (hexact.1 c).mpr ⟨by decide, [.bigInt 5000000000],
      .cons (.long (by decide) (by decide) (.inr (by decide))) .nil, rfl, fun b => rfl⟩
  exact ⟨hc, hexact.2.2.2.2.2.1 _ g c rfl rfl hc⟩

end Scope

end EntitySearch
