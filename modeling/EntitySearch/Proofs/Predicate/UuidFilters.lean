import EntitySearch.Predicate.Membership
import EntitySearch.Proofs.Predicate.ListMembership
import EntitySearch.Proofs.Predicate.TypedText
import EntitySearch.Proofs.Uuid

/-!
# UUIDs in filters

Comparisons and memberships read the same UUIDs in text (`Scope.uuids_read_alike`), although the one
fails and the other gives no predicate where a text spells none.

* `Uuid.SpelledBy`: a text that spells a UUID amid blanks.
* `TypedForm.read?_uuid_eq_some_iff`: these texts are read, and no others.
* `listMembers?_uuid_eq_some_iff`: a list gives UUIDs if each of its elements is such a text.
* `Scope.urn_may_be_in_capitals`: a spelling that is read though `urn:uuid:` is not in lower case.
-/

namespace EntitySearch

/-- A text that spells a UUID, with any blanks around it. -/
def Uuid.SpelledBy (u : Uuid) (t : String) : Prop := ∃ cs, Text.AmidBlanks t cs ∧ u.Spells cs

variable {t : String} {u : Uuid} {v : Sql.Value} {items : List FilterValue} {vs : List Sql.Value}

/-! ## Texts and lists -/

theorem TypedForm.read?_uuid_eq_some_iff :
    TypedForm.uuid.read? t = some v ↔ ∃ u : Uuid, v = .uuid u ∧ u.SpelledBy t := by
  constructor
  · intro h
    obtain ⟨u, hu, rfl⟩ := Option.map_eq_some_iff.mp h
    exact ⟨u, rfl, _, Text.amidBlanks_trimChars t, Uuid.read?_eq_some_iff.mp hu⟩
  · rintro ⟨u, rfl, cs, hcs, hu⟩
    rw [read?_of_amidBlanks hcs hu.isTrimmed]
    exact congrArg (Option.map Sql.Value.uuid) (Uuid.read?_eq_some_iff.mpr hu)

/-- The value is text that spells the UUID. -/
def FilterValue.SpellsUuid (v : FilterValue) (u : Uuid) : Prop := ∃ t, v = .text t ∧ u.SpelledBy t

theorem FilterValue.uuid?_eq_some_iff {w : FilterValue} :
    w.uuid? = some v ↔ ∃ u, v = .uuid u ∧ w.SpellsUuid u := by
  cases w with
  | text t =>
    rw [uuid?, TypedForm.read?_uuid_eq_some_iff]
    simp [SpellsUuid]
  | _ => simp [uuid?, SpellsUuid]

/-- A list gives values for a UUID just if it has elements, each of which spells one. -/
theorem listMembers?_uuid_eq_some_iff : listMembers? .uuid items = some vs ↔
    items ≠ [] ∧ ∃ us : List Uuid, List.Forall₂ FilterValue.SpellsUuid items us ∧
      vs = us.map .uuid := by
  have hmembers : items.mapM FilterValue.uuid? = some vs ↔
      ∃ us : List Uuid, List.Forall₂ FilterValue.SpellsUuid items us ∧ vs = us.map .uuid := by
    rw [mapM_eq_some_iff, ← List.forall₂_eq_eq_eq, List.forall₂_map_left_iff,
      List.forall₂_map_right_iff]
    simp only [FilterValue.uuid?_eq_some_iff]
    constructor
    · intro h
      induction h with
      | nil => exact ⟨[], .nil, rfl⟩
      | cons hv _ ih =>
        obtain ⟨u, rfl, hu⟩ := hv
        obtain ⟨us, hus, rfl⟩ := ih
        exact ⟨u :: us, .cons hu hus, rfl⟩
    · rintro ⟨us, hus, rfl⟩
      exact List.forall₂_map_right_iff.mpr (hus.imp fun _ u hu => ⟨u, rfl, hu⟩)
  rw [← hmembers, listMembers?]
  cases items with
  | nil => simp
  | cons w items => simp [ScalarKind.element?]

/-! ## Predicates -/

namespace Scope

variable {s : Scope} {attr : String} {override : Option String} {a : Attribute}

/-- The predicate of a list for a UUID. -/
theorem membership_eq_some_iff_uuids (ha : s.resolve attr = .ok a) (hkind : a.kind = .uuid)
    (hitems : s.filters.get? (filterKey attr override) = some (.list items)) {negated : Bool}
    {c : Sql.Condition} : s.membership negated attr override = .ok (some c) ↔
      items ≠ [] ∧ ∃ us : List Uuid, List.Forall₂ FilterValue.SpellsUuid items us ∧
        c = .leaf (.member negated a.operand (us.map .uuid)) := by
  rw [membership_eq ha, hitems, hkind, Except.ok.injEq, Option.map_eq_some_iff, Option.bind_some]
  simp only [FilterValue.members?, listMembers?_uuid_eq_some_iff]
  constructor
  · rintro ⟨vs, ⟨hne, us, hus, rfl⟩, rfl⟩
    exact ⟨hne, us, hus, rfl⟩
  · rintro ⟨hne, us, hus, rfl⟩
    exact ⟨_, ⟨hne, us, hus, rfl⟩, rfl⟩

theorem membership_list_of_text (ha : s.resolve attr = .ok a) (hkind : a.kind = .uuid)
    (ht : s.filters.get? (filterKey attr override) = some (.list [.text t])) (negated : Bool) :
    s.membership negated attr override =
      .ok ((TypedForm.uuid.read? t).map fun v => .leaf (.member negated a.operand [v])) := by
  rw [membership_eq ha, ht, hkind, Option.bind_some]
  show Except.ok ((([FilterValue.text t] : List FilterValue).mapM FilterValue.uuid?).map _) = _
  rw [List.mapM_cons, List.mapM_nil]
  cases h : TypedForm.uuid.read? t <;> simp [FilterValue.uuid?, h]

theorem membership_of_text (ha : s.resolve attr = .ok a) (hkind : a.kind = .uuid)
    (ht : s.filters.get? (filterKey attr override) = some (.text t)) (negated : Bool) :
    s.membership negated attr override =
      .ok ((TypedForm.uuid.read? t).map fun v => .leaf (.member negated a.operand [v])) := by
  rw [membership_eq ha, ht, hkind, Option.bind_some, FilterValue.members?, if_pos rfl,
    Option.map_map]
  rfl

/-- **UUIDs are read alike.** Compare a UUID with a text, look for it in the text alone and in the
list of the text: the comparison fails just if the second gives no predicate, and that just if the
third gives none; and otherwise all three bind the same UUID. The 32 digits of a UUID, the digits in
groups with hyphens, the groups in braces and the groups after `urn:uuid:`, all in any case and with
any blanks around them, bind that UUID; and a list that has elements binds their UUIDs, in order,
just if each is text of this form. -/
theorem uuids_read_alike (s : Scope) (attr : String) (override : Option String) {a : Attribute}
    (ha : s.resolve attr = .ok a) (hkind : a.kind = .uuid) :
    let key := filterKey attr override
    let equality (u : Uuid) : Outcome := .ok (some (.leaf (.compare .equal a.operand (.uuid u))))
    let members (us : List Uuid) : Sql.Condition :=
      .leaf (.member false a.operand (us.map .uuid))
    (∀ t (f g : Filters), f.get? key = some (.text t) → g.get? key = some (.list [.text t]) →
      let compared := (s.withFilters f).equals attr override
      let alone := (s.withFilters f).isIn attr override
      let listed := (s.withFilters g).isIn attr override
      (compared = .error (.invalidFilterValue key t "UUID") ↔ alone = .ok none) ∧
      (alone = .ok none ↔ listed = .ok none) ∧
      (alone ≠ .ok none → ∃ u, compared = equality u ∧ alone = .ok (some (members [u])) ∧
        listed = .ok (some (members [u]))) ∧
      ∀ u : Uuid, u.SpelledBy t ↔ compared = equality u) ∧
    ∀ items (f : Filters), f.get? key = some (.list items) →
      (∀ c, (s.withFilters f).isIn attr override = .ok (some c) ↔ items ≠ [] ∧
        ∃ us, List.Forall₂ FilterValue.SpellsUuid items us ∧ c = members us) ∧
      ((∀ c, (s.withFilters f).isIn attr override ≠ .ok (some c)) →
        (s.withFilters f).isIn attr override = .ok none) := by
  intro key equality members
  have hresolve : ∀ f, (s.withFilters f).resolve attr = .ok a := fun _ => ha
  refine ⟨?_, fun items f hf => ⟨fun c => ?_, fun h => ?_⟩⟩
  · intro t f g hf hg compared alone listed
    have hcompared : compared = (TypedForm.uuid.parse key t).map fun x =>
        some (.leaf (.compare .equal a.operand x)) :=
      compareWithFilter_of_text .equal (hresolve f) (by rw [hkind]; rfl) hf
    have halone : alone = .ok ((TypedForm.uuid.read? t).map fun v =>
        .leaf (.member false a.operand [v])) := membership_of_text (hresolve f) hkind hf false
    have hlisted : listed = .ok ((TypedForm.uuid.read? t).map fun v =>
        .leaf (.member false a.operand [v])) := membership_list_of_text (hresolve g) hkind hg false
    have hspelled : ∀ u : Uuid, u.SpelledBy t ↔ TypedForm.uuid.read? t = some (.uuid u) := by
      intro u
      rw [TypedForm.read?_uuid_eq_some_iff]
      simp
    cases hread : TypedForm.uuid.read? t with
    | none =>
      rw [TypedForm.parse_of_read?_eq_none hread] at hcompared
      rw [hread] at halone hlisted
      simp [hcompared, halone, hlisted, hspelled, hread, equality, Except.map, TypedForm.name]
    | some v =>
      obtain ⟨u, rfl, hu⟩ := TypedForm.read?_uuid_eq_some_iff.mp hread
      rw [TypedForm.parse_of_read? hread] at hcompared
      rw [hread] at halone hlisted
      simp [hcompared, halone, hlisted, hspelled, hread, equality, members, Except.map]
  · exact membership_eq_some_iff_uuids (hresolve f) hkind hf
  · have hok : (s.withFilters f).isIn attr override = .ok _ := membership_eq (hresolve f)
    rw [hok] at h ⊢
    exact congrArg Except.ok (Option.eq_none_iff_forall_ne_some.mpr fun c hc => h c (by rw [hc]))

open Sample in
/-- A UUID in braces between blanks, in letters of both cases, is compared with, and looked for as the
first element of a list, in which its digits and its resource name follow. With a part of it in its
place the comparison fails and the list gives no predicate. -/
theorem uuids_read_alike_token :
    let t := "\u00a0\x7b67E55044-10b1-426f-9247-BB680e5fe0c8\x7d\t"
    let name := "Urn:UUID:67e55044-10b1-426f-9247-bb680e5fe0c8"
    let u : Uuid := ⟨0x67e5504410b1426f9247bb680e5fe0c8⟩
    let tokens := Customer.entityWith [("token", ⟨"token", .uuid⟩)] []
    let s (v : FilterValue) : Scope := .new tokens (.ofList [("token", v)]) .mysql
    let token : Sql.Operand := .column ⟨"customers", "token"⟩
    (s (.text t)).equals "token" none = .ok (some (.leaf (.compare .equal token (.uuid u)))) ∧
    (s (.list [.text t, .text "67e5504410b1426f9247bb680e5fe0c8", .text name])).isIn "token" none =
      .ok (some (.leaf (.member false token [.uuid u, .uuid u, .uuid u]))) ∧
    (s (.text "67e55044")).equals "token" none =
      .error (.invalidFilterValue "token" "67e55044" "UUID") ∧
    (s (.list [.text "67e55044"])).isIn "token" none = .ok none := by
  intro t name u tokens s token
  let capitals := "67E5504410b1426f9247BB680e5fe0c8".toList
  let digits := "67e5504410b1426f9247bb680e5fe0c8".toList
  let groups := "67e55044-10b1-426f-9247-bb680e5fe0c8".toList
  have hcapitals : u.HasDigits capitals := by
    rw [Uuid.HasDigits]
    decide +kernel
  have hdigits : u.HasDigits digits := by
    rw [Uuid.HasDigits]
    decide +kernel
  have hbraces : u.SpelledBy t :=
    ⟨_, ⟨['\u00a0'], ['\t'], List.forall_mem_singleton.mpr (by decide),
      List.forall_mem_singleton.mpr (by decide), by decide +kernel⟩, "urn:uuid:".toList, by decide,
      .braces hcapitals ((Uuid.grouped_iff hcapitals.length_eq).mpr rfl)⟩
  have hplain : u.SpelledBy "67e5504410b1426f9247bb680e5fe0c8" :=
    ⟨digits, Text.amidBlanks_toList _, "urn:uuid:".toList, by decide, .digits hdigits⟩
  have hname : u.SpelledBy name := by
    have hgroups : Uuid.Grouped digits groups :=
      (Uuid.grouped_iff hdigits.length_eq).mpr (by decide +kernel)
    have hsplit : name.toList = "Urn:UUID:".toList ++ groups := by decide +kernel
    exact ⟨name.toList, Text.amidBlanks_toList _, "Urn:UUID:".toList, by decide,
      hsplit ▸ .name hdigits hgroups⟩
  obtain ⟨htexts, hlists⟩ := uuids_read_alike (.new tokens .empty .mysql) "token" none
    (a := ⟨"token", _, .uuid⟩) rfl rfl
  have hgiven := (htexts t (s (.text t)).filters (s (.list [.text t])).filters rfl rfl).2.2.2 u
  have hlist := (hlists [.text t, .text "67e5504410b1426f9247bb680e5fe0c8", .text name]
    (s _).filters rfl).1
  have hshort := htexts "67e55044" (s (.text "67e55044")).filters
    (s (.list [.text "67e55044"])).filters rfl rfl
  have hnone : (s (.list [.text "67e55044"])).isIn "token" none = .ok none := rfl
  refine ⟨hgiven.mp hbraces, ?_, hshort.1.mpr (hshort.2.1.mpr hnone), hnone⟩
  exact (hlist _).mpr ⟨by simp, [u, u, u],
    .cons ⟨t, rfl, hbraces⟩ (.cons ⟨_, rfl, hplain⟩ (.cons ⟨name, rfl, hname⟩ .nil)), rfl⟩

open Sample in
/-- Not only the digits may be in either case: `URN:UUID:` is read as `urn:uuid:` is, though no text
with it is one of the four spellings with `urn:uuid:` itself. -/
theorem urn_may_be_in_capitals :
    ¬ ∀ (s : Scope) (attr : String) (override : Option String) (a : Attribute),
      s.resolve attr = .ok a → a.kind = .uuid → ∀ items : List FilterValue, items ≠ [] →
      s.filters.get? (filterKey attr override) = some (.list items) →
      ((∃ c, s.isIn attr override = .ok (some c)) ↔ ∀ v ∈ items, ∃ t cs u, v = .text t ∧
        Text.AmidBlanks t cs ∧ Uuid.Spelled "urn:uuid:".toList u cs) := by
  intro hall
  let t := "URN:UUID:67e55044-10b1-426f-9247-bb680e5fe0c8"
  let tokens := Customer.entityWith [("token", ⟨"token", .uuid⟩)] []
  let s : Scope := .new tokens (.ofList [("token", .list [.text t])]) .mysql
  let u : Uuid := ⟨0x67e5504410b1426f9247bb680e5fe0c8⟩
  have hu : TypedForm.uuid.read? t = some (.uuid u) := by decide +kernel
  have hread : s.isIn "token" none = _ := membership_list_of_text rfl rfl rfl false
  rw [hu] at hread
  obtain ⟨t', cs, u', htext, hcs, hspelled⟩ :=
    (hall s "token" none ⟨"token", _, .uuid⟩ rfl rfl [.text t] (by simp) rfl).mp ⟨_, hread⟩ _
      List.mem_cons_self
  obtain rfl := FilterValue.text.inj htext
  have hspells : u'.Spells cs := ⟨"urn:uuid:".toList, by decide, hspelled⟩
  have htrim := hcs.trimChars_eq hspells.isTrimmed
  have hlength : cs.length = 45 := by
    rw [← htrim]
    decide +kernel
  have hhead : cs.head? = some 'U' := by
    rw [← htrim]
    decide +kernel
  cases hspelled with
  | digits h => exact absurd (h.length_eq.symm.trans hlength) (by decide)
  | groups h hgroups => exact absurd ((h.length_groups hgroups).symm.trans hlength) (by decide)
  | braces h => exact absurd hhead (by simp)
  | name h => exact absurd hhead (by simp)

end Scope

end EntitySearch
