import EntitySearch.Filter.Filters
import EntitySearch.Proofs.Error
import EntitySearch.Proofs.Json.Grammar
import Mathlib.Data.List.Dedup
import Mathlib.Data.List.Induction

/-!
# Filters from JSON objects

What the filters of a JSON object are (`Filters.decodes_last`). A name that is given several times
has the value of its last member, and none if that is null or an object, whatever came before.

* `lastValue?`: the value of the last entry of a name.
* `Filters.get?_foldl_insert`, `Filters.get?_ofMembers`: what a run of writes leaves under a name, by
  induction on the run from `get?_insert` and `get?_write`.
* `Filters.size_eq`: the size of filters is the number of names that have a value.
* `FilterValue.ofJson?_array_of_whole`, `FilterValue.ofJson?_array_of_hole`: the two cases of an
  array. Only its own items decide between them.
-/

namespace EntitySearch

/-! ## The last entry of a name -/

/-- The value of the last entry of a name. -/
def lastValue? {α : Type} (entries : List (String × α)) (key : String) : Option α :=
  (entries.filter (·.1 == key)).getLast?.map (·.2)

section

variable {α : Type} {entries later : List (String × α)} {key : String}

theorem lastValue?_append :
    lastValue? (entries ++ later) key = (lastValue? later key).or (lastValue? entries key) := by
  rw [lastValue?, List.filter_append, List.getLast?_append, Option.map_or]
  rfl

theorem lastValue?_singleton (k : String) (v : α) :
    lastValue? [(k, v)] key = if key = k then some v else none := by
  unfold lastValue?
  by_cases hk : key = k
  · simp [hk]
  · simp [hk, Ne.symm hk]

theorem lastValue?_concat (k : String) (v : α) :
    lastValue? (entries ++ [(k, v)]) key = if key = k then some v else lastValue? entries key := by
  rw [lastValue?_append, lastValue?_singleton]
  split <;> simp

theorem mem_of_lastValue? {v : α} (h : lastValue? entries key = some v) : (key, v) ∈ entries := by
  obtain ⟨⟨k, v⟩, he, rfl⟩ := Option.map_eq_some_iff.mp h
  obtain ⟨hmem, hkey⟩ := List.mem_filter.mp (List.mem_of_getLast? he)
  obtain rfl : k = key := beq_iff_eq.mp hkey
  exact hmem

theorem isSome_lastValue? : (lastValue? entries key).isSome = true ↔ key ∈ entries.map (·.1) := by
  constructor
  · intro h
    obtain ⟨v, hv⟩ := Option.isSome_iff_exists.mp h
    exact List.mem_map_of_mem (mem_of_lastValue? hv)
  · intro h
    obtain ⟨e, he, rfl⟩ := List.mem_map.mp h
    have hne : entries.filter (·.1 == e.1) ≠ [] :=
      List.ne_nil_of_mem (List.mem_filter.mpr ⟨he, by simp⟩)
    rw [lastValue?, Option.isSome_map, Option.isSome_iff_ne_none, ne_eq, List.getLast?_eq_none_iff]
    exact hne

end

/-! ## Values without meaning -/

namespace Json

/-- Whether a value is null or an object. As a filter these mean nothing. -/
def isHole : Json → Bool
  | null | object _ => true
  | _ => false

/-- A value is another or a part of it, at any depth. -/
inductive Inside : Json → Json → Prop where
  | here (v : Json) : Inside v v
  | item {v w : Json} {items : List Json} (hw : w ∈ items) (h : Inside v w) : Inside v (array items)
  | member {v w : Json} {name : String} {members : List (String × Json)}
      (hw : (name, w) ∈ members) (h : Inside v w) : Inside v (object members)

theorem areReadable_iff {items : List Json} :
    areReadable items = true ↔ ∀ v ∈ items, v.isReadable = true := by
  induction items with
  | nil => simp [areReadable]
  | cons v items ih => simp [areReadable, ih]

theorem membersAreReadable_iff {members : List (String × Json)} :
    membersAreReadable members = true ↔ ∀ m ∈ members, m.2.isReadable = true := by
  induction members with
  | nil => simp [membersAreReadable]
  | cons m members ih => simp [membersAreReadable, ih]

/-- Every part of a readable value is readable. -/
theorem Inside.isReadable {v w : Json} (h : v.Inside w) (hw : w.isReadable = true) :
    v.isReadable = true := by
  induction h with
  | here => exact hw
  | item hmem _ ih => exact ih (areReadable_iff.mp hw _ hmem)
  | member hmem _ ih => exact ih (membersAreReadable_iff.mp hw _ hmem)

end Json

/-! ## Conversion -/

namespace FilterValue

variable {v : Json} {items : List Json}

/-- Of what is readable, only null and objects have no filter value. -/
theorem isSome_ofJson? (hv : v.isReadable = true) : (ofJson? v).isSome = !v.isHole := by
  cases v with
  | unreadable => cases hv
  | _ => simp [ofJson?, Json.isHole]

theorem listOfJson?_eq_mapM (items : List Json) : listOfJson? items = items.mapM ofJson? := by
  induction items with
  | nil => rfl
  | cons v items ih =>
    rw [listOfJson?, List.mapM_cons, ih]
    cases ofJson? v with
    | none => rfl
    | some x => cases items.mapM ofJson? <;> rfl

/-- An array none of whose items is null or an object is converted item by item. -/
theorem ofJson?_array_of_whole (hread : ∀ v ∈ items, v.isReadable = true)
    (hwhole : ∀ v ∈ items, v.isHole = false) :
    ∃ xs, ofJson? (.array items) = some (list xs) ∧ items.map ofJson? = xs.map some := by
  have hvalue : ∀ v ∈ items, ∃ x, ofJson? v = some x := by
    intro v hv
    have hsome := isSome_ofJson? (hread v hv)
    rw [hwhole v hv] at hsome
    exact Option.isSome_iff_exists.mp hsome
  obtain ⟨xs, hxs⟩ := Json.exists_forall₂ hvalue
  have hmap : items.map ofJson? = xs.map some := by
    induction hxs with
    | nil => rfl
    | cons hx _ ih => simp_all
  refine ⟨xs, ?_, hmap⟩
  rw [ofJson?, listOfJson?_eq_mapM, mapM_eq_some_iff.mpr hmap, Option.getD_some]

/-- One item that is null or an object empties an array. -/
theorem ofJson?_array_of_hole (hhole : ∃ v ∈ items, v.isHole = true) :
    ofJson? (.array items) = some (list []) := by
  obtain ⟨v, hmem, hv⟩ := hhole
  have hnone : ofJson? v = none := by
    cases v with
    | null | object members => rfl
    | _ => cases hv
  have hlist : listOfJson? items = none := by
    rw [listOfJson?_eq_mapM, Option.eq_none_iff_forall_ne_some]
    intro xs hxs
    have hx : none ∈ xs.map some := mapM_eq_some_iff.mp hxs ▸ hnone ▸ List.mem_map_of_mem hmem
    simp at hx
  rw [ofJson?, hlist, Option.getD_none]

end FilterValue

/-! ## Runs of writes -/

namespace Filters

variable {f : Filters} {key : String}

theorem get?_write (f : Filters) (k : String) (v : Json) (key : String) :
    (f.write k v).get? key = if key = k then FilterValue.ofJson? v else f.get? key := by
  unfold write
  cases FilterValue.ofJson? v with
  | none => exact get?_erase f k key
  | some x => exact get?_insert f k x key

/-- After a run of inserts a name has the value of its last insert, or else the one it had. -/
theorem get?_foldl_insert (f : Filters) (entries : List (String × FilterValue)) (key : String) :
    (entries.foldl (fun g e => g.insert e.1 e.2) f).get? key =
      (lastValue? entries key).or (f.get? key) := by
  induction entries using List.reverseRecOn with
  | nil => rfl
  | append_singleton entries e ih =>
    rw [List.foldl_append, List.foldl_cons, List.foldl_nil, get?_insert, ih, lastValue?_concat]
    split <;> rfl

/-- The members of an object leave under each name what the last of that name means. -/
theorem get?_ofMembers (members : List (String × Json)) (key : String) :
    (ofMembers members).get? key = (lastValue? members key).bind FilterValue.ofJson? := by
  unfold ofMembers
  induction members using List.reverseRecOn with
  | nil => rfl
  | append_singleton members m ih =>
    rw [List.foldl_append, List.foldl_cons, List.foldl_nil, get?_write, ih, lastValue?_concat]
    split <;> rfl

theorem mem_entries_map_iff : key ∈ f.entries.map (·.1) ↔ f.contains key = true := by
  rw [contains, get?, List.lookup_isSome_iff]
  simp

/-- The size of filters is the number of names with a value. -/
theorem size_eq {keys : List String} (hkeys : keys.Nodup)
    (h : ∀ key, key ∈ keys ↔ f.contains key = true) : f.size = keys.length := by
  have hperm : (f.entries.map (·.1)).Perm keys := by
    rw [List.perm_ext_iff_of_nodup f.nodup hkeys]
    intro key
    rw [mem_entries_map_iff, h]
  rw [size, ← List.length_map (·.1), hperm.length_eq]

/-- Filters decoded from a text are those of the members of an object all of which is readable. -/
theorem exists_members_of_read? {s : String} (h : read? s = some f) :
    ∃ members, Json.read? s = some (.object members) ∧
      (Json.object members).isReadable = true ∧ f = ofMembers members := by
  obtain ⟨v, hv, hdecode⟩ := Option.bind_eq_some_iff.mp h
  unfold decode? Json.whole? at hdecode
  by_cases hread : v.isReadable = true
  · rw [if_pos hread] at hdecode
    cases v with
    | object members => exact ⟨members, hv, hread, (Option.some.inj hdecode).symm⟩
    | _ => cases hdecode
  · rw [if_neg hread] at hdecode
    cases hdecode

open Json (Layout MemberDenotes namedTokens) in
/-- **The last member counts.** Let a text be decoded as filters. It is an object, whose members are
those that the text lists by the grammar of JSON, in their order. A name has a value just if the last
member of that name is neither null nor an object, and then the value is what that member is
converted to, so that there are as many values as such names. An array in the text, at any depth, is
converted item by item if no item of its own is null or an object, and to the empty list otherwise;
what is deeper inside its items does not matter. Values that are inserted later replace these, the
last one of each name counting. -/
theorem decodes_last {s : String} (h : read? s = some f) :
    ∃ members, Json.read? s = some (.object members) ∧
      (∀ ms js, Layout (namedTokens ms) s.toList → List.Forall₂ (MemberDenotes 1) ms js →
        js = members) ∧
      (∀ key, f.contains key = true ↔
        ∃ v, lastValue? members key = some v ∧ v.isHole = false) ∧
      (∀ key v, lastValue? members key = some v → f.get? key = FilterValue.ofJson? v) ∧
      f.size = ((members.map (·.1)).dedup.filter fun key =>
        (lastValue? members key).any fun v => !v.isHole).length ∧
      (∀ items, (Json.array items).Inside (.object members) →
        ((∀ v ∈ items, v.isHole = false) → ∃ xs,
          FilterValue.ofJson? (.array items) = some (.list xs) ∧
            items.map FilterValue.ofJson? = xs.map some) ∧
        ((∃ v ∈ items, v.isHole = true) →
          FilterValue.ofJson? (.array items) = some (.list []))) ∧
      ∀ entries : List (String × FilterValue),
        let g := entries.foldl (fun g e => g.insert e.1 e.2) f
        (∀ key, g.get? key = (lastValue? entries key).or (f.get? key)) ∧
        g.size = (f.entries.map (·.1) ++ entries.map (·.1)).dedup.length := by
  obtain ⟨members, hread, hreadable, rfl⟩ := exists_members_of_read? h
  have hcontains : ∀ key, (ofMembers members).contains key = true ↔
      ∃ v, lastValue? members key = some v ∧ v.isHole = false := by
    intro key
    rw [contains, get?_ofMembers]
    cases hlast : lastValue? members key with
    | none => simp
    | some v =>
      have hv := Json.membersAreReadable_iff.mp hreadable _ (mem_of_lastValue? hlast)
      simp [FilterValue.isSome_ofJson? hv]
  refine ⟨members, hread, fun ms js hlayout hjs => ?_, hcontains, fun key v hv => ?_, ?_,
    fun items hinside => ?_, fun entries => ?_⟩
  · have hobject := hlayout.read?_object hjs
    rw [String.ofList_toList, hread] at hobject
    exact (Json.object.inj (Option.some.inj hobject)).symm
  · rw [get?_ofMembers, hv, Option.bind_some]
  · refine size_eq ((List.nodup_dedup _).filter _) fun key => ?_
    rw [hcontains, List.mem_filter, List.mem_dedup, ← isSome_lastValue?]
    cases lastValue? members key <;> simp
  · have hitems := Json.areReadable_iff.mp (hinside.isReadable hreadable)
    exact ⟨FilterValue.ofJson?_array_of_whole hitems, FilterValue.ofJson?_array_of_hole⟩
  · intro g
    have hget := get?_foldl_insert (ofMembers members) entries
    refine ⟨hget, size_eq (List.nodup_dedup _) fun key => ?_⟩
    rw [List.mem_dedup, List.mem_append, mem_entries_map_iff, ← isSome_lastValue?, contains,
      contains, hget, Option.isSome_or, Bool.or_eq_true, or_comm]

/-- A name that is null at last has no value, a hole in a list of a list empties only the inner one,
and a later insert brings the name back. -/
theorem decodes_last_repeated :
    let s := "\x7b\"a\":1,\"a\":null,\"b\":[[5,null],2]\x7d"
    ∃ f, read? s = some f ∧ f.contains "a" = false ∧
      f.get? "b" = some (.list [.list [], .int 2]) ∧ f.size = 1 ∧
      (f.insert "a" (.int 7)).get? "a" = some (.int 7) ∧ (f.insert "a" (.int 7)).size = 2 := by
  intro s
  let inner : List Json := [.number (.integer 5), .null]
  let outer : List Json := [.array inner, .number (.integer 2)]
  let members : List (String × Json) :=
    [("a", .number (.integer 1)), ("a", .null), ("b", .array outer)]
  have hscan : Json.Token.scan? s.toList = some [.openObject,
      .text (some "a"), .colon, .number (some (.integer 1)), .comma,
      .text (some "a"), .colon, .null, .comma,
      .text (some "b"), .colon, .openArray, .openArray, .number (some (.integer 5)), .comma, .null,
      .closeArray, .comma, .number (some (.integer 2)), .closeArray, .closeObject] := by
    decide +kernel
  have hread : Json.read? s = some (.object members) := by
    rw [Json.read?, hscan]
    rfl
  have hf : read? s = some (ofMembers members) := by
    rw [read?, hread]
    rfl
  obtain ⟨_, hmembers, -, hcontains, hget, hsize, harrays, hlater⟩ := decodes_last hf
  obtain rfl := Json.object.inj (Option.some.inj (hread.symm.trans hmembers))
  have hb : ("b", Json.array outer) ∈ members := by simp [members]
  have houter : FilterValue.ofJson? (.array outer) = some (.list [.list [], .int 2]) := by
    have hinside : (Json.array outer).Inside (.object members) := .member hb (.here _)
    obtain ⟨xs, hxs, hitems⟩ := (harrays outer hinside).1 (by simp [outer, Json.isHole])
    have hitem : Json.array inner ∈ outer := by simp [outer]
    have hinner := (harrays inner (.member hb (.item hitem (.here _)))).2
      ⟨.null, by simp [inner], rfl⟩
    have hlist : outer.map FilterValue.ofJson? = [.list [], .int 2].map some := by
      rw [show outer = [.array inner, .number (.integer 2)] from rfl, List.map_cons, hinner]
      rfl
    obtain rfl := (List.map_inj_right fun _ _ => Option.some.inj).mp (hitems.symm.trans hlist)
    exact hxs
  obtain ⟨hinsert, hinsertSize⟩ := hlater [("a", .int 7)]
  refine ⟨_, hf, ?_, (hget "b" _ rfl).trans houter, hsize, hinsert "a", hinsertSize⟩
  rw [← Bool.not_eq_true, hcontains]
  rintro ⟨v, hv, hmeaning⟩
  obtain rfl := Option.some.inj hv
  cases hmeaning

end Filters

end EntitySearch
