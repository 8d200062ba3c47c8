import EntitySearch.Paging.Pageable
import EntitySearch.Proofs.Error

/-!
# Sort lists

The two sort lists of a request are paired element by element, or refused for the first thing that is
wrong with them: their lengths, and then the first text that names no direction. Keys that are added
one after another can only be wrong in their directions, and aliases change nothing but the properties
(`sortLists_paired`).

* `Direction.read_eq_ok_iff`, `Direction.read_eq_error_iff`: what a direction is read from.
* `Pageable.sortOrders_eq_map`: the directions are read first to last, and then paired.
* `Pageable.sortOrders_eq_ok_iff_pairs`, `Pageable.sortOrders_eq_error_iff`: what sort lists say that
  can be used, and what is wrong with the others.
* `Pageable.sortBy_withSorts`, `Pageable.sortDirection_withSorts`: what a run of added keys leaves in
  the two lists; `Pageable.pairs_withSorts_new_iff` says what its orders are.
* `SortAliases.find?_eq_some_iff`, `SortAliases.path_of_stands`, `SortAliases.path_of_not_stands`: the
  path for a property.
-/

namespace EntitySearch

/-! ## Directions -/

namespace Direction

variable {s : String} {d d' : Direction}

/-- A text names a direction if it is the word for it amid blanks, in letters of either case. -/
def Names (s : String) (d : Direction) : Prop :=
  Text.equalsIgnoringCase (Text.trim s) d.text = true

instance (s : String) (d : Direction) : Decidable (Names s d) :=
  inferInstanceAs (Decidable (_ = true))

theorem names_iff : Names s d ↔ Text.sameLetters (Text.trimChars s.toList) d.text.toList = true := by
  rw [Names, Text.equalsIgnoringCase, Text.trim, String.toList_ofList]

theorem Names.eq (h : Names s d) (h' : Names s d') : d = d' := by
  rw [names_iff, Text.sameLetters, beq_iff_eq] at h h'
  have hwords : d.text.toList.map Text.lowerAscii = d'.text.toList.map Text.lowerAscii :=
    h.symm.trans h'
  cases d <;> cases d' <;> first | rfl | exact absurd hwords (by decide)

theorem read_eq (s : String) : read s = if Names s asc then .ok asc
    else if Names s desc then .ok desc else .error (.invalidSortDirection s) := by
  simp only [names_iff]
  rfl

theorem read_eq_ok_iff : read s = .ok d ↔ Names s d := by
  rw [read_eq]
  by_cases hasc : Names s asc
  · rw [if_pos hasc, Except.ok.injEq]
    exact ⟨fun h => h ▸ hasc, hasc.eq⟩
  rw [if_neg hasc]
  by_cases hdesc : Names s desc
  · rw [if_pos hdesc, Except.ok.injEq]
    exact ⟨fun h => h ▸ hdesc, hdesc.eq⟩
  rw [if_neg hdesc]
  cases d <;> simp [hasc, hdesc]

theorem read_eq_error_iff {e : SearchError} :
    read s = .error e ↔ (∀ d, ¬ Names s d) ∧ e = .invalidSortDirection s := by
  constructor
  · intro h
    have hnone : ∀ d, ¬ Names s d := by
      intro d hd
      rw [read_eq_ok_iff.mpr hd] at h
      cases h
    rw [read_eq, if_neg (hnone asc), if_neg (hnone desc)] at h
    exact ⟨hnone, (Except.error.inj h).symm⟩
  · rintro ⟨hnone, rfl⟩
    rw [read_eq, if_neg (hnone asc), if_neg (hnone desc)]

/-- The first text of a list that names no direction. -/
def FirstNameless (texts : List String) (s : String) : Prop :=
  ∃ before after, texts = before ++ s :: after ∧ (∀ t ∈ before, ∃ d, Names t d) ∧ ∀ d, ¬ Names s d

theorem mapM_read_eq_error_iff {texts : List String} {e : SearchError} :
    texts.mapM read = .error e ↔ ∃ s, FirstNameless texts s ∧ e = .invalidSortDirection s := by
  simp only [mapM_eq_error_iff, read_eq_ok_iff, read_eq_error_iff]
  constructor
  · rintro ⟨before, s, after, htexts, hbefore, hnone, he⟩
    exact ⟨s, ⟨before, after, htexts, hbefore, hnone⟩, he⟩
  · rintro ⟨s, ⟨before, after, htexts, hbefore, hnone⟩, he⟩
    exact ⟨before, s, after, htexts, hbefore, hnone, he⟩

end Direction

/-! ## Pairs -/

namespace Pageable

open Direction (Names FirstNameless)

variable {p : Pageable} {orders : List SortOrder}

private theorem mapM_zip_read {properties directions : List String}
    (hlength : properties.length = directions.length) :
    (properties.zip directions).mapM (fun (property, direction) =>
        (Direction.read direction).map (SortOrder.mk property)) =
      (directions.mapM Direction.read).map fun ds =>
        (properties.zip ds).map fun key => ⟨key.1, key.2⟩ := by
  -- Nothing can go wrong with a property, so the first direction that fails decides on both sides.
  induction properties generalizing directions with
  | nil =>
    obtain rfl := List.eq_nil_of_length_eq_zero hlength.symm
    rfl
  | cons property properties ih =>
    obtain ⟨direction, directions, rfl⟩ := List.exists_cons_of_length_eq_add_one hlength.symm
    simp only [List.zip_cons_cons, List.mapM_cons, ih (Nat.succ.inj hlength)]
    cases Direction.read direction with
    | error e => rfl
    | ok d => cases directions.mapM Direction.read <;> rfl

/-- The directions of lists of one length are read first to last, and then paired. -/
theorem sortOrders_eq_map (hlength : p.sortBy.length = p.sortDirection.length) :
    p.sortOrders = (p.sortDirection.mapM Direction.read).map fun ds =>
      (p.sortBy.zip ds).map fun key => ⟨key.1, key.2⟩ := by
  rw [sortOrders, if_neg (not_not_intro hlength)]
  exact mapM_zip_read hlength

theorem sortOrders_of_length_ne (hlength : p.sortBy.length ≠ p.sortDirection.length) :
    p.sortOrders = .error (.mismatchedSort p.sortBy.length p.sortDirection.length) :=
  if_pos hlength

/-- An order that can be read has as many directions as properties, and all of them can be read. -/
theorem sortOrders_eq_ok_iff : p.sortOrders = .ok orders ↔
    p.sortBy = orders.map SortOrder.property ∧
      p.sortDirection.map Direction.read = orders.map fun o => .ok o.direction := by
  constructor
  · intro h
    have hlength : p.sortBy.length = p.sortDirection.length := by
      refine Decidable.of_not_not fun hne => ?_
      rw [sortOrders_of_length_ne hne] at h
      cases h
    rw [sortOrders_eq_map hlength, map_eq_ok_iff] at h
    obtain ⟨ds, hds, rfl⟩ := h
    rw [mapM_eq_ok_iff] at hds
    have hds' : p.sortBy.length = ds.length := by
      simpa [hlength] using congrArg List.length hds
    have hby := List.map_fst_zip (Nat.le_of_eq hds')
    have hdirection := List.map_snd_zip (Nat.le_of_eq hds'.symm)
    refine ⟨?_, ?_⟩
    · rw [List.map_map]
      exact hby.symm
    · calc p.sortDirection.map Direction.read
        _ = ((p.sortBy.zip ds).map Prod.snd).map .ok := by rw [hds, hdirection]
        _ = ((p.sortBy.zip ds).map fun key => SortOrder.mk key.1 key.2).map
            fun o => .ok o.direction := by
          rw [List.map_map, List.map_map]
          rfl
  · rintro ⟨hby, hdirection⟩
    have hlength : p.sortBy.length = p.sortDirection.length := by
      simpa [hby] using (congrArg List.length hdirection).symm
    rw [sortOrders_eq_map hlength, map_eq_ok_iff]
    refine ⟨orders.map SortOrder.direction, mapM_eq_ok_iff.mpr ?_, ?_⟩
    · rw [hdirection, List.map_map]
      rfl
    · rw [hby, List.zip_map', List.map_map]
      exact List.map_id orders

/-- Sort orders that pair the two lists of a request: one for each index, with the property and the
direction that stand there. -/
structure Pairs (p : Pageable) (orders : List SortOrder) : Prop where
  length_sortBy : p.sortBy.length = orders.length
  length_sortDirection : p.sortDirection.length = orders.length
  getElem? : ∀ (i : Nat) (o : SortOrder), orders[i]? = some o →
    p.sortBy[i]? = some o.property ∧ ∃ s, p.sortDirection[i]? = some s ∧ Names s o.direction

theorem sortOrders_eq_ok_iff_pairs : p.sortOrders = .ok orders ↔ p.Pairs orders := by
  rw [sortOrders_eq_ok_iff]
  constructor
  · rintro ⟨hby, hdirection⟩
    refine ⟨by rw [hby, List.length_map], by simpa using congrArg List.length hdirection,
      fun i o ho => ⟨?_, ?_⟩⟩
    · rw [hby, List.getElem?_map, ho, Option.map_some]
    · have hi : (p.sortDirection.map Direction.read)[i]? = some (.ok o.direction) := by
        rw [hdirection, List.getElem?_map, ho, Option.map_some]
      rw [List.getElem?_map, Option.map_eq_some_iff] at hi
      obtain ⟨s, hs, hread⟩ := hi
      exact ⟨s, hs, Direction.read_eq_ok_iff.mp hread⟩
  · intro h
    constructor
    · refine List.ext_getElem (by rw [h.length_sortBy, List.length_map]) fun i hi hi' => ?_
      rw [List.length_map] at hi'
      obtain ⟨hproperty, -⟩ := h.getElem? i _ (List.getElem?_eq_getElem hi')
      obtain ⟨_, hproperty⟩ := List.getElem?_eq_some_iff.mp hproperty
      rw [hproperty, List.getElem_map]
    · refine List.ext_getElem (by simp [h.length_sortDirection]) fun i hi hi' => ?_
      rw [List.length_map] at hi'
      obtain ⟨-, s, hs, hnames⟩ := h.getElem? i _ (List.getElem?_eq_getElem hi')
      obtain ⟨_, rfl⟩ := List.getElem?_eq_some_iff.mp hs
      rw [List.getElem_map, List.getElem_map, Direction.read_eq_ok_iff.mpr hnames]

/-- What is wrong with two lists: their lengths, and if those are equal the first text that names no
direction. -/
theorem sortOrders_eq_error_iff {e : SearchError} : p.sortOrders = .error e ↔
    p.sortBy.length ≠ p.sortDirection.length ∧
        e = .mismatchedSort p.sortBy.length p.sortDirection.length ∨
      p.sortBy.length = p.sortDirection.length ∧
        ∃ s, FirstNameless p.sortDirection s ∧ e = .invalidSortDirection s := by
  by_cases hlength : p.sortBy.length = p.sortDirection.length
  · rw [sortOrders_eq_map hlength, map_eq_error_iff, Direction.mapM_read_eq_error_iff]
    simp [hlength]
  · rw [sortOrders_of_length_ne hlength]
    simp [hlength, eq_comm]

/-- Lists of one length whose directions can all be read are paired. -/
theorem exists_sortOrders_eq_ok (hlength : p.sortBy.length = p.sortDirection.length)
    (hnames : ∀ s ∈ p.sortDirection, ∃ d, Names s d) : ∃ orders, p.sortOrders = .ok orders := by
  cases horders : p.sortOrders with
  | ok orders => exact ⟨orders, rfl⟩
  | error e =>
    obtain ⟨hne, -⟩ | ⟨-, s, ⟨before, after, hsplit, -, hnone⟩, -⟩ :=
      sortOrders_eq_error_iff.mp horders
    · exact absurd hlength hne
    · obtain ⟨d, hd⟩ := hnames s (by simp [hsplit])
      exact absurd hd (hnone d)

/-! ## Runs -/

/-- A request after sort keys were added one after another, each a property and a direction. -/
def withSorts (p : Pageable) (keys : List (String × String)) : Pageable :=
  keys.foldl (fun p key => p.withSort key.1 key.2) p

/-- Each call adds to the end of the properties. -/
theorem sortBy_withSorts (p : Pageable) (keys : List (String × String)) :
    (p.withSorts keys).sortBy = p.sortBy ++ keys.map Prod.fst := by
  induction keys generalizing p with
  | nil => simp [withSorts]
  | cons key keys ih =>
    rw [withSorts, List.foldl_cons, ← withSorts, ih, withSort]
    simp

/-- Each call adds to the end of the directions. -/
theorem sortDirection_withSorts (p : Pageable) (keys : List (String × String)) :
    (p.withSorts keys).sortDirection = p.sortDirection ++ keys.map Prod.snd := by
  induction keys generalizing p with
  | nil => simp [withSorts]
  | cons key keys ih =>
    rw [withSorts, List.foldl_cons, ← withSorts, ih, withSort]
    simp

/-- What the orders of a run of added keys are: one for each key, in the order they were added. -/
theorem pairs_withSorts_new_iff {page size : UInt64} {keys : List (String × String)} :
    ((new page size).withSorts keys).Pairs orders ↔ orders.length = keys.length ∧
      ∀ (i : Nat) (o : SortOrder), orders[i]? = some o →
        ∃ s, keys[i]? = some (o.property, s) ∧ Names s o.direction := by
  have hby : ((new page size).withSorts keys).sortBy = keys.map Prod.fst :=
    sortBy_withSorts _ _
  have hdirection : ((new page size).withSorts keys).sortDirection = keys.map Prod.snd :=
    sortDirection_withSorts _ _
  constructor
  · intro h
    refine ⟨by rw [← h.length_sortBy, hby, List.length_map], fun i o ho => ?_⟩
    obtain ⟨hproperty, s, hs, hnames⟩ := h.getElem? i o ho
    rw [hby, List.getElem?_map, Option.map_eq_some_iff] at hproperty
    obtain ⟨⟨property, s'⟩, hkey, rfl⟩ := hproperty
    rw [hdirection, List.getElem?_map, hkey] at hs
    obtain rfl := Option.some.inj hs
    exact ⟨s', hkey, hnames⟩
  · rintro ⟨hlength, hkeys⟩
    refine ⟨by rw [hby, List.length_map, hlength], by rw [hdirection, List.length_map, hlength],
      fun i o ho => ?_⟩
    obtain ⟨s, hkey, hnames⟩ := hkeys i o ho
    rw [hby, hdirection, List.getElem?_map, List.getElem?_map, hkey]
    exact ⟨rfl, s, rfl, hnames⟩

/-- Keys that are added one after another never leave lists of different lengths. -/
theorem length_withSorts_new (page size : UInt64) (keys : List (String × String)) :
    ((new page size).withSorts keys).sortBy.length =
      ((new page size).withSorts keys).sortDirection.length := by
  rw [sortBy_withSorts, sortDirection_withSorts]
  simp [new]

end Pageable

/-! ## Aliases -/

namespace SortAliases

variable {aliases : SortAliases} {name property path : String}

/-- A name stands for a path if its last entry says so. -/
def Stands (aliases : SortAliases) (name path : String) : Prop :=
  ∃ before after, aliases = before ++ (name, path) :: after ∧ ∀ entry ∈ after, entry.1 ≠ name

theorem find?_eq_some_iff : aliases.find? name = some path ↔ aliases.Stands name path := by
  rw [find?, List.lookup_eq_some_iff]
  constructor
  · rintro ⟨after, before, hsplit, hafter⟩
    refine ⟨before.reverse, after.reverse, ?_, fun entry hentry hname => ?_⟩
    · rw [← List.reverse_reverse aliases, hsplit]
      simp
    · have hne := hafter entry (List.mem_reverse.mp hentry)
      simp [hname] at hne
  · rintro ⟨before, after, rfl, hafter⟩
    refine ⟨after.reverse, before.reverse, by simp, fun entry hentry => ?_⟩
    simpa using (hafter entry (List.mem_reverse.mp hentry)).symm

theorem path_of_isBlank (h : Text.isBlank property = true) : aliases.path property = property :=
  if_pos h

theorem path_of_stands (hblank : Text.isBlank property = false) (h : aliases.Stands property path) :
    aliases.path property = path := by
  rw [SortAliases.path, hblank, find?_eq_some_iff.mpr h]
  rfl

theorem path_of_not_stands (h : ∀ path, ¬ aliases.Stands property path) :
    aliases.path property = property := by
  have hnone : aliases.find? property = none :=
    Option.eq_none_iff_forall_ne_some.mpr fun path hpath => h path (find?_eq_some_iff.mp hpath)
  rw [SortAliases.path, hnone, Option.getD_none, ite_self]

theorem getElem?_normalize (aliases : SortAliases) (orders : List SortOrder) (i : Nat) :
    (aliases.normalize orders)[i]? =
      orders[i]?.map fun o => ⟨aliases.path o.property, o.direction⟩ := by
  rw [normalize, List.getElem?_map]

end SortAliases

/-- **Sort lists are paired in order, or refused for the first thing that is wrong with them.** Lists
of different lengths are refused with both lengths, whatever is in them; otherwise the first text that
names no direction is refused as it stands; otherwise there is one order for each index, with the
property and the direction that stand there. A run of added keys never makes lists of different
lengths, and its orders come as the keys were added. Aliases keep the number of orders, their places
and their directions; a property that is not blank and stands for a path is replaced by that path,
even if the path is a name that stands for another, and every other property is left alone. Two lists
may be put together before or after that. -/
theorem sortLists_paired :
    (∀ p : Pageable,
      (∀ e, p.sortOrders = .error e ↔
        p.sortBy.length ≠ p.sortDirection.length ∧
            e = .mismatchedSort p.sortBy.length p.sortDirection.length ∨
          p.sortBy.length = p.sortDirection.length ∧
            ∃ s, Direction.FirstNameless p.sortDirection s ∧ e = .invalidSortDirection s) ∧
      (∀ orders, p.sortOrders = .ok orders ↔ p.Pairs orders) ∧
      (p.sortBy.length = p.sortDirection.length →
        (∀ s ∈ p.sortDirection, ∃ d, Direction.Names s d) → ∃ orders, p.sortOrders = .ok orders)) ∧
    (∀ page size keys,
      let p := (Pageable.new page size).withSorts keys
      (∀ fields directions, p.sortOrders ≠ .error (.mismatchedSort fields directions)) ∧
      (∀ orders, p.sortOrders = .ok orders ↔ orders.length = keys.length ∧
        ∀ (i : Nat) (o : SortOrder), orders[i]? = some o →
          ∃ s, keys[i]? = some (o.property, s) ∧ Direction.Names s o.direction) ∧
      ((∀ key ∈ keys, ∃ d, Direction.Names key.2 d) → ∃ orders, p.sortOrders = .ok orders)) ∧
    ∀ (aliases : SortAliases) (orders orders' : List SortOrder),
      (aliases.normalize orders).length = orders.length ∧
      (∀ (i : Nat) (o : SortOrder), orders[i]? = some o →
        ∃ o', (aliases.normalize orders)[i]? = some o' ∧ o'.direction = o.direction ∧
          (∀ path, Text.isBlank o.property = false → aliases.Stands o.property path →
            o'.property = path) ∧
          (Text.isBlank o.property = true ∨ (∀ path, ¬ aliases.Stands o.property path) →
            o'.property = o.property)) ∧
      aliases.normalize (orders ++ orders') =
        aliases.normalize orders ++ aliases.normalize orders' := by
  refine ⟨fun p => ⟨fun e => Pageable.sortOrders_eq_error_iff,
      fun orders => Pageable.sortOrders_eq_ok_iff_pairs, Pageable.exists_sortOrders_eq_ok⟩,
    fun page size keys => ?_, fun aliases orders orders' => ?_⟩
  · have hlength := Pageable.length_withSorts_new page size keys
    refine ⟨fun fields directions h => ?_,
      fun orders => Pageable.sortOrders_eq_ok_iff_pairs.trans Pageable.pairs_withSorts_new_iff,
      fun hnames => Pageable.exists_sortOrders_eq_ok hlength fun s hs => ?_⟩
    · obtain ⟨hne, -⟩ | ⟨-, s, -, he⟩ := Pageable.sortOrders_eq_error_iff.mp h
      · exact hne hlength
      · cases he
    · rw [Pageable.sortDirection_withSorts] at hs
      obtain ⟨key, hkey, rfl⟩ := List.mem_map.mp hs
      exact hnames key hkey
  · refine ⟨aliases.length_normalize orders, fun i o ho => ?_, aliases.normalize_append orders orders'⟩
    refine ⟨⟨aliases.path o.property, o.direction⟩, ?_, rfl,
      fun path => SortAliases.path_of_stands, fun h => h.elim SortAliases.path_of_isBlank
        SortAliases.path_of_not_stands⟩
    rw [SortAliases.getElem?_normalize, ho, Option.map_some]

/-- Three directions for two properties are refused for their number, though one of them is no
direction; two of them are refused for that one. Two keys added one after another make two orders,
and the city of the second is sorted as a town, which is not followed to an address. -/
theorem sortLists_paired_cities :
    let longer : Pageable := ⟨0, 3, ["name", "city"], ["asc", " sideways", ""]⟩
    let named : Pageable := ⟨0, 3, ["name", "city"], ["asc", " sideways"]⟩
    let run := (Pageable.new 0 3).withSorts [("name", " ASC "), ("city", "Desc")]
    let aliases : SortAliases := [("town", "address.town"), ("city", "town")]
    longer.sortOrders = .error (.mismatchedSort 2 3) ∧
      named.sortOrders = .error (.invalidSortDirection " sideways") ∧
      run.sortOrders = .ok [⟨"name", .asc⟩, ⟨"city", .desc⟩] ∧
      (aliases.normalize [⟨"name", .asc⟩, ⟨"city", .desc⟩])[1]? = some ⟨"town", .desc⟩ := by
  intro longer named run aliases
  obtain ⟨hlists, hruns, haliases⟩ := sortLists_paired
  refine ⟨?_, ?_, ?_, ?_⟩
  · exact ((hlists longer).1 _).mpr (.inl ⟨by decide, rfl⟩)
  · refine ((hlists named).1 _).mpr (.inr ⟨rfl, _, ⟨["asc"], [], rfl, ?_, ?_⟩, rfl⟩)
    · exact List.forall_mem_singleton.mpr ⟨.asc, by decide⟩
    · intro d
      cases d <;> decide
  · refine ((hruns 0 3 _).2.1 _).mpr ⟨rfl, fun i o ho => ?_⟩
    match i with
    | 0 =>
      cases ho
      exact ⟨_, rfl, by decide⟩
    | 1 =>
      cases ho
      exact ⟨_, rfl, by decide⟩
    | i + 2 => cases ho
  · obtain ⟨-, hnormalize, -⟩ := haliases aliases [⟨"name", .asc⟩, ⟨"city", .desc⟩] []
    obtain ⟨⟨_, _⟩, hcity, rfl, hmapped, -⟩ := hnormalize 1 _ rfl
    obtain rfl := hmapped "town" rfl ⟨[("town", "address.town")], [], rfl, by simp⟩
    exact hcity

end EntitySearch
