import EntitySearch.Proofs.Error
import EntitySearch.Schema.Entity

/-!
# Names that entities declare

* `Entity.Declares`: the names that are attributes of the entity, and the dotted paths that are
  joined attributes of it.
* `Entity.FirstUndeclared`: the first name of a list that is neither.
* `Entity.exists_resolve_eq_ok_iff`, `Entity.resolve_eq_error_iff`: those are resolved, and no
  others.
* `Entity.path_of_resolve`: an attribute has the path that was asked for.
* `Entity.resolve_of_first`: the first attribute of a name counts, whatever is joined.
* `Entity.resolve_append`: attributes that are declared later leave a name alone.
-/

namespace EntitySearch.Entity

/-- A name of an attribute of the entity itself, or a dotted path of a joined one. -/
def Declares (e : Entity) (path : String) : Prop :=
  path ∈ e.attributes.map (·.1) ∨ '.' ∈ path.toList ∧ path ∈ e.joined.map (·.fullPath)

/-- The first of several names and paths that is not declared. -/
def FirstUndeclared (e : Entity) (paths : List String) (path : String) : Prop :=
  ∃ before after, paths = before ++ path :: after ∧ (∀ p ∈ before, e.Declares p) ∧ ¬ e.Declares path

/-- The entity with attributes behind those that it has. -/
def append (e : Entity) (attributes : List (String × Column)) (joined : List JoinedColumn) :
    Entity :=
  { e with attributes := e.attributes ++ attributes, joined := e.joined ++ joined }

variable {e : Entity} {path : String} {paths : List String} {a : Attribute} {c : Column}
  {error : SearchError}

theorem firstUndeclared_singleton {name : String} :
    e.FirstUndeclared [name] path ↔ path = name ∧ ¬ e.Declares name := by
  constructor
  · rintro ⟨before, after, h, -, hpath⟩
    obtain ⟨-, h⟩ | ⟨-, h⟩ := List.singleton_eq_append_iff.mp h
    · obtain ⟨rfl, -⟩ := List.cons.inj h
      exact ⟨rfl, hpath⟩
    · cases h
  · rintro ⟨rfl, hpath⟩
    exact ⟨[], [], rfl, by simp, hpath⟩

theorem not_firstUndeclared (h : ∀ p ∈ paths, e.Declares p) : ¬ e.FirstUndeclared paths path := by
  rintro ⟨before, after, rfl, -, hpath⟩
  exact hpath (h path (by simp))

theorem isSome_ownAttribute? :
    (e.ownAttribute? path).isSome ↔ path ∈ e.attributes.map (·.1) := by
  simp only [ownAttribute?, Option.isSome_map, List.find?_isSome, List.mem_map, beq_iff_eq]

theorem isSome_joinedAttribute? :
    (e.joinedAttribute? path).isSome ↔ '.' ∈ path.toList ∧ path ∈ e.joined.map (·.fullPath) := by
  unfold joinedAttribute?
  split
  · next hdot =>
    rw [List.contains_iff_mem] at hdot
    simp only [hdot, Option.isSome_map, List.find?_isSome, List.mem_map, beq_iff_eq, true_and]
  · next hdot =>
    rw [List.contains_iff_mem] at hdot
    simp [hdot]

theorem resolve_eq_ok_iff :
    e.resolve path = .ok a ↔ (e.ownAttribute? path).or (e.joinedAttribute? path) = some a := by
  unfold resolve
  split
  · next b hb => simp [hb]
  · next hnone => simp [hnone]

/-- A name or path is resolved if it is declared. -/
theorem exists_resolve_eq_ok_iff : (∃ a, e.resolve path = .ok a) ↔ e.Declares path := by
  simp only [resolve_eq_ok_iff, ← Option.isSome_iff_exists, Option.isSome_or, Bool.or_eq_true,
    isSome_ownAttribute?, isSome_joinedAttribute?, Declares]

/-- Only an attribute that is not declared cannot be resolved. -/
theorem resolve_eq_error (h : e.resolve path = .error error) : error = .unknownAttribute path := by
  unfold resolve at h
  split at h
  · cases h
  · exact (Except.error.inj h).symm

theorem resolve_eq_error_iff :
    e.resolve path = .error error ↔ ¬ e.Declares path ∧ error = .unknownAttribute path := by
  rw [← exists_resolve_eq_ok_iff]
  cases h : e.resolve path with
  | ok a => simp
  | error error' => simp [resolve_eq_error h, eq_comm]

/-- An attribute has the path that was asked for. -/
theorem path_of_resolve (h : e.resolve path = .ok a) : a.path = path := by
  rcases Option.or_eq_some_iff.mp (resolve_eq_ok_iff.mp h) with hown | ⟨-, hjoined⟩
  · obtain ⟨⟨name, c⟩, hfind, rfl⟩ := Option.map_eq_some_iff.mp hown
    simpa using List.find?_some hfind
  · unfold joinedAttribute? at hjoined
    split at hjoined
    · obtain ⟨j, hfind, rfl⟩ := Option.map_eq_some_iff.mp hjoined
      simpa using List.find?_some hfind
    · cases hjoined

/-- The first attribute of a name counts, whatever other attributes there are or are joined. -/
theorem resolve_of_first {before after : List (String × Column)}
    (h : e.attributes = before ++ (path, c) :: after) (hbefore : ∀ x ∈ before, x.1 ≠ path) :
    e.resolve path = .ok ⟨path, e.columnRef c, c.type.kind⟩ := by
  have hfind : e.attributes.find? (·.1 == path) = some (path, c) :=
    List.find?_eq_some_iff_append.mpr ⟨by simp, before, after, h, by simpa using hbefore⟩
  have hown : e.ownAttribute? path = some ⟨path, e.columnRef c, c.type.kind⟩ := by
    rw [ownAttribute?, hfind]
    rfl
  rw [resolve_eq_ok_iff, hown, Option.some_or]

/-- What is declared behind the attributes of an entity leaves their names alone. -/
theorem resolve_append (h : path ∈ e.attributes.map (·.1)) (attributes : List (String × Column))
    (joined : List JoinedColumn) : (e.append attributes joined).resolve path = e.resolve path := by
  obtain ⟨x, hx⟩ := Option.isSome_iff_exists.mp (isSome_ownAttribute?.mpr h)
  have happend : (e.append attributes joined).ownAttribute? path = some x := by
    obtain ⟨found, hfind, rfl⟩ := Option.map_eq_some_iff.mp hx
    have hfind' : (e.attributes ++ attributes).find? (·.1 == path) = some found := by
      rw [List.find?_append, hfind, Option.some_or]
    show ((e.attributes ++ attributes).find? (·.1 == path)).map _ = _
    rw [hfind']
    rfl
  unfold resolve
  rw [hx, happend, Option.some_or, Option.some_or]

end EntitySearch.Entity
