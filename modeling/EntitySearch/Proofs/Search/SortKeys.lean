import EntitySearch.Proofs.Paging.SortLists
import EntitySearch.Proofs.Schema.Resolution
import EntitySearch.Sample.Customer
import EntitySearch.Search.Pages

/-!
# Sort keys of both searches

The flat search reads the whole order of a request and refuses what it cannot read; the search for
parents reads the first key alone and takes what it finds. For an order of one key that both can read
they come to the same key, or to the same error (`Resource.sortKeys_agree`).

* `Pageable.exists_of_sortOrders_single`: what an order of one key says.
* `Resource.flatOrder_of_single`, `Resource.childrenSort_of_single`: the key that either search makes
  of an order of one key.
* `Resource.childrenSort_congr`, `Resource.exists_of_childrenSort_eq_error`: what the key of the
  parents depends on, and what can be wrong with it.
-/

namespace EntitySearch

/-- A direction is not blank. -/
theorem Direction.isBlank_of_read {s : String} {d : Direction} (h : Direction.read s = .ok d) :
    Text.isBlank s = false := by
  cases hblank : Text.isBlank s with
  | false => rfl
  | true =>
    rw [Text.isBlank_iff, ← Text.trimChars_eq_nil_iff] at hblank
    rw [Direction.read, hblank] at h
    cases h

namespace Pageable

variable {p : Pageable} {o : SortOrder}

/-- What an order of one key says. -/
theorem exists_of_sortOrders_single (h : p.sortOrders = .ok [o]) :
    ∃ d, p.sortBy = [o.property] ∧ p.sortDirection = [d] ∧ Direction.read d = .ok o.direction := by
  obtain ⟨hby, hdirection⟩ := sortOrders_eq_ok_iff.mp h
  obtain ⟨d, hd, hread⟩ := List.map_eq_singleton_iff.mp hdirection
  exact ⟨d, hby, hd, hread⟩

end Pageable

namespace Resource

variable {ι α : Type}

/-- The resource sorts by the attributes of its entity, as it does unless it says otherwise. -/
def SortsByAttributes (r : Resource ι α) : Prop :=
  ∀ path, r.sortOperand path = (r.entity.resolve path).map Attribute.operand

variable {r : Resource ι α} {p p' : Pageable} {o : SortOrder}

/-! ## Orders of one key -/

theorem flatOrder_of_single (h : p.sortOrders = .ok [o]) :
    r.flatOrder p = (r.sortOperand (r.aliases.path o.property)).map fun x =>
      [⟨x, o.direction⟩, ⟨.column r.idRef, o.direction⟩] := by
  rw [flatOrder, h]
  simp only [bind, Except.bind, SortAliases.normalize, List.map_cons, List.map_nil,
    List.mapM_cons, List.mapM_nil]
  cases r.sortOperand (r.aliases.path o.property) <;> rfl

theorem childrenSort_of_single (h : p.sortOrders = .ok [o]) (hblank : Text.isBlank o.property = false)
    (htrim : Text.trim o.property = o.property) :
    r.childrenSort p = (r.sortOperand (r.aliases.path o.property)).map fun x =>
      ⟨x, o.direction⟩ := by
  obtain ⟨d, hby, hdirection, hread⟩ := Pageable.exists_of_sortOrders_single h
  simp [childrenSort, hby, hdirection, hblank, htrim, Direction.isBlank_of_read hread,
    Direction.readLeniently_of_read hread]

/-! ## The key of the parents -/

/-- The key of the parents depends on the first property and the first direction only. -/
theorem childrenSort_congr (hby : p.sortBy.head? = p'.sortBy.head?)
    (hdirection : p.sortDirection.head? = p'.sortDirection.head?) :
    r.childrenSort p = r.childrenSort p' := by
  unfold childrenSort
  rw [hby, hdirection]

/-- Nothing is wrong with the key of the parents but what is wrong with its path. -/
theorem exists_of_childrenSort_eq_error {e : SearchError} (h : r.childrenSort p = .error e) :
    ∃ path, r.sortOperand path = .error e := by
  unfold childrenSort at h
  dsimp only at h
  split at h
  · cases h
  · exact ⟨_, map_eq_error_iff.mp h⟩

/-- **Both searches sort alike.** For an order of one key that the flat search can read, with a
property that is neither blank nor padded, both searches sort by the attribute that the property
stands for, in the direction that the order gives, and the flat search breaks ties by the identifier;
if there is no such attribute, both say so. Whatever a request says about its order, the search for
parents never refuses it for the number of its directions or the words they are written in, and it
looks at nothing but the first property and the first direction. -/
theorem sortKeys_agree (r : Resource ι α) :
    (r.SortsByAttributes → ∀ p o, p.sortOrders = .ok [o] → Text.isBlank o.property = false →
      Text.trim o.property = o.property →
      let path := r.aliases.path o.property
      (r.entity.resolve path = .error (.unknownAttribute path) ∧
        r.flatOrder p = .error (.unknownAttribute path) ∧
        r.childrenSort p = .error (.unknownAttribute path)) ∨
      ∃ a, r.entity.resolve path = .ok a ∧
        r.flatOrder p = .ok [⟨a.operand, o.direction⟩, ⟨.column r.idRef, o.direction⟩] ∧
        r.childrenSort p = .ok ⟨a.operand, o.direction⟩) ∧
    (∀ p e, r.childrenSort p = .error e → (∃ path, r.sortOperand path = .error e) ∧
      (r.SortsByAttributes → ∃ path, e = .unknownAttribute path)) ∧
    ∀ p p', p.sortBy.head? = p'.sortBy.head? → p.sortDirection.head? = p'.sortDirection.head? →
      r.childrenSort p = r.childrenSort p' := by
  refine ⟨fun hsort p o horder hblank htrim => ?_, fun p e h => ?_, fun p p' => childrenSort_congr⟩
  · rw [flatOrder_of_single horder, childrenSort_of_single horder hblank htrim, hsort]
    cases ha : r.entity.resolve (r.aliases.path o.property) with
    | error e =>
      obtain rfl := Entity.resolve_eq_error ha
      exact .inl ⟨ha, rfl, rfl⟩
    | ok a => exact .inr ⟨a, ha, rfl, rfl⟩
  · obtain ⟨path, hpath⟩ := exists_of_childrenSort_eq_error h
    refine ⟨⟨path, hpath⟩, fun hsort => ⟨path, ?_⟩⟩
    rw [hsort, map_eq_error_iff] at hpath
    exact Entity.resolve_eq_error hpath

open Sample in
/-- Owners may be sorted by the year of a vehicle under a name of its own, in a direction with blanks
around it. With a second property and no word for a direction behind it, the flat search refuses the
order, and the search for parents still makes the same key of it. -/
theorem sortKeys_agree_owners :
    let aliased := { owners with aliases := [("vehicleYear", "vehicles.year")] }
    let order : Pageable := ⟨0, 3, ["vehicleYear"], [" DESC "]⟩
    let longer : Pageable := ⟨0, 3, ["vehicleYear", "name"], [" DESC ", "sideways", ""]⟩
    aliased.SortsByAttributes ∧ order.sortOrders = .ok [⟨"vehicleYear", .desc⟩] ∧
      Text.isBlank "vehicleYear" = false ∧ Text.trim "vehicleYear" = "vehicleYear" ∧
      aliased.flatOrder order =
        .ok [⟨.column ⟨"vehicles", "year"⟩, .desc⟩, ⟨.column ⟨"customers", "id"⟩, .desc⟩] ∧
      aliased.childrenSort order = .ok ⟨.column ⟨"vehicles", "year"⟩, .desc⟩ ∧
      aliased.flatOrder longer = .error (.mismatchedSort 2 3) ∧
      aliased.childrenSort longer = .ok ⟨.column ⟨"vehicles", "year"⟩, .desc⟩ := by
  intro aliased order longer
  have hsort : aliased.SortsByAttributes := fun _ => rfl
  have horder : order.sortOrders = .ok [⟨"vehicleYear", .desc⟩] := rfl
  have htrim : Text.trim "vehicleYear" = "vehicleYear" := rfl
  have hpath : aliased.aliases.path "vehicleYear" = "vehicles.year" := rfl
  have hyear : aliased.entity.resolve (aliased.aliases.path "vehicleYear") =
      .ok ⟨"vehicles.year", ⟨"vehicles", "year"⟩, .int⟩ := by
    rw [hpath]
    rfl
  obtain ⟨hagree, -, hfirst⟩ := sortKeys_agree aliased
  rcases hagree hsort order _ horder rfl htrim with ⟨hunknown, -⟩ | ⟨a, ha, hflat, hparents⟩
  · cases hyear.symm.trans hunknown
  · obtain rfl := Except.ok.inj (hyear.symm.trans ha)
    exact ⟨hsort, horder, rfl, htrim, hflat, hparents, rfl,
      (hfirst longer order rfl rfl).trans hparents⟩

end Resource

end EntitySearch
