import EntitySearch.Paging.Window
import Mathlib.Data.List.Nodup

/-!
# Restoring an order

Items that were fetched in whatever order are put into the order of a list of identifiers. This is a
stable sort by the last position of an item's identifier, with all items that have no position at the
end (`restoreOrder_ranks`).

* `isLastPosition_iff`: the place of an identifier is the last position at which it stands.
* `filter_restoreOrder`: items of one place stay as they were.
* `filter_append_filter_restoreOrder`: items that have a position come before those that have none.
* `restoreOrder_eq_of_perm`, `map_restoreOrder`: if the identifiers tell the items apart, the order in
  which they come does not matter.
-/

namespace EntitySearch

variable {ι α : Type}

/-! ## Last positions -/

/-- `n` is the last position of an identifier. -/
def IsLastPosition (ids : List ι) (id : ι) (n : Nat) : Prop :=
  ids[n]? = some id ∧ ∀ m, n < m → ids[m]? ≠ some id

variable {ids : List ι} {id : ι} {m n : Nat}

theorem IsLastPosition.lt_length (h : IsLastPosition ids id n) : n < ids.length :=
  (List.getElem?_eq_some_iff.mp h.1).1

theorem IsLastPosition.mem (h : IsLastPosition ids id n) : id ∈ ids :=
  List.mem_of_getElem? h.1

theorem IsLastPosition.eq (hm : IsLastPosition ids id m) (hn : IsLastPosition ids id n) : m = n := by
  rcases Nat.lt_trichotomy m n with h | h | h
  · exact absurd hn.1 (hm.2 n h)
  · exact h
  · exact absurd hm.1 (hn.2 m h)

variable [DecidableEq ι]

theorem lastPosition?_eq_none_iff : lastPosition? id ids = none ↔ id ∉ ids := by
  induction ids with
  | nil => simp [lastPosition?]
  | cons a r ih =>
    rw [lastPosition?, List.mem_cons, not_or, ← ih, eq_comm (a := id)]
    cases lastPosition? id r <;> simp

theorem isLastPosition_of_lastPosition? (h : lastPosition? id ids = some n) :
    IsLastPosition ids id n := by
  induction ids generalizing n with
  | nil => cases h
  | cons a r ih =>
    rw [lastPosition?] at h
    cases hr : lastPosition? id r with
    | some k =>
      simp only [hr, Option.some.injEq] at h
      subst h
      refine ⟨(ih hr).1, fun m hm => ?_⟩
      cases m with
      | zero => omega
      | succ m => exact (ih hr).2 m (Nat.lt_of_succ_lt_succ hm)
    | none =>
      -- Only the first position is left.
      have hmem := lastPosition?_eq_none_iff.mp hr
      simp only [hr, Option.ite_none_right_eq_some, Option.some.injEq] at h
      obtain ⟨rfl, rfl⟩ := h
      refine ⟨rfl, fun m hm => ?_⟩
      cases m with
      | zero => omega
      | succ m => exact fun hget => hmem (List.mem_of_getElem? hget)

theorem isLastPosition_iff : IsLastPosition ids id n ↔ lastPosition? id ids = some n := by
  constructor
  · intro h
    cases hlast : lastPosition? id ids with
    | none => exact absurd h.mem (lastPosition?_eq_none_iff.mp hlast)
    | some k => rw [(isLastPosition_of_lastPosition? hlast).eq h]
  · exact isLastPosition_of_lastPosition?

theorem exists_isLastPosition (h : id ∈ ids) : ∃ n, IsLastPosition ids id n := by
  cases hlast : lastPosition? id ids with
  | none => exact absurd h (lastPosition?_eq_none_iff.mp hlast)
  | some n => exact ⟨n, isLastPosition_of_lastPosition? hlast⟩

/-! ## Places -/

theorem placeOf_eq (h : IsLastPosition ids id n) : placeOf ids (some id) = n := by
  simp [placeOf, isLastPosition_iff.mp h]

/-- Items without a position share the place behind all others. -/
theorem placeOf_eq_length {x : Option ι} (h : x ∉ ids.map some) : placeOf ids x = ids.length := by
  cases x with
  | none => rfl
  | some id =>
    have hmem : id ∉ ids := fun hid => h (List.mem_map_of_mem hid)
    simp [placeOf, lastPosition?_eq_none_iff.mpr hmem]

theorem placeOf_lt_length_iff {x : Option ι} : placeOf ids x < ids.length ↔ x ∈ ids.map some := by
  constructor
  · intro h
    by_contra hx
    rw [placeOf_eq_length hx] at h
    exact Nat.lt_irrefl _ h
  · intro h
    obtain ⟨id, hid, rfl⟩ := List.mem_map.mp h
    obtain ⟨n, hn⟩ := exists_isLastPosition hid
    rw [placeOf_eq hn]
    exact hn.lt_length

/-- Different identifiers of a list have different places. -/
theorem eq_of_placeOf_eq {x y : Option ι} (hx : x ∈ ids.map some) (hy : y ∈ ids.map some)
    (h : placeOf ids x = placeOf ids y) : x = y := by
  obtain ⟨a, ha, rfl⟩ := List.mem_map.mp hx
  obtain ⟨b, hb, rfl⟩ := List.mem_map.mp hy
  obtain ⟨m, hm⟩ := exists_isLastPosition ha
  obtain ⟨n, hn⟩ := exists_isLastPosition hb
  rw [placeOf_eq hm, placeOf_eq hn] at h
  rw [← hm.1, ← hn.1, h]

/-- Without repetitions the last position of an identifier is its only one. -/
theorem placeOf_getElem (hd : ids.Nodup) {i : Nat} (hi : i < ids.length) :
    placeOf ids (some ids[i]) = i := by
  refine placeOf_eq ⟨List.getElem?_eq_getElem hi, fun m hm hget => ?_⟩
  obtain ⟨hlt, heq⟩ := List.getElem?_eq_some_iff.mp hget
  have := (List.getElem_inj hd).mp heq
  omega

theorem pairwise_placeOf (hd : ids.Nodup) :
    (ids.map some).Pairwise fun x y => placeOf ids x ≤ placeOf ids y := by
  rw [List.pairwise_map]
  apply List.pairwise_iff_getElem.mpr
  intro i j hi hj hij
  rw [placeOf_getElem hd hi, placeOf_getElem hd hj]
  exact Nat.le_of_lt hij

/-! ## The sort -/

theorem filter_append_filter_not {p : α → Bool} {l : List α}
    (h : l.Pairwise fun a b => p b = true → p a = true) : l.filter p ++ l.filter (!p ·) = l := by
  induction l with
  | nil => rfl
  | cons a r ih =>
    rw [List.pairwise_cons] at h
    by_cases ha : p a = true
    · simp [ha, ih h.2]
    · have hnot : ∀ b ∈ r, ¬ p b = true := fun b hb hpb => ha (h.1 b hb hpb)
      rw [List.filter_eq_nil_iff.mpr (by simpa [ha] using hnot), List.nil_append,
        List.filter_eq_self.mpr (by simpa [ha] using hnot)]

variable {items items' : List α} {idOf : α → Option ι}

private theorem placeLe_trans (a b c : α)
    (hab : decide (placeOf ids (idOf a) ≤ placeOf ids (idOf b)) = true)
    (hbc : decide (placeOf ids (idOf b) ≤ placeOf ids (idOf c)) = true) :
    decide (placeOf ids (idOf a) ≤ placeOf ids (idOf c)) = true :=
  decide_eq_true (Nat.le_trans (of_decide_eq_true hab) (of_decide_eq_true hbc))

private theorem placeLe_total (a b : α) :
    (decide (placeOf ids (idOf a) ≤ placeOf ids (idOf b)) ||
      decide (placeOf ids (idOf b) ≤ placeOf ids (idOf a))) = true := by
  simpa using Nat.le_total (placeOf ids (idOf a)) (placeOf ids (idOf b))

theorem pairwise_restoreOrder (items : List α) (ids : List ι) (idOf : α → Option ι) :
    (restoreOrder items ids idOf).Pairwise fun a b =>
      placeOf ids (idOf a) ≤ placeOf ids (idOf b) :=
  (List.pairwise_mergeSort placeLe_trans placeLe_total items).imp fun hle => of_decide_eq_true hle

/-- Items that all have one place stay as they were. -/
theorem filter_restoreOrder {p : α → Bool}
    (h : ∀ a b, p a = true → p b = true → placeOf ids (idOf a) = placeOf ids (idOf b)) :
    (restoreOrder items ids idOf).filter p = items.filter p := by
  have htied : (items.filter p).Pairwise fun a b =>
      decide (placeOf ids (idOf a) ≤ placeOf ids (idOf b)) = true := by
    apply List.pairwise_of_forall_mem_list
    intro a ha b hb
    exact decide_eq_true (Nat.le_of_eq (h a b (List.of_mem_filter ha) (List.of_mem_filter hb)))
  have hsublist : (items.filter p).Sublist (restoreOrder items ids idOf) :=
    List.sublist_mergeSort placeLe_trans placeLe_total htied List.filter_sublist
  have hkept := hsublist.filter p
  rw [List.filter_filter, funext fun a => Bool.and_self (p a)] at hkept
  exact (hkept.eq_of_length ((perm_restoreOrder items ids idOf).filter p).length_eq.symm).symm

/-- Items that have a position come first. -/
theorem filter_append_filter_restoreOrder :
    (restoreOrder items ids idOf).filter (idOf · ∈ ids.map some) ++
      items.filter (idOf · ∉ ids.map some) = restoreOrder items ids idOf := by
  have hrest : (restoreOrder items ids idOf).filter (idOf · ∉ ids.map some) =
      items.filter (idOf · ∉ ids.map some) := by
    apply filter_restoreOrder
    intro a b ha hb
    rw [placeOf_eq_length (of_decide_eq_true ha), placeOf_eq_length (of_decide_eq_true hb)]
  rw [← hrest]
  simp only [decide_not]
  apply filter_append_filter_not
  refine (pairwise_restoreOrder items ids idOf).imp fun {a b} hle hb => ?_
  simp only [decide_eq_true_eq, ← placeOf_lt_length_iff] at hb ⊢
  exact Nat.lt_of_le_of_lt hle hb

/-- If their identifiers tell the items apart and all have a position, the order in which the items
come does not matter. -/
theorem restoreOrder_eq_of_perm (hperm : items'.Perm items)
    (hplaced : ∀ a ∈ items, idOf a ∈ ids.map some) (hd : (items.map idOf).Nodup) :
    restoreOrder items' ids idOf = restoreOrder items ids idOf := by
  have hmem : ∀ {a}, a ∈ restoreOrder items ids idOf → a ∈ items :=
    (perm_restoreOrder items ids idOf).mem_iff.mp
  have hperm' : (restoreOrder items' ids idOf).Perm (restoreOrder items ids idOf) :=
    (perm_restoreOrder items' ids idOf).trans
      (hperm.trans (perm_restoreOrder items ids idOf).symm)
  refine List.Perm.eq_of_pairwise ?_ (pairwise_restoreOrder items' ids idOf)
    (pairwise_restoreOrder items ids idOf) hperm'
  intro a b ha hb hab hba
  have ha := hmem (hperm'.mem_iff.mp ha)
  have hb := hmem hb
  exact List.inj_on_of_nodup_map hd ha hb
    (eq_of_placeOf_eq (hplaced a ha) (hplaced b hb) (Nat.le_antisymm hab hba))

/-- Items whose identifiers are those of a list without repetitions end up in its order, in
whatever order they come. -/
theorem map_restoreOrder (hd : ids.Nodup) (h : (items.map idOf).Perm (ids.map some)) :
    (restoreOrder items ids idOf).map idOf = ids.map some := by
  have hp : ((restoreOrder items ids idOf).map idOf).Perm (ids.map some) :=
    ((perm_restoreOrder items ids idOf).map idOf).trans h
  refine List.Perm.eq_of_pairwise ?_ ?_ (pairwise_placeOf hd) hp
  · intro x y hx hy hxy hyx
    exact eq_of_placeOf_eq (hp.mem_iff.mp hx) hy (Nat.le_antisymm hxy hyx)
  · rw [List.pairwise_map]
    exact pairwise_restoreOrder items ids idOf

/-- **Restoring an order is a stable sort by rank.** The items stay the same. Those whose identifier
can be read and is listed come first, by its last position in the list, and all others follow as they
were; the items of any one identifier stay as they were, too. So to restore the order again changes
nothing, and if different items have different identifiers, all of them listed, then it does not
matter in which order they come. -/
theorem restoreOrder_ranks (items : List α) (ids : List ι) (idOf : α → Option ι) :
    (restoreOrder items ids idOf).Perm items ∧
    (∃ placed : List α,
      restoreOrder items ids idOf = placed ++ items.filter (idOf · ∉ ids.map some) ∧
      placed.Perm (items.filter (idOf · ∈ ids.map some)) ∧
      placed.Pairwise fun a b => ∃ i j m n, idOf a = some i ∧ idOf b = some j ∧
        IsLastPosition ids i m ∧ IsLastPosition ids j n ∧ m ≤ n) ∧
    (∀ id, (restoreOrder items ids idOf).filter (idOf · = some id) =
      items.filter (idOf · = some id)) ∧
    restoreOrder (restoreOrder items ids idOf) ids idOf = restoreOrder items ids idOf ∧
    ∀ items' : List α, items'.Perm items → (∀ a ∈ items, idOf a ∈ ids.map some) →
      (items.map idOf).Nodup → restoreOrder items' ids idOf = restoreOrder items ids idOf := by
  have hperm := perm_restoreOrder items ids idOf
  refine ⟨hperm, ⟨(restoreOrder items ids idOf).filter (idOf · ∈ ids.map some),
    filter_append_filter_restoreOrder.symm, hperm.filter _, ?_⟩, fun id => ?_, ?_,
    fun items' => restoreOrder_eq_of_perm⟩
  · refine ((pairwise_restoreOrder items ids idOf).filter _).imp_of_mem fun {a b} ha hb hle => ?_
    have ha : idOf a ∈ ids.map some := of_decide_eq_true (List.mem_filter.mp ha).2
    have hb : idOf b ∈ ids.map some := of_decide_eq_true (List.mem_filter.mp hb).2
    obtain ⟨i, hi, hai⟩ := List.mem_map.mp ha
    obtain ⟨j, hj, hbj⟩ := List.mem_map.mp hb
    obtain ⟨m, hm⟩ := exists_isLastPosition hi
    obtain ⟨n, hn⟩ := exists_isLastPosition hj
    rw [← hai, ← hbj, placeOf_eq hm, placeOf_eq hn] at hle
    exact ⟨i, j, m, n, hai.symm, hbj.symm, hm, hn, hle⟩
  · apply filter_restoreOrder
    intro a b ha hb
    rw [of_decide_eq_true ha, of_decide_eq_true hb]
  · exact List.mergeSort_of_pairwise
      ((pairwise_restoreOrder items ids idOf).imp fun hle => decide_eq_true hle)

/-- Of a list that names `1` twice the second time counts. Items of one identifier stay as they were,
and so do those that have no identifier or an unknown one. -/
theorem restoreOrder_ranks_repeated :
    let items : List (Option Nat × Char) :=
      [(some 1, 'a'), (none, 'x'), (some 2, 'b'), (some 1, 'c'), (some 9, 'y')]
    let pair : List (Option Nat × Char) := [(some 1, 'a'), (some 2, 'b')]
    (restoreOrder items [1, 2, 1] Prod.fst).filter (·.1 = some 1) =
        [(some 1, 'a'), (some 1, 'c')] ∧
      [(none, 'x'), (some 9, 'y')] <:+ restoreOrder items [1, 2, 1] Prod.fst ∧
      (∀ a ∈ pair, a.1 ∈ [1, 2, 1].map some) ∧ (pair.map Prod.fst).Nodup ∧
      restoreOrder pair.reverse [1, 2, 1] Prod.fst = restoreOrder pair [1, 2, 1] Prod.fst := by
  intro items pair
  have hplaced : ∀ a ∈ pair, a.1 ∈ [1, 2, 1].map some := by decide
  have hd : (pair.map Prod.fst).Nodup := by decide
  obtain ⟨-, ⟨placed, hlast, -, -⟩, hstable, -, -⟩ := restoreOrder_ranks items [1, 2, 1] Prod.fst
  obtain ⟨-, -, -, -, hperm⟩ := restoreOrder_ranks pair [1, 2, 1] Prod.fst
  exact ⟨hstable 1, ⟨placed, hlast.symm⟩, hplaced, hd,
    hperm pair.reverse pair.reverse_perm hplaced hd⟩

end EntitySearch
