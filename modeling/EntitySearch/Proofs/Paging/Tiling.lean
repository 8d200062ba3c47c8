import EntitySearch.Proofs.Paging.Window
import Mathlib.Data.Finset.Card
import Mathlib.Data.Nat.Find

/-!
# Windows of distinct identifiers, side by side

What a window of the distinct elements of a list holds, element by element, and how windows that
begin where others end make up larger ones (`distinctWindow_tiles`).

* `unseen`: what one pass over a list keeps that remembers the elements it has seen. Its memory is
  the elements of the part behind it (`unseen_append`), so it has kept as many as are in there
  (`length_unseen`); and what it keeps from the start are the distinct elements
  (`distinct_eq_unseen`).
* `getElem?_distinct_iff`: the `k`-th distinct element stands first where `k` different ones have
  come before.
-/

namespace EntitySearch

variable {ι : Type} {l : List ι} {id : ι} {n : Nat}

/-- `n` is the first position of an identifier. -/
def IsFirstPosition (ids : List ι) (id : ι) (n : Nat) : Prop :=
  ids[n]? = some id ∧ ∀ m < n, ids[m]? ≠ some id

theorem IsFirstPosition.not_mem_take (h : IsFirstPosition l id n) : id ∉ l.take n := by
  intro hmem
  obtain ⟨m, hm⟩ := List.mem_iff_getElem?.mp hmem
  rw [List.getElem?_take] at hm
  split at hm
  · next hlt => exact h.2 m hlt hm
  · cases hm

/-- A list in the parts before, at and behind a position. -/
theorem IsFirstPosition.eq_append (h : IsFirstPosition l id n) :
    l = l.take n ++ id :: l.drop (n + 1) := by
  obtain ⟨hlt, hid⟩ := List.getElem?_eq_some_iff.mp h.1
  rw [← hid, ← List.drop_eq_getElem_cons, List.take_append_drop]

variable [DecidableEq ι] {seen : Finset ι}

theorem exists_isFirstPosition (h : id ∈ l) : ∃ n, IsFirstPosition l id n := by
  have hsome : ∃ n, l[n]? = some id := List.mem_iff_getElem?.mp h
  exact ⟨Nat.find hsome, Nat.find_spec hsome, fun m => Nat.find_min hsome⟩

/-! ## One pass -/

/-- What a pass over a list keeps that has seen the given elements: those that it has not seen, which
it then has. -/
def unseen (seen : Finset ι) : List ι → List ι
  | [] => []
  | a :: r => if a ∈ seen then unseen seen r else a :: unseen (insert a seen) r

/-- The pass keeps the distinct elements but for those seen before. -/
theorem unseen_eq_filter (seen : Finset ι) (l : List ι) :
    unseen seen l = (distinct l).filter (· ∉ seen) := by
  induction l generalizing seen with
  | nil => rfl
  | cons a r ih =>
    rw [unseen, distinct]
    split
    · next ha =>
      have hne : ∀ b ∈ distinct r, (decide (b ∉ seen) && decide (b ≠ a)) = decide (b ∉ seen) := by
        intro b _
        by_cases hb : b = a <;> simp [hb, ha]
      rw [ih, List.filter_cons_of_neg (by simpa using ha), List.filter_filter,
        List.filter_congr hne]
    · next ha =>
      rw [ih, List.filter_cons_of_pos (by simpa using ha), List.filter_filter]
      congr 2
      funext b
      simp [not_or, Bool.and_comm]

theorem distinct_eq_unseen (l : List ι) : distinct l = unseen ∅ l := by
  simp [unseen_eq_filter]

/-- Behind a part of the list, the pass has seen the elements of this part as well. -/
theorem unseen_append (seen : Finset ι) (a b : List ι) :
    unseen seen (a ++ b) = unseen seen a ++ unseen (seen ∪ a.toFinset) b := by
  induction a generalizing seen with
  | nil => simp [unseen]
  | cons x r ih =>
    rw [List.cons_append, unseen, unseen, List.toFinset_cons]
    split
    · next hx => rw [ih, Finset.union_insert, Finset.insert_eq_of_mem (Finset.mem_union_left _ hx)]
    · rw [ih, List.cons_append, Finset.insert_union, ← Finset.union_insert]

/-- The pass keeps one element for each that it gets to know. -/
theorem length_unseen (seen : Finset ι) (l : List ι) :
    seen.card + (unseen seen l).length = (seen ∪ l.toFinset).card := by
  induction l generalizing seen with
  | nil => simp [unseen]
  | cons a r ih =>
    rw [unseen, List.toFinset_cons, Finset.union_insert, ← Finset.insert_union]
    split
    · next ha => rw [ih, Finset.insert_eq_of_mem ha]
    · next ha =>
      rw [← ih, Finset.card_insert_of_notMem ha, List.length_cons]
      omega

theorem length_distinct (l : List ι) : (distinct l).length = l.toFinset.card := by
  simpa [distinct_eq_unseen] using length_unseen ∅ l

/-! ## Positions -/

/-- An element that the pass has not seen before is kept behind as many as it has seen. -/
theorem IsFirstPosition.getElem?_distinct (h : IsFirstPosition l id n) :
    (distinct l)[(l.take n).toFinset.card]? = some id := by
  have hnew : id ∉ ∅ ∪ (l.take n).toFinset := by simpa using h.not_mem_take
  have hsplit : distinct l =
      distinct (l.take n) ++ id :: unseen (insert id (∅ ∪ (l.take n).toFinset)) (l.drop (n + 1)) := by
    conv_lhs => rw [h.eq_append]
    rw [distinct_eq_unseen, unseen_append, unseen, if_neg hnew, ← distinct_eq_unseen]
  rw [← length_distinct, hsplit, List.getElem?_append_right (Nat.le_refl _), Nat.sub_self,
    List.getElem?_cons_zero]

/-- The `k`-th distinct element stands first where `k` different ones have come before. -/
theorem getElem?_distinct_iff {k : Nat} : (distinct l)[k]? = some id ↔
    ∃ n, IsFirstPosition l id n ∧ (l.take n).toFinset.card = k := by
  constructor
  · intro h
    obtain ⟨n, hn⟩ := exists_isFirstPosition ((mem_distinct id l).mp (List.mem_of_getElem? h))
    obtain ⟨hk, -⟩ := List.getElem?_eq_some_iff.mp h
    have heq := h.trans hn.getElem?_distinct.symm
    exact ⟨n, hn, ((List.getElem?_inj hk (nodup_distinct l)).mp heq).symm⟩
  · rintro ⟨n, hn, rfl⟩
    exact hn.getElem?_distinct

/-! ## Windows -/

/-- A window goes on where another one ends. -/
theorem distinctWindow_append (ids : List ι) {offset a b : UInt64}
    (hend : offset.toNat + a.toNat ≤ maxWord) (hsize : a.toNat + b.toNat ≤ maxWord) :
    distinctWindow ids offset a ++ distinctWindow ids (offset + a) b =
      distinctWindow ids offset (a + b) := by
  have hadd : ∀ x y : UInt64, x.toNat + y.toNat ≤ maxWord → (x + y).toNat = x.toNat + y.toNat := by
    intro x y h
    rw [UInt64.toNat_add]
    exact Nat.mod_eq_of_lt (Nat.lt_succ_of_le h)
  rw [distinctWindow, distinctWindow, distinctWindow, hadd _ _ hend, hadd _ _ hsize, List.take_add,
    List.drop_drop]

/-- **Windows tile the distinct identifiers.** A window is what one pass keeps that remembers what it
has seen, without the elements in front of the offset and cut to the size. It has no repetitions and
is a subsequence of the list. It is as long as its size unless the distinct elements, of which there
are as many as the list has different ones, end before; and an element is the `i`-th of it just if it
stands first where as many different ones have come before as the offset and `i` say. A window that
begins where another ends makes up one window with it, however far the two reach. -/
theorem distinctWindow_tiles (ids : List ι) (offset a : UInt64) :
    let window := distinctWindow ids offset a
    window = ((unseen ∅ ids).drop offset.toNat).take a.toNat ∧
    window.Nodup ∧ window.Sublist ids ∧
    window.length = min a.toNat (ids.toFinset.card - offset.toNat) ∧
    (∀ i id, window[i]? = some id ↔ i < a.toNat ∧
      ∃ n, IsFirstPosition ids id n ∧ (ids.take n).toFinset.card = offset.toNat + i) ∧
    ∀ b : UInt64, offset.toNat + a.toNat ≤ maxWord → a.toNat + b.toNat ≤ maxWord →
      window ++ distinctWindow ids (offset + a) b = distinctWindow ids offset (a + b) := by
  intro window
  have hsublist : window.Sublist (distinct ids) :=
    (List.take_sublist _ _).trans (List.drop_sublist _ _)
  refine ⟨?_, (nodup_distinct ids).sublist hsublist, hsublist.trans (distinct_sublist ids), ?_,
    fun i id => ?_, fun b hend hsize => distinctWindow_append ids hend hsize⟩
  · rw [← distinct_eq_unseen]
    rfl
  · rw [← length_distinct, ← List.length_drop, ← List.length_take]
    rfl
  · rw [← getElem?_distinct_iff, ← List.getElem?_drop, ← Option.ite_none_right_eq_some,
      ← List.getElem?_take]
    rfl

/-- Two windows of a list that has four different elements, the second of which ends with the last of
them, and early. -/
theorem distinctWindow_tiles_repeated :
    let ids : List Nat := [3, 3, 1, 3, 2, 1, 4, 2]
    (1 : UInt64).toNat + (2 : UInt64).toNat ≤ maxWord ∧
      (2 : UInt64).toNat + (5 : UInt64).toNat ≤ maxWord ∧
      (distinctWindow ids 1 2)[1]? = some 2 ∧ (distinctWindow ids (1 + 2) 5).length = 1 ∧
      distinctWindow ids 1 2 ++ distinctWindow ids (1 + 2) 5 = [1, 2, 4] := by
  intro ids
  have hend : (1 : UInt64).toNat + (2 : UInt64).toNat ≤ maxWord := by decide
  have hsize : (2 : UInt64).toNat + (5 : UInt64).toNat ≤ maxWord := by decide
  have hfirst : IsFirstPosition ids 2 4 := by
    refine ⟨rfl, ?_⟩
    decide
  obtain ⟨-, -, -, -, hmember, htile⟩ := distinctWindow_tiles ids 1 2
  obtain ⟨-, -, -, hlength, -, -⟩ := distinctWindow_tiles ids (1 + 2) 5
  exact ⟨hend, hsize, (hmember 1 2).mpr ⟨by decide, 4, hfirst, by decide⟩,
    hlength.trans (by decide), (htile 5 hend hsize).trans (by decide)⟩

end EntitySearch
