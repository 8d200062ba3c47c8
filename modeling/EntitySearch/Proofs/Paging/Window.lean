import EntitySearch.Paging.Saturating
import EntitySearch.Paging.Window
import Mathlib.Data.List.Infix

/-!
# Pages of distinct identifiers

What the windows of joined rows have to do with pages, in the exact arithmetic of natural numbers.

* `flatMap_slice`: the first slices of a list, one after the other, are its first elements.
* `drop_saturatingMul`: an offset that is cut to 64 bits still starts the right slice.
* `distinct_eq_eraseDups`: `distinct` keeps the elements that `List.eraseDups` keeps, so the first
  occurrence of each; `pairwise_idxOf_distinct` says so by positions.
* `distinctWindow_mono`: what a window of distinct elements has, it keeps as the list goes on.
* `take_distinct_take`: if no element occurs more than `m` times, the first `k * m` elements of a
  list hold its first `k` distinct ones. This is a pigeonhole argument
  (`length_le_mul_length_distinct`): `k * m` places take at least `k` different elements to fill.
-/

namespace EntitySearch

/-! ## Slices -/

section Slices

variable {α β : Type}

/-- The `n`-th slice of a list in steps of `size`, counted from zero. -/
def slice (l : List α) (size n : Nat) : List α := (l.drop (n * size)).take size

theorem slice_map (f : α → β) (l : List α) (size n : Nat) :
    slice (l.map f) size n = (slice l size n).map f := by
  rw [slice, slice, List.map_take, List.map_drop]

theorem length_slice (l : List α) (size n : Nat) :
    (slice l size n).length = min size (l.length - n * size) := by
  simp [slice]

theorem slice_mono {l l' : List α} (h : l <+: l') (size n : Nat) :
    slice l size n <+: slice l' size n :=
  (h.drop (n * size)).take size

theorem slice_eq_nil {l : List α} {size n : Nat} (h : l.length ≤ n * size) :
    slice l size n = [] := by
  simp [slice, List.drop_eq_nil_of_le h]

/-- A slice depends on the elements up to its end only. -/
theorem slice_congr {l l' : List α} {size n : Nat}
    (h : l.take ((n + 1) * size) = l'.take ((n + 1) * size)) : slice l size n = slice l' size n := by
  have hslice : ∀ l : List α, slice l size n = (l.take ((n + 1) * size)).drop (n * size) := by
    intro l
    rw [slice, List.drop_take, Nat.add_mul, Nat.one_mul, Nat.add_sub_cancel_left]
  rw [hslice, hslice, h]

/-- The elements from the offset of a page on, even if the offset is cut: a list that 64 bits can
count has none beyond the largest offset. -/
theorem drop_saturatingMul {l : List α} (hlength : l.length ≤ maxWord) (page size : UInt64) :
    (l.drop (saturatingMul page size).toNat).take size.toNat =
      slice l size.toNat page.toNat := by
  rw [slice, toNat_saturatingMul]
  rcases Nat.le_total (page.toNat * size.toNat) maxWord with h | h
  · rw [Nat.min_eq_left h]
  · rw [Nat.min_eq_right h, List.drop_eq_nil_of_le hlength,
      List.drop_eq_nil_of_le (Nat.le_trans hlength h)]

theorem take_add_slice (l : List α) (size n : Nat) :
    l.take (n * size) ++ slice l size n = l.take ((n + 1) * size) := by
  rw [slice, Nat.add_mul, Nat.one_mul, List.take_add]

/-- The first `k` slices of a list, one after the other, are its first `k * size` elements. -/
theorem flatMap_slice (l : List α) (size k : Nat) :
    (List.range k).flatMap (slice l size) = l.take (k * size) := by
  induction k with
  | zero => simp
  | succ k ih =>
    rw [List.range_succ, List.flatMap_append, ih, List.flatMap_singleton, take_add_slice]

/-- The pages that 64 bits can number tile a list. -/
theorem flatMap_pages {items : UInt64 → List α} {l : List α} {size k : Nat}
    (h : ∀ n, items n = slice l size n.toNat) (hk : k ≤ maxWord + 1) :
    (List.range k).flatMap (fun n => items (UInt64.ofNat n)) = l.take (k * size) := by
  have hslices : ∀ n ∈ List.range k, items (UInt64.ofNat n) = slice l size n := by
    intro n hn
    rw [h, UInt64.toNat_ofNat_of_lt' (Nat.lt_of_lt_of_le (List.mem_range.mp hn) hk)]
  rw [List.flatMap_def, List.map_congr_left hslices, ← List.flatMap_def, flatMap_slice]

/-- The element at a position is on the slice that the position falls into. -/
theorem getElem_mem_slice {l : List α} {size i : Nat} (hsize : 0 < size) (hi : i < l.length) :
    l[i] ∈ slice l size (i / size) := by
  have hdiv := Nat.div_add_mod i size
  have hmod := Nat.mod_lt i hsize
  rw [Nat.mul_comm] at hdiv
  refine List.mem_iff_getElem.mpr ⟨i % size, ?_, ?_⟩
  · rw [length_slice]
    omega
  · simp only [slice, List.getElem_take, List.getElem_drop]
    congr 1

/-- An element of a list without repetitions is on one slice only. -/
theorem eq_div_of_getElem_mem_slice {l : List α} {size i n : Nat} (hd : l.Nodup)
    (hi : i < l.length) (h : l[i] ∈ slice l size n) : n = i / size := by
  obtain ⟨j, hj, he⟩ := List.mem_iff_getElem.mp h
  rw [length_slice] at hj
  simp only [slice, List.getElem_take, List.getElem_drop] at he
  have hij : n * size + j = i := (List.getElem_inj hd).mp he
  rw [← hij, Nat.mul_comm, Nat.mul_add_div (by omega), Nat.div_eq_of_lt (by omega), Nat.add_zero]

end Slices

/-! ## Distinct elements -/

section Distinct

variable {ι : Type} [DecidableEq ι]

theorem filter_distinct (p : ι → Bool) (l : List ι) :
    (distinct l).filter p = distinct (l.filter p) := by
  induction l with
  | nil => rfl
  | cons a r ih =>
    rw [distinct]
    by_cases hp : p a = true
    · rw [List.filter_cons_of_pos hp, List.filter_cons_of_pos hp, distinct, ← ih,
        List.filter_filter, List.filter_filter]
      congr 2
      funext b
      exact Bool.and_comm _ _
    · rw [List.filter_cons_of_neg hp, List.filter_cons_of_neg hp, ← ih, List.filter_filter]
      apply List.filter_congr
      intro b _
      by_cases hb : b = a
      · subst hb
        simpa using hp
      · simp [hb]

theorem distinct_sublist (l : List ι) : (distinct l).Sublist l := by
  induction l with
  | nil => exact List.Sublist.slnil
  | cons a r ih => exact (List.filter_sublist.trans ih).cons_cons a

/-- Each element at its first occurrence. -/
theorem distinct_eq_eraseDups (l : List ι) : distinct l = l.eraseDups := by
  match l with
  | [] => rfl
  | a :: r =>
    rw [distinct, List.eraseDups_cons, filter_distinct, ← distinct_eq_eraseDups]
    congr 3
    funext b
    by_cases hb : b = a <;> simp [hb]
termination_by l.length
decreasing_by exact Nat.lt_succ_of_le (List.length_filter_le _ r)

theorem distinct_append (a b : List ι) :
    distinct (a ++ b) = distinct a ++ distinct (b.removeAll a) := by
  simp only [distinct_eq_eraseDups, List.eraseDups_append]

/-- The distinct elements of a first part come first among all distinct elements. -/
theorem distinct_mono {l l' : List ι} (h : l <+: l') : distinct l <+: distinct l' := by
  obtain ⟨rest, rfl⟩ := h
  rw [distinct_append]
  exact List.prefix_append _ _

/-- More rows only make a window of distinct elements longer. -/
theorem distinctWindow_mono {l l' : List ι} (h : l <+: l') (offset size : UInt64) :
    distinctWindow l offset size <+: distinctWindow l' offset size :=
  ((distinct_mono h).drop offset.toNat).take size.toNat

private theorem idxOf_cons_of_ne {a b : ι} (h : a ≠ b) (r : List ι) :
    (a :: r).idxOf b = r.idxOf b + 1 := by
  rw [List.idxOf_cons, beq_eq_false_iff_ne.mpr h, cond_false]

/-- The distinct elements stand in the order of their first occurrences. -/
theorem pairwise_idxOf_distinct (l : List ι) :
    (distinct l).Pairwise fun a b => l.idxOf a < l.idxOf b := by
  induction l with
  | nil => exact List.Pairwise.nil
  | cons a r ih =>
    have hne : ∀ b ∈ (distinct r).filter (· ≠ a), a ≠ b := by
      rintro _ hb rfl
      simp at hb
    rw [distinct, List.pairwise_cons]
    constructor
    · intro b hb
      rw [List.idxOf_cons_self, idxOf_cons_of_ne (hne b hb)]
      exact Nat.succ_pos _
    · refine (ih.filter _).imp_of_mem ?_
      intro b c hb hc hlt
      rw [idxOf_cons_of_ne (hne b hb), idxOf_cons_of_ne (hne c hc)]
      exact Nat.succ_lt_succ hlt

/-- **Pigeonhole.** If no element occurs more than `m` times, a list has at most `m` places for each
distinct element. -/
theorem length_le_mul_length_distinct {l : List ι} {m : Nat} (h : ∀ a, l.count a ≤ m) :
    l.length ≤ m * (distinct l).length := by
  match l with
  | [] => simp
  | a :: r =>
    -- The places of `a`, and those of the other elements.
    have hsplit : r.length = r.count a + (r.filter (· ≠ a)).length := by
      rw [List.length_eq_countP_add_countP (· == a), List.count, ← List.countP_eq_length_filter]
      congr 1
      apply List.countP_congr
      simp
    have ha : r.count a + 1 ≤ m := by simpa using h a
    have hrest : ∀ b, (r.filter (· ≠ a)).count b ≤ m := fun b =>
      Nat.le_trans (List.filter_sublist.count_le b)
        (Nat.le_trans ((List.sublist_cons_self a r).count_le b) (h b))
    have ih := length_le_mul_length_distinct hrest
    rw [distinct, List.length_cons, List.length_cons, filter_distinct, Nat.mul_add, Nat.mul_one]
    omega
termination_by l.length
decreasing_by exact Nat.lt_succ_of_le (List.length_filter_le _ r)

/-- If no element occurs more than `m` times, the first `k * m` places, or all of them, hold the
first `k` distinct elements. -/
theorem take_distinct_take {l : List ι} {m k w : Nat} (h : ∀ a, l.count a ≤ m)
    (hw : k * m ≤ w ∨ l.length ≤ w) : (distinct (l.take w)).take k = (distinct l).take k := by
  by_cases hl : l.length ≤ w
  · rw [List.take_of_length_le hl]
  have hkm : k * m ≤ w := hw.resolve_right hl
  have hm : 0 < m := by
    have hpos : 0 < l.length := by omega
    exact Nat.lt_of_lt_of_le (List.count_pos_iff.mpr (List.getElem_mem hpos)) (h _)
  have hfull : w ≤ m * (distinct (l.take w)).length := by
    have := length_le_mul_length_distinct (l := l.take w) (m := m) fun a =>
      Nat.le_trans ((List.take_sublist w l).count_le a) (h a)
    rwa [List.length_take, Nat.min_eq_left (by omega)] at this
  have hk : k ≤ (distinct (l.take w)).length := by
    apply Nat.le_of_mul_le_mul_left _ hm
    rw [Nat.mul_comm]
    exact Nat.le_trans hkm hfull
  obtain ⟨t, ht⟩ := distinct_mono (List.take_prefix w l)
  rw [← ht, List.take_append_of_le_length hk]

end Distinct

end EntitySearch
