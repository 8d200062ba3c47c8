import EntitySearch.Paging.Page
import EntitySearch.Paging.Pageable

/-!
# What pages report

How many pages there are, whether there is a next one and which items a page covers, in the exact
arithmetic of natural numbers (`Page.reports_exactly`). Sums and products are cut to 64 bits on the
way; there are too few items for that to show.

* `lt_totalPages_iff`: the pages are those that begin before the items end.
* `hasNext_iff`: so there is a next page just if it is one of them.
* `last_of_lt`, `last_of_le`: the last item of a page that begins before the items end, and of one
  that does not.
* `hasNext_iff_last`, `offset_next`: the next page begins with the item behind the last of this one,
  if there is one.
-/

namespace EntitySearch.Page

variable {α : Type} (p : Page α)

/-! ## The pages -/

/-- The number of pages is not cut. -/
theorem toNat_totalPages (hsize : 0 < p.pageSize.toNat) :
    p.totalPages.toNat =
      (p.totalElements.toNat + (p.pageSize.toNat - 1)) / p.pageSize.toNat := by
  have hne : p.pageSize ≠ 0 := by
    rw [ne_eq, ← UInt64.toNat_inj]
    exact Nat.ne_of_gt hsize
  rw [totalPages, if_neg hne, toNat_clampWord]
  apply Nat.min_eq_left
  apply Nat.le_of_not_lt
  rw [Nat.lt_div_iff_mul_lt hsize, Nat.add_sub_cancel]
  exact Nat.not_lt_of_le
    (Nat.le_trans (toNat_le_maxWord _) (Nat.le_mul_of_pos_right _ hsize))

/-- A number is one of a page just if the page begins before the items end. -/
theorem lt_totalPages_iff (hsize : 0 < p.pageSize.toNat) (k : Nat) :
    k < p.totalPages.toNat ↔ k * p.pageSize.toNat < p.totalElements.toNat := by
  rw [p.toNat_totalPages hsize, Nat.lt_div_iff_mul_lt hsize, Nat.add_sub_cancel]

theorem hasNext_iff (hsize : 0 < p.pageSize.toNat) :
    p.hasNext = true ↔ (p.pageNumber.toNat + 1) * p.pageSize.toNat < p.totalElements.toNat := by
  have hpages := toNat_le_maxWord p.totalPages
  rw [← p.lt_totalPages_iff hsize, hasNext, decide_eq_true_iff, UInt64.lt_iff_toNat_lt,
    toNat_saturatingAdd, UInt64.toNat_one]
  omega

/-! ## The range -/

theorem toNat_first :
    p.range.first.toNat = min (p.pageNumber.toNat * p.pageSize.toNat) maxWord :=
  toNat_saturatingMul _ _

theorem toNat_last :
    p.range.last.toNat = max (min (min (p.range.first.toNat + max p.pageSize.toNat 1) maxWord - 1)
      (p.totalElements.toNat - 1)) p.range.first.toNat := by
  simp only [range, toNat_max, toNat_min, toNat_saturatingSub, toNat_saturatingAdd,
    UInt64.toNat_one]

theorem first_le_last : p.range.first.toNat ≤ p.range.last.toNat := by
  rw [toNat_last]
  exact Nat.le_max_right _ _

/-- A page that begins before the items end also ends there, if not before. -/
theorem last_of_lt (hsize : 0 < p.pageSize.toNat)
    (h : p.pageNumber.toNat * p.pageSize.toNat < p.totalElements.toNat) :
    p.range.last.toNat =
      min ((p.pageNumber.toNat + 1) * p.pageSize.toNat) p.totalElements.toNat - 1 := by
  have htotal := toNat_le_maxWord p.totalElements
  rw [toNat_last, toNat_first, Nat.add_mul, Nat.one_mul]
  omega

/-- A page that begins behind the items covers none, and its range ends where it begins. -/
theorem last_of_le (h : p.totalElements.toNat ≤ p.pageNumber.toNat * p.pageSize.toNat) :
    p.range.last.toNat = p.range.first.toNat := by
  have htotal := toNat_le_maxWord p.totalElements
  rw [toNat_last, toNat_first]
  omega

/-- So there is a next page just if an item comes after the last one of this page. -/
theorem hasNext_iff_last (hsize : 0 < p.pageSize.toNat)
    (h : p.pageNumber.toNat * p.pageSize.toNat < p.totalElements.toNat) :
    p.hasNext = true ↔ p.range.last.toNat + 1 < p.totalElements.toNat := by
  have hroom := Nat.le_mul_of_pos_right (p.pageNumber.toNat + 1) hsize
  rw [p.hasNext_iff hsize, p.last_of_lt hsize h]
  omega

/-- That item is the first one of the next page. -/
theorem offset_next (hsize : 0 < p.pageSize.toNat) (h : p.hasNext = true) :
    (Pageable.new (p.pageNumber + 1) p.pageSize).offset.toNat = p.range.last.toNat + 1 := by
  rw [p.hasNext_iff hsize] at h
  have htotal := toNat_le_maxWord p.totalElements
  have hroom := Nat.le_mul_of_pos_right (p.pageNumber.toNat + 1) hsize
  have hnumber : (p.pageNumber + 1).toNat = p.pageNumber.toNat + 1 := by
    rw [UInt64.toNat_add, UInt64.toNat_one, Nat.mod_eq_of_lt]
    exact Nat.lt_succ_of_le (Nat.le_trans hroom (Nat.le_trans (Nat.le_of_lt h) htotal))
  have hbegins : p.pageNumber.toNat * p.pageSize.toNat < p.totalElements.toNat := by
    rw [Nat.add_mul] at h
    omega
  rw [p.last_of_lt hsize hbegins, Pageable.offset, toNat_saturatingMul]
  simp only [Pageable.new, hnumber]
  omega

/-! ## Pages without room -/

/-- There are no pages without room, so none comes next. -/
theorem totalPages_of_empty (hsize : p.pageSize.toNat = 0) :
    p.totalPages = 0 ∧ p.hasNext = false := by
  have hpages : p.totalPages = 0 := if_pos (UInt64.toNat_inj.mp hsize)
  refine ⟨hpages, ?_⟩
  rw [hasNext, hpages]
  exact decide_eq_false UInt64.not_lt_zero

/-- The range of such a page is at the very beginning. -/
theorem range_of_empty (hsize : p.pageSize.toNat = 0) :
    p.range.first.toNat = 0 ∧ p.range.last.toNat = 0 := by
  have hfirst : p.range.first.toNat = 0 := by rw [toNat_first, hsize, Nat.mul_zero, Nat.zero_min]
  refine ⟨hfirst, ?_⟩
  rw [toNat_last, hfirst, hsize]
  omega

/-- **Pages report what is there.** Let pages be numbered from zero. Those whose number is below the
count of pages are those that begin before the items end, and there is a next page just if it is one
of them. The range begins at the offset, as far as 64 bits can tell it, and never ends before it
begins. It ends with the last item of the page if there is one, and then there is a next page just if
an item comes after it, with which the next page begins; otherwise it ends where it begins. No step on
the way is cut so that it shows, and a page without room has nothing before, in or after it. -/
theorem reports_exactly (p : Page α) :
    let n := p.pageNumber.toNat
    let size := p.pageSize.toNat
    let total := p.totalElements.toNat
    let first := p.range.first.toNat
    let last := p.range.last.toNat
    (∀ resource, p.contentRange resource =
      String.ofList (resource.toList.filter ContentRange.isSafeChar ++ ' ' :: Decimal.digits first ++
        '-' :: Decimal.digits last ++ '/' :: Decimal.digits total)) ∧
    first = min maxWord (n * size) ∧ first ≤ last ∧
    (0 < size →
      p.totalPages.toNat = (total + (size - 1)) / size ∧
      (∀ k, k < p.totalPages.toNat ↔ k * size < total) ∧
      (p.hasNext = true ↔ (n + 1) * size < total) ∧
      (n * size < total →
        last = min ((n + 1) * size) total - 1 ∧
        (p.hasNext = true ↔ last + 1 < total) ∧
        (p.hasNext = true →
          (Pageable.new (p.pageNumber + 1) p.pageSize).offset.toNat = last + 1)) ∧
      (total ≤ n * size → last = first)) ∧
    (size = 0 → p.totalPages = 0 ∧ p.hasNext = false ∧ first = 0 ∧ last = 0) := by
  intro n size total first last
  refine ⟨fun _ => rfl, p.toNat_first.trans (Nat.min_comm _ _), p.first_le_last, fun hsize => ?_,
    fun hsize => ?_⟩
  · exact ⟨p.toNat_totalPages hsize, p.lt_totalPages_iff hsize, p.hasNext_iff hsize,
      fun h => ⟨p.last_of_lt hsize h, p.hasNext_iff_last hsize h, p.offset_next hsize⟩,
      p.last_of_le⟩
  · obtain ⟨hpages, hnext⟩ := p.totalPages_of_empty hsize
    exact ⟨hpages, hnext, p.range_of_empty hsize⟩

/-- The last page of as many items as 64 bits can count. It ends beyond what they can count, yet its
range ends with the last item, and there is no page after it. -/
theorem reports_exactly_lastPage :
    let p : Page Char := ⟨['y', 'z'], 0xFFFFFFFFFFFFFFFE, 0x3FFFFFFFFFFFFFFF, 4⟩
    0 < p.pageSize.toNat ∧ p.pageNumber.toNat * p.pageSize.toNat < p.totalElements.toNat ∧
      p.totalPages = 0x4000000000000000 ∧ p.hasNext = false ∧
      p.range = ⟨0xFFFFFFFFFFFFFFFC, 0xFFFFFFFFFFFFFFFD, 0xFFFFFFFFFFFFFFFE⟩ := by
  intro p
  have hsize : 0 < p.pageSize.toNat := by decide
  have hbegins : p.pageNumber.toNat * p.pageSize.toNat < p.totalElements.toNat := by decide
  obtain ⟨-, hfirst, -, hpages, -⟩ := p.reports_exactly
  obtain ⟨hcount, -, hnext, hlast, -⟩ := hpages hsize
  have hfirst' : p.range.first = 0xFFFFFFFFFFFFFFFC :=
    UInt64.toNat_inj.mp (hfirst.trans (by decide))
  have hlast' : p.range.last = 0xFFFFFFFFFFFFFFFD :=
    UInt64.toNat_inj.mp ((hlast hbegins).1.trans (by decide))
  refine ⟨hsize, hbegins, UInt64.toNat_inj.mp (hcount.trans (by decide)), ?_, ?_⟩
  · rw [← Bool.not_eq_true, hnext]
    decide
  · rw [← hfirst', ← hlast']
    rfl

end EntitySearch.Page
