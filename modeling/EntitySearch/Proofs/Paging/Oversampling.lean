import EntitySearch.Paging.Pageable
import EntitySearch.Paging.Window
import Mathlib.Algebra.BigOperators.Ring.List
import Mathlib.Algebra.GroupWithZero.Nat
import Mathlib.Algebra.Order.BigOperators.Group.List

/-!
# Oversampling

How many joined rows are fetched for a page of parents: as many as there can be of all parents up to
the end of the page. Each of the steps to this number stops at the end of 64 bits, and yet it is the
exact number, cut once (`oversampledWindow_exact`).

* `FanOut.multiplier_eq`: the fold over the levels is the product of their bounds, cut once.
* `oversampledWindow_eq`: so is the number of rows, offset and all.
-/

namespace EntitySearch

/-- The bounds of the levels of a declaration; a direct one has a single level. -/
def FanOut.bounds : FanOut → List UInt64
  | bound n => [n]
  | levels ns => ns

/-- The rows of one parent that a declaration allows, in exact arithmetic. -/
def FanOut.product (f : FanOut) : Nat := (f.bounds.map UInt64.toNat).prod

namespace FanOut

/-- The levels so far have the product `n`, however large. -/
private theorem foldl_saturatingMul (ns : List UInt64) (n : Nat) :
    ns.foldl saturatingMul (clampWord n) = clampWord (n * (ns.map UInt64.toNat).prod) := by
  induction ns generalizing n with
  | nil => simp
  | cons a r ih =>
    rw [List.foldl_cons, ← clampWord_toNat a, saturatingMul_clampWord, ih, clampWord_toNat,
      List.map_cons, List.prod_cons, Nat.mul_assoc]

theorem multiplier_eq (f : FanOut) : f.multiplier = clampWord f.product := by
  cases f with
  | bound n => simp [multiplier, product, bounds, clampWord_toNat]
  | levels ns =>
    have h := foldl_saturatingMul ns 1
    rwa [Nat.one_mul] at h

theorem multiplier_eq_of_perm {f f' : FanOut} (h : f.bounds.Perm f'.bounds) :
    f.multiplier = f'.multiplier := by
  rw [multiplier_eq, multiplier_eq, product, product, (h.map _).prod_eq]

theorem multiplier_mono {f f' : FanOut} (h : List.Forall₂ (· ≤ ·) f.bounds f'.bounds) :
    f.multiplier ≤ f'.multiplier := by
  rw [multiplier_eq, multiplier_eq]
  apply clampWord_mono
  apply List.Forall₂.prod_le_prod'
  rw [List.forall₂_map_left_iff, List.forall₂_map_right_iff]
  exact h.imp fun _ _ => UInt64.le_iff_toNat_le.mp

theorem multiplier_eq_zero_iff {f : FanOut} : f.multiplier = 0 ↔ 0 ∈ f.bounds := by
  rw [multiplier_eq, clampWord_eq_zero_iff, product, List.prod_eq_zero_iff, List.mem_map]
  constructor
  · rintro ⟨a, ha, hzero⟩
    obtain rfl : a = 0 := UInt64.toNat_inj.mp hzero
    exact ha
  · intro h
    exact ⟨0, h, rfl⟩

end FanOut

/-- The rows of all parents up to the end of a page, cut once, if the multiplier was cut before. -/
theorem oversampledWindow_eq (page size : UInt64) {multiplier : UInt64} {n : Nat}
    (h : multiplier = clampWord n) :
    oversampledWindow (saturatingMul page size) size multiplier =
      clampWord ((page.toNat * size.toNat + size.toNat) * n) :=
  calc oversampledWindow (saturatingMul page size) size multiplier
    _ = saturatingMul (saturatingAdd (clampWord (page.toNat * size.toNat))
          (clampWord size.toNat)) (clampWord n) := by
      rw [clampWord_toNat, h]
      rfl
    _ = clampWord ((page.toNat * size.toNat + size.toNat) * n) := by
      rw [saturatingAdd_clampWord, saturatingMul_clampWord]

/-- A later or larger page, or more rows per parent, fetch no fewer rows. -/
theorem oversampledWindow_mono {page page' size size' m m' : UInt64} (hpage : page ≤ page')
    (hsize : size ≤ size') (hm : m ≤ m') :
    oversampledWindow (saturatingMul page size) size m ≤
      oversampledWindow (saturatingMul page' size') size' m' := by
  rw [oversampledWindow_eq page size (clampWord_toNat m).symm,
    oversampledWindow_eq page' size' (clampWord_toNat m').symm]
  rw [UInt64.le_iff_toNat_le] at hpage hsize hm
  exact clampWord_mono
    (Nat.mul_le_mul (Nat.add_le_add (Nat.mul_le_mul hpage hsize) hsize) hm)

/-- Nothing is fetched for a page just if it has no room, or parents have no rows. -/
theorem oversampledWindow_eq_zero_iff (page size multiplier : UInt64) :
    oversampledWindow (saturatingMul page size) size multiplier = 0 ↔ size = 0 ∨ multiplier = 0 := by
  rw [oversampledWindow_eq page size (clampWord_toNat multiplier).symm, clampWord_eq_zero_iff,
    Nat.mul_eq_zero, Nat.add_eq_zero_iff, ← UInt64.toNat_inj, ← UInt64.toNat_inj]
  refine or_congr_left ⟨fun h => h.2, fun h => ⟨?_, h⟩⟩
  rw [h, UInt64.toNat_zero, Nat.mul_zero]

/-- **Oversampling is exact up to one cut.** The number of rows fetched for a page is the number of
parents up to its end, times the product of the declared bounds, in exact arithmetic and then cut to
64 bits. So it does not depend on the order of the levels, grows with the page, its size and every
bound, and is zero just if pages are empty or a level is. -/
theorem oversampledWindow_exact :
    let window (page size : UInt64) (f : FanOut) :=
      oversampledWindow (Pageable.new page size).offset size f.multiplier
    (∀ page size f, (window page size f).toNat =
      min maxWord ((page.toNat * size.toNat + size.toNat) * (f.bounds.map UInt64.toNat).prod)) ∧
    (∀ page size f f', f.bounds.Perm f'.bounds → window page size f = window page size f') ∧
    (∀ page page' size size' f f', page ≤ page' → size ≤ size' →
      List.Forall₂ (· ≤ ·) f.bounds f'.bounds → window page size f ≤ window page' size' f') ∧
    (∀ page size f, window page size f = 0 ↔ size = 0 ∨ 0 ∈ f.bounds) := by
  refine ⟨fun page size f => ?_, fun page size f f' h => ?_,
    fun page page' size size' f f' hpage hsize h => ?_, fun page size f => ?_⟩
  · have hexact := oversampledWindow_eq page size f.multiplier_eq
    rw [Nat.min_comm, ← FanOut.product, ← toNat_clampWord, ← hexact]
    rfl
  · exact congrArg (oversampledWindow _ size) (FanOut.multiplier_eq_of_perm h)
  · exact oversampledWindow_mono hpage hsize (FanOut.multiplier_mono h)
  · rw [← FanOut.multiplier_eq_zero_iff]
    exact oversampledWindow_eq_zero_iff page size f.multiplier

/-- A level without children comes before or after levels with too many for 64 bits. -/
theorem oversampledWindow_exact_emptyLevel :
    let before : FanOut := .levels [0, 0xFFFFFFFFFFFFFFFF, 2]
    let after : FanOut := .levels [0xFFFFFFFFFFFFFFFF, 2, 0]
    let window (f : FanOut) := oversampledWindow (Pageable.new 3 20).offset 20 f.multiplier
    before.bounds.Perm after.bounds ∧ window before = window after ∧ window after = 0 ∧
      window (.levels [0xFFFFFFFFFFFFFFFF, 2]) = 0xFFFFFFFFFFFFFFFF := by
  intro before after window
  have hperm : before.bounds.Perm after.bounds := by decide
  obtain ⟨hexact, horder, -, hzero⟩ := oversampledWindow_exact
  exact ⟨hperm, horder 3 20 _ _ hperm, (hzero 3 20 after).mpr (.inr (by decide)),
    UInt64.toNat_inj.mp (hexact 3 20 (.levels [0xFFFFFFFFFFFFFFFF, 2]))⟩

end EntitySearch
