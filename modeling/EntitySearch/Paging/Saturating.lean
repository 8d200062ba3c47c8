/-!
# Saturating arithmetic

Arithmetic on 64-bit numbers without sign that stops at the ends of the range instead of wrapping
around: each operation is the exact one on natural numbers, cut to the range.
-/

namespace EntitySearch

/-- The largest 64-bit number. -/
def maxWord : Nat := 0xFFFFFFFFFFFFFFFF

/-- A natural number cut to 64 bits. -/
def clampWord (n : Nat) : UInt64 := UInt64.ofNat (min n maxWord)

theorem toNat_clampWord (n : Nat) : (clampWord n).toNat = min n maxWord := by
  rw [clampWord, UInt64.toNat_ofNat_of_lt']
  exact Nat.lt_of_le_of_lt (Nat.min_le_right _ _) (by decide)

theorem toNat_le_maxWord (a : UInt64) : a.toNat ≤ maxWord := Nat.le_of_lt_succ a.toNat_lt

theorem clampWord_toNat (a : UInt64) : clampWord a.toNat = a := by
  rw [← UInt64.toNat_inj, toNat_clampWord, Nat.min_eq_left (toNat_le_maxWord a)]

theorem clampWord_mono {m n : Nat} (h : m ≤ n) : clampWord m ≤ clampWord n := by
  rw [UInt64.le_iff_toNat_le, toNat_clampWord, toNat_clampWord]
  omega

theorem clampWord_eq_zero_iff {n : Nat} : clampWord n = 0 ↔ n = 0 := by
  rw [← UInt64.toNat_inj, toNat_clampWord, UInt64.toNat_zero, maxWord]
  omega

/-- The sum, cut to the range. -/
def saturatingAdd (a b : UInt64) : UInt64 := clampWord (a.toNat + b.toNat)

/-- The product, cut to the range. -/
def saturatingMul (a b : UInt64) : UInt64 := clampWord (a.toNat * b.toNat)

/-- The difference, or zero if it is negative. -/
def saturatingSub (a b : UInt64) : UInt64 := clampWord (a.toNat - b.toNat)

@[simp] theorem toNat_saturatingAdd (a b : UInt64) :
    (saturatingAdd a b).toNat = min (a.toNat + b.toNat) maxWord := toNat_clampWord _

@[simp] theorem toNat_saturatingMul (a b : UInt64) :
    (saturatingMul a b).toNat = min (a.toNat * b.toNat) maxWord := toNat_clampWord _

@[simp] theorem toNat_saturatingSub (a b : UInt64) :
    (saturatingSub a b).toNat = a.toNat - b.toNat := by
  have := toNat_le_maxWord a
  rw [saturatingSub, toNat_clampWord]
  omega

theorem toNat_max (a b : UInt64) : (max a b).toNat = max a.toNat b.toNat := by
  have hmax : max a b = if a ≤ b then b else a := rfl
  simp only [hmax, UInt64.le_iff_toNat_le]
  split <;> omega

theorem toNat_min (a b : UInt64) : (min a b).toNat = min a.toNat b.toNat := by
  have hmin : min a b = if a ≤ b then a else b := rfl
  simp only [hmin, UInt64.le_iff_toNat_le]
  split <;> omega

/-! ## Cutting once

A number that is cut before it is added to or multiplied gives the same result, once that is cut as
well. So a chain of such steps is the exact one, cut at its end. -/

theorem saturatingAdd_clampWord (m n : Nat) :
    saturatingAdd (clampWord m) (clampWord n) = clampWord (m + n) := by
  rw [← UInt64.toNat_inj, toNat_saturatingAdd, toNat_clampWord, toNat_clampWord, toNat_clampWord]
  omega

/-- A factor too large for the range may be cut: the product is zero if the other factor is, and too
large as well if not. -/
private theorem min_mul_min (m n top : Nat) : min (min m top * n) top = min (m * n) top := by
  rcases Nat.le_total m top with h | h
  · rw [Nat.min_eq_left h]
  · rw [Nat.min_eq_right h]
    rcases Nat.eq_zero_or_pos n with rfl | hn
    · rw [Nat.mul_zero, Nat.mul_zero]
    · rw [Nat.min_eq_right (Nat.le_mul_of_pos_right top hn),
        Nat.min_eq_right (Nat.le_trans h (Nat.le_mul_of_pos_right m hn))]

theorem saturatingMul_clampWord (m n : Nat) :
    saturatingMul (clampWord m) (clampWord n) = clampWord (m * n) := by
  rw [← UInt64.toNat_inj, toNat_saturatingMul, toNat_clampWord, toNat_clampWord, toNat_clampWord,
    min_mul_min, Nat.mul_comm m, min_mul_min, Nat.mul_comm]

end EntitySearch
