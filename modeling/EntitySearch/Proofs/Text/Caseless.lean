import EntitySearch.Proofs.Decimal.Digits
import EntitySearch.Text.LetterCase

/-!
# Letters in either case

What taking the case of letters away does to characters and texts.

* `isBlank_congr`: texts that differ in case only are blank alike.
* `hexValue?_eq_some_iff`: a hexadecimal digit is read as the number that it is written for, in
  either case.
-/

namespace EntitySearch.Text

/-- Letters are not blank in either case. -/
theorem isBlankChar_lowerAscii (c : Char) : isBlankChar (lowerAscii c) = isBlankChar c := by
  unfold lowerAscii
  split
  · rename_i h
    have hA : 'A'.toNat = 0x41 := rfl
    have hZ : 'Z'.toNat = 0x5A := rfl
    simp only [hA, hZ, Bool.and_eq_true, decide_eq_true_eq] at h
    have hvalid : (c.toNat + 32).isValidChar := .inl (by omega)
    have hlower : (Char.ofNat (c.toNat + 32)).toNat = c.toNat + 32 := by
      rw [Char.ofNat, dif_pos hvalid]
      rfl
    have hc : isBlankChar c = false := by
      simp only [isBlankChar, Bool.or_eq_false_iff, Bool.and_eq_false_iff,
        decide_eq_false_iff_not, beq_eq_false_iff_ne]
      omega
    rw [hc]
    simp only [isBlankChar, hlower, Bool.or_eq_false_iff, Bool.and_eq_false_iff,
      decide_eq_false_iff_not, beq_eq_false_iff_ne]
    omega
  · rfl

theorem isBlank_congr {s t : String} (h : equalsIgnoringCase s t = true) :
    isBlank s = isBlank t := by
  have hlower : ∀ cs : List Char, (cs.map lowerAscii).all isBlankChar = cs.all isBlankChar := by
    intro cs
    rw [List.all_map]
    exact congrArg cs.all (funext isBlankChar_lowerAscii)
  have hletters : s.toList.map lowerAscii = t.toList.map lowerAscii := beq_iff_eq.mp h
  calc isBlank s = (s.toList.map lowerAscii).all isBlankChar := (hlower s.toList).symm
    _ = isBlank t := by rw [hletters]; exact hlower t.toList

/-- Digits have no case. -/
theorem lowerAscii_of_isDigit {d : Char} (h : Decimal.isDigit d = true) :
    lowerAscii d = d := by
  have hA : 'A'.toNat = 0x41 := rfl
  rw [Decimal.isDigit_iff] at h
  rw [lowerAscii, hA, if_neg (by simp; omega)]

/-- A hexadecimal digit is the one that its number is written in, but for its case. -/
theorem hexValue?_eq_some_iff {c : Char} {d : Nat} :
    hexValue? c = some d ↔ d < 16 ∧ lowerAscii c = hexChar d := by
  by_cases hc : c.toNat < 128
  · have hlt : ∀ k : Fin 128, ∀ d ∈ hexValue? (Char.ofNat k), d < 16 := by decide +kernel
    have hiff : ∀ k : Fin 128, ∀ d : Fin 16,
        hexValue? (Char.ofNat k) = some d.val ↔ lowerAscii (Char.ofNat k) = hexChar d := by
      decide +kernel
    obtain ⟨k, rfl⟩ : ∃ k : Fin 128, Char.ofNat k = c := ⟨⟨c.toNat, hc⟩, Char.ofNat_toNat c⟩
    constructor
    · intro h
      have hd : d < 16 := hlt k d h
      exact ⟨hd, (hiff k ⟨d, hd⟩).mp h⟩
    · rintro ⟨hd, h⟩
      exact (hiff k ⟨d, hd⟩).mpr h
  · -- Characters beyond ASCII are no digits and have no case.
    have hlast : '9'.toNat = 0x39 ∧ 'F'.toNat = 0x46 ∧ 'Z'.toNat = 0x5A ∧ 'f'.toNat = 0x66 :=
      ⟨rfl, rfl, rfl, rfl⟩
    have hnone : hexValue? c = none := by
      simp only [hexValue?, Decimal.isDigit, Bool.and_eq_true, decide_eq_true_eq]
      rw [if_neg (by omega), if_neg (by omega), if_neg (by omega)]
    have hsame : lowerAscii c = c := by
      simp only [lowerAscii, Bool.and_eq_true, decide_eq_true_eq]
      rw [if_neg (by omega)]
    have hchar : ∀ d : Fin 16, (hexChar d).toNat < 128 := by decide +kernel
    rw [hnone, hsame]
    simp only [reduceCtorEq, false_iff, not_and]
    rintro hd rfl
    exact hc (hchar ⟨d, hd⟩)

end EntitySearch.Text
