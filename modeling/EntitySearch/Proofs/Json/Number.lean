import EntitySearch.Json.Number
import Mathlib.Algebra.Group.Int.Defs

/-!
# Integers among JSON numbers

A number token is read as an integer if it is written as one and fits
(`Lexeme.number?_eq_integer_iff`). How it is written counts, not what it is worth: `1.0`, `1e2` and
`-0` are no integers.
-/

namespace EntitySearch.Json

namespace Lexeme

/-- The integer that a token writes, if it has no point, no exponent, and no sign before zero. -/
def integer? (l : Lexeme) : Option Int :=
  match l.fraction, l.exponent with
  | none, none =>
    if l.negative then if Decimal.value l.whole = 0 then none else some (-Decimal.value l.whole)
    else some (Decimal.value l.whole)
  | _, _ => none

/-- A token is read as an integer of 64 bits, with a sign or without, just if it writes that. -/
theorem number?_eq_integer_iff {l : Lexeme} {n : Int} :
    l.number? = some (.integer n) ↔ l.integer? = some n ∧ -2 ^ 63 ≤ n ∧ n < 2 ^ 64 := by
  have hdouble : ∀ x : Option Binary64, x.map Number.double ≠ some (.integer n) := by
    rintro (_ | x) h <;> cases h
  have hsize : UInt64.size = 2 ^ 64 := rfl
  unfold number? integer?
  cases l.fraction with
  | some ds => simp
  | none =>
    cases l.exponent with
    | some e => simp
    | none =>
      simp only [hsize]
      cases l.negative with
      | true =>
        by_cases hzero : Decimal.value l.whole = 0
        · simp [hzero]
        · by_cases hlarge : 0x8000000000000000 < Decimal.value l.whole
          · simp only [hzero, hlarge, or_true, ↓reduceIte, hdouble, Option.some.injEq, false_iff]
            omega
          · simp only [hzero, hlarge, or_self, ↓reduceIte, Option.some.injEq, Number.integer.injEq]
            omega
      | false =>
        by_cases hlarge : 2 ^ 64 ≤ Decimal.value l.whole
        · simp only [hlarge, Bool.false_eq_true, ↓reduceIte, hdouble, Option.some.injEq, false_iff]
          omega
        · simp only [hlarge, Bool.false_eq_true, ↓reduceIte, Option.some.injEq,
            Number.integer.injEq]
          omega

end Lexeme

end EntitySearch.Json
