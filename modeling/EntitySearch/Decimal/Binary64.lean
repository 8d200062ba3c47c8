import EntitySearch.Decimal.Numeral
import EntitySearch.Text.LetterCase

/-!
# Double-precision numbers

A double-precision number is kept as its 64 bits. A finite one is `±significand · 2 ^ exponent`;
`ofRatio` is the number nearest to a quotient of natural numbers, a tie going to the even
significand, and everything that rounds does so through it.

Text for a number is an optional sign, then `inf`, `infinity` or `nan` in any case, or digits with an
optional point and exponent. A point needs a digit on one side of it, an exponent at least one digit.
What is read is the number nearest to the decimal, infinity beyond the largest.
-/

namespace EntitySearch

/-- A double-precision number, as its bits: a sign, eleven bits of exponent and 52 of fraction. -/
structure Binary64 where
  bits : UInt64
deriving DecidableEq

namespace Binary64

/-- The weight of the sign bit. -/
def signBit : Nat := 0x8000000000000000

/-- The bit in front of the fraction, which the stored bits of a number leave out. -/
def hiddenBit : Nat := 0x10000000000000

/-- Whether the sign bit is set. -/
def negative (x : Binary64) : Bool := signBit ≤ x.bits.toNat

/-- The bits below the sign. They order the magnitudes. -/
def magnitude (x : Binary64) : Nat := x.bits.toNat % signBit

/-- The magnitude bits of infinity; larger ones are those of a NaN. -/
def infinityBits : Nat := 0x7FF * hiddenBit

def isNaN (x : Binary64) : Bool := infinityBits < x.magnitude

def isInfinite (x : Binary64) : Bool := x.magnitude == infinityBits

def isZero (x : Binary64) : Bool := x.magnitude == 0

/-- The number with the given sign and magnitude bits. -/
def ofMagnitude (negative : Bool) (m : Nat) : Binary64 :=
  ⟨UInt64.ofNat (if negative then signBit + m else m)⟩

/-- The one NaN that is made here. -/
def nan : Binary64 := ⟨0x7FF8000000000000⟩

def infinity (negative : Bool) : Binary64 := ofMagnitude negative infinityBits

def zero (negative : Bool) : Binary64 := ofMagnitude negative 0

/-- The integer in front of the power of two; below `2 ^ 53`. -/
def significand (x : Binary64) : Nat :=
  if x.magnitude < hiddenBit then x.magnitude else hiddenBit + x.magnitude % hiddenBit

/-- The power of two that scales the significand. -/
def exponent (x : Binary64) : Int :=
  if x.magnitude < hiddenBit then -1074 else (x.magnitude / hiddenBit : Nat) - 1075

/-- The magnitude of a finite number as a quotient: its numerator. -/
def numerator (x : Binary64) : Nat := x.significand * Nat.pow 2 x.exponent.toNat

/-- The magnitude of a finite number as a quotient: its denominator. -/
def denominator (x : Binary64) : Nat := Nat.pow 2 (-x.exponent).toNat

/-- Whether two numbers are numerically equal: a NaN equals nothing, and the two zeros are equal. -/
def same (x y : Binary64) : Bool :=
  !x.isNaN && !y.isNaN && (x.bits == y.bits || x.isZero && y.isZero)

/-- The natural number nearest to `a / b`, a tie going to the even one. -/
def roundHalfEven (a b : Nat) : Nat :=
  let q := a / b
  let r := a % b
  if 2 * r < b then q
  else if b < 2 * r then q + 1
  else q + q % 2

/-- The exponent for which `num / den` has a significand of 53 bits, or the least exponent there
is. -/
def scaleOf (num den : Nat) : Int :=
  let e : Int := (num.log2 : Int) - den.log2 - 52
  let e :=
    if num * Nat.pow 2 (-e).toNat < den * Nat.pow 2 e.toNat * hiddenBit then e - 1 else e
  max e (-1074)

/-- The magnitude bits of the number nearest to `num / den`; those of infinity beyond the largest
number. A significand that rounds up to 53 bits and one more carries into the exponent. -/
def nearestBits (num den : Nat) : Nat :=
  if num = 0 then 0
  else
    let e := scaleOf num den
    let m := roundHalfEven (num * Nat.pow 2 (-e).toNat) (den * Nat.pow 2 e.toNat)
    min infinityBits ((e + 1074).toNat * hiddenBit + m)

/-- The number nearest to `±num / den`. -/
def ofRatio (negative : Bool) (num den : Nat) : Binary64 :=
  ofMagnitude negative (nearestBits num den)

/-- The number nearest to a natural number. -/
def ofNat (n : Nat) : Binary64 := ofRatio false n 1

/-- The number nearest to `±mantissa · 10 ^ exponent`. A power of ten far outside the range is
settled by comparing orders of magnitude. -/
def ofDecimal (negative : Bool) (mantissa : Nat) (exponent : Int) : Binary64 :=
  if mantissa = 0 then zero negative
  else if 0 ≤ exponent ∧ 1024 ≤ mantissa.log2 + 3 * exponent then infinity negative
  else if mantissa.log2 + 1 + 3 * exponent ≤ -1075 then zero negative
  else ofRatio negative (mantissa * Nat.pow 10 exponent.toNat)
    (Nat.pow 10 (-exponent).toNat)

/-- The rounded product of two finite numbers that are not negative. -/
def times (x y : Binary64) : Binary64 :=
  ofRatio false (x.numerator * y.numerator) (x.denominator * y.denominator)

/-- The rounded quotient of two finite numbers that are not negative; the divisor is not zero. -/
def dividedBy (x y : Binary64) : Binary64 :=
  ofRatio false (x.numerator * y.denominator) (x.denominator * y.numerator)

/-- The number with the sign given. -/
def withSign (negative : Bool) (x : Binary64) : Binary64 := ofMagnitude negative x.magnitude

end Binary64

namespace Decimal

/-- Reads an exponent: nothing, or `e` with an optional sign and one or more digits. -/
def readExponent? : List Char → Option Int
  | [] => some 0
  | c :: cs => if c == 'e' || c == 'E' then readInt? cs else none

/-- Reads digits with an optional point and exponent as `mantissa · 10 ^ exponent`. -/
def readUnsigned? (cs : List Char) : Option (Nat × Int) :=
  let whole := cs.takeWhile isDigit
  let afterWhole := cs.dropWhile isDigit
  let (fraction, rest) := match afterWhole with
    | '.' :: r => (r.takeWhile isDigit, r.dropWhile isDigit)
    | r => ([], r)
  if whole.isEmpty && fraction.isEmpty then none
  else (readExponent? rest).map fun e => (value (whole ++ fraction), e - fraction.length)

/-- Reads a double-precision number. -/
def readBinary64? (cs : List Char) : Option Binary64 :=
  let (negative, body) := splitSign cs
  if Text.sameLetters body "nan".toList then some Binary64.nan
  else if Text.sameLetters body "inf".toList || Text.sameLetters body "infinity".toList then
    some (Binary64.infinity negative)
  else (readUnsigned? body).map fun (m, e) => Binary64.ofDecimal negative m e

end Decimal

end EntitySearch
