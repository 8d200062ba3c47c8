import EntitySearch.Decimal.Binary64
import EntitySearch.Decimal.Numeral

/-!
# The shortest decimal of a double-precision number

Among the decimals that round to a given number, the one with the fewest digits, and of those with
equally many the nearest. `Shortest.find` goes through the decimal grids from coarse to fine and
stops at the first that has a point in the interval of reals rounding to the number; only the two
points beside the number can be the nearest, so only these are tried.

Two ways of writing it down are kept as data: `plainText`, always positional, and `JsonFormat`,
which turns to an exponent for large and small numbers.
-/

namespace EntitySearch.Decimal

/-- Which way an exact tie between two equally short decimals goes. -/
inductive TieRule where
  | up
  | toEven

/-- The decimal `mantissa · 10 ^ exponent`. -/
structure Scaled where
  mantissa : Nat
  exponent : Int

namespace Shortest

/-- The reals that round to a number, as multiples of `2 ^ (exponent - 2)`: the number itself in the
middle, and whether the two ends belong. -/
structure Interval where
  low : Nat
  middle : Nat
  high : Nat
  closed : Bool
  exponent : Int

/-- The interval of a finite number. Below a power of two the neighbour is half as far away. -/
def Interval.of (x : Binary64) : Interval :=
  let m := x.significand
  let below := if m = Binary64.hiddenBit ∧ -1074 < x.exponent then 1 else 2
  ⟨4 * m - below, 4 * m, 4 * m + 2, m % 2 == 0, x.exponent - 2⟩

/-- Whether `a · 10 ^ k` lies in the interval. -/
def Interval.contains (i : Interval) (a : Nat) (k : Int) : Bool :=
  let p := a * Nat.pow 10 k.toNat * Nat.pow 2 (-i.exponent).toNat
  let scale := Nat.pow 2 i.exponent.toNat * Nat.pow 10 (-k).toNat
  if i.closed then i.low * scale ≤ p && p ≤ i.high * scale
  else i.low * scale < p && p < i.high * scale

/-- The point of the grid of multiples of `10 ^ k` to take, if the interval has one. -/
def Interval.gridPoint? (i : Interval) (tie : TieRule) (k : Int) : Option Nat :=
  let unit := Nat.pow 10 k.toNat * Nat.pow 2 (-i.exponent).toNat
  let v := i.middle * (Nat.pow 2 i.exponent.toNat * Nat.pow 10 (-k).toNat)
  let a := v / unit
  let rest := v % unit
  match i.contains a k, i.contains (a + 1) k with
  | true, false => some a
  | false, true => some (a + 1)
  | true, true =>
    if 2 * rest < unit then some a
    else if unit < 2 * rest then some (a + 1)
    else match tie with
      | .up => some (a + 1)
      | .toEven => some (a + a % 2)
  | false, false => none

/-- The first grid with a point, from `10 ^ k` downwards. -/
def search (i : Interval) (tie : TieRule) : Nat → Int → Scaled
  | 0, k => ⟨0, k⟩
  | steps + 1, k =>
    match i.gridPoint? tie k with
    | some a => ⟨a, k⟩
    | none => search i tie steps (k - 1)

/-- A power of ten above the number: `log₁₀ 2` is a little more than `30102 / 100000`. -/
def topExponent (x : Binary64) : Int :=
  ((x.significand.log2 : Int) + 1 + x.exponent) * 30103 / 100000 + 2

/-- The shortest decimal of a finite number other than zero. Twenty-two grids suffice: two above
the number's own magnitude, seventeen digits, and room for the estimate. -/
def find (tie : TieRule) (x : Binary64) : Scaled :=
  search (Interval.of x) tie 22 (topExponent x)

end Shortest

/-- A decimal written without an exponent, and without a point if it is whole. -/
def Scaled.positional (d : Scaled) : List Char :=
  let ds := digits d.mantissa
  if 0 ≤ d.exponent then ds ++ List.replicate d.exponent.toNat '0'
  else
    let places := (-d.exponent).toNat
    if places < ds.length then
      ds.take (ds.length - places) ++ '.' :: ds.drop (ds.length - places)
    else
      '0' :: '.' :: List.replicate (places - ds.length) '0' ++ ds

/-- A number as plain text: positional whatever its size, `-0` for the negative zero, and `NaN`,
`inf` and `-inf` for what has no digits. -/
def plainText (x : Binary64) : String :=
  if x.isNaN then "NaN"
  else
    let body :=
      if x.isInfinite then "inf".toList
      else if x.isZero then ['0']
      else (Shortest.find .up x).positional
    String.ofList (if x.negative then '-' :: body else body)

/-- How numbers are laid out in JSON text: positional with at least one digit after the point for
magnitudes from `10 ^ leastPoint` up to `10 ^ mostDigits`, with an exponent elsewhere. -/
structure JsonFormat where
  mostDigits : Int
  leastPoint : Int
  tie : TieRule

/-- Positional up to sixteen digits before the point and five zeros after it. -/
def jsonFormat : JsonFormat := ⟨16, -5, .toEven⟩

/-- The exponent of a decimal, always with its sign. -/
def exponentChars (e : Int) : List Char := (if e < 0 then '-' else '+') :: digits e.natAbs

/-- A decimal in a given layout; the mantissa has no trailing zero. -/
def JsonFormat.layout (f : JsonFormat) (d : Scaled) : List Char :=
  let ds := digits d.mantissa
  let point : Int := ds.length + d.exponent
  if 0 ≤ d.exponent ∧ point ≤ f.mostDigits then d.positional ++ ['.', '0']
  else if f.leastPoint < point ∧ point ≤ f.mostDigits then d.positional
  else
    let fraction := match ds.drop 1 with
      | [] => []
      | rest => '.' :: rest
    ds.take 1 ++ fraction ++ 'e' :: exponentChars (point - 1)

/-- A finite number as a JSON token that reads as no integer. -/
def jsonChars (x : Binary64) : List Char :=
  let body :=
    if x.isZero then ['0', '.', '0']
    else jsonFormat.layout (Shortest.find jsonFormat.tie x)
  if x.negative then '-' :: body else body

end EntitySearch.Decimal
