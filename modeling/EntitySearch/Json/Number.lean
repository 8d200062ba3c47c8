import EntitySearch.Decimal.Binary64
import EntitySearch.Decimal.Numeral

/-!
# JSON numbers

How a number was written decides what it is. A token with a point or an exponent, and `-0`, is a
double-precision number even if its value is whole; any other token is an integer while it fits in
64 bits, signed below zero and unsigned above, and a double-precision number beyond.

The value of a double-precision token is computed in double precision: its leading digits, as far as
64 bits hold them, are rounded and then multiplied or divided by a power of ten. A token whose value
lies beyond the largest finite number has none.
-/

namespace EntitySearch.Json

/-- The value of a number token. -/
inductive Number where
  | integer (n : Int)
  | double (x : Binary64)
deriving DecidableEq

/-- A number token taken apart: its digits before the point, those behind it, and its exponent. -/
structure Lexeme where
  negative : Bool
  whole : List Char
  fraction : Option (List Char)
  exponent : Option Int

namespace Lexeme

/-- Splits off the exponent, which must end the token. -/
def readExponent? : List Char → Option (Option Int)
  | [] => some none
  | c :: cs => if c == 'e' || c == 'E' then (Decimal.readInt? cs).map some else none

/-- Splits off the fraction: a point needs at least one digit behind it. -/
def readFraction? : List Char → Option (Option (List Char) × List Char)
  | '.' :: cs =>
    let ds := cs.takeWhile Decimal.isDigit
    if ds.isEmpty then none else some (some ds, cs.dropWhile Decimal.isDigit)
  | cs => some (none, cs)

/-- Reads a token by the grammar of JSON: no plus sign, no needless zero in front. -/
def read? (cs : List Char) : Option Lexeme := do
  let (negative, cs) := match cs with
    | '-' :: r => (true, r)
    | r => (false, r)
  let whole := cs.takeWhile Decimal.isDigit
  if whole.isEmpty || whole.head? == some '0' && whole.length != 1 then none
  let (fraction, rest) ← readFraction? (cs.dropWhile Decimal.isDigit)
  let exponent ← readExponent? rest
  return ⟨negative, whole, fraction, exponent⟩

end Lexeme

/-- Takes digits into `acc` while the number stays below `2 ^ 64`; gives the digits left over. -/
def takeWord (acc : Nat) : List Char → Nat × List Char
  | [] => (acc, [])
  | c :: cs =>
    if Decimal.appendDigit acc c < UInt64.size then takeWord (Decimal.appendDigit acc c) cs
    else (acc, c :: cs)

/-- A power of ten in double precision, for exponents up to 308. -/
def powerOfTen (k : Nat) : Binary64 := Binary64.ofNat (Nat.pow 10 k)

/-- `significand · 10 ^ exponent` in double precision, one rounding for the significand and one for
each scaling; nothing if it exceeds the largest finite number. -/
def scaled? (significand : Nat) (exponent : Int) : Option Binary64 :=
  let x := Binary64.ofNat significand
  let k := exponent.natAbs
  if significand = 0 then some (Binary64.zero false)
  else if 0 ≤ exponent then
    if k ≤ 308 then
      let y := x.times (powerOfTen k)
      if y.isInfinite then none else some y
    else none
  else if k ≤ 308 then some (x.dividedBy (powerOfTen k))
  else if k ≤ 616 then some ((x.dividedBy (powerOfTen 308)).dividedBy (powerOfTen (k - 308)))
  else some (Binary64.zero false)

/-- The double-precision value of a token. -/
def Lexeme.double? (l : Lexeme) : Option Binary64 :=
  let fraction := l.fraction.getD []
  let (high, wholeLeft) := takeWord 0 l.whole
  let (significand, fractionLeft) := takeWord high fraction
  let places : Int := fraction.length - fractionLeft.length
  (scaled? significand (wholeLeft.length - places + l.exponent.getD 0)).map
    (Binary64.withSign l.negative)

/-- The value of a token, if it has one. -/
def Lexeme.number? (l : Lexeme) : Option Number :=
  let n := Decimal.value l.whole
  match l.fraction, l.exponent with
  | none, none =>
    if l.negative then
      if n = 0 ∨ 0x8000000000000000 < n then l.double?.map .double else some (.integer (-n))
    else
      if UInt64.size ≤ n then l.double?.map .double else some (.integer n)
  | _, _ => l.double?.map .double

end EntitySearch.Json
