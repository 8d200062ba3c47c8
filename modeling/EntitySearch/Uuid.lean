import EntitySearch.Decimal.Numeral
import EntitySearch.Text.LetterCase

/-!
# UUIDs

A UUID is a number of 128 bits. It may be written as 32 hexadecimal digits, in five groups with
hyphens between them, as these groups in braces, or as these groups after `urn:uuid:`; the case of
the letters never matters. It is written out as the groups alone, in lower case.
-/

namespace EntitySearch

/-- A UUID, as a number of 128 bits. -/
structure Uuid where
  value : BitVec 128
deriving DecidableEq

namespace Uuid

/-- The lengths of the hyphenated groups. -/
def groupLengths : List Nat := [8, 4, 4, 4, 12]

/-- The lowest `n` hexadecimal digits of a number, in lower case. -/
def hexChars : Nat → Nat → List Char
  | 0, _ => []
  | n + 1, v => hexChars n (v / 16) ++ [Text.hexChar (v % 16)]

/-- Cuts characters into groups of the given lengths, with a hyphen between two groups. -/
def hyphenate : List Nat → List Char → List Char
  | [], cs => cs
  | [_], cs => cs
  | n :: ns, cs => cs.take n ++ '-' :: hyphenate ns (cs.drop n)

/-- A UUID as hyphenated groups of lower-case digits. -/
def text (u : Uuid) : String := String.ofList (hyphenate groupLengths (hexChars 32 u.value.toNat))

/-- Joins groups of the given lengths, which must be separated by hyphens and end the text. -/
def dehyphenate? : List Nat → List Char → Option (List Char)
  | [], cs => if cs.isEmpty then some [] else none
  | [n], cs => if cs.length = n then some cs else none
  | n :: ns, cs =>
    match cs.drop n with
    | '-' :: r => (dehyphenate? ns r).map (cs.take n ++ ·)
    | _ => none

/-- Reads hexadecimal digits on top of `acc`. -/
def readHex? (acc : Nat) : List Char → Option Nat
  | [] => some acc
  | c :: cs => (Text.hexValue? c).bind fun d => readHex? (16 * acc + d) cs

/-- Reads 32 hexadecimal digits. -/
def readDigits? (cs : List Char) : Option Uuid :=
  if cs.length = 32 then
    (readHex? 0 cs).map fun n => ⟨BitVec.ofNat 128 n⟩
  else none

/-- Reads hyphenated groups. -/
def readGroups? (cs : List Char) : Option Uuid := (dehyphenate? groupLengths cs).bind readDigits?

/-- The characters in front of the groups of a uniform resource name. -/
def urnStart : List Char := "urn:uuid:".toList

/-- Reads a UUID in any of its four forms. -/
def read? (cs : List Char) : Option Uuid :=
  if cs.length = 32 then readDigits? cs
  else if cs.head? == some '{' && cs.getLast? == some '}' then
    readGroups? (cs.drop 1).dropLast
  else if Text.sameLetters (cs.take urnStart.length) urnStart then
    readGroups? (cs.drop urnStart.length)
  else readGroups? cs

end Uuid

end EntitySearch
