import EntitySearch.Text.CaseTable

/-!
# Letter case

Keywords (`asc`, `true`, `infinity`, …) are recognised whatever the case of their letters. Only the
letters `A` to `Z` have case there: a letter outside ASCII never equals one inside it.

Text that is matched is upper-cased instead. Every character is replaced by its full upper-case form,
which may be longer than the character: `ß` becomes `SS`. Characters without case stay as they are,
and no character's form depends on its neighbours.
-/

namespace EntitySearch.Text

/-! ## Case in ASCII -/

/-- A character with `A` … `Z` replaced by `a` … `z`. -/
def lowerAscii (c : Char) : Char :=
  if 'A'.toNat ≤ c.toNat && c.toNat ≤ 'Z'.toNat then Char.ofNat (c.toNat + 32) else c

/-- Whether two lists of characters are equal up to ASCII case. -/
def sameLetters (a b : List Char) : Bool := a.map lowerAscii == b.map lowerAscii

/-- Whether two texts are equal up to ASCII case. -/
def equalsIgnoringCase (a b : String) : Bool := sameLetters a.toList b.toList

/-! ## Upper case -/

/-- The upper-case form of a character. -/
def upperForm (c : Char) : List Char :=
  let n := c.toNat
  if n < 0x80 then
    if 'a'.toNat ≤ n && n ≤ 'z'.toNat then [Char.ofNat (n - 32)] else [c]
  else
    match caseExpansions.lookup n with
    | some form => form.map Char.ofNat
    | none =>
      match caseRuns.find? (·.covers n) with
      | some r => [Char.ofNat (n + r.delta).toNat]
      | none => [c]

/-- Upper-casing on characters. -/
def upperChars (cs : List Char) : List Char := cs.flatMap upperForm

/-- The text with every character upper-cased. -/
def upperCase (s : String) : String := String.ofList (upperChars s.toList)

end EntitySearch.Text
