/-!
# Blank text

Blank characters are those with Unicode's `White_Space` property, and no others: a zero-width
space or a byte order mark is not blank. Text made of blank characters only counts as absent
wherever a filter, a sort key or a search text may be left out.

* `isBlank_iff`: a text is blank exactly if every character of it is.
* `trimChars_eq_nil_iff`: trimming leaves nothing exactly of blank text.
-/

namespace EntitySearch.Text

/-- The characters with the `White_Space` property. -/
def isBlankChar (c : Char) : Bool :=
  let n := c.toNat
  (0x09 ≤ n && n ≤ 0x0D) || n == 0x20 || n == 0x85 || n == 0xA0 || n == 0x1680 ||
    (0x2000 ≤ n && n ≤ 0x200A) || n == 0x2028 || n == 0x2029 || n == 0x202F || n == 0x205F ||
    n == 0x3000

/-- The characters without the blank ones in front. -/
def trimStartChars (cs : List Char) : List Char := cs.dropWhile isBlankChar

/-- The characters without the blank ones at either end. -/
def trimChars (cs : List Char) : List Char :=
  (trimStartChars (trimStartChars cs).reverse).reverse

/-- The text without the blank characters at either end. -/
def trim (s : String) : String := String.ofList (trimChars s.toList)

/-- Whether a text has no character that is not blank. -/
def isBlank (s : String) : Bool := s.toList.all isBlankChar

theorem isBlank_iff (s : String) : isBlank s = true ↔ ∀ c ∈ s.toList, isBlankChar c = true := by
  simp [isBlank]

theorem trimStartChars_eq_nil_iff (cs : List Char) :
    trimStartChars cs = [] ↔ ∀ c ∈ cs, isBlankChar c = true := by
  induction cs with
  | nil => simp [trimStartChars]
  | cons c r ih => by_cases h : isBlankChar c <;> simp_all [trimStartChars]

theorem trimChars_eq_nil_iff (cs : List Char) :
    trimChars cs = [] ↔ ∀ c ∈ cs, isBlankChar c = true := by
  rw [trimChars, List.reverse_eq_nil_iff, trimStartChars_eq_nil_iff]
  simp only [List.mem_reverse]
  constructor
  · intro h
    rw [← trimStartChars_eq_nil_iff]
    cases hr : trimStartChars cs with
    | nil => rfl
    | cons c r =>
      have hc := List.head?_dropWhile_not isBlankChar cs
      rw [trimStartChars] at hr h
      simp_all
  · intro h
    simp [(trimStartChars_eq_nil_iff cs).2 h]

end EntitySearch.Text
