import EntitySearch.Proofs.Filter.Given
import EntitySearch.Proofs.Json.Rendering
import EntitySearch.Proofs.Text.Trim

/-!
# Integers in filters

An integer of 64 bits as the value of a filter: a JSON number, or text.

* `Decimal.SpelledInt`: the ways of writing an integer with a sign and zeros in front, and
  `Text.SpellsInt` with blank characters around it. Such text is read as the integer itself and not
  through a double (`FilterValue.number?_of_spellsInt`).
* `FilterValue.ofInt_eq`, `FilterValue.text?_ofInt`: the value of a JSON number that is an integer,
  as it is and as text.
* `FilterValue.readWhole?_intText`, `FilterValue.readWhole?_quoted`: the digits of an integer as the
  text of a JSON number and in the text of a JSON string.
* `FilterValue.Shows`, `FilterValue.Writes`: the values that show an integer.
-/

namespace EntitySearch

/-! ## Text -/

namespace Decimal

/-- The ways of writing an integer in decimal digits: with `-` in front if it is negative, else with
`+` or nothing, and then any number of zeros before the digits. -/
inductive SpelledInt : Int → List Char → Prop where
  | plain {zeros : List Char} (hzeros : ∀ c ∈ zeros, c = '0') (n : Nat) :
      SpelledInt n (zeros ++ digits n)
  | plus {zeros : List Char} (hzeros : ∀ c ∈ zeros, c = '0') (n : Nat) :
      SpelledInt n ('+' :: (zeros ++ digits n))
  | minus {zeros : List Char} (hzeros : ∀ c ∈ zeros, c = '0') {n : Nat} (hn : 0 < n) :
      SpelledInt (-n) ('-' :: (zeros ++ digits n))

variable {n : Int} {cs : List Char}

theorem isDigits_zeros_append {zeros : List Char} (hzeros : ∀ c ∈ zeros, c = '0') (n : Nat) :
    Json.IsDigits (zeros ++ digits n) := by
  refine ⟨by simp [digits_ne_nil], fun c hc => ?_⟩
  rcases List.mem_append.mp hc with hc | hc
  · obtain rfl := hzeros c hc
    decide
  · exact isDigit_of_mem_digits hc

theorem SpelledInt.readInt?_eq (h : SpelledInt n cs) : readInt? cs = some n := by
  cases h with
  | plain hzeros n =>
    rw [(isDigits_zeros_append hzeros n).readInt?_eq, value_zeros_append hzeros, value_digits]
  | plus hzeros n =>
    rw [(isDigits_zeros_append hzeros n).readInt?_plus, value_zeros_append hzeros, value_digits]
  | @minus _ hzeros n hn =>
    rw [(isDigits_zeros_append hzeros n).readInt?_minus, value_zeros_append hzeros, value_digits]

theorem SpelledInt.not_blank (h : SpelledInt n cs) : ∀ c ∈ cs, Text.isBlankChar c = false := by
  have hdigit : ∀ zeros : List Char, (∀ c ∈ zeros, c = '0') → ∀ m, ∀ c ∈ zeros ++ digits m,
      Text.isBlankChar c = false := fun zeros hzeros m c hc =>
    isBlankChar_of_isDigit ((isDigits_zeros_append hzeros m).2 c hc)
  intro c hc
  cases h with
  | plain hzeros n => exact hdigit _ hzeros n c hc
  | plus hzeros n | minus hzeros hn =>
    rcases List.mem_cons.mp hc with rfl | hc
    · decide
    · exact hdigit _ hzeros _ c hc

end Decimal

/-- The texts that write an integer, with any blank characters around it. -/
def Text.SpellsInt (n : Int) (t : String) : Prop :=
  ∃ before cs after, (∀ c ∈ before, isBlankChar c = true) ∧ (∀ c ∈ after, isBlankChar c = true) ∧
    Decimal.SpelledInt n cs ∧ t.toList = before ++ (cs ++ after)

namespace FilterValue

variable {n : Int}

/-- Text that writes an integer of 64 bits is read as that integer. -/
theorem number?_of_spellsInt {t : String} (ht : Text.SpellsInt n t) (hlow : -2 ^ 63 ≤ n)
    (hhigh : n < 2 ^ 63) : (text t).number? = some (.bigInt (Int64.ofInt n)) := by
  obtain ⟨before, cs, after, hbefore, hafter, hcs, ht⟩ := ht
  have hamid : Text.AmidBlanks t cs := ⟨before, after, hbefore, hafter, ht⟩
  have htrim : Text.trimChars t.toList = cs :=
    hamid.trimChars_eq (Text.isTrimmed_of_forall hcs.not_blank)
  have hread : Decimal.readInt64? cs = some (Int64.ofInt n) := by
    rw [Decimal.readInt64?, hcs.readInt?_eq, Option.bind_some, if_pos (by omega)]
  rw [number?, numberOfText?, htrim, hread]
  rfl

/-! ## JSON numbers -/

/-- An integer of 64 bits has 32 bits if these suffice. -/
theorem ofInt_eq (hlow : -2 ^ 63 ≤ n) (hhigh : n < 2 ^ 63) :
    ofInt n = if -2 ^ 31 ≤ n ∧ n < 2 ^ 31 then int (Int32.ofInt n) else long (Int64.ofInt n) := by
  unfold ofInt
  split
  · rw [if_pos (by omega)]
  · rw [if_pos (by omega), if_neg (by omega)]

theorem text?_ofInt (hlow : -2 ^ 63 ≤ n) (hhigh : n < 2 ^ 63) :
    (ofInt n).text? = some (Decimal.intText n) := by
  rw [ofInt_eq hlow hhigh]
  split
  · rw [text?, Int32.toInt_ofInt_of_le (by omega) (by omega)]
  · rw [text?, Int64.toInt_ofInt_of_le (by omega) (by omega)]

theorem readWhole?_intText (hlow : -2 ^ 63 ≤ n) (hhigh : n < 2 ^ 63) :
    (Json.readWhole? (Decimal.intText n)).bind ofJson? = some (ofInt n) := by
  have hread : Json.read? (Decimal.intText n) = some (.number (.integer n)) :=
    (Json.Layout.token (Json.spelled_integer hlow (by omega))).read?_of_denotes (.number _)
  rw [Json.readWhole?, hread]
  rfl

theorem readWhole?_quoted (s : String) :
    (Json.readWhole? (String.ofList (Json.quoted s))).bind ofJson? = some (text s) := by
  have hread : Json.read? (String.ofList (Json.quoted s)) = some (.string s) :=
    (Json.Layout.token (Json.spelled_quoted s)).read?_of_denotes (.text s)
  rw [Json.readWhole?, hread]
  rfl

/-! ## Both -/

/-- The values that show an integer: the JSON number, and text that spells it. -/
inductive Shows (n : Int) : FilterValue → Prop where
  | number : Shows n (ofInt n)
  | text {t : String} (ht : Text.SpellsInt n t) : Shows n (text t)

/-- The values that write an integer: the JSON number, and its decimal digits as text. -/
inductive Writes (n : Int) : FilterValue → Prop where
  | number : Writes n (ofInt n)
  | text : Writes n (text (Decimal.intText n))

theorem Writes.text?_eq {v : FilterValue} (h : v.Writes n) (hlow : -2 ^ 63 ≤ n)
    (hhigh : n < 2 ^ 63) : v.text? = some (Decimal.intText n) := by
  cases h with
  | number => exact text?_ofInt hlow hhigh
  | text => rfl

end FilterValue

end EntitySearch
