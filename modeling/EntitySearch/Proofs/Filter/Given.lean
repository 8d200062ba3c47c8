import EntitySearch.Filter.Filters
import EntitySearch.Proofs.Decimal.Digits

/-!
# Filters that are given

A filter whose value is blank text counts as one that is not given, wherever text or numbers are
looked for.

* `FilterValue.isBlank_text?`: only text can be blank. Every other scalar has a character that is
  not, once it is written as text.
* `Filters.given?`: the value of a filter unless it is blank text. The views as text and as a number
  see no more of a filter than this (`nonBlankText?_eq_given?`, `number?_eq_given?`).
* `Filters.given?_insert_blank`: blank text under a name is as good as no value.
-/

namespace EntitySearch

/-- Whether a value is blank text. -/
def FilterValue.isBlankText : FilterValue → Bool
  | text s => Text.isBlank s
  | _ => false

/-! ## Values as text -/

namespace Decimal

/-- A number has a digit, which is not blank. -/
theorem exists_mem_digits (n : Nat) : ∃ c ∈ digits n, Text.isBlankChar c = false := by
  obtain ⟨c, hc⟩ := List.exists_mem_of_ne_nil _ (digits_ne_nil n)
  exact ⟨c, hc, isBlankChar_of_isDigit (isDigit_of_mem_digits hc)⟩

theorem exists_mem_intChars (n : Int) : ∃ c ∈ intChars n, Text.isBlankChar c = false := by
  obtain ⟨c, hc, hblank⟩ := exists_mem_digits n.natAbs
  refine ⟨c, ?_, hblank⟩
  unfold intChars
  split
  · exact List.mem_cons_of_mem _ hc
  · exact hc

theorem exists_mem_positional (d : Scaled) : ∃ c ∈ d.positional, Text.isBlankChar c = false := by
  unfold Scaled.positional
  dsimp only
  split
  · obtain ⟨c, hc, hblank⟩ := exists_mem_digits d.mantissa
    exact ⟨c, List.mem_append_left _ hc, hblank⟩
  · split
    · exact ⟨'.', by simp, by decide⟩
    · exact ⟨'0', by simp, by decide⟩

end Decimal

namespace Text

theorem isBlank_ofList {cs : List Char} (h : ∃ c ∈ cs, isBlankChar c = false) :
    isBlank (String.ofList cs) = false := by
  obtain ⟨c, hc, hblank⟩ := h
  cases hall : isBlank (String.ofList cs) with
  | false => rfl
  | true =>
    have hc' := (isBlank_iff _).mp hall c (by rwa [String.toList_ofList])
    rw [hblank] at hc'
    cases hc'

end Text

theorem Decimal.isBlank_plainText (x : Binary64) : Text.isBlank (plainText x) = false := by
  unfold plainText
  split
  · decide
  · refine Text.isBlank_ofList ?_
    have hbody : ∃ c ∈ (if x.isInfinite then "inf".toList else if x.isZero then ['0']
        else (Shortest.find .up x).positional), Text.isBlankChar c = false := by
      split
      · exact ⟨'i', by decide, by decide⟩
      · split
        · exact ⟨'0', by decide, by decide⟩
        · exact exists_mem_positional _
    obtain ⟨c, hc, hblank⟩ := hbody
    refine ⟨c, ?_, hblank⟩
    split
    · exact List.mem_cons_of_mem _ hc
    · exact hc

/-- A value that is not blank text is not blank once it is written as text. -/
theorem FilterValue.isBlank_text? {v : FilterValue} {t : String} (h : v.text? = some t)
    (hv : v.isBlankText = false) : Text.isBlank t = false := by
  cases v with
  | text s =>
    obtain rfl := Option.some.inj h
    exact hv
  | bool b =>
    obtain rfl := Option.some.inj h
    cases b <;> decide
  | int n | long n =>
    obtain rfl := Option.some.inj h
    exact Text.isBlank_ofList (Decimal.exists_mem_intChars _)
  | float x =>
    obtain rfl := Option.some.inj h
    exact Decimal.isBlank_plainText x
  | list items => cases h

/-! ## Views of a filter -/

namespace Filters

variable {f g : Filters} {key : String}

/-- The value of a name, unless it is blank text. -/
def given? (f : Filters) (key : String) : Option FilterValue :=
  (f.get? key).filter fun v => !v.isBlankText

theorem given?_congr (h : f.get? key = g.get? key) : f.given? key = g.given? key := by
  rw [given?, given?, h]

/-- Blank text under a name is not given, just like no value at all. -/
theorem given?_insert_blank {t : String} (ht : Text.isBlank t = true) (name : String) :
    (f.insert name (.text t)).given? key = (f.erase name).given? key := by
  unfold given?
  rw [get?_insert, get?_erase]
  split
  · simp [FilterValue.isBlankText, ht]
  · rfl

/-- The text of a name: the value is a scalar whose text is not blank. -/
theorem nonBlankText?_eq_some_iff {u : String} : f.nonBlankText? key = some u ↔
    ∃ v, f.get? key = some v ∧ v.text? = some u ∧ Text.isBlank u = false := by
  simp only [nonBlankText?, text?, Option.filter_eq_some_iff, Option.bind_eq_some_iff,
    Bool.not_eq_true', ← exists_and_right, and_assoc]

theorem nonBlankText?_eq_given? (f : Filters) (key : String) :
    f.nonBlankText? key =
      ((f.given? key).bind FilterValue.text?).filter fun s => !Text.isBlank s := by
  unfold nonBlankText? text? given?
  cases f.get? key with
  | none => rfl
  | some v =>
    cases v with
    | text s =>
      rw [Option.filter_some, Option.bind_some]
      cases hs : Text.isBlank s <;> simp [FilterValue.text?, FilterValue.isBlankText, hs]
    | _ => rfl

theorem numberOfText?_blank {t : String} (ht : Text.isBlank t = true) :
    FilterValue.numberOfText? t = none := by
  have htrim : Text.trimChars t.toList = [] :=
    (Text.trimChars_eq_nil_iff t.toList).mpr ((Text.isBlank_iff t).mp ht)
  rw [FilterValue.numberOfText?, htrim]
  rfl

theorem number?_eq_given? (f : Filters) (key : String) :
    f.number? key = (f.given? key).bind FilterValue.number? := by
  unfold number? given?
  cases f.get? key with
  | none => rfl
  | some v =>
    cases v with
    | text s =>
      rw [Option.filter_some, Option.bind_some]
      cases hs : Text.isBlank s with
      | false => simp [FilterValue.isBlankText, hs]
      | true => simp [FilterValue.isBlankText, FilterValue.number?, hs, numberOfText?_blank hs]
    | _ => rfl

theorem nonBlankText?_congr (h : f.given? key = g.given? key) :
    f.nonBlankText? key = g.nonBlankText? key := by
  rw [nonBlankText?_eq_given?, nonBlankText?_eq_given?, h]

theorem number?_congr (h : f.given? key = g.given? key) : f.number? key = g.number? key := by
  rw [number?_eq_given?, number?_eq_given?, h]

end Filters

end EntitySearch
