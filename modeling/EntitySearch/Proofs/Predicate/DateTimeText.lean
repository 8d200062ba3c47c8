import EntitySearch.Proofs.Calendar.Stamp
import EntitySearch.Proofs.Predicate.TypedText
import EntitySearch.Sample.Customer

/-!
# Date-times in filters

Date-times are read back from their texts, in the order of these (`Scope.dateTimes_read_back`).

* `TypedForm.read?_stampChars`: blanks around the text of a date-time do not count.
-/

namespace EntitySearch

open Calendar

variable {t : DateTime} {f : Fraction} {text : String}

theorem TypedForm.read?_stampChars (ht : t.date.HasFourDigits)
    (htext : Text.AmidBlanks text (t.stampChars 'T' f)) :
    TypedForm.dateTime.read? text = some (.dateTime (t.withFraction f)) := by
  rw [read?_of_amidBlanks htext (DateTime.isTrimmed_stampChars ht 'T' f), readChars?,
    DateTime.readDateTime?_stampChars ht]
  rfl

/-- The two forms may be tried in either order. -/
theorem Calendar.readDateTime?_comm (cs : List Char) : readDateTime? cs =
    ((Format.minute.read? cs).bind Fields.dateTime?).or
      ((Format.second.read? cs).bind Fields.dateTime?) := by
  rw [readDateTime?]
  rcases Format.second_or_minute cs with h | h <;> simp [h]

namespace Scope

/-- **Date-times are read back.** A date-time of a year with four digits at most, written to the
second with any number of digits of fraction or none, is read back from its text with that fraction,
cut to nanoseconds; blanks around the text do not count, and a bound is that date-time. A text to
the minute, whether or not there is such a minute, is read as it is with no seconds. No text is in
both forms, so that it does not matter which is tried first. And of texts with equally many digits
of fraction, nine at most, the one that comes first stands for the earlier date-time. -/
theorem dateTimes_read_back :
    (∀ (t : DateTime) (f : Fraction) (text : String), t.date.HasFourDigits →
      Text.AmidBlanks text (t.stampChars 'T' f) →
      (∀ key, TypedForm.dateTime.parse key text = .ok (.dateTime (t.withFraction f))) ∧
      ∀ (s : Scope) (attr : String) (base : Option String) (side : Side) (a : Attribute),
        s.resolve attr = .ok a → s.filters.get? (boundKey attr base side) = some (.text text) →
        s.bounded .dateTime side attr base =
          .ok (some (.leaf (.compare side.compareOp a.operand (.dateTime (t.withFraction f)))))) ∧
    (∀ y m d hour minute, y < 10000 → m < 100 → d < 100 → hour < 100 → minute < 100 →
      ∀ text text', Text.AmidBlanks text (dayChars y m d ++ 'T' :: clockChars hour minute) →
      Text.AmidBlanks text'
        (dayChars y m d ++ 'T' :: (clockChars hour minute ++ [':', '0', '0'])) →
      TypedForm.dateTime.read? text = TypedForm.dateTime.read? text') ∧
    (∀ cs, Format.second.read? cs = none ∨ Format.minute.read? cs = none) ∧
    (∀ cs, readDateTime? cs = ((Format.minute.read? cs).bind Fields.dateTime?).or
      ((Format.second.read? cs).bind Fields.dateTime?)) ∧
    ∀ (t u : DateTime) (f g : Fraction), t.date.HasFourDigits → u.date.HasFourDigits →
      f.digits.length = g.digits.length → f.digits.length ≤ 9 →
      let text := String.ofList (t.stampChars 'T' f)
      let text' := String.ofList (u.stampChars 'T' g)
      ∃ x y, TypedForm.dateTime.read? text = some (.dateTime x) ∧
        TypedForm.dateTime.read? text' = some (.dateTime y) ∧ (text < text' ↔ x < y) := by
  have hplain : ∀ cs, Text.AmidBlanks (String.ofList cs) cs := fun cs => by
    simpa using Text.amidBlanks_toList (String.ofList cs)
  refine ⟨fun t f text ht htext => ⟨fun key => ?_, fun s attr base side a ha hget => ?_⟩, ?_,
    Format.second_or_minute, readDateTime?_comm, ?_⟩
  · exact TypedForm.parse_of_read? (TypedForm.read?_stampChars ht htext)
  · refine bounded_of_amidBlanks side ha rfl hget htext (DateTime.isTrimmed_stampChars ht 'T' f)
      (t.stampChars_ne_nil 'T' f) ?_
    rw [TypedForm.readChars?, DateTime.readDateTime?_stampChars ht]
    rfl
  · intro y m d hour minute hy hm hd hhour hminute text text' htext htext'
    have hclock : clockChars hour minute ≠ [] := by simp [clockChars]
    have htrimmed : Text.IsTrimmed (dayChars y m d ++ (['T'] ++ clockChars hour minute)) :=
      isTrimmed_dayChars_append _ not_blank_clockChars hclock
    have hzeros : ([':', '0', '0'].all fun c => !Text.isBlankChar c) = true := by decide
    have htrimmed' : Text.IsTrimmed
        (dayChars y m d ++ ('T' :: clockChars hour minute ++ [':', '0', '0'])) :=
      isTrimmed_dayChars_append _ (by simpa using hzeros) (by simp)
    rw [TypedForm.read?_of_amidBlanks htext htrimmed,
      TypedForm.read?_of_amidBlanks htext' htrimmed', TypedForm.readChars?, TypedForm.readChars?,
      readDateTime?_minute hy hm hd hhour hminute]
  · intro t u f g ht hu hlen hle text text'
    refine ⟨_, _, TypedForm.read?_stampChars ht (hplain _),
      TypedForm.read?_stampChars hu (hplain _), ?_⟩
    rw [String.lt_iff, String.toList_ofList, String.toList_ofList]
    exact DateTime.stampChars_lt_iff ht hu hlen hle

open Sample in
/-- The last second of a leap day with ten digits of fraction, between blanks; the minute that
begins a year, with and without seconds; and two texts in the order of what they stand for. -/
theorem dateTimes_read_back_leapDay :
    let customers := Customer.entityWith Customer.attributes Customer.vehicleColumns
    let s : Scope := .new customers
      (.ofList [("created_atTo", .text "\u00a02024-02-29T23:59:59.1234567899\n")]) .sqlite
    let created : Attribute := ⟨"created_at", ⟨"customers", "created_at"⟩, .dateTime⟩
    let last : DateTime := ⟨⟨2024, 2, 29, by decide⟩, ⟨23, 59, 59, 123456789, by decide⟩⟩
    s.bounded .dateTime .upper "created_at" none =
      .ok (some (.leaf (.compare .atMost created.operand (.dateTime last)))) ∧
    TypedForm.dateTime.read? " 0000-01-01T00:00" = TypedForm.dateTime.read? "0000-01-01T00:00:00" ∧
    ∃ x y, TypedForm.dateTime.read? "1999-12-31T23:59:60.99" = some (.dateTime x) ∧
      TypedForm.dateTime.read? "2000-01-01T00:00:00.00" = some (.dateTime y) ∧ x < y := by
  intro customers s created last
  obtain ⟨hread, hminute, -, -, horder⟩ := dateTimes_read_back
  let fraction (cs : List Char) (h : cs.all Decimal.isDigit = true) : Fraction :=
    ⟨cs, List.all_eq_true.mp h⟩
  let long := fraction "1234567899".toList (by decide)
  have hblank : ∀ c : Char, Text.isBlankChar c = true → ∀ d ∈ [c], Text.isBlankChar d = true :=
    fun c hc => List.forall_mem_singleton.mpr hc
  have hnone : ∀ d ∈ ([] : List Char), Text.isBlankChar d = true := by simp
  refine ⟨?_, ?_, ?_⟩
  · have htext : Text.AmidBlanks "\u00a02024-02-29T23:59:59.1234567899\n"
        (last.stampChars 'T' long) :=
      ⟨['\u00a0'], ['\n'], hblank _ (by decide), hblank _ (by decide), by decide +kernel⟩
    have hlast : last.withFraction long = last := by decide +kernel
    have hbound := (hread last long _ ⟨by decide, by decide⟩ htext).2 s "created_at" none .upper
      created rfl rfl
    rwa [hlast] at hbound
  · refine hminute 0 1 1 0 0 (by decide) (by decide) (by decide) (by decide) (by decide) _ _
      ⟨[' '], [], hblank _ (by decide), hnone, ?_⟩ ⟨[], [], hnone, hnone, ?_⟩ <;> decide +kernel
  · let before : DateTime := ⟨⟨1999, 12, 31, by decide⟩, ⟨23, 59, 60, 0, by decide⟩⟩
    let behind : DateTime := ⟨⟨2000, 1, 1, by decide⟩, ⟨0, 0, 0, 0, by decide⟩⟩
    have htexts := horder before behind (fraction ['9', '9'] (by decide))
      (fraction ['0', '0'] (by decide)) ⟨by decide, by decide⟩ ⟨by decide, by decide⟩ rfl
      (by decide)
    have htext : String.ofList (before.stampChars 'T' (fraction ['9', '9'] (by decide))) =
        "1999-12-31T23:59:60.99" := by decide +kernel
    have htext' : String.ofList (behind.stampChars 'T' (fraction ['0', '0'] (by decide))) =
        "2000-01-01T00:00:00.00" := by decide +kernel
    rw [htext, htext'] at htexts
    obtain ⟨x, y, hx, hy, hlt⟩ := htexts
    exact ⟨x, y, hx, hy, hlt.mp (by decide +kernel)⟩

end Scope

end EntitySearch
