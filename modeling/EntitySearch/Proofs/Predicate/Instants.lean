import EntitySearch.Proofs.Calendar.Zoned
import EntitySearch.Proofs.Predicate.TypedText
import EntitySearch.Sample.Customer

/-!
# Instants in filters

Timestamps are compared with, and are bounds, as the instants that they name, whatever offset they
are written with (`Scope.instants_normalised`).
-/

namespace EntitySearch

open Calendar

variable {l : DateTime} {offset : ℤ} {cs : List Char} {text : String} {t : Instant}

theorem TypedForm.read?_of_writesAt (hl : l.date.HasFourDigits) (hcs : l.WritesAt offset cs)
    (htext : Text.AmidBlanks text cs) (ht : l.momentAt offset = t.moment) :
    TypedForm.timestamp.read? text = some (.timestamp t) := by
  rw [read?_of_amidBlanks htext (hcs.isTrimmed hl), readChars?, hcs.read?_eq_some hl ht]
  rfl

namespace Scope

/-- **Instants are normalised.** At every instant, clocks of any offset below a day show one
date-time each, which can be written with the offset. If its year has four digits at most, its text,
amid any blanks, is read as the instant; this is what a bound is, and what a timestamp is compared
with. So two such texts stand for the same value just if they name the same moment, and the values
are in the order of the moments. -/
theorem instants_normalised :
    (∀ (t : Instant) offset zone, WritesOffset offset zone →
      (∃! l : DateTime, l.momentAt offset = t.moment) ∧
      ∀ l : DateTime, ∃ cs, l.WritesAt offset cs) ∧
    (∀ (t : Instant) (l : DateTime) offset cs text, l.momentAt offset = t.moment →
      l.date.HasFourDigits → l.WritesAt offset cs → Text.AmidBlanks text cs →
      (∀ key, TypedForm.timestamp.parse key text = .ok (.timestamp t)) ∧
      ∀ (s : Scope) (attr : String) (key : Option String) (a : Attribute), s.resolve attr = .ok a →
        (∀ side, s.filters.get? (boundKey attr key side) = some (.text text) →
          s.bounded .instant side attr key =
            .ok (some (.leaf (.compare side.compareOp a.operand (.timestamp t))))) ∧
        (a.kind = .timestamp → s.filters.get? (filterKey attr key) = some (.text text) →
          s.equals attr key = .ok (some (.leaf (.compare .equal a.operand (.timestamp t)))))) ∧
    ∀ (l l' : DateTime) offset offset' cs cs' text text',
      l.date.HasFourDigits → l.WritesAt offset cs → Text.AmidBlanks text cs →
      l'.date.HasFourDigits → l'.WritesAt offset' cs' → Text.AmidBlanks text' cs' →
      ∃ t u : Instant, TypedForm.timestamp.read? text = some (.timestamp t) ∧
        TypedForm.timestamp.read? text' = some (.timestamp u) ∧
        (t = u ↔ l.momentAt offset = l'.momentAt offset') ∧
        (t < u ↔ l.momentAt offset < l'.momentAt offset') := by
  refine ⟨fun t offset zone hzone => ⟨?_, fun l => l.exists_writesAt hzone⟩, ?_, ?_⟩
  · obtain ⟨hlow, hhigh⟩ := hzone.abs_lt
    obtain ⟨l, hl⟩ : ∃ l : DateTime, l.momentAt offset = t.moment :=
      t.utc.exists_momentAt (by omega) (by omega)
    exact ⟨l, hl, fun l' hl' => DateTime.momentAt_inj.mp (hl'.trans hl.symm)⟩
  · intro t l offset cs text ht hl hcs htext
    have hchars : TypedForm.timestamp.readChars? cs = some (.timestamp t) := by
      rw [TypedForm.readChars?, hcs.read?_eq_some hl ht]
      rfl
    refine ⟨fun key => TypedForm.parse_of_read? (TypedForm.read?_of_writesAt hl hcs htext ht),
      fun s attr key a ha => ⟨fun side hget => ?_, fun hkind hget => ?_⟩⟩
    · exact bounded_of_amidBlanks side ha rfl hget htext (hcs.isTrimmed hl) hcs.ne_nil hchars
    · exact compareWithFilter_of_amidBlanks .equal ha (by rw [hkind]; rfl) hget htext
        (hcs.isTrimmed hl) hchars
  · intro l l' offset offset' cs cs' text text' hl hcs htext hl' hcs' htext'
    obtain ⟨t, ht⟩ := hcs.exists_instant
    obtain ⟨u, hu⟩ := hcs'.exists_instant
    refine ⟨t, u, TypedForm.read?_of_writesAt hl hcs htext ht,
      TypedForm.read?_of_writesAt hl' hcs' htext' hu, ?_, ?_⟩
    · rw [ht, hu, Instant.moment_inj]
    · rw [ht, hu, Instant.moment_lt_iff]

open Sample in
/-- An hour into a new year, written with clocks that still show the old one and with clocks that
show the afternoon, is one bound and one value to compare with; it comes before an hour of a leap
day, written with clocks that show the day before. -/
theorem instants_normalised_newYear :
    let visits := Customer.entityWith [("seen", ⟨"seen", .timestampWithTimeZone⟩)] []
    let seen : Attribute := ⟨"seen", ⟨"customers", "seen"⟩, .timestamp⟩
    let old := "\u00a02023-12-31t23:30:00.500\u221201:30\t"
    let afternoon := "2024-01-01 14:45:00.5+13:45"
    let s : Scope := .new visits
      (.ofList [("seenFrom", .text old), ("seen", .text afternoon)]) .postgres
    let t : Instant := ⟨⟨⟨2024, 1, 1, by decide⟩, ⟨1, 0, 0, 500000000, by decide⟩⟩⟩
    s.bounded .instant .lower "seen" none =
      .ok (some (.leaf (.compare .atLeast seen.operand (.timestamp t)))) ∧
    s.equals "seen" none = .ok (some (.leaf (.compare .equal seen.operand (.timestamp t)))) ∧
    ∃ t u : Instant, TypedForm.timestamp.read? old = some (.timestamp t) ∧
      TypedForm.timestamp.read? "2024-02-28T23:30:00-01:30" = some (.timestamp u) ∧ t < u := by
  intro visits seen old afternoon s t
  obtain ⟨-, hread, horder⟩ := instants_normalised
  let evening : DateTime := ⟨⟨2023, 12, 31, by decide⟩, ⟨23, 30, 0, 500000000, by decide⟩⟩
  let later : DateTime := ⟨⟨2024, 1, 1, by decide⟩, ⟨14, 45, 0, 500000000, by decide⟩⟩
  let leap : DateTime := ⟨⟨2024, 2, 28, by decide⟩, ⟨23, 30, 0, 0, by decide⟩⟩
  have hevening : evening.WritesAt (-(60 * (1 : ℕ) + (30 : ℕ)))
      "2023-12-31t23:30:00.500\u221201:30".toList :=
    ⟨'t', ⟨['5', '0', '0'], List.all_eq_true.mp (by decide)⟩, _, by decide, by decide +kernel,
      .behind (.inr rfl) (by decide) (by decide), by decide +kernel⟩
  have hlater : later.WritesAt (60 * (13 : ℕ) + (45 : ℕ)) afternoon.toList :=
    ⟨' ', ⟨['5'], List.all_eq_true.mp (by decide)⟩, _, by decide, by decide +kernel,
      .ahead (by decide) (by decide), by decide +kernel⟩
  have hleap : leap.WritesAt (-(60 * (1 : ℕ) + (30 : ℕ))) "2024-02-28T23:30:00-01:30".toList :=
    ⟨'T', ⟨[], by simp⟩, _, by decide, by decide +kernel,
      .behind (.inl rfl) (by decide) (by decide), by decide +kernel⟩
  have hold : Text.AmidBlanks old "2023-12-31t23:30:00.500\u221201:30".toList :=
    ⟨['\u00a0'], ['\t'], List.forall_mem_singleton.mpr (by decide),
      List.forall_mem_singleton.mpr (by decide), by decide +kernel⟩
  refine ⟨?_, ?_, ?_⟩
  · exact ((hread t evening _ _ _ (by decide +kernel) ⟨by decide, by decide⟩ hevening hold).2 s
      "seen" none seen rfl).1 .lower rfl
  · exact ((hread t later _ _ _ (by decide +kernel) ⟨by decide, by decide⟩ hlater
      (Text.amidBlanks_toList afternoon)).2 s "seen" none seen rfl).2 rfl rfl
  · obtain ⟨t, u, ht, hu, -, hlt⟩ := horder evening leap _ _ _ _ _ _ ⟨by decide, by decide⟩ hevening
      hold ⟨by decide, by decide⟩ hleap
      (Text.amidBlanks_toList _)
    exact ⟨t, u, ht, hu, hlt.mpr (by decide +kernel)⟩

end Scope

end EntitySearch
