import EntitySearch.Proofs.Calendar.Stamp
import EntitySearch.Proofs.Calendar.Timeline

/-!
# Timestamps

Instants as timestamps write them: what a clock with some offset shows at the instant, and the
offset behind it.

* `WritesOffset`: the ways of writing an offset, read by `WritesOffset.readOffset?_eq`.
* `DateTime.WritesAt`: the ways of writing what a clock shows together with its offset.
* `DateTime.WritesAt.read?_eq_some`: such a text is read as the instant at which the clock shows it.
-/

namespace EntitySearch.Calendar

open Decimal (padded isDigit)

/-! ## Offsets -/

/-- The ways of writing an offset in minutes: `Z` in either case for none, and a sign with hours
below 24 and minutes below 60, where the minus may also be U+2212. -/
inductive WritesOffset : ℤ → List Char → Prop where
  | zulu {c : Char} (hc : c = 'Z' ∨ c = 'z') : WritesOffset 0 [c]
  | ahead {h m : ℕ} (hh : h < 24) (hm : m < 60) :
    WritesOffset (60 * h + m) ('+' :: clockChars h m)
  | behind {c : Char} (hc : c = '-' ∨ c = '−') {h m : ℕ} (hh : h < 24) (hm : m < 60) :
    WritesOffset (-(60 * h + m)) (c :: clockChars h m)

variable {n w : ℕ} {offset : ℤ} {cs zone : List Char}

theorem readDigits?_padded (hw : 0 < w) (hn : n < 10 ^ w) (rest : List Char) :
    Instant.readDigits? w (padded w n ++ rest) = some (n, rest) := by
  have hlen : (padded w n).length = w := Decimal.length_padded hw hn
  have hall : (padded w n).all isDigit = true :=
    List.all_eq_true.mpr fun _ hc => Decimal.isDigit_of_mem_padded hc
  rw [Instant.readDigits?, List.take_left' hlen, List.drop_left' hlen, if_pos ⟨hlen, hall⟩,
    Decimal.value_padded]

namespace WritesOffset

theorem abs_lt (h : WritesOffset offset cs) : -1440 < offset ∧ offset < 1440 := by
  cases h <;> omega

theorem ne_nil (h : WritesOffset offset cs) : cs ≠ [] := by
  cases h <;> simp

theorem not_blank (h : WritesOffset offset cs) : ∀ c ∈ cs, Text.isBlankChar c = false := by
  cases h with
  | zulu hc =>
    rcases hc with rfl | rfl <;> exact List.forall_mem_singleton.mpr (by decide)
  | ahead => exact List.forall_mem_cons.mpr ⟨by decide, not_blank_clockChars⟩
  | behind hc =>
    rcases hc with rfl | rfl <;>
      exact List.forall_mem_cons.mpr ⟨by decide, not_blank_clockChars⟩

/-- No offset goes on with the digits in front of it, or begins with a point. -/
theorem head?_not_isDigit (h : WritesOffset offset cs) :
    ∀ c ∈ cs.head?, isDigit c = false ∧ c ≠ '.' := by
  cases h with
  | zulu hc =>
    rintro c ⟨⟩
    rcases hc with rfl | rfl <;> decide
  | ahead =>
    rintro c ⟨⟩
    decide
  | behind hc =>
    rintro c ⟨⟩
    rcases hc with rfl | rfl <;> decide

/-- An offset is read as it is written. -/
theorem readOffset?_eq (h : WritesOffset offset cs) : Instant.readOffset? cs = some offset := by
  have hclock : ∀ {h m : ℕ}, h < 24 → m < 60 → ∃ r,
      Instant.readDigits? 2 (clockChars h m) = some (h, r) ∧
      Instant.readChar? (· == ':') r = some (padded 2 m) ∧
      Instant.readDigits? 2 (padded 2 m) = some (m, []) := by
    intro h m hh hm
    have hminutes := readDigits?_padded (w := 2) (n := m) (by decide) (by omega) []
    rw [List.append_nil] at hminutes
    exact ⟨_, readDigits?_padded (by decide) (by omega) _, rfl, hminutes⟩
  cases h with
  | zulu hc => rcases hc with rfl | rfl <;> rfl
  | @ahead h m hh hm =>
    obtain ⟨r, hhours, hcolon, hminutes⟩ := hclock hh hm
    have hrange : ¬ (24 ≤ h ∨ 60 ≤ m) := by omega
    simp [Instant.readOffset?, hhours, hcolon, hminutes, hrange]
  | @behind c hc h m hh hm =>
    obtain ⟨r, hhours, hcolon, hminutes⟩ := hclock hh hm
    have hrange : ¬ (24 ≤ h ∨ 60 ≤ m) := by omega
    rcases hc with rfl | rfl <;>
      simp [Instant.readOffset?, hhours, hcolon, hminutes, hrange]

end WritesOffset

/-! ## Texts -/

namespace DateTime

/-- The ways of writing what a clock shows with its offset: the date and the time with a `T`, in
either case, or a space between them, and any digits of the fraction that make its nanoseconds. -/
def WritesAt (t : DateTime) (offset : ℤ) (cs : List Char) : Prop :=
  ∃ sep f zone, (sep = 'T' ∨ sep = 't' ∨ sep = ' ') ∧ f.nanoseconds = t.time.nanosecond ∧
    WritesOffset offset zone ∧ cs = t.stampChars sep f ++ zone

variable {t : DateTime}

namespace WritesAt

theorem isTrimmed (h : t.WritesAt offset cs) (ht : t.date.HasFourDigits) : Text.IsTrimmed cs := by
  obtain ⟨sep, f, zone, -, -, hzone, rfl⟩ := h
  exact isTrimmed_stampChars_append ht sep f hzone.not_blank

theorem ne_nil (h : t.WritesAt offset cs) : cs ≠ [] := by
  obtain ⟨sep, f, zone, -, -, hzone, rfl⟩ := h
  exact List.append_ne_nil_of_right_ne_nil _ hzone.ne_nil

/-- The text is read as the date-time moved by the offset. -/
theorem read?_eq (h : t.WritesAt offset cs) (ht : t.date.HasFourDigits) :
    Instant.read? cs = some ⟨t.minusMinutes offset⟩ := by
  obtain ⟨sep, f, zone, hsep, hf, hzone, rfl⟩ := h
  obtain ⟨hhour, hminute, hsecond⟩ := t.time_lt
  have hfraction : readFraction? (f.chars ++ zone) = some (t.time.nanosecond, zone) :=
    hf ▸ f.readFraction?_append hzone.head?_not_isDigit
  have hdash : ∀ r, Instant.readChar? (· == '-') ('-' :: r) = some r := fun _ => rfl
  have hcolon : ∀ r, Instant.readChar? (· == ':') (':' :: r) = some r := fun _ => rfl
  have hbetween : ∀ r, Instant.readChar? (fun c => c == 'T' || c == 't' || c == ' ') (sep :: r) =
      some r := fun _ => if_pos (by simpa [or_assoc] using hsep)
  have htext : t.stampChars sep f ++ zone = padded 4 t.date.year.natAbs ++ '-' ::
      (padded 2 t.date.month ++ '-' :: (padded 2 t.date.day ++ sep :: (padded 2 t.time.hour ++
        ':' :: (padded 2 t.time.minute ++ ':' :: (padded 2 t.time.second ++
          (f.chars ++ zone)))))) := by
    simp only [stampChars, Date.chars_eq ht, dayChars, Time.minuteChars, List.append_assoc,
      List.cons_append]
  rw [htext, Instant.read?]
  refine Option.bind_eq_some_iff.mpr ⟨_, readDigits?_padded (by decide) ht.natAbs_lt _, ?_⟩
  refine Option.bind_eq_some_iff.mpr ⟨_, hdash _, ?_⟩
  refine Option.bind_eq_some_iff.mpr ⟨_, readDigits?_padded (by decide) t.date.month_lt _, ?_⟩
  refine Option.bind_eq_some_iff.mpr ⟨_, hdash _, ?_⟩
  refine Option.bind_eq_some_iff.mpr ⟨_, readDigits?_padded (by decide) t.date.day_lt _, ?_⟩
  refine Option.bind_eq_some_iff.mpr ⟨_, hbetween _, ?_⟩
  refine Option.bind_eq_some_iff.mpr ⟨_, readDigits?_padded (by decide) hhour _, ?_⟩
  refine Option.bind_eq_some_iff.mpr ⟨_, hcolon _, ?_⟩
  refine Option.bind_eq_some_iff.mpr ⟨_, readDigits?_padded (by decide) hminute _, ?_⟩
  refine Option.bind_eq_some_iff.mpr ⟨_, hcolon _, ?_⟩
  refine Option.bind_eq_some_iff.mpr ⟨_, readDigits?_padded (by decide) hsecond _, ?_⟩
  refine Option.bind_eq_some_iff.mpr ⟨_, hfraction, ?_⟩
  refine Option.bind_eq_some_iff.mpr ⟨_, hzone.readOffset?_eq, ?_⟩
  exact Option.bind_eq_some_iff.mpr ⟨_, dateTime?_parts ht, rfl⟩

/-- A text is read as the instant at which the clock shows what is written. -/
theorem read?_eq_some (h : t.WritesAt offset cs) (ht : t.date.HasFourDigits) {u : Instant}
    (hu : t.momentAt offset = u.moment) : Instant.read? cs = some u := by
  obtain ⟨sep, f, zone, -, -, hzone, -⟩ := id h
  obtain ⟨hlow, hhigh⟩ := hzone.abs_lt
  rw [h.read?_eq ht, Option.some.injEq, ← Instant.moment_inj, ← hu, Instant.moment,
    momentAt_minusMinutes t (by omega) (by omega)]

/-- What a clock shows is shown at some instant. -/
theorem exists_instant (h : t.WritesAt offset cs) :
    ∃ u : Instant, t.momentAt offset = u.moment := by
  obtain ⟨sep, f, zone, -, -, hzone, -⟩ := h
  obtain ⟨hlow, hhigh⟩ := hzone.abs_lt
  exact ⟨⟨t.minusMinutes offset⟩, (momentAt_minusMinutes t (by omega) (by omega)).symm⟩

end WritesAt

/-- Nine digits of fraction write every date-time. -/
theorem exists_writesAt (t : DateTime) (hzone : WritesOffset offset zone) :
    ∃ cs, t.WritesAt offset cs := by
  have hvalid := t.time.valid
  have hlength : (padded 9 t.time.nanosecond).length = 9 :=
    Decimal.length_padded (by decide) hvalid.2.2.2
  let f : Fraction := ⟨padded 9 t.time.nanosecond, fun _ => Decimal.isDigit_of_mem_padded⟩
  have hf : f.nanoseconds = t.time.nanosecond := by
    rw [f.nanoseconds_of_length_le (Nat.le_of_eq hlength), Decimal.value_padded, hlength]
    exact Nat.mul_one _
  exact ⟨_, 'T', f, zone, .inl rfl, hf, hzone, rfl⟩

end DateTime

end EntitySearch.Calendar
