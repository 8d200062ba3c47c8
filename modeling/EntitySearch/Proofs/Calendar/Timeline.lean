import EntitySearch.Proofs.Calendar.Order

/-!
# Days and minutes counted

The days of the calendar numbered without a gap, and with them the minutes of all days, so that
moving by an offset is a subtraction.

* `Date.dayNumber`: the number of a day. The day after has the next number
  (`Date.dayNumber_next`), the day before the last one (`Date.dayNumber_previous`), and earlier days
  have smaller numbers (`Date.dayNumber_lt_iff`).
* `DateTime.momentAt`: the moment at which clocks with an offset show a date-time. It tells
  date-times apart and orders them (`DateTime.momentAt_inj`, `DateTime.momentAt_lt_iff`).
* `DateTime.momentAt_minusMinutes`: what a clock with an offset shows, moved by the offset, is shown
  by the clock without one at the same moment.
-/

namespace EntitySearch.Calendar

/-- The days from the first of the year 0 to the first of a year: 365 for each year between them and
one more for each leap year. -/
def daysBeforeYear (y : ℤ) : ℤ := 365 * y + ((y + 3) / 4 - (y + 99) / 100 + (y + 399) / 400)

/-- The days of a year before the first of a month. -/
def daysBeforeMonth (y : ℤ) : ℕ → ℕ
  | 0 | 1 => 0
  | m + 2 => daysBeforeMonth y (m + 1) + daysInMonth y (m + 1)

theorem daysBeforeMonth_succ (y : ℤ) {m : ℕ} (hm : 1 ≤ m) :
    daysBeforeMonth y (m + 1) = daysBeforeMonth y m + daysInMonth y m := by
  obtain ⟨m, rfl⟩ := Nat.exists_eq_add_of_le' hm
  rfl

theorem daysBeforeMonth_le (y : ℤ) {m n : ℕ} (h : m ≤ n) :
    daysBeforeMonth y m ≤ daysBeforeMonth y n := by
  have hmono : Monotone (daysBeforeMonth y) := by
    refine monotone_nat_of_le_succ fun m => ?_
    cases m with
    | zero => rfl
    | succ m => exact Nat.le_add_right _ _
  exact hmono h

/-- A year ends with the last day of its December. -/
theorem daysBeforeYear_succ (y : ℤ) :
    daysBeforeYear (y + 1) = daysBeforeYear y + (daysBeforeMonth y 12 + 31 : ℕ) := by
  have hleap : isLeapYear y = true ↔ y % 4 = 0 ∧ (y % 100 ≠ 0 ∨ y % 400 = 0) := by
    simp [isLeapYear]
  have hmonths : daysBeforeMonth y 12 = if isLeapYear y then 335 else 334 := by
    cases h : isLeapYear y <;> simp [daysBeforeMonth, daysInMonth, h]
  rw [daysBeforeYear, daysBeforeYear, hmonths]
  simp only [hleap]
  split <;> omega

theorem daysBeforeYear_le {y z : ℤ} (h : y ≤ z) : daysBeforeYear y ≤ daysBeforeYear z := by
  have hmono : Monotone daysBeforeYear := by
    refine monotone_int_of_le_succ fun y => ?_
    rw [daysBeforeYear_succ]
    omega
  exact hmono h

namespace Date

variable {d e : Date}

/-- The number of a day, the first of the year 0 being day 1. -/
def dayNumber (d : Date) : ℤ :=
  daysBeforeYear d.year + daysBeforeMonth d.year d.month + d.day

theorem dayNumber_next (d : Date) : d.next.dayNumber = d.dayNumber + 1 := by
  obtain ⟨y, m, k, hvalid⟩ := d
  unfold next
  split
  · simp only [dayNumber]
    omega
  · next hlast =>
    have hk : k = daysInMonth y m := by
      simp only at hlast
      omega
    split
    · simp only [dayNumber, daysBeforeMonth_succ y hvalid.1, hk]
      omega
    · next hdecember =>
      have hm : m = 12 := by
        simp only at hdecember
        omega
      have hk31 : k = 31 := by
        rw [hk, hm]
        rfl
      simp only [dayNumber, daysBeforeYear_succ, hm, hk31, daysBeforeMonth]
      omega

theorem dayNumber_previous (d : Date) : d.previous.dayNumber = d.dayNumber - 1 := by
  obtain ⟨y, m, k, hvalid⟩ := d
  unfold previous
  split
  · simp only [dayNumber]
    omega
  · next hfirst =>
    have hk : k = 1 := by
      simp only at hfirst
      omega
    split
    · next hlater =>
      have hbefore := daysBeforeMonth_succ y (m := m - 1) (by simp only at hlater; omega)
      rw [Nat.sub_add_cancel hvalid.1] at hbefore
      simp only [dayNumber, hbefore, hk]
      omega
    · next hjanuary =>
      have hm : m = 1 := by
        simp only at hjanuary
        omega
      have hyear := daysBeforeYear_succ (y - 1)
      rw [Int.sub_add_cancel] at hyear
      simp only [dayNumber, hyear, hm, hk, daysBeforeMonth]
      omega

/-- A day comes before the first of the next month and that of the next year. -/
theorem dayOfYear_le (d : Date) :
    daysBeforeMonth d.year d.month + d.day ≤ daysBeforeMonth d.year (d.month + 1) ∧
      daysBeforeMonth d.year d.month + d.day ≤ daysBeforeMonth d.year 12 + 31 := by
  have hvalid := d.valid
  have hmonth := daysBeforeMonth_succ d.year hvalid.1
  have hdecember := daysBeforeMonth_succ d.year (m := 12) (by decide)
  have hlast : daysInMonth d.year 12 = 31 := rfl
  have hmono := daysBeforeMonth_le d.year (Nat.succ_le_succ hvalid.2.1)
  rw [hlast] at hdecember
  simp only [Nat.succ_eq_add_one] at hmono
  omega

theorem dayNumber_lt (h : d < e) : d.dayNumber < e.dayNumber := by
  have hd := d.dayOfYear_le
  have he := e.valid
  rw [dayNumber, dayNumber]
  rcases lt_iff.mp h with hyear | ⟨hyear, hmonth | ⟨hmonth, hday⟩⟩
  · have hmono := daysBeforeYear_le (Int.add_one_le_of_lt hyear)
    rw [daysBeforeYear_succ] at hmono
    omega
  · have hmono := daysBeforeMonth_le e.year (Nat.succ_le_of_lt hmonth)
    rw [hyear] at hd ⊢
    simp only [Nat.succ_eq_add_one] at hmono
    omega
  · rw [hyear, hmonth]
    omega

theorem dayNumber_lt_iff : d.dayNumber < e.dayNumber ↔ d < e := by
  have hmono : StrictMono dayNumber := fun _ _ => dayNumber_lt
  exact hmono.lt_iff_lt

theorem dayNumber_inj : d.dayNumber = e.dayNumber ↔ d = e := by
  have hmono : StrictMono dayNumber := fun _ _ => dayNumber_lt
  exact hmono.injective.eq_iff

end Date

namespace DateTime

variable {t u : DateTime} {offset : ℤ}

/-- The number of a minute. -/
def minuteNumber (t : DateTime) : ℤ := 1440 * t.date.dayNumber + 60 * t.time.hour + t.time.minute

/-- The moment at which clocks that many minutes ahead show a date-time: the minute by its number,
and the place in that minute. -/
def momentAt (t : DateTime) (offset : ℤ) : ℤ ×ₗ ℕ ×ₗ ℕ :=
  toLex (t.minuteNumber - offset, toLex (t.time.second, t.time.nanosecond))

/-- Moving by an offset subtracts it from the minutes, across all days, months and years. -/
theorem minuteNumber_minusMinutes (t : DateTime) (hlow : -1440 ≤ offset) (hhigh : offset ≤ 1440) :
    (t.minusMinutes offset).minuteNumber = t.minuteNumber - offset := by
  have hvalid := t.time.valid
  simp only [minuteNumber, minusMinutes]
  split
  · rw [Date.dayNumber_previous]
    omega
  · split
    · rw [Date.dayNumber_next]
      omega
    · omega

/-- A clock with an offset, moved by the offset, shows what the clock without one does. -/
theorem momentAt_minusMinutes (t : DateTime) (hlow : -1440 ≤ offset) (hhigh : offset ≤ 1440) :
    (t.minusMinutes offset).momentAt 0 = t.momentAt offset := by
  rw [momentAt, minuteNumber_minusMinutes t hlow hhigh, Int.sub_zero]
  rfl

theorem momentAt_lt_iff : t.momentAt offset < u.momentAt offset ↔ t < u := by
  have ht := t.time.valid
  have hu := u.time.valid
  have hdays := Date.dayNumber_lt_iff (d := t.date) (e := u.date)
  have hday := Date.dayNumber_inj (d := t.date) (e := u.date)
  rw [momentAt, momentAt, Prod.Lex.toLex_lt_toLex, Prod.Lex.toLex_lt_toLex, lt_iff, Time.lt_iff,
    ← hdays, ← hday, minuteNumber, minuteNumber]
  dsimp only
  omega

/-- Clocks of one offset show different date-times at different moments. -/
theorem momentAt_inj : t.momentAt offset = u.momentAt offset ↔ t = u := by
  refine ⟨fun h => ?_, fun h => h ▸ rfl⟩
  have hlt : ¬ t < u := fun hlt => absurd h (momentAt_lt_iff.mpr hlt).ne
  have hgt : ¬ u < t := fun hgt => absurd h.symm (momentAt_lt_iff.mpr hgt).ne
  exact le_antisymm (not_lt.mp hgt) (not_lt.mp hlt)

/-- At every moment that a clock without an offset shows, the clocks with one show a date-time. -/
theorem exists_momentAt (t : DateTime) (hlow : -1440 ≤ offset) (hhigh : offset ≤ 1440) :
    ∃ l : DateTime, l.momentAt offset = t.momentAt 0 := by
  refine ⟨t.minusMinutes (-offset), ?_⟩
  rw [momentAt, minuteNumber_minusMinutes t (by omega) (by omega), momentAt]
  simp [minusMinutes]

end DateTime

namespace Instant

variable {t u : Instant}

/-- The moment that an instant is. -/
def moment (t : Instant) : ℤ ×ₗ ℕ ×ₗ ℕ := t.utc.momentAt 0

theorem moment_lt_iff : t.moment < u.moment ↔ t < u := DateTime.momentAt_lt_iff

theorem moment_inj : t.moment = u.moment ↔ t = u :=
  DateTime.momentAt_inj.trans utc_injective.eq_iff

end Instant

end EntitySearch.Calendar
