import EntitySearch.Calendar.Format
import EntitySearch.Proofs.Calendar.Order
import EntitySearch.Proofs.Decimal.Digits
import EntitySearch.Proofs.Text.Trim

/-!
# Dates as they are written

How formats read numerals, and the days and minutes of free text.

* `Numeral`: the ways of writing a number with so many digits at most.
* `readNumeral?_append`, `Numeral.readField?_eq`, `readField?_padded`, `readYear?_padded`: a numeral
  is read up to the character behind it.
* `Format.read?_append_eq_none`: no text is in a format and in a longer one that begins with it.
* `WritesDay`, `WritesMinute`: the texts of the form `DD/MM/YYYY` and `DD/MM/YYYY HH:MM`, whether or
  not there is such a day or minute. They are read as what they write
  (`WritesDay.readSearchDay?_eq_some_iff`, `WritesMinute.readSearchMinute?_eq_some_iff`).
* `readSearchMinute?_or_readSearchDay?`: no text is read both as a minute and as a day.
* `Date.text_inj`, `DateTime.minuteText_inj`: different days, and different minutes, are written
  differently.
-/

namespace EntitySearch.Calendar

open Decimal (digits padded isDigit value)

/-! ## Numerals -/

/-- The ways of writing a number with at most `w` digits: without zeros in front, or filled up with
them. -/
def Numeral (w n : Nat) (ds : List Char) : Prop :=
  n < 10 ^ w ∧ (ds = digits n ∨ ds = padded w n)

variable {w n : Nat} {ds rest : List Char}

theorem numeral_padded (h : n < 10 ^ w) : Numeral w n (padded w n) := ⟨h, .inr rfl⟩

namespace Numeral

theorem all_isDigit (h : Numeral w n ds) : ∀ c ∈ ds, isDigit c = true := by
  obtain ⟨-, rfl | rfl⟩ := h
  · exact fun c => Decimal.isDigit_of_mem_digits
  · exact fun c => Decimal.isDigit_of_mem_padded

theorem ne_nil (h : Numeral w n ds) : ds ≠ [] := by
  obtain ⟨-, rfl | rfl⟩ := h
  · exact Decimal.digits_ne_nil n
  · exact Decimal.padded_ne_nil w n

theorem length_le (h : Numeral w n ds) (hw : 0 < w) : ds.length ≤ w := by
  obtain ⟨hlt, rfl | rfl⟩ := h
  · exact Decimal.length_digits_le hw hlt
  · exact Nat.le_of_eq (Decimal.length_padded hw hlt)

theorem value_eq (h : Numeral w n ds) : value ds = n := by
  obtain ⟨-, rfl | rfl⟩ := h
  · exact Decimal.value_digits n
  · exact Decimal.value_padded w n

theorem head?_isDigit (h : Numeral w n ds) (rest : List Char) :
    ∀ c ∈ (ds ++ rest).head?, isDigit c = true := by
  obtain ⟨c, cs, rfl⟩ := List.exists_cons_of_ne_nil h.ne_nil
  intro d hd
  obtain rfl := Option.some.inj hd
  exact h.all_isDigit _ List.mem_cons_self

/-- A numeral does not begin with a blank character. -/
theorem trimStartChars_append (h : Numeral w n ds) (rest : List Char) :
    Text.trimStartChars (ds ++ rest) = ds ++ rest :=
  Text.trimStartChars_eq_self fun c hc =>
    Decimal.isBlankChar_of_isDigit (h.head?_isDigit rest c hc)

end Numeral

theorem not_isDigit_head? {c : Char} (hc : isDigit c = false) (rest : List Char) :
    ∀ d ∈ (c :: rest).head?, isDigit d = false := by
  intro d hd
  exact Option.some.inj hd ▸ hc

/-- A numeral is read as far as its digits go, and no further than the width. -/
theorem readNumeral?_append (hdigits : ∀ c ∈ ds, isDigit c = true) (hne : ds ≠ [])
    (hlen : ds.length ≤ w) (hrest : ds.length = w ∨ ∀ c ∈ rest.head?, isDigit c = false) :
    readNumeral? w (ds ++ rest) = some (value ds, rest) := by
  -- Behind the digits the width is used up, or a character stands that is no digit.
  have hend : (rest.take (w - ds.length)).takeWhile isDigit = [] := by
    rcases hrest with hfull | hhead
    · rw [hfull, Nat.sub_self, List.take_zero, List.takeWhile_nil]
    · cases rest with
      | nil => rw [List.take_nil, List.takeWhile_nil]
      | cons c rest =>
        have hc : isDigit c = false := hhead c rfl
        cases w - ds.length <;> simp [hc]
  have hread : ((ds ++ rest).take w).takeWhile isDigit = ds := by
    rw [List.take_append, List.take_of_length_le hlen, List.takeWhile_append_of_pos hdigits, hend,
      List.append_nil]
  rw [readNumeral?, hread, if_neg (by simpa using hne), List.drop_left]

namespace Numeral

/-- A field is read up to a character behind it that is no digit. -/
theorem readField?_eq (h : Numeral 2 n ds) (hrest : ∀ c ∈ rest.head?, isDigit c = false)
    (set : Nat → Fields) : readField? set (ds ++ rest) = some (set n, rest) := by
  rw [readField?, h.trimStartChars_append,
    readNumeral?_append h.all_isDigit h.ne_nil (h.length_le (by decide)) (.inr hrest), h.value_eq]
  rfl

end Numeral

/-- Two digits are a field, whatever follows them. -/
theorem readField?_padded (h : n < 100) (set : Nat → Fields) (rest : List Char) :
    readField? set (padded 2 n ++ rest) = some (set n, rest) := by
  have hnumeral : Numeral 2 n (padded 2 n) := numeral_padded h
  have hlen : (padded 2 n).length = 2 := Decimal.length_padded (by decide) h
  rw [readField?, hnumeral.trimStartChars_append,
    readNumeral?_append hnumeral.all_isDigit hnumeral.ne_nil (Nat.le_of_eq hlen) (.inl hlen),
    hnumeral.value_eq]
  rfl

/-- Four digits are a year, whatever follows them. -/
theorem readYear?_padded {y : Nat} (hy : y < 10000) (rest : List Char) :
    readYear? (padded 4 y ++ rest) = some ((y : Int), rest) := by
  have hnumeral : Numeral 4 y (padded 4 y) := numeral_padded hy
  have hunsigned : ∀ cs : List Char, (∀ c ∈ cs.head?, isDigit c = true) →
      readYear? cs = (readNumeral? 4 cs).map fun p => ((p.1 : Int), p.2) := by
    intro cs hcs
    unfold readYear?
    split
    · exact absurd (hcs '-' rfl) (by decide)
    · exact absurd (hcs '+' rfl) (by decide)
    · rfl
  have hread : readNumeral? 4 (padded 4 y ++ rest) = some (y, rest) := by
    have hlen : (padded 4 y).length = 4 := Decimal.length_padded (by decide) hy
    rw [readNumeral?_append hnumeral.all_isDigit hnumeral.ne_nil (Nat.le_of_eq hlen) (.inl hlen),
      hnumeral.value_eq]
  rw [hunsigned _ (hnumeral.head?_isDigit rest), hread]
  rfl

/-! ## Formats -/

namespace Format

/-- Reads the items in order, and gives what is left behind them. -/
def run? (f : Fields) : Format → List Char → Option (Fields × List Char)
  | [], cs => some (f, cs)
  | i :: is, cs => (i.read? f cs).bind fun (f', r) => run? f' is r

variable {f : Fields} {cs : List Char}

theorem run?_append (is js : Format) :
    run? f (is ++ js) cs = (run? f is cs).bind fun (f', r) => run? f' js r := by
  induction is generalizing f cs with
  | nil => rfl
  | cons i is ih =>
    rw [List.cons_append, run?, run?, Option.bind_assoc]
    exact congrArg _ (funext fun _ => ih)

/-- A text is in a format if nothing is left behind its items. -/
theorem read?_eq_some_iff {is : Format} {g : Fields} :
    read? is cs = some g ↔ run? .zero is cs = some (g, []) := by
  have hfrom : ∀ f, readFrom? f is cs = some g ↔ run? f is cs = some (g, []) := by
    intro f
    induction is generalizing f cs with
    | nil => cases cs <;> simp [readFrom?, run?]
    | cons i is ih => simp only [readFrom?, run?, Option.bind_eq_some_iff, ih]
  exact hfrom .zero

/-- A text that is in a format has nothing left for items behind it that need something. -/
theorem read?_append_eq_none {is js : Format} {g : Fields} (h : read? is cs = some g)
    (hjs : run? g js [] = none) : read? (is ++ js) cs = none := by
  have hrun : run? .zero (is ++ js) cs = none := by
    rw [run?_append, read?_eq_some_iff.mp h]
    exact hjs
  refine Option.eq_none_iff_forall_ne_some.mpr fun g' h' => ?_
  rw [read?_eq_some_iff, hrun] at h'
  cases h'

/-- What a minute has behind its day. -/
def searchTime : Format := [.space, .hour, .literal ':', .minute]

/-- A text that is a day has nothing left for a time. -/
theorem read?_searchMinute_of_searchDay {g : Fields} (h : searchDay.read? cs = some g) :
    searchMinute.read? cs = none := by
  show read? (searchDay ++ searchTime) cs = none
  exact read?_append_eq_none h rfl

end Format

/-- **Days and minutes.** No text is read both as a minute and as a day. -/
theorem readSearchMinute?_or_readSearchDay? (cs : List Char) :
    readSearchMinute? cs = none ∨ readSearchDay? cs = none := by
  cases hday : Format.searchDay.read? cs with
  | none => exact .inr (by rw [readSearchDay?, hday, Option.bind_none])
  | some g =>
    have hminute := Format.read?_searchMinute_of_searchDay hday
    exact .inl (by rw [readSearchMinute?, hminute, Option.bind_none])

/-! ## Days and minutes of free text -/

/-- A text of the form `DD/MM/YYYY`, day and month with or without a zero in front. -/
def WritesDay (d m y : Nat) (cs : List Char) : Prop :=
  ∃ ds ms, Numeral 2 d ds ∧ Numeral 2 m ms ∧ y < 10000 ∧ cs = ds ++ '/' :: (ms ++ '/' :: padded 4 y)

/-- A text of the form `DD/MM/YYYY HH:MM`. -/
def WritesMinute (d m y hour minute : Nat) (cs : List Char) : Prop :=
  ∃ day, WritesDay d m y day ∧ hour < 100 ∧ minute < 100 ∧
    cs = day ++ ' ' :: (padded 2 hour ++ ':' :: padded 2 minute)

variable {d m y hour minute : Nat} {cs : List Char}

theorem WritesDay.run?_eq (h : WritesDay d m y cs) (rest : List Char) :
    Format.run? .zero .searchDay (cs ++ rest) = some (⟨y, m, d, 0, 0, 0, 0⟩, rest) := by
  obtain ⟨ds, ms, hd, hm, hy, rfl⟩ := h
  have hslash := not_isDigit_head? (c := '/') (by decide)
  have hyear : Text.trimStartChars (padded 4 y ++ rest) = padded 4 y ++ rest :=
    (numeral_padded hy).trimStartChars_append rest
  simp only [List.append_assoc, List.cons_append, Format.searchDay, Format.run?, Item.read?,
    hd.readField?_eq (hslash _), hm.readField?_eq (hslash _), hyear, readYear?_padded hy,
    Option.bind_some, Option.map_some, if_true]
  rfl

theorem run?_searchTime (hhour : hour < 100) (hminute : minute < 100) (f : Fields) :
    Format.run? f .searchTime (' ' :: (padded 2 hour ++ ':' :: padded 2 minute)) =
      some ({ f with hour := hour, minute := minute }, []) := by
  have hh : Numeral 2 hour (padded 2 hour) := numeral_padded hhour
  have hblank : ∀ c ∈ [' '], Text.isBlankChar c = true := List.forall_mem_singleton.mpr (by decide)
  have hspace : Text.trimStartChars (' ' :: (padded 2 hour ++ ':' :: padded 2 minute)) =
      padded 2 hour ++ ':' :: padded 2 minute :=
    (Text.trimStartChars_append hblank _).trans (hh.trimStartChars_append _)
  have hlast : ∀ set, readField? set (padded 2 minute) = some (set minute, []) := by
    intro set
    simpa using readField?_padded hminute set []
  simp only [Format.searchTime, Format.run?, Item.read?, hspace, readField?_padded hhour, hlast,
    Option.bind_some, if_true]

theorem WritesDay.length_le (h : WritesDay d m y cs) : cs.length ≤ 10 := by
  obtain ⟨ds, ms, hd, hm, hy, rfl⟩ := h
  have hdays := hd.length_le (by decide)
  have hmonths := hm.length_le (by decide)
  have hyears : (padded 4 y).length = 4 := Decimal.length_padded (by decide) hy
  simp only [List.length_append, List.length_cons, hyears]
  omega

theorem WritesMinute.length_le (h : WritesMinute d m y hour minute cs) : cs.length ≤ 16 := by
  obtain ⟨day, hday, hhour, hminute, rfl⟩ := h
  have hdays := hday.length_le
  have hhours : (padded 2 hour).length = 2 := Decimal.length_padded (by decide) hhour
  have hminutes : (padded 2 minute).length = 2 := Decimal.length_padded (by decide) hminute
  simp only [List.length_append, List.length_cons, hhours, hminutes]
  omega

theorem WritesDay.read?_searchDay (h : WritesDay d m y cs) :
    Format.searchDay.read? cs = some ⟨y, m, d, 0, 0, 0, 0⟩ := by
  rw [Format.read?_eq_some_iff]
  simpa using h.run?_eq []

theorem WritesMinute.read?_searchMinute (h : WritesMinute d m y hour minute cs) :
    Format.searchMinute.read? cs = some ⟨y, m, d, hour, minute, 0, 0⟩ := by
  obtain ⟨day, hday, hhour, hminute, rfl⟩ := h
  rw [Format.read?_eq_some_iff]
  show Format.run? .zero (Format.searchDay ++ Format.searchTime) _ = _
  rw [Format.run?_append, hday.run?_eq]
  exact run?_searchTime hhour hminute _

theorem WritesDay.readSearchMinute?_eq_none (h : WritesDay d m y cs) :
    readSearchMinute? cs = none := by
  rw [readSearchMinute?, Format.read?_searchMinute_of_searchDay h.read?_searchDay, Option.bind_none]

theorem WritesMinute.readSearchDay?_eq_none (h : WritesMinute d m y hour minute cs) :
    readSearchDay? cs = none := by
  cases hday : Format.searchDay.read? cs with
  | none => rw [readSearchDay?, hday, Option.bind_none]
  | some g =>
    have hnone := Format.read?_searchMinute_of_searchDay hday
    rw [h.read?_searchMinute] at hnone
    cases hnone

/-- A date of a year with at most four digits is there if its month has such a day. -/
theorem Date.of?_eq_some_iff (hy : y < 10000) {date : Date} :
    Date.of? y m d = some date ↔ date.year = y ∧ date.month = m ∧ date.day = d := by
  have hrange : yearInRange y = true := by
    simp only [yearInRange, Bool.and_eq_true, decide_eq_true_eq]
    omega
  simp only [Date.of?, hrange, if_true]
  constructor
  · intro h
    split at h
    · obtain rfl := Option.some.inj h
      exact ⟨rfl, rfl, rfl⟩
    · cases h
  · rintro ⟨hyear, rfl, rfl⟩
    rw [← hyear]
    exact dif_pos date.valid

theorem Time.of?_eq_some_iff {second nanosecond : Nat} {time : Time} :
    Time.of? hour minute second nanosecond = some time ↔ time.hour = hour ∧
      time.minute = minute ∧ time.second = second ∧ time.nanosecond = nanosecond := by
  unfold Time.of?
  constructor
  · intro h
    split at h
    · obtain rfl := Option.some.inj h
      exact ⟨rfl, rfl, rfl, rfl⟩
    · cases h
  · rintro ⟨rfl, rfl, rfl, rfl⟩
    exact dif_pos time.valid

/-- A date-time is there if its parts are those of a date and of a time of day. -/
theorem Fields.dateTime?_eq_some_iff (hy : y < 10000) {second nanosecond : Nat} {t : DateTime} :
    dateTime? ⟨y, m, d, hour, minute, second, nanosecond⟩ = some t ↔
      (t.date.year = y ∧ t.date.month = m ∧ t.date.day = d) ∧ t.time.hour = hour ∧
        t.time.minute = minute ∧ t.time.second = second ∧ t.time.nanosecond = nanosecond := by
  simp only [dateTime?, Option.bind_eq_bind, Option.bind_eq_some_iff, date?, time?,
    Date.of?_eq_some_iff hy, Time.of?_eq_some_iff]
  constructor
  · rintro ⟨date, hdate, time, htime, h⟩
    obtain rfl := Option.some.inj h
    exact ⟨hdate, htime⟩
  · rintro ⟨hdate, htime⟩
    exact ⟨t.date, hdate, t.time, htime, rfl⟩

/-- The text of a day is read as that day, if there is one. -/
theorem WritesDay.readSearchDay?_eq_some_iff (h : WritesDay d m y cs) {date : Date} :
    readSearchDay? cs = some date ↔ date.year = y ∧ date.month = m ∧ date.day = d := by
  obtain ⟨-, -, -, -, hy, -⟩ := id h
  rw [readSearchDay?, h.read?_searchDay, Option.bind_some]
  exact Date.of?_eq_some_iff hy

/-- The text of a minute is read as that minute, if there is one. -/
theorem WritesMinute.readSearchMinute?_eq_some_iff (h : WritesMinute d m y hour minute cs)
    {t : DateTime} : readSearchMinute? cs = some t ↔
      (t.date.year = y ∧ t.date.month = m ∧ t.date.day = d) ∧
        t.time.hour = hour ∧ t.time.minute = minute ∧
          t.time.second = 0 ∧ t.time.nanosecond = 0 := by
  obtain ⟨-, ⟨-, -, -, -, hy, -⟩, -⟩ := id h
  rw [readSearchMinute?, h.read?_searchMinute, Option.bind_some]
  exact Fields.dateTime?_eq_some_iff hy

/-- A minute that there is, is read from its text, with no seconds. -/
theorem WritesMinute.exists_readSearchMinute?_eq (h : WritesMinute d m y hour minute cs)
    {u : DateTime} (hdate : u.date.year = y ∧ u.date.month = m ∧ u.date.day = d)
    (htime : u.time.hour = hour ∧ u.time.minute = minute) :
    ∃ t, readSearchMinute? cs = some t ∧ t.date = u.date ∧
      t.time.hour = hour ∧ t.time.minute = minute := by
  have hvalid := u.time.valid
  rw [htime.1, htime.2] at hvalid
  let t : DateTime := ⟨u.date, ⟨hour, minute, 0, 0, hvalid.1, hvalid.2.1, by decide, by decide⟩⟩
  exact ⟨t, h.readSearchMinute?_eq_some_iff.mpr ⟨hdate, rfl, rfl, rfl, rfl⟩, rfl, rfl, rfl⟩

/-! ## Canonical texts -/

/-- A day as `YYYY-MM-DD`. -/
def dayChars (y m d : Nat) : List Char := padded 4 y ++ '-' :: (padded 2 m ++ '-' :: padded 2 d)

/-- A minute as `YYYY-MM-DD HH:MM`. -/
def minuteChars (y m d hour minute : Nat) : List Char :=
  dayChars y m d ++ ' ' :: (padded 2 hour ++ ':' :: padded 2 minute)

/-- A date whose year has at most four digits. -/
def Date.HasFourDigits (date : Date) : Prop := 0 ≤ date.year ∧ date.year < 10000

theorem Date.chars_eq {date : Date} (h : date.HasFourDigits) :
    date.chars = dayChars date.year.natAbs date.month date.day := by
  have hyear : 0 ≤ date.year ∧ date.year < 10000 := h
  rw [Date.chars, Date.yearChars, if_pos hyear, List.append_assoc, List.cons_append, dayChars]

theorem WritesDay.hasFourDigits (h : WritesDay d m y cs) {date : Date} (hyear : date.year = y) :
    date.HasFourDigits := by
  obtain ⟨-, -, -, -, hy, -⟩ := h
  rw [Date.HasFourDigits, hyear]
  omega

theorem DateTime.minuteText_eq {t : DateTime} (h : t.date.HasFourDigits) :
    t.minuteText = String.ofList
      (minuteChars t.date.year.natAbs t.date.month t.date.day t.time.hour t.time.minute) := by
  rw [minuteText, Date.chars_eq h, Time.minuteChars, minuteChars]

/-- Numerals filled up to one width are followed by the same if they are the same. -/
theorem padded_append_inj {k : Nat} (hw : 0 < w) (hn : n < 10 ^ w) (hk : k < 10 ^ w)
    {r r' : List Char} : padded w n ++ r = padded w k ++ r' ↔ n = k ∧ r = r' := by
  constructor
  · intro h
    have hlen : (padded w n).length = (padded w k).length := by
      rw [Decimal.length_padded hw hn, Decimal.length_padded hw hk]
    obtain ⟨hpadded, hr⟩ := List.append_inj h hlen
    exact ⟨Decimal.padded_inj.mp hpadded, hr⟩
  · rintro ⟨rfl, rfl⟩
    rfl

namespace Date

variable {date other : Date}

theorem month_lt (date : Date) : date.month < 10 ^ 2 := by
  have hvalid := date.valid
  omega

theorem day_lt (date : Date) : date.day < 10 ^ 2 := by
  have hvalid := date.valid
  have hlast : daysInMonth date.year date.month ≤ 31 := by
    unfold daysInMonth
    repeat' split
    all_goals decide
  omega

theorem HasFourDigits.natAbs_lt (h : date.HasFourDigits) : date.year.natAbs < 10 ^ 4 := by
  obtain ⟨hlow, hhigh⟩ := h
  omega

/-- Days are written alike, whatever stands behind them, only if they are the same. -/
theorem chars_append_inj (h : date.HasFourDigits) (h' : other.HasFourDigits) {r r' : List Char} :
    date.chars ++ r = other.chars ++ r' ↔ date = other ∧ r = r' := by
  have hyear : date.year.natAbs = other.year.natAbs ↔ date.year = other.year := by
    obtain ⟨hlow, -⟩ := h
    obtain ⟨hlow', -⟩ := h'
    omega
  -- Year, month and day have fixed widths, so that they can be told apart one after the other.
  rw [chars_eq h, chars_eq h', dayChars, dayChars]
  simp only [List.append_assoc, List.cons_append, List.cons.injEq, true_and,
    padded_append_inj (by decide) h.natAbs_lt h'.natAbs_lt,
    padded_append_inj (by decide) date.month_lt other.month_lt,
    padded_append_inj (by decide) date.day_lt other.day_lt, hyear, eq_iff, and_assoc]

/-- Different days are written differently. -/
theorem text_inj (h : date.HasFourDigits) (h' : other.HasFourDigits) :
    date.text = other.text ↔ date = other := by
  have happend : date.chars ++ [] = other.chars ++ [] ↔ date = other ∧ [] = [] :=
    chars_append_inj h h'
  rw [text, text, String.ofList_inj]
  simpa using happend

end Date

/-- Different minutes are written differently. -/
theorem DateTime.minuteText_inj {t u : DateTime} (ht : t.date.HasFourDigits)
    (hu : u.date.HasFourDigits) : t.minuteText = u.minuteText ↔
      t.date = u.date ∧ t.time.hour = u.time.hour ∧ t.time.minute = u.time.minute := by
  have hhour : ∀ time : Time, time.hour < 10 ^ 2 := fun time => by
    have hvalid := time.valid
    omega
  rw [minuteText, minuteText, String.ofList_inj, Date.chars_append_inj ht hu, Time.minuteChars,
    Time.minuteChars, List.cons.injEq,
    padded_append_inj (by decide) (hhour t.time) (hhour u.time), List.cons.injEq,
    Decimal.padded_inj]
  simp only [true_and]

end EntitySearch.Calendar
