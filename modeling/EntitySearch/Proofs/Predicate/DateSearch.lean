import EntitySearch.Proofs.Calendar.Written
import EntitySearch.Proofs.Predicate.SearchDispatch

/-!
# Searching for days and minutes

A search text that writes a day or a minute is compared with what the columns hold, to the day or to
the minute (`Scope.searchDates_exact`).

* `DateSearch.of_writesDay`, `DateSearch.of_writesMinute`: what the text of a day or minute says
  about dates, if there is such a day or minute.
* `Sql.Backend.FormatsDates`: what is relied on of a backend's function for dates. What a date-time
  is written as then tells its day (`date_eq_iff`) and its minute (`dateMinute_eq_iff`).
* `Sql.Backend.formatted`: the functions of the three backends, which can be relied on for this
  (`Sql.Backend.formatsDates`).
-/

namespace EntitySearch

open Calendar (Date DateTime WritesDay WritesMinute dayChars minuteChars readSearchDay?
  readSearchMinute?)

/-! ## What a text says -/

namespace DateSearch

variable {text : String} {d m y hour minute : Nat}

/-- The text of a day is compared with days as `YYYY-MM-DD`. -/
theorem of_writesDay (h : WritesDay d m y text.toList) {date : Date}
    (hdate : date.year = y ∧ date.month = m ∧ date.day = d) :
    of text = .day (String.ofList (dayChars y m d)) := by
  have htext : date.text = String.ofList (dayChars y m d) := by
    have hdigits := h.hasFourDigits hdate.1
    obtain ⟨hyear, rfl, rfl⟩ := hdate
    rw [Date.text, Calendar.Date.chars_eq hdigits, hyear, Int.natAbs_natCast]
  rw [of, h.readSearchMinute?_eq_none, h.readSearchDay?_eq_some_iff.mpr hdate]
  exact congrArg DateSearch.day htext

/-- The text of a day that there is not is a fragment. -/
theorem of_writesDay_of_not_exists (h : WritesDay d m y text.toList)
    (hnone : ¬ ∃ date : Date, date.year = y ∧ date.month = m ∧ date.day = d) :
    of text = .fragment (Text.Anchor.anywhere.literal text) := by
  refine of_fragment h.readSearchMinute?_eq_none ?_
  exact Option.eq_none_iff_forall_ne_some.mpr fun date hdate =>
    hnone ⟨date, h.readSearchDay?_eq_some_iff.mp hdate⟩

/-- The text of a minute is compared with minutes as `YYYY-MM-DD HH:MM`. -/
theorem of_writesMinute (h : WritesMinute d m y hour minute text.toList) {u : DateTime}
    (hdate : u.date.year = y ∧ u.date.month = m ∧ u.date.day = d)
    (htime : u.time.hour = hour ∧ u.time.minute = minute) :
    of text = .minute (String.ofList (minuteChars y m d hour minute)) := by
  obtain ⟨t, hread, htdate, rfl, rfl⟩ := h.exists_readSearchMinute?_eq hdate htime
  rw [← htdate] at hdate
  have hdigits : t.date.HasFourDigits := by
    obtain ⟨_, hday, -⟩ := h
    exact hday.hasFourDigits hdate.1
  have htext := DateTime.minuteText_eq hdigits
  obtain ⟨hyear, rfl, rfl⟩ := hdate
  rw [hyear, Int.natAbs_natCast] at htext
  rw [of, hread]
  exact congrArg DateSearch.minute htext

/-- The text of a minute that there is not is a fragment. -/
theorem of_writesMinute_of_not_exists (h : WritesMinute d m y hour minute text.toList)
    (hnone : ¬ ∃ u : DateTime, (u.date.year = y ∧ u.date.month = m ∧ u.date.day = d) ∧
      u.time.hour = hour ∧ u.time.minute = minute) :
    of text = .fragment (Text.Anchor.anywhere.literal text) := by
  refine of_fragment (Option.eq_none_iff_forall_ne_some.mpr fun t ht => hnone ⟨t, ?_⟩)
    h.readSearchDay?_eq_none
  obtain ⟨hdate, hhour, hminute, -⟩ := h.readSearchMinute?_eq_some_iff.mp ht
  exact ⟨hdate, hhour, hminute⟩

end DateSearch

/-! ## Stored dates as text -/

/-- A backend's function for dates, of which `formatted` is the value for a format and a stored
date-time, writes days and minutes with all their digits, as long as the year has four at most. -/
structure Sql.Backend.FormatsDates (b : Backend) (formatted : String → DateTime → String) :
    Prop where
  date_eq : ∀ v : DateTime, v.date.HasFourDigits → formatted (DatePart.date.format b) v =
    String.ofList (dayChars v.date.year.natAbs v.date.month v.date.day)
  dateMinute_eq : ∀ v : DateTime, v.date.HasFourDigits →
    formatted (DatePart.dateMinute.format b) v = String.ofList
      (minuteChars v.date.year.natAbs v.date.month v.date.day v.time.hour v.time.minute)

namespace Sql.Backend.FormatsDates

variable {b : Backend} {formatted : String → DateTime → String} {v u : DateTime}

/-- What a stored date-time is written as tells its day. -/
theorem date_eq_iff (h : b.FormatsDates formatted) (hv : v.date.HasFourDigits) {date : Date}
    (hdate : date.HasFourDigits) : formatted (DatePart.date.format b) v =
      String.ofList (dayChars date.year.natAbs date.month date.day) ↔ v.date = date := by
  rw [h.date_eq v hv, ← Calendar.Date.chars_eq hv, ← Calendar.Date.chars_eq hdate]
  exact Date.text_inj hv hdate

/-- What a stored date-time is written as tells its minute. -/
theorem dateMinute_eq_iff (h : b.FormatsDates formatted) (hv : v.date.HasFourDigits)
    (hu : u.date.HasFourDigits) : formatted (DatePart.dateMinute.format b) v = String.ofList
      (minuteChars u.date.year.natAbs u.date.month u.date.day u.time.hour u.time.minute) ↔
      v.date = u.date ∧ v.time.hour = u.time.hour ∧ v.time.minute = u.time.minute := by
  rw [h.dateMinute_eq v hv, ← DateTime.minuteText_eq hv, ← DateTime.minuteText_eq hu]
  exact DateTime.minuteText_inj hv hu

end Sql.Backend.FormatsDates

/-! ## Functions for dates -/

namespace Sql

/-- A date-time in a format that has a `%` before each field, the minute being asked for by a letter
of its own. Of the fields there are those that formats here have. -/
def percentChars (minute : Char) (v : DateTime) : List Char → List Char
  | '%' :: 'Y' :: r => Decimal.padded 4 v.date.year.natAbs ++ percentChars minute v r
  | '%' :: 'm' :: r => Decimal.padded 2 v.date.month ++ percentChars minute v r
  | '%' :: 'd' :: r => Decimal.padded 2 v.date.day ++ percentChars minute v r
  | '%' :: 'H' :: r => Decimal.padded 2 v.time.hour ++ percentChars minute v r
  | '%' :: c :: r =>
    (if c = minute then Decimal.padded 2 v.time.minute else ['%', c]) ++ percentChars minute v r
  | c :: r => c :: percentChars minute v r
  | [] => []

/-- A date-time as SQLite's `STRFTIME` writes it. -/
def strftimeChars (v : DateTime) (format : List Char) : List Char := percentChars 'M' v format

/-- A date-time as MySQL's `DATE_FORMAT` writes it. -/
def dateFormatChars (v : DateTime) (format : List Char) : List Char := percentChars 'i' v format

/-- A date-time as Postgres' `TO_CHAR` writes it, for the fields that formats here have. -/
def toCharChars (v : DateTime) : List Char → List Char
  | 'Y' :: 'Y' :: 'Y' :: 'Y' :: r => Decimal.padded 4 v.date.year.natAbs ++ toCharChars v r
  | 'M' :: 'M' :: r => Decimal.padded 2 v.date.month ++ toCharChars v r
  | 'D' :: 'D' :: r => Decimal.padded 2 v.date.day ++ toCharChars v r
  | 'H' :: 'H' :: '2' :: '4' :: r => Decimal.padded 2 v.time.hour ++ toCharChars v r
  | 'M' :: 'I' :: r => Decimal.padded 2 v.time.minute ++ toCharChars v r
  | c :: r => c :: toCharChars v r
  | [] => []

/-- Formats with a `%` before each field can be relied on, whatever letter asks for the minute, unless
it asks for another field as well. -/
theorem formatsDates_percent {b : Backend} {minute : Char} (hminute : minute ∉ ['Y', 'm', 'd', 'H'])
    (hday : (DatePart.date.format b).toList = ['%', 'Y', '-', '%', 'm', '-', '%', 'd'])
    (htime : (DatePart.dateMinute.format b).toList =
      ['%', 'Y', '-', '%', 'm', '-', '%', 'd', ' ', '%', 'H', ':', '%', minute]) :
    b.FormatsDates fun format v => String.ofList (percentChars minute v format.toList) where
  date_eq v _ := by
    rw [hday]
    simp [percentChars, dayChars]
  dateMinute_eq v _ := by
    have hlast : percentChars minute v ['%', minute] = Decimal.padded 2 v.time.minute := by
      simp only [List.mem_cons, List.not_mem_nil, or_false, not_or] at hminute
      -- The cases of the other fields come first, so the letter has to differ from theirs.
      obtain ⟨hY, hm, hd, hH⟩ := hminute
      simp [percentChars]
    rw [htime]
    simp [percentChars, hlast, minuteChars, dayChars]

theorem formatsDates_strftime : Backend.sqlite.FormatsDates fun format v =>
    String.ofList (strftimeChars v format.toList) :=
  formatsDates_percent (by decide) (by decide) (by decide)

theorem formatsDates_dateFormat : Backend.mysql.FormatsDates fun format v =>
    String.ofList (dateFormatChars v format.toList) :=
  formatsDates_percent (by decide) (by decide) (by decide)

theorem formatsDates_toChar : Backend.postgres.FormatsDates fun format v =>
    String.ofList (toCharChars v format.toList) where
  date_eq v _ := by
    have hformat : (DatePart.date.format .postgres).toList =
        ['Y', 'Y', 'Y', 'Y', '-', 'M', 'M', '-', 'D', 'D'] := by decide
    rw [hformat]
    simp [toCharChars, dayChars]
  dateMinute_eq v _ := by
    have hformat : (DatePart.dateMinute.format .postgres).toList =
        ['Y', 'Y', 'Y', 'Y', '-', 'M', 'M', '-', 'D', 'D', ' ', 'H', 'H', '2', '4', ':', 'M',
          'I'] := by decide
    rw [hformat]
    simp [toCharChars, minuteChars, dayChars]

/-- What a backend's function for dates makes of a format and a stored date-time. -/
def Backend.formatted : Backend → String → DateTime → String
  | sqlite, format, v => String.ofList (strftimeChars v format.toList)
  | postgres, format, v => String.ofList (toCharChars v format.toList)
  | mysql, format, v => String.ofList (dateFormatChars v format.toList)

theorem Backend.formatsDates : ∀ b : Backend, b.FormatsDates b.formatted
  | sqlite => formatsDates_strftime
  | postgres => formatsDates_toChar
  | mysql => formatsDates_dateFormat

end Sql

/-! ## The predicate -/

namespace Scope

variable {s : Scope} {paths : List String} {attributes : List Attribute} {t : String}

/-- A search text of few characters is searched for as it is given. -/
theorem searchText?_eq_given (h : s.givenSearchText? = some t)
    (hlen : t.toList.length ≤ searchTextLimit) : s.searchText? = some t := by
  refine searchText?_eq_some_iff.mpr ⟨t, h, ?_⟩
  rw [List.take_of_length_le hlen, String.ofList_toList]

theorem searchDates_of_length_le (ha : s.attributes paths = .ok attributes) (hne : paths ≠ [])
    (ht : s.givenSearchText? = some t) (hlen : t.toList.length ≤ 16) :
    s.searchDates paths = .ok (some (.junction .or
      (attributes.map fun a => (DateSearch.of t).condition a.operand))) := by
  have hlimit : t.toList.length ≤ searchTextLimit := Nat.le_trans hlen (by decide)
  have happlies : SearchKind.dates.Applies t := trivial
  exact outcome_freeText_of_applies ha (attributes_ne_nil hne ha) (searchText?_eq_given ht hlimit)
    happlies

/-- **Days and minutes.** A search text of the form `DD/MM/YYYY`, day and month with or without a
zero in front, or of the form `DD/MM/YYYY HH:MM`, makes one condition for each attribute. If there
is such a day or minute, the condition compares what the column holds, as `YYYY-MM-DD` or
`YYYY-MM-DD HH:MM`, with that text of the day or minute, and so holds of the date-times on that day
or in that minute and of no others. If there is none, the text is looked for in the year, month,
day, hour and minute of what the column holds. No text is read both as a minute and as a day. -/
theorem searchDates_exact (s : Scope) {paths : List String} {attributes : List Attribute}
    (ha : s.attributes paths = .ok attributes) (hne : paths ≠ []) {t : String}
    (ht : s.givenSearchText? = some t) {formatted : String → DateTime → String}
    (hformat : s.backend.FormatsDates formatted) :
    let either (condition : Attribute → Sql.Condition) : Outcome :=
      .ok (some (.junction .or (attributes.map condition)))
    let equality (part : Sql.DatePart) (text : String) (a : Attribute) : Sql.Condition :=
      .leaf (.compare .equal (.datePart part a.operand) (.string text))
    let fallback (a : Attribute) : Sql.Condition :=
      .anyOf ([.year, .month, .day, .hour, .minute].map fun part =>
        .like false (.datePart part a.operand) (Text.Anchor.anywhere.literal t))
    (∀ d m y, WritesDay d m y t.toList →
      (∀ date : Date, date.year = y ∧ date.month = m ∧ date.day = d →
        let text := String.ofList (dayChars y m d)
        s.searchDates paths = either (equality .date text) ∧
        ∀ v : DateTime, v.date.HasFourDigits →
          (formatted (Sql.DatePart.date.format s.backend) v = text ↔ v.date = date)) ∧
      ((¬ ∃ date : Date, date.year = y ∧ date.month = m ∧ date.day = d) →
        s.searchDates paths = either fallback)) ∧
    (∀ d m y hour minute, WritesMinute d m y hour minute t.toList →
      (∀ u : DateTime, (u.date.year = y ∧ u.date.month = m ∧ u.date.day = d) ∧
          u.time.hour = hour ∧ u.time.minute = minute →
        let text := String.ofList (minuteChars y m d hour minute)
        s.searchDates paths = either (equality .dateMinute text) ∧
        ∀ v : DateTime, v.date.HasFourDigits →
          (formatted (Sql.DatePart.dateMinute.format s.backend) v = text ↔
            v.date = u.date ∧ v.time.hour = hour ∧ v.time.minute = minute)) ∧
      ((¬ ∃ u : DateTime, (u.date.year = y ∧ u.date.month = m ∧ u.date.day = d) ∧
          u.time.hour = hour ∧ u.time.minute = minute) →
        s.searchDates paths = either fallback)) ∧
    ∀ cs, readSearchMinute? cs = none ∨ readSearchDay? cs = none := by
  intro either equality fallback
  refine ⟨fun d m y hwrites => ?_, fun d m y hour minute hwrites => ?_,
    Calendar.readSearchMinute?_or_readSearchDay?⟩
  · have hlen : t.toList.length ≤ 16 := Nat.le_trans hwrites.length_le (by decide)
    refine ⟨fun date hdate => ⟨?_, fun v hv => ?_⟩, fun hnone => ?_⟩
    · rw [searchDates_of_length_le ha hne ht hlen, DateSearch.of_writesDay hwrites hdate]
      rfl
    · have hiff := hformat.date_eq_iff hv (hwrites.hasFourDigits hdate.1)
      rwa [hdate.1, hdate.2.1, hdate.2.2, Int.natAbs_natCast] at hiff
    · rw [searchDates_of_length_le ha hne ht hlen,
        DateSearch.of_writesDay_of_not_exists hwrites hnone]
      rfl
  · have hlen := hwrites.length_le
    refine ⟨fun u ⟨hdate, htime⟩ => ⟨?_, fun v hv => ?_⟩, fun hnone => ?_⟩
    · rw [searchDates_of_length_le ha hne ht hlen, DateSearch.of_writesMinute hwrites hdate htime]
      rfl
    · obtain ⟨_, hday, -⟩ := hwrites
      have hiff := hformat.dateMinute_eq_iff hv (hday.hasFourDigits hdate.1)
      rwa [hdate.1, hdate.2.1, hdate.2.2, htime.1, htime.2, Int.natAbs_natCast] at hiff
    · rw [searchDates_of_length_le ha hne ht hlen,
        DateSearch.of_writesMinute_of_not_exists hwrites hnone]
      rfl

open Sample in
/-- On every backend a minute of a leap day is compared with minutes, and a day that February does not
have is looked for in the parts of dates. -/
theorem searchDates_exact_february :
    let customers := Customer.entityWith Customer.attributes Customer.vehicleColumns
    let s (b : Sql.Backend) (text : String) : Scope :=
      .new customers (.ofList [("search", .text text)]) b
    let created : Attribute := ⟨"created_at", ⟨"customers", "created_at"⟩, .dateTime⟩
    let stored : DateTime := ⟨⟨2024, 2, 29, by decide⟩, ⟨7, 5, 59, 0, by decide⟩⟩
    (∀ b, (s b "29/2/2024 07:05").searchDates ["created_at"] = .ok (some (.junction .or
        [.leaf (.compare .equal (.datePart .dateMinute created.operand)
          (.string "2024-02-29 07:05"))])) ∧
      (s b "31/02/2024").searchDates ["created_at"] = .ok (some (.junction .or
        [.anyOf ([.year, .month, .day, .hour, .minute].map fun part =>
          .like false (.datePart part created.operand) "%31/02/2024%")]))) ∧
    String.ofList (Sql.strftimeChars stored "%Y-%m-%d %H:%M".toList) = "2024-02-29 07:05" ∧
    String.ofList (Sql.toCharChars stored "YYYY-MM-DD HH24:MI".toList) = "2024-02-29 07:05" ∧
    String.ofList (Sql.dateFormatChars stored "%Y-%m-%d %H:%i".toList) = "2024-02-29 07:05" := by
  intro customers s created stored
  have hgiven : ∀ b, (s b "29/2/2024 07:05").givenSearchText? = some "29/2/2024 07:05" := by
    intro b
    show (s .sqlite _).givenSearchText? = _
    decide +kernel
  have hgiven' : ∀ b, (s b "31/02/2024").givenSearchText? = some "31/02/2024" := by
    intro b
    show (s .sqlite _).givenSearchText? = _
    decide +kernel
  have hminute : WritesMinute 29 2 2024 7 5 "29/2/2024 07:05".toList := by
    refine ⟨"29/2/2024".toList, ⟨['2', '9'], ['2'], ⟨by decide, .inl ?_⟩, ⟨by decide, .inl ?_⟩,
      by decide, ?_⟩, by decide, by decide, ?_⟩ <;> decide +kernel
  have hday : WritesDay 31 2 2024 "31/02/2024".toList := by
    refine ⟨['3', '1'], ['0', '2'], ⟨by decide, .inr ?_⟩, ⟨by decide, .inr ?_⟩, by decide, ?_⟩ <;>
      decide +kernel
  have hnone : ¬ ∃ date : Date, date.year = (2024 : Nat) ∧ date.month = 2 ∧ date.day = 31 := by
    rintro ⟨⟨y, m, d, hvalid⟩, rfl, rfl, rfl⟩
    revert hvalid
    decide
  have htext : String.ofList (minuteChars 2024 2 29 7 5) = "2024-02-29 07:05" := by decide +kernel
  have hdigits : stored.date.HasFourDigits := ⟨by decide, by decide⟩
  have hleap : ∀ b, (s b "29/2/2024 07:05").searchDates ["created_at"] = .ok (some (.junction .or
      [.leaf (.compare .equal (.datePart .dateMinute created.operand)
        (.string "2024-02-29 07:05"))])) ∧
      b.formatted (Sql.DatePart.dateMinute.format b) stored = "2024-02-29 07:05" := by
    intro b
    have hsearches := (@searchDates_exact (s b "29/2/2024 07:05") ["created_at"] [created] rfl
      (by simp) _ (hgiven b) _ b.formatsDates).2.1
    obtain ⟨hsearch, hstored⟩ := (hsearches 29 2 2024 7 5 hminute).1 stored (by decide)
    rw [htext] at hsearch hstored
    exact ⟨hsearch, (hstored stored hdigits).mpr ⟨rfl, rfl, rfl⟩⟩
  refine ⟨fun b => ⟨(hleap b).1, ?_⟩, (hleap .sqlite).2, (hleap .postgres).2, (hleap .mysql).2⟩
  have hsearches := (@searchDates_exact (s b "31/02/2024") ["created_at"] [created] rfl (by simp) _
    (hgiven' b) _ b.formatsDates).1
  exact (hsearches 31 2 2024 hday).2 hnone

end Scope

end EntitySearch
