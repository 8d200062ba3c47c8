import EntitySearch.Decimal.Numeral

/-!
# Calendar dates

Dates of the proleptic Gregorian calendar, with a year zero and negative years before it. A `Date`
always exists: its day is within its month. `next` and `previous` move by a day across months and
years.
-/

namespace EntitySearch.Calendar

/-- Whether a year has a 29 February. -/
def isLeapYear (y : Int) : Bool := y % 4 == 0 && (y % 100 != 0 || y % 400 == 0)

/-- The number of days of a month, January being month 1. -/
def daysInMonth (y : Int) (m : Nat) : Nat :=
  if m = 2 then if isLeapYear y then 29 else 28
  else if m = 4 ∨ m = 6 ∨ m = 9 ∨ m = 11 then 30
  else 31

theorem daysInMonth_pos (y : Int) (m : Nat) : 28 ≤ daysInMonth y m := by
  unfold daysInMonth; repeat' split
  all_goals decide

/-- A day of the calendar. -/
structure Date where
  year : Int
  month : Nat
  day : Nat
  valid : 1 ≤ month ∧ month ≤ 12 ∧ 1 ≤ day ∧ day ≤ daysInMonth year month
deriving DecidableEq

namespace Date

/-- The years that dates may be read in. -/
def yearInRange (y : Int) : Bool := -262143 ≤ y && y ≤ 262142

/-- The date with the given parts, if there is one. -/
def of? (year : Int) (month day : Nat) : Option Date :=
  if h : 1 ≤ month ∧ month ≤ 12 ∧ 1 ≤ day ∧ day ≤ daysInMonth year month then
    if yearInRange year then some ⟨year, month, day, h⟩ else none
  else none

/-- The day after. -/
def next (d : Date) : Date :=
  if h : d.day < daysInMonth d.year d.month then
    ⟨d.year, d.month, d.day + 1, by have := d.valid; omega⟩
  else if hm : d.month < 12 then
    ⟨d.year, d.month + 1, 1, by
      have := d.valid; have := daysInMonth_pos d.year (d.month + 1); omega⟩
  else ⟨d.year + 1, 1, 1, by have := daysInMonth_pos (d.year + 1) 1; omega⟩

/-- The day before. -/
def previous (d : Date) : Date :=
  if h : 1 < d.day then
    ⟨d.year, d.month, d.day - 1, by have := d.valid; omega⟩
  else if hm : 1 < d.month then
    ⟨d.year, d.month - 1, daysInMonth d.year (d.month - 1), by
      have := d.valid; have := daysInMonth_pos d.year (d.month - 1); omega⟩
  else ⟨d.year - 1, 12, 31, by simp [daysInMonth]⟩

/-- A year: four digits at least, with a sign unless it lies between 0 and 9999. -/
def yearChars (y : Int) : List Char :=
  if 0 ≤ y ∧ y < 10000 then Decimal.padded 4 y.natAbs
  else (if y < 0 then '-' else '+') :: Decimal.padded 4 y.natAbs

/-- A date as `YYYY-MM-DD`. -/
def chars (d : Date) : List Char :=
  yearChars d.year ++ '-' :: Decimal.padded 2 d.month ++ '-' :: Decimal.padded 2 d.day

/-- A date as `YYYY-MM-DD`. -/
def text (d : Date) : String := String.ofList d.chars

end Date

end EntitySearch.Calendar
