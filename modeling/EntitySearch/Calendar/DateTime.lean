import EntitySearch.Calendar.Date

/-!
# Times of day and date-times

Times to the nanosecond. Second 60 is a leap second, which may follow any minute.
-/

namespace EntitySearch.Calendar

/-- A time of day. -/
structure Time where
  hour : Nat
  minute : Nat
  second : Nat
  nanosecond : Nat
  valid : hour < 24 ∧ minute < 60 ∧ second ≤ 60 ∧ nanosecond < 1000000000
deriving DecidableEq

namespace Time

/-- The time with the given parts, if they are in range. -/
def of? (hour minute second nanosecond : Nat) : Option Time :=
  if h : hour < 24 ∧ minute < 60 ∧ second ≤ 60 ∧ nanosecond < 1000000000 then
    some ⟨hour, minute, second, nanosecond, h⟩
  else none

/-- A time as `HH:MM`. -/
def minuteChars (t : Time) : List Char :=
  Decimal.padded 2 t.hour ++ ':' :: Decimal.padded 2 t.minute

/-- A time as `HH:MM:SS` with nine digits of fraction. -/
def chars (t : Time) : List Char :=
  t.minuteChars ++ ':' :: Decimal.padded 2 t.second ++ '.' :: Decimal.padded 9 t.nanosecond

end Time

/-- A day and a time of it, in no particular time zone. -/
structure DateTime where
  date : Date
  time : Time
deriving DecidableEq

namespace DateTime

/-- A date-time as `YYYY-MM-DDTHH:MM:SS.fffffffff`. -/
def chars (t : DateTime) : List Char := t.date.chars ++ 'T' :: t.time.chars

/-- A date-time as `YYYY-MM-DDTHH:MM:SS.fffffffff`. -/
def text (t : DateTime) : String := String.ofList t.chars

/-- A date-time to the minute, as `YYYY-MM-DD HH:MM`. -/
def minuteText (t : DateTime) : String :=
  String.ofList (t.date.chars ++ ' ' :: t.time.minuteChars)

/-- The date-time `offset` minutes earlier, or later for a negative offset. The offset is less than
a day, so at most one day boundary is crossed. -/
def minusMinutes (t : DateTime) (offset : Int) : DateTime :=
  let total : Int := 60 * t.time.hour + t.time.minute - offset
  let ofDay := (total % 1440).toNat
  have hlt : ofDay < 1440 := by omega
  ⟨if total < 0 then t.date.previous else if 1440 ≤ total then t.date.next else t.date,
    ⟨ofDay / 60, ofDay % 60, t.time.second, t.time.nanosecond, by
      have := t.time.valid
      omega⟩⟩

end DateTime

end EntitySearch.Calendar
