import EntitySearch.Calendar.Format

/-!
# Instants

Points in time, read from timestamps with an offset (RFC 3339) and kept in UTC. Every numeral of a
timestamp has a fixed number of digits, the date and the time are separated by `T`, `t` or a space,
and the offset is `Z`, `z` or a signed `hh:mm` below 24 hours.
-/

namespace EntitySearch.Calendar

/-- A point in time: its date and time of day in UTC. -/
structure Instant where
  utc : DateTime
deriving DecidableEq

namespace Instant

/-- An instant as `YYYY-MM-DDTHH:MM:SS.fffffffffZ`. -/
def text (t : Instant) : String := String.ofList (t.utc.chars ++ ['Z'])

/-- Reads exactly `n` digits. -/
def readDigits? (n : Nat) (cs : List Char) : Option (Nat × List Char) :=
  let ds := cs.take n
  if ds.length = n ∧ ds.all Decimal.isDigit then some (Decimal.value ds, cs.drop n) else none

/-- Reads one character that satisfies `p`. -/
def readChar? (p : Char → Bool) : List Char → Option (List Char)
  | c :: cs => if p c then some cs else none
  | [] => none

/-- Reads an offset from UTC in minutes, which must end the text. The minus sign may also be
U+2212. -/
def readOffset? : List Char → Option Int
  | [] => none
  | c :: cs =>
    if c == 'Z' || c == 'z' then if cs.isEmpty then some 0 else none
    else do
      let negative := c == '-' || c == '−'
      if !negative && c != '+' then none
      let (h, cs) ← readDigits? 2 cs
      let cs ← readChar? (· == ':') cs
      let (m, cs) ← readDigits? 2 cs
      if 24 ≤ h || 60 ≤ m || !cs.isEmpty then none
      let minutes : Int := 60 * h + m
      return if negative then -minutes else minutes

/-- Reads a timestamp. -/
def read? (cs : List Char) : Option Instant := do
  let (year, cs) ← readDigits? 4 cs
  let cs ← readChar? (· == '-') cs
  let (month, cs) ← readDigits? 2 cs
  let cs ← readChar? (· == '-') cs
  let (day, cs) ← readDigits? 2 cs
  let cs ← readChar? (fun c => c == 'T' || c == 't' || c == ' ') cs
  let (hour, cs) ← readDigits? 2 cs
  let cs ← readChar? (· == ':') cs
  let (minute, cs) ← readDigits? 2 cs
  let cs ← readChar? (· == ':') cs
  let (second, cs) ← readDigits? 2 cs
  let (nanosecond, cs) ← readFraction? cs
  let offset ← readOffset? cs
  let dateTime ← Fields.dateTime? ⟨year, month, day, hour, minute, second, nanosecond⟩
  return ⟨dateTime.minusMinutes offset⟩

end Instant

end EntitySearch.Calendar
