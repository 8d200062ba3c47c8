import EntitySearch.Calendar.DateTime
import EntitySearch.Text.Blank

/-!
# Date formats

A format is a list of items, each reading some characters into a field. The items of a numeral skip
blank characters in front, so `2024- 2-29` is a date. Nothing may follow the last item.

* `Format.date`, `Format.minute`, `Format.second`: the forms in which filters give dates.
* `Format.searchDay`, `Format.searchMinute`: the forms in which free text gives them.
-/

namespace EntitySearch.Calendar

/-- The parts of a date and time read so far; what is not written is zero. -/
structure Fields where
  year : Int
  month : Nat
  day : Nat
  hour : Nat
  minute : Nat
  second : Nat
  nanosecond : Nat

namespace Fields

/-- No part read. -/
def zero : Fields := ⟨0, 0, 0, 0, 0, 0, 0⟩

/-- The date of the parts, if it exists. -/
def date? (f : Fields) : Option Date := Date.of? f.year f.month f.day

/-- The time of the parts, if they are in range. -/
def time? (f : Fields) : Option Time := Time.of? f.hour f.minute f.second f.nanosecond

/-- The date-time of the parts, if it exists. -/
def dateTime? (f : Fields) : Option DateTime := do
  let d ← f.date?
  let t ← f.time?
  return ⟨d, t⟩

end Fields

/-- Reads a numeral of one to `width` digits. -/
def readNumeral? (width : Nat) (cs : List Char) : Option (Nat × List Char) :=
  let ds := (cs.take width).takeWhile Decimal.isDigit
  if ds.isEmpty then none else some (Decimal.value ds, cs.drop ds.length)

/-- Reads a year: up to four digits, or a sign and any number of digits. -/
def readYear? : List Char → Option (Int × List Char)
  | '-' :: cs => (readNumeral? cs.length cs).map fun (n, r) => (-(n : Int), r)
  | '+' :: cs => (readNumeral? cs.length cs).map fun (n, r) => ((n : Int), r)
  | cs => (readNumeral? 4 cs).map fun (n, r) => ((n : Int), r)

/-- Reads the digits of a fraction as nanoseconds; those after the ninth are dropped. -/
def readNanoseconds? (cs : List Char) : Option (Nat × List Char) :=
  let ds := cs.takeWhile Decimal.isDigit
  if ds.isEmpty then none
  else
    let kept := ds.take 9
    some (Decimal.value kept * Nat.pow 10 (9 - kept.length), cs.drop ds.length)

/-- Reads an optional fraction of a second. -/
def readFraction? : List Char → Option (Nat × List Char)
  | '.' :: cs => readNanoseconds? cs
  | cs => some (0, cs)

/-- One item of a format. -/
inductive Item where
  | year
  | month
  | day
  | hour
  | minute
  | second
  | fraction
  | literal (c : Char)
  | space

/-- Reads a two-digit numeral after optional blank characters into the field that `set` sets. -/
def readField? (set : Nat → Fields) (cs : List Char) : Option (Fields × List Char) :=
  (readNumeral? 2 (Text.trimStartChars cs)).map fun (n, r) => (set n, r)

/-- Reads one item. -/
def Item.read? (i : Item) (f : Fields) (cs : List Char) : Option (Fields × List Char) :=
  match i with
  | year => (readYear? (Text.trimStartChars cs)).map fun (y, r) => ({ f with year := y }, r)
  | month => readField? (fun n => { f with month := n }) cs
  | day => readField? (fun n => { f with day := n }) cs
  | hour => readField? (fun n => { f with hour := n }) cs
  | minute => readField? (fun n => { f with minute := n }) cs
  | second => readField? (fun n => { f with second := n }) cs
  | fraction => (readFraction? cs).map fun (n, r) => ({ f with nanosecond := n }, r)
  | literal c =>
    match cs with
    | c' :: r => if c' = c then some (f, r) else none
    | [] => none
  | space => some (f, Text.trimStartChars cs)

/-- A form of written dates or date-times. -/
abbrev Format := List Item

namespace Format

/-- Reads the items in order, and nothing after them. -/
def readFrom? (f : Fields) : Format → List Char → Option Fields
  | [], [] => some f
  | [], _ :: _ => none
  | i :: is, cs => (i.read? f cs).bind fun (f', r) => readFrom? f' is r

/-- The parts that a text gives in a format. -/
def read? (is : Format) (cs : List Char) : Option Fields := readFrom? .zero is cs

/-- The form `YYYY-MM-DD`. -/
def date : Format := [.year, .literal '-', .month, .literal '-', .day]

/-- The form `YYYY-MM-DDTHH:MM`. -/
def minute : Format := date ++ [.literal 'T', .hour, .literal ':', .minute]

/-- The form `YYYY-MM-DDTHH:MM:SS` with an optional fraction. -/
def second : Format := minute ++ [.literal ':', .second, .fraction]

/-- The form `DD/MM/YYYY`. -/
def searchDay : Format := [.day, .literal '/', .month, .literal '/', .year]

/-- The form `DD/MM/YYYY HH:MM`. -/
def searchMinute : Format := searchDay ++ [.space, .hour, .literal ':', .minute]

end Format

/-- Reads a date of the form `YYYY-MM-DD`. -/
def readDate? (cs : List Char) : Option Date := (Format.date.read? cs).bind Fields.date?

/-- Reads a date-time with seconds or without. -/
def readDateTime? (cs : List Char) : Option DateTime :=
  ((Format.second.read? cs).bind Fields.dateTime?).or
    ((Format.minute.read? cs).bind Fields.dateTime?)

/-- Reads a day as free text gives it. -/
def readSearchDay? (cs : List Char) : Option Date :=
  (Format.searchDay.read? cs).bind Fields.date?

/-- Reads a minute as free text gives it. -/
def readSearchMinute? (cs : List Char) : Option DateTime :=
  (Format.searchMinute.read? cs).bind Fields.dateTime?

end EntitySearch.Calendar
