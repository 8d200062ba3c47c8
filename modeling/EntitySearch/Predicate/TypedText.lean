import EntitySearch.Predicate.Scope

/-!
# Text with a type

Filters give dates, date-times, timestamps and UUIDs as text. The text is trimmed before it is read;
an error shows it as it was.
-/

namespace EntitySearch

/-- The types of values that are written as text of a certain form. -/
inductive TypedForm where
  | date
  | dateTime
  | timestamp
  | uuid
deriving DecidableEq

namespace TypedForm

/-- The name of the form in error messages. -/
def name : TypedForm → String
  | date => "date"
  | dateTime => "date-time"
  | timestamp => "timestamp"
  | uuid => "UUID"

/-- Reads trimmed text. -/
def readChars? (form : TypedForm) (cs : List Char) : Option Sql.Value :=
  match form with
  | date => (Calendar.readDate? cs).map .date
  | dateTime => (Calendar.readDateTime? cs).map .dateTime
  | timestamp => (Calendar.Instant.read? cs).map .timestamp
  | uuid => (Uuid.read? cs).map .uuid

/-- The value that a text denotes. -/
def read? (form : TypedForm) (s : String) : Option Sql.Value :=
  form.readChars? (Text.trimChars s.toList)

/-- The value that the text of a filter denotes. -/
def parse (form : TypedForm) (key s : String) : Except SearchError Sql.Value :=
  match form.read? s with
  | some v => .ok v
  | none => .error (.invalidFilterValue key s form.name)

end TypedForm

/-- The form in which text gives values of a kind; nothing if text is taken as it is. -/
def ScalarKind.form? : ScalarKind → Option TypedForm
  | date => some .date
  | dateTime => some .dateTime
  | timestamp => some .timestamp
  | uuid => some .uuid
  | _ => none

end EntitySearch
