import EntitySearch.Error
import EntitySearch.Text.Blank
import EntitySearch.Text.LetterCase

/-!
# Sort orders

A request sorts by properties. A resource may map a property's name to the attribute path that is
sorted on; the mapping is applied once, so a target that is itself a mapped name is left alone.

There are two readings of a direction: `Direction.read`, which refuses anything but `asc` and `desc`,
and `Direction.readLeniently`, which takes anything but `asc` for descending. Both ignore blank
characters around the word and the case of its letters.
-/

namespace EntitySearch

/-! ## Directions -/

/-- The direction of a sort key. -/
inductive Direction where
  | asc
  | desc
deriving DecidableEq

namespace Direction

/-- A direction as requests write it. -/
def text : Direction → String
  | asc => "asc"
  | desc => "desc"

/-- A direction as SQL writes it. -/
def keyword : Direction → String
  | asc => "ASC"
  | desc => "DESC"

/-- The direction that a text names. -/
def read (s : String) : Except SearchError Direction :=
  let word := Text.trimChars s.toList
  if Text.sameLetters word "asc".toList then .ok asc
  else if Text.sameLetters word "desc".toList then .ok desc
  else .error (.invalidSortDirection s)

/-- The direction that a text is taken to mean. -/
def readLeniently (s : String) : Direction :=
  if Text.sameLetters (Text.trimChars s.toList) "asc".toList then asc else desc

/-- The direction that a JSON value denotes: one of the two strings, exactly. -/
def decode? : Json → Option Direction
  | .string s => if s = "asc" then some asc else if s = "desc" then some desc else none
  | _ => none

theorem readLeniently_of_read {s : String} {d : Direction} (h : read s = .ok d) :
    readLeniently s = d := by
  simp only [read] at h
  simp only [readLeniently]
  split at h
  · simp_all
  · split at h <;> simp_all

end Direction

/-! ## Orders -/

/-- One sort key of a request. -/
structure SortOrder where
  property : String
  direction : Direction
deriving DecidableEq

/-- Attribute paths by the property names that stand for them. Of several entries for one name the
last counts. -/
abbrev SortAliases := List (String × String)

namespace SortAliases

/-- The path that a name stands for, if it stands for one. -/
def find? (aliases : SortAliases) (name : String) : Option String :=
  (aliases.reverse).lookup name

/-- The path to sort on for a property. Blank properties are never mapped. -/
def path (aliases : SortAliases) (property : String) : String :=
  if Text.isBlank property then property else (aliases.find? property).getD property

/-- Sort keys with every property replaced by its path. -/
def normalize (aliases : SortAliases) (orders : List SortOrder) : List SortOrder :=
  orders.map fun o => { o with property := aliases.path o.property }

@[simp] theorem length_normalize (aliases : SortAliases) (orders : List SortOrder) :
    (aliases.normalize orders).length = orders.length := by
  simp [normalize]

theorem normalize_append (aliases : SortAliases) (a b : List SortOrder) :
    aliases.normalize (a ++ b) = aliases.normalize a ++ aliases.normalize b := by
  simp [normalize]

end SortAliases

end EntitySearch
