import EntitySearch.Json.Text

/-!
# Search errors

What can go wrong with a search, each with the text shown to the client. All but a failing store are
the client's fault. What the store said is not passed on.
-/

namespace EntitySearch

inductive SearchError where
  /-- A filter holds text that is not a value of the expected form. -/
  | invalidFilterValue (key value expected : String)
  /-- An attribute was named that the entity does not declare. -/
  | unknownAttribute (path : String)
  /-- A sort direction is neither ascending nor descending. -/
  | invalidSortDirection (direction : String)
  /-- Sort fields and sort directions differ in number. -/
  | mismatchedSort (fields directions : Nat)
  /-- The store failed, or answered what cannot be read. -/
  | database
deriving DecidableEq

namespace SearchError

/-- The text of an error. -/
def message : SearchError → String
  | invalidFilterValue key value expected =>
    "filter '" ++ key ++ "' has an invalid " ++ expected ++ " value: '" ++ value ++ "'"
  | unknownAttribute path => "unknown attribute '" ++ path ++ "'"
  | invalidSortDirection direction =>
    "invalid sort direction '" ++ direction ++ "', expected 'asc' or 'desc'"
  | mismatchedSort fields directions =>
    Decimal.natText fields ++ " sort fields were given with " ++ Decimal.natText directions ++
      " sort directions"
  | database => "a database error occurred"

/-- Whether the request is to blame. -/
def isClientError : SearchError → Bool
  | database => false
  | _ => true

/-- The HTTP status of the response. -/
def statusCode (e : SearchError) : Nat := if e.isClientError then 400 else 500

/-- The content type of the response. -/
def contentType : String := "application/json"

/-- The body of the response. -/
def body (e : SearchError) : Json := .object [("error", .string e.message)]

end SearchError

end EntitySearch
