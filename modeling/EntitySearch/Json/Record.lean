import EntitySearch.Json.Value

/-!
# Records in JSON

A record may be written as an object or as an array of its members in their order. In an object
other members are ignored, and a member that is given twice makes the record unreadable. In an array
the last members may be left out. What a member left out means is up to the record.
-/

namespace EntitySearch.Json

/-- The member of a name: absent, or given once. -/
def member? (members : List (String × Json)) (name : String) : Option (Option Json) :=
  match members.filter (·.1 == name) with
  | [] => some none
  | [(_, v)] => some (some v)
  | _ => none

/-- The members with the given names, each perhaps left out. -/
def record? (names : List String) : Json → Option (List (Option Json))
  | object members => names.mapM (member? members)
  | array items =>
    if items.length ≤ names.length then
      some (items.map some ++ List.replicate (names.length - items.length) none)
    else none
  | _ => none

/-- Decodes a member, or takes the default if it is left out. -/
def decodeOr? {α : Type} (default : α) (decode? : Json → Option α) (v : Option Json) : Option α :=
  match v with
  | none => some default
  | some v => decode? v

/-- An integer of 64 bits without sign. A number written with a point or an exponent is none. -/
def word64? : Json → Option UInt64
  | number (.integer n) => if 0 ≤ n ∧ n < UInt64.size then some (UInt64.ofNat n.toNat) else none
  | _ => none

/-- A string. -/
def string? : Json → Option String
  | string s => some s
  | _ => none

/-- A list of strings. -/
def strings? : Json → Option (List String)
  | array items => items.mapM string?
  | _ => none

/-- A 64-bit integer without sign as a number. -/
def ofWord64 (n : UInt64) : Json := number (.integer n.toNat)

/-- A list of strings. -/
def ofStrings (ss : List String) : Json := array (ss.map string)

end EntitySearch.Json
