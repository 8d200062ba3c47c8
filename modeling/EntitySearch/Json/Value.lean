import EntitySearch.Json.Token

/-!
# JSON values

A document as a tree. Objects keep their members in the order written, repetitions included; what a
repeated member means is up to the reader of the object. A part of the document that is well formed
but denotes nothing appears as `unreadable`: it does no harm in a member nobody asks for, and spoils
any value that contains it (`isReadable`).

* `Json.read?`: the tree of a text. It is strict: one value, no trailing comma, nothing after it.
* `Json.readWhole?`: the tree of a text of which every part is wanted.
* `Json.sorted`: the same value with the members of each object in key order, the last of repeated
  members standing for all of them.
-/

namespace EntitySearch

inductive Json where
  | null
  | bool (b : Bool)
  | number (n : Json.Number)
  | string (s : String)
  | array (items : List Json)
  | object (members : List (String × Json))
  | unreadable

namespace Json

instance : Inhabited Json := ⟨null⟩

/-- How deep arrays and objects may be nested in one another. -/
def depthLimit : Nat := 127

/-- An array or object that is still open. Items and members are kept last first. An open object
waits for the value of its current key. -/
inductive Frame where
  | array (items : List Json)
  | object (members : List (Option String × Json)) (key : Option String)

/-- What may come next, inside which open arrays and objects, innermost first. -/
inductive State where
  | value (frames : List Frame)
  | firstItem (frames : List Frame)
  | firstKey (frames : List Frame)
  | key (members : List (Option String × Json)) (frames : List Frame)
  | colon (members : List (Option String × Json)) (key : Option String) (frames : List Frame)
  | after (v : Json) (frames : List Frame)

/-- A completed array inside the given open ones. -/
def closeArray (items : List Json) (frames : List Frame) : Json :=
  if depthLimit ≤ frames.length then unreadable else array items.reverse

/-- The members of an object whose keys are all readable. -/
def readableMembers? (acc : List (String × Json)) :
    List (Option String × Json) → Option (List (String × Json))
  | [] => some acc
  | (some k, v) :: r => readableMembers? ((k, v) :: acc) r
  | (none, _) :: _ => none

/-- A completed object inside the given open ones. -/
def closeObject (members : List (Option String × Json)) (frames : List Frame) : Json :=
  if depthLimit ≤ frames.length then unreadable
  else match readableMembers? [] members with
    | some ms => object ms
    | none => unreadable

/-- The token `t` where a value must start. -/
def State.start? (frames : List Frame) : Token → Option State
  | .null => some (.after null frames)
  | .bool b => some (.after (bool b) frames)
  | .number (some n) => some (.after (number n) frames)
  | .text (some s) => some (.after (string s) frames)
  | .number none | .text none => some (.after unreadable frames)
  | .openArray => some (.firstItem frames)
  | .openObject => some (.firstKey frames)
  | _ => none

/-- Reads one token. -/
def State.step : State → Token → Option State
  | .value frames, t => start? frames t
  | .firstItem frames, .closeArray => some (.after (closeArray [] frames) frames)
  | .firstItem frames, t => start? (.array [] :: frames) t
  | .firstKey frames, .closeObject => some (.after (closeObject [] frames) frames)
  | .firstKey frames, .text k => some (.colon [] k frames)
  | .key members frames, .text k => some (.colon members k frames)
  | .colon members k frames, .colon => some (.value (.object members k :: frames))
  | .after v (.array items :: frames), .comma => some (.value (.array (v :: items) :: frames))
  | .after v (.array items :: frames), .closeArray =>
    some (.after (closeArray (v :: items) frames) frames)
  | .after v (.object members k :: frames), .comma => some (.key ((k, v) :: members) frames)
  | .after v (.object members k :: frames), .closeObject =>
    some (.after (closeObject ((k, v) :: members) frames) frames)
  | _, _ => none

/-- The tree that the tokens of a document spell. -/
def ofTokens? (ts : List Token) : Option Json :=
  match ts.foldlM State.step (.value []) with
  | some (.after v []) => some v
  | _ => none

/-- The tree of a text. -/
def read? (s : String) : Option Json := (Token.scan? s.toList).bind ofTokens?

mutual

/-- Whether every part of a value denotes something. -/
def isReadable : Json → Bool
  | unreadable => false
  | array items => areReadable items
  | object members => membersAreReadable members
  | null | bool _ | number _ | string _ => true

/-- Whether every item is readable. -/
def areReadable : List Json → Bool
  | [] => true
  | v :: r => isReadable v && areReadable r

/-- Whether the value of every member is readable. -/
def membersAreReadable : List (String × Json) → Bool
  | [] => true
  | (_, v) :: r => isReadable v && membersAreReadable r

end

/-- A value all of which is wanted. -/
def whole? (v : Json) : Option Json := if v.isReadable then some v else none

/-- The tree of a text all of which is wanted. -/
def readWhole? (s : String) : Option Json := (read? s).bind whole?

/-- Puts a member in its place among members in key order, replacing one of the same key. -/
def insertMember (k : String) (v : Json) : List (String × Json) → List (String × Json)
  | [] => [(k, v)]
  | (k', v') :: r =>
    if k < k' then (k, v) :: (k', v') :: r
    else if k = k' then (k, v) :: r
    else (k', v') :: insertMember k v r

mutual

/-- The value with the members of every object in key order. -/
def sorted : Json → Json
  | array items => array (sortedItems items)
  | object members => object (sortedMembers members [])
  | v => v

/-- Every item sorted. -/
def sortedItems : List Json → List Json
  | [] => []
  | v :: r => sorted v :: sortedItems r

/-- The members sorted, on top of those already in place. -/
def sortedMembers : List (String × Json) → List (String × Json) → List (String × Json)
  | [], done => done
  | (k, v) :: r, done => sortedMembers r (insertMember k (sorted v) done)

end

end Json

end EntitySearch
