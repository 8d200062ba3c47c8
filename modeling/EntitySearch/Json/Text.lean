import EntitySearch.Decimal.Shortest
import EntitySearch.Json.Value

/-!
# JSON text

Values as compact JSON text: no space between tokens, members in the order they are kept in, and in
strings only the quote, the backslash and the control characters below U+0020 escaped.
-/

namespace EntitySearch.Json

/-- A character inside a quoted string. -/
def quotedChar (c : Char) : List Char :=
  if c == '"' then ['\\', '"']
  else if c == '\\' then ['\\', '\\']
  else if c == '\n' then ['\\', 'n']
  else if c == '\r' then ['\\', 'r']
  else if c == '\t' then ['\\', 't']
  else if c.toNat == 8 then ['\\', 'b']
  else if c.toNat == 12 then ['\\', 'f']
  else if c.toNat < 0x20 then
    ['\\', 'u', '0', '0', Text.hexChar (c.toNat / 16), Text.hexChar (c.toNat % 16)]
  else [c]

/-- A string in quotes. -/
def quoted (s : String) : List Char := '"' :: s.toList.flatMap quotedChar ++ ['"']

/-- A number. -/
def Number.chars : Number → List Char
  | integer n => Decimal.intChars n
  | double x => Decimal.jsonChars x

/-- The parts with commas between them. -/
def commaSeparated : List (List Char) → List Char
  | [] => []
  | [part] => part
  | part :: rest => part ++ ',' :: commaSeparated rest

mutual

/-- The text of a value. A part that denotes nothing is written as `null`. -/
def chars : Json → List Char
  | null | unreadable => "null".toList
  | bool true => "true".toList
  | bool false => "false".toList
  | number n => n.chars
  | string s => quoted s
  | array items => '[' :: commaSeparated (itemsChars items) ++ [']']
  | object members => '{' :: commaSeparated (membersChars members) ++ ['}']

/-- The text of each item. -/
def itemsChars : List Json → List (List Char)
  | [] => []
  | v :: r => chars v :: itemsChars r

/-- The text of each member. -/
def membersChars : List (String × Json) → List (List Char)
  | [] => []
  | (k, v) :: r => (quoted k ++ ':' :: chars v) :: membersChars r

end

/-- The text of a value. -/
def render (v : Json) : String := String.ofList v.chars

end EntitySearch.Json
