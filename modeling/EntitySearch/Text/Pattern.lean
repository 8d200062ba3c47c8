/-!
# Text patterns

Patterns of the `LIKE` operator with `!` as the declared escape character: `%` stands for any
characters, `_` for any one character, and `!` takes the special meaning from the character after
it. User text goes into a pattern escaped, so that none of its characters is special.
-/

namespace EntitySearch.Text

/-- The escape character that every `LIKE` declares. It needs no quoting in any SQL dialect. -/
def escapeMark : Char := '!'

/-- Whether a character has a meaning of its own in a pattern. -/
def isSpecial (c : Char) : Bool := c == escapeMark || c == '%' || c == '_'

/-- Characters with every occurrence of one replaced. -/
def replaceChar (c : Char) (replacement cs : List Char) : List Char :=
  cs.flatMap fun d => if d = c then replacement else [d]

/-- Characters with every special one preceded by the escape character. The escape character itself
is escaped first, so that those added for the others are left alone. -/
def escapeChars (cs : List Char) : List Char :=
  replaceChar '_' [escapeMark, '_'] (replaceChar '%' [escapeMark, '%']
    (replaceChar escapeMark [escapeMark, escapeMark] cs))

@[simp] theorem escapeChars_nil : escapeChars [] = [] := rfl

theorem replaceChar_append (c : Char) (replacement a b : List Char) :
    replaceChar c replacement (a ++ b) =
      replaceChar c replacement a ++ replaceChar c replacement b := by
  simp [replaceChar]

theorem escapeChars_append (a b : List Char) :
    escapeChars (a ++ b) = escapeChars a ++ escapeChars b := by
  simp [escapeChars, replaceChar_append]

/-- The three replacements come to one: each character is escaped by itself. -/
@[simp] theorem escapeChars_cons (c : Char) (cs : List Char) :
    escapeChars (c :: cs) = (if isSpecial c then [escapeMark, c] else [c]) ++ escapeChars cs := by
  have hc : escapeChars [c] = if isSpecial c then [escapeMark, c] else [c] := by
    by_cases hm : c = escapeMark
    · subst hm
      rfl
    by_cases hp : c = '%'
    · subst hp
      rfl
    by_cases hu : c = '_'
    · subst hu
      rfl
    simp [escapeChars, replaceChar, isSpecial, hm, hp, hu]
  rw [← hc, ← escapeChars_append]
  rfl

/-- Where in a text a pattern looks for the user's text. -/
inductive Anchor where
  | anywhere
  | atStart
  | atEnd
deriving DecidableEq

/-- The pattern for `body` at the given place; `body` is already in pattern form. -/
def Anchor.wrap : Anchor → List Char → List Char
  | .anywhere, body => '%' :: body ++ ['%']
  | .atStart, body => body ++ ['%']
  | .atEnd, body => '%' :: body

/-- The pattern that finds the text `s`, taken literally, at the given place. -/
def Anchor.literal (a : Anchor) (s : String) : String :=
  String.ofList (a.wrap (escapeChars s.toList))

/-- The pattern for text without special characters, which needs no escaping. -/
def Anchor.plain (a : Anchor) (s : String) : String := String.ofList (a.wrap s.toList)

end EntitySearch.Text
