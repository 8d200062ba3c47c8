import EntitySearch.Decimal.Numeral
import EntitySearch.Json.Number

/-!
# JSON tokens

The text of a JSON document as tokens, with the space between them dropped. A string token carries
its decoded text and a number token its value. A token may be well formed and still denote nothing:
a string in which half a surrogate pair stands alone, or a number beyond the largest finite one.
Such tokens matter only if the value they belong to is asked for, so they are kept with `none`.

* `Token.scan?`: the tokens of a text, or nothing if some character fits no token.
-/

namespace EntitySearch.Json

inductive Token where
  | openArray
  | closeArray
  | openObject
  | closeObject
  | comma
  | colon
  | null
  | bool (b : Bool)
  | number (n : Option Number)
  | text (s : Option String)
deriving DecidableEq

namespace Token

/-- One element of a string: a character, or half of a surrogate pair written as an escape. -/
inductive Piece where
  | char (c : Char)
  | half (n : Nat)

/-- Whether a code unit is the first half of a pair. -/
def isHighHalf (n : Nat) : Bool := 0xD800 ≤ n && n < 0xDC00

/-- Whether a code unit is the second half of a pair. -/
def isLowHalf (n : Nat) : Bool := 0xDC00 ≤ n && n < 0xE000

/-- The character that a pair of halves stands for. -/
def joinHalves (high low : Nat) : Char :=
  Char.ofNat (0x10000 + (high - 0xD800) * 0x400 + (low - 0xDC00))

/-- The text of a string: every half must be followed at once by its counterpart. The pieces come
last first, and so the second half of a pair comes before the first. -/
def joinPieces? (acc : List Char) : List Piece → Option String
  | [] => some (String.ofList acc)
  | .char c :: r => joinPieces? (c :: acc) r
  | .half low :: .half high :: r =>
    if isHighHalf high && isLowHalf low then joinPieces? (joinHalves high low :: acc) r else none
  | .half _ :: _ => none

/-- The piece that a four-digit escape denotes. -/
def pieceOfUnit (n : Nat) : Piece :=
  if isHighHalf n || isLowHalf n then .half n else .char (Char.ofNat n)

/-- The character that a one-letter escape denotes. -/
def escaped? : Char → Option Char
  | '"' => some '"'
  | '\\' => some '\\'
  | '/' => some '/'
  | 'b' => some (Char.ofNat 8)
  | 'f' => some (Char.ofNat 12)
  | 'n' => some '\n'
  | 'r' => some '\r'
  | 't' => some '\t'
  | _ => none

/-- The tokens that are one character long. -/
def punctuation? : Char → Option Token
  | '[' => some openArray
  | ']' => some closeArray
  | '{' => some openObject
  | '}' => some closeObject
  | ',' => some comma
  | ':' => some colon
  | _ => none

/-- The characters that may stand between tokens. -/
def isSpace (c : Char) : Bool := c == ' ' || c == '\t' || c == '\n' || c == '\r'

/-- The letters of `true`, `false` and `null` are lower-case ASCII letters. -/
def isWordChar (c : Char) : Bool := 'a'.toNat ≤ c.toNat && c.toNat ≤ 'z'.toNat

/-- The characters that number tokens are made of. -/
def isNumberChar (c : Char) : Bool :=
  Decimal.isDigit c || c == '-' || c == '+' || c == '.' || c == 'e' || c == 'E'

/-- What the characters read last belong to. Characters and pieces are kept last first. -/
inductive Mode where
  | between
  | word (seen : List Char)
  | number (seen : List Char)
  | string (pieces : List Piece)
  | escape (pieces : List Piece)
  | unit (pieces : List Piece) (missing : Nat) (value : Nat)

/-- A text read up to some point: the tokens completed, last first, and the one under way. -/
structure Scan where
  tokens : List Token
  mode : Mode

/-- The token of a word. -/
def ofWord? (seen : List Char) : Option Token :=
  if seen == "eurt".toList then some (bool true)
  else if seen == "eslaf".toList then some (bool false)
  else if seen == "llun".toList then some null
  else none

/-- The token of a number. -/
def ofNumber? (seen : List Char) : Option Token :=
  (Lexeme.read? seen.reverse).map fun l => number l.number?

/-- The character `c` after completed tokens. -/
def stepBetween (tokens : List Token) (c : Char) : Option Scan :=
  if isSpace c then some ⟨tokens, .between⟩
  else if c == '"' then some ⟨tokens, .string []⟩
  else if isWordChar c then some ⟨tokens, .word [c]⟩
  else if Decimal.isDigit c || c == '-' then some ⟨tokens, .number [c]⟩
  else (punctuation? c).map fun t => ⟨t :: tokens, .between⟩

/-- Reads one character. A word or number ends at the first character that cannot continue it. -/
def Scan.step (s : Scan) (c : Char) : Option Scan :=
  match s.mode with
  | .between => stepBetween s.tokens c
  | .word seen =>
    if isWordChar c then some ⟨s.tokens, .word (c :: seen)⟩
    else (ofWord? seen).bind fun t => stepBetween (t :: s.tokens) c
  | .number seen =>
    if isNumberChar c then some ⟨s.tokens, .number (c :: seen)⟩
    else (ofNumber? seen).bind fun t => stepBetween (t :: s.tokens) c
  | .string pieces =>
    if c == '"' then some ⟨text (joinPieces? [] pieces) :: s.tokens, .between⟩
    else if c == '\\' then some ⟨s.tokens, .escape pieces⟩
    else if c.toNat < 0x20 then none
    else some ⟨s.tokens, .string (.char c :: pieces)⟩
  | .escape pieces =>
    if c == 'u' then some ⟨s.tokens, .unit pieces 4 0⟩
    else (escaped? c).map fun e => ⟨s.tokens, .string (.char e :: pieces)⟩
  | .unit pieces missing value =>
    (Text.hexValue? c).map fun h =>
      if missing ≤ 1 then ⟨s.tokens, .string (pieceOfUnit (16 * value + h) :: pieces)⟩
      else ⟨s.tokens, .unit pieces (missing - 1) (16 * value + h)⟩

/-- The tokens at the end of the text, in order; none if a string is still open. -/
def Scan.finish? (s : Scan) : Option (List Token) :=
  match s.mode with
  | .between => some s.tokens.reverse
  | .word seen => (ofWord? seen).map fun t => (t :: s.tokens).reverse
  | .number seen => (ofNumber? seen).map fun t => (t :: s.tokens).reverse
  | _ => none

/-- The tokens of a text. -/
def scan? (cs : List Char) : Option (List Token) :=
  (cs.foldlM Scan.step ⟨[], .between⟩).bind Scan.finish?

end Token

end EntitySearch.Json
