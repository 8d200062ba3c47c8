import EntitySearch.Proofs.Sql.Fragment
import EntitySearch.Proofs.Sql.Lexeme
import EntitySearch.Sql.Where
import EntitySearch.Text.Pattern
import Mathlib.Data.List.Forall2
import Mathlib.Data.Option.Basic

/-!
# One text in three spellings

What the dialects share of a condition: its tokens, which each backend spells in its own way.

* `Token`, `Token.text`: the tokens, and the text of a list of them. The name of an identifier, the
  type that text is cast to, the call that formats a date and the places of values are spelled in
  three ways (`Token.sqliteChars`, `Token.postgresChars`, `Token.mysqlChars`), and all the rest is
  the same everywhere.
* `Binding`: what is bound at a place. Formats of dates and patterns for truth values are bound as
  the backend writes them, and all other values as they are.
* `Condition.SpelledAs`: a condition is one spelling of a phrase. Whether it needs parentheses depends
  on the phrase, so that the junction of such conditions is a spelling of the junction of the phrases
  (`Condition.spelledAs_combine?`).
-/

namespace EntitySearch.Sql

/-! ## Tokens -/

/-- What is bound at a place. -/
inductive Binding where
  | value (v : Value)
  /-- The pattern that finds a truth value cast to text. -/
  | truth (t : Bool)
  /-- The format of a part of a date. -/
  | format (p : DatePart)
deriving DecidableEq

/-- The value that a backend binds. -/
def Binding.on (b : Backend) : Binding → Value
  | .value v => v
  | .truth t => .string (Text.Anchor.anywhere.plain (b.booleanText t))
  | .format p => .string (p.format b)

/-- A part of the text of a condition, in no spelling yet. -/
inductive Token where
  | words (s : String)
  | name (s : String)
  /-- The type that values are cast to in order to be matched as text. -/
  | textType
  /-- The call that formats a part of a date, with the place of the format in it. -/
  | formatted (p : DatePart) (c : ColumnRef)
  | place (x : Binding)
deriving DecidableEq

/-- A name between quote marks. A mark inside it is doubled. -/
def quoted (mark : Char) (s : String) : List Char :=
  mark :: (s.toList.flatMap fun c => if c = mark then [c, c] else [c]) ++ [mark]

/-- The name of a column behind that of its table, each between quote marks. -/
def quotedColumn (mark : Char) (c : ColumnRef) : List Char :=
  quoted mark c.table ++ '.' :: quoted mark c.name

/-- The call of a function. -/
def call (function : String) (first second : List Char) : List Char :=
  function.toList ++ '(' :: first ++ ',' :: ' ' :: second ++ [')']

namespace Token

/-- What is bound at a token, if it has a place. -/
def binding? : Token → Option Binding
  | formatted p _ => some (.format p)
  | place x => some x
  | words _ | name _ | textType => none

/-- Whether the words of a token have no quotes, no digits, and no sign of a placeholder in them. -/
def plain : Token → Bool
  | words s => s.toList.all Fragment.isPlainChar
  | _ => true

/-- A token as SQLite has it: names between double quotes, a `?` at every place, and the format of a
date in front of it. -/
def sqliteChars : Token → List Char
  | words s => s.toList
  | name s => quoted '"' s
  | textType => "TEXT".toList
  | formatted _ c => call "STRFTIME" ['?'] (quotedColumn '"' c)
  | place _ => ['?']

/-- A token as Postgres has it: names between double quotes, and at every place a `$` with the number
of the place. -/
def postgresChars (position : Nat) : Token → List Char
  | words s => s.toList
  | name s => quoted '"' s
  | textType => "TEXT".toList
  | formatted _ c => call "TO_CHAR" (quotedColumn '"' c) ('$' :: Decimal.digits position)
  | place _ => '$' :: Decimal.digits position

/-- A token as MySQL has it: names between grave accents, and a `?` at every place. -/
def mysqlChars : Token → List Char
  | words s => s.toList
  | name s => quoted '\x60' s
  | textType => "CHAR".toList
  | formatted _ c => call "DATE_FORMAT" (quotedColumn '\x60' c) ['?']
  | place _ => ['?']

/-- A token in the spelling of a backend, its place, if it has one, being at a position. -/
def chars (b : Backend) (position : Nat) (t : Token) : List Char :=
  match b with
  | .sqlite => t.sqliteChars
  | .postgres => t.postgresChars position
  | .mysql => t.mysqlChars

/-- What is bound at the places of tokens, from left to right. -/
def bindings (ts : List Token) : List Binding := ts.filterMap binding?

/-- The spelling of tokens after `seen` places, the next of which is number `seen + 1`. -/
def charsFrom (b : Backend) : Nat → List Token → List Char
  | _, [] => []
  | seen, t :: ts => t.chars b (seen + 1) ++ charsFrom b (seen + (bindings [t]).length) ts

/-- The text of tokens in the spelling of a backend. -/
def text (b : Backend) (ts : List Token) : String := String.ofList (charsFrom b 0 ts)

@[simp] theorem bindings_nil : bindings [] = [] := rfl

@[simp] theorem bindings_words (s : String) (ts : List Token) :
    bindings (words s :: ts) = bindings ts := rfl

@[simp] theorem bindings_name (s : String) (ts : List Token) :
    bindings (name s :: ts) = bindings ts := rfl

@[simp] theorem bindings_textType (ts : List Token) : bindings (textType :: ts) = bindings ts := rfl

@[simp] theorem bindings_formatted (p : DatePart) (c : ColumnRef) (ts : List Token) :
    bindings (formatted p c :: ts) = .format p :: bindings ts := rfl

@[simp] theorem bindings_place (x : Binding) (ts : List Token) :
    bindings (place x :: ts) = x :: bindings ts := rfl

@[simp] theorem bindings_append (ts us : List Token) :
    bindings (ts ++ us) = bindings ts ++ bindings us := List.filterMap_append

theorem charsFrom_append (b : Backend) (seen : Nat) (ts us : List Token) :
    charsFrom b seen (ts ++ us) =
      charsFrom b seen ts ++ charsFrom b (seen + (bindings ts).length) us := by
  induction ts generalizing seen with
  | nil => rfl
  | cons t ts ih =>
    have hcount : (bindings (t :: ts)).length = (bindings [t]).length + (bindings ts).length := by
      rw [← List.singleton_append, bindings_append, List.length_append]
    rw [List.cons_append, charsFrom, ih, charsFrom, hcount, List.append_assoc, Nat.add_assoc]

end Token

/-! ## Fragments -/

/-- Fragments of a backend are the spelling of tokens, whose words are the same everywhere. -/
structure Spells (b : Backend) (fs : List Fragment) (ts : List Token) : Prop where
  chars_eq : ∀ seen, Fragment.charsFrom b seen fs = Token.charsFrom b seen ts
  values_eq : boundValues fs = (Token.bindings ts).map (Binding.on b)
  plain : ∀ t ∈ ts, t.plain = true

namespace Spells

variable {b : Backend} {fs gs : List Fragment} {ts us : List Token}

theorem nil : Spells b [] [] := ⟨fun _ => rfl, rfl, by simp⟩

theorem append (hf : Spells b fs ts) (hg : Spells b gs us) : Spells b (fs ++ gs) (ts ++ us) := by
  refine ⟨fun seen => ?_, ?_, fun t ht => ?_⟩
  · rw [Fragment.charsFrom_append, Token.charsFrom_append, hf.chars_eq, hg.chars_eq, hf.values_eq,
      List.length_map]
  · rw [boundValues_append, Token.bindings_append, List.map_append, hf.values_eq, hg.values_eq]
  · exact (List.mem_append.mp ht).elim (hf.plain t) (hg.plain t)

theorem words {s : String} (hs : (Token.words s).plain = true) :
    Spells b [.words s] [.words s] :=
  ⟨fun _ => by cases b <;> rfl, rfl, by simpa using hs⟩

theorem name (s : String) : Spells b [.name s] [.name s] :=
  ⟨fun _ => by cases b <;> rfl, rfl, by simp [Token.plain]⟩

theorem place {v : Value} {x : Binding} (hx : x.on b = v) : Spells b [.bound v] [.place x] :=
  ⟨fun _ => by cases b <;> rfl, by simp [hx], by simp [Token.plain]⟩

theorem cons_words {s : String} (hs : (Token.words s).plain = true) (h : Spells b fs ts) :
    Spells b (.words s :: fs) (.words s :: ts) := (words hs).append h

theorem cons_place {v : Value} {x : Binding} (hx : x.on b = v) (h : Spells b fs ts) :
    Spells b (.bound v :: fs) (.place x :: ts) := (place hx).append h

/-- Fragments that spell tokens have their text and bind their values. -/
theorem text_eq (h : Spells b fs ts) : sqlText b fs = Token.text b ts := by
  rw [sqlText, h.chars_eq, Token.text]

end Spells

/-! ## Comparisons -/

/-- The tokens of an operand. Parts are taken of columns only. -/
inductive Operand.HasTokens : Operand → List Token → Prop where
  | column (c : ColumnRef) : HasTokens (.column c) [.name c.table, .words ".", .name c.name]
  | upper {o : Operand} {ts : List Token} (h : o.HasTokens ts) :
      HasTokens (.upper o) (.words "UPPER(" :: ts ++ [.words ")"])
  | castText {o : Operand} {ts : List Token} (h : o.HasTokens ts) :
      HasTokens (.castText o) (.words "CAST(" :: ts ++ [.words " AS ", .textType, .words ")"])
  | datePart (p : DatePart) (c : ColumnRef) :
      HasTokens (.datePart p (.column c)) [.formatted p c]

variable {b : Backend} {o : Operand} {ts : List Token}

theorem Operand.HasTokens.spells (h : o.HasTokens ts) (b : Backend) :
    Spells b (o.fragments b) ts := by
  induction h with
  | column c => exact (Spells.name c.table).append (.cons_words (by decide) (.name c.name))
  | upper h ih => exact (Spells.cons_words (by decide) ih).append (.words (by decide))
  | castText h ih =>
    -- One fragment holds what are three tokens.
    have htype : Spells b [.words (" AS " ++ b.textType ++ ")")]
        [.words " AS ", .textType, .words ")"] := by
      refine ⟨fun seen => ?_, rfl, ?_⟩
      · cases b <;> rfl
      · simp only [List.forall_mem_cons]
        exact ⟨by decide, rfl, by decide, by simp⟩
    exact (Spells.cons_words (by decide) ih).append htype
  | datePart p c =>
    refine ⟨fun seen => ?_, by cases b <;> rfl, by simp [Token.plain]⟩
    have hdot : ".".toList = ['.'] := by decide
    have hopen : "(".toList = ['('] := by decide
    have hcomma : ", ".toList = [',', ' '] := by decide
    have hclose : ")".toList = [')'] := by decide
    cases b <;>
    · simp only [fragments, columnFragments, Fragment.charsFrom, Token.charsFrom, Token.chars,
        Token.sqliteChars, Token.postgresChars, Token.mysqlChars, call, quotedColumn,
        String.toList_append, hdot, hopen, hcomma, hclose, List.cons_append, List.nil_append,
        List.append_assoc, List.append_nil]
      rfl

/-- The places of values with commas between them. -/
def Token.places (vs : List Value) : List Token :=
  ((vs.map fun v => Token.place (.value v)).intersperse (.words ", "))

namespace Comparison

theorem spells_compare (op : CompareOp) (h : o.HasTokens ts) (v : Value) :
    Spells b ((compare op o v).fragments b) (ts ++ [.words op.sign, .place (.value v)]) :=
  (h.spells b).append (.cons_words (by cases op <;> decide) (.place rfl))

theorem spells_isNull (negated : Bool) (h : o.HasTokens ts) :
    Spells b ((isNull negated o).fragments b)
      (ts ++ [.words (if negated then " IS NOT NULL" else " IS NULL")]) :=
  (h.spells b).append (.words (by cases negated <;> decide))

theorem spells_separated (vs : List Value) :
    Spells b (Fragment.separated ", " (vs.map fun v => [.bound v])) (Token.places vs) := by
  induction vs with
  | nil => exact .nil
  | cons v vs ih =>
    cases vs with
    | nil => exact .place rfl
    | cons w ws => exact .cons_place rfl (.cons_words (by decide) ih)

theorem spells_member (negated : Bool) (h : o.HasTokens ts) (vs : List Value) :
    Spells b ((member negated o vs).fragments b)
      (ts ++ .words (if negated then " NOT IN (" else " IN (") :: Token.places vs ++
        [.words ")"]) := by
  refine ((h.spells b).append (.cons_words ?_ (spells_separated vs))).append (.words (by decide))
  cases negated <;> decide

theorem spells_like (negated : Bool) (h : o.HasTokens ts) {x : Binding} {pattern : String}
    (hx : x.on b = .string pattern) :
    Spells b ((like negated o pattern).fragments b)
      (ts ++ [.words (if negated then " NOT LIKE " else " LIKE "), .place x,
        .words " ESCAPE '!'"]) := by
  refine (h.spells b).append (.cons_words ?_ (.cons_place hx (.words (by decide))))
  cases negated <;> decide

end Comparison

theorem Token.bindings_places (vs : List Value) :
    bindings (places vs) = vs.map Binding.value := by
  induction vs with
  | nil => rfl
  | cons v vs ih =>
    cases vs with
    | nil => rfl
    | cons w ws => exact congrArg (Binding.value v :: ·) ih

/-! ## Conditions -/

/-- A condition in no spelling yet: its tokens, and the connective that joins them, if one does. -/
structure Phrase where
  connective? : Option Connective
  tokens : List Token

namespace Phrase

/-- Whether a member of a junction stands in parentheses. -/
def needsParentheses (op : Connective) (isFirst : Bool) (p : Phrase) : Bool :=
  match p.connective? with
  | none => false
  | some op' => !(isFirst && op' == op)

/-- The tokens of a member of a junction. -/
def member (op : Connective) (isFirst : Bool) (p : Phrase) : List Token :=
  if p.needsParentheses op isFirst then .words "(" :: p.tokens ++ [.words ")"] else p.tokens

/-- The tokens of the members after the first. -/
def later (op : Connective) : List Phrase → List Token
  | [] => []
  | p :: ps => .words op.word :: (p.member op false ++ later op ps)

/-- Phrases joined. -/
def junction (op : Connective) : List Phrase → Phrase
  | [] => ⟨none, [.words op.emptyWord]⟩
  | [p] => p
  | p :: q :: ps => ⟨some op, p.member op true ++ later op (q :: ps)⟩

/-- The junction of the phrases that are present, if any is. -/
def combine? (op : Connective) (phrases : List (Option Phrase)) : Option Phrase :=
  match phrases.filterMap id with
  | [] => none
  | present => some (junction op present)

/-- What is bound in a phrase. -/
def bindings (p : Phrase) : List Binding := Token.bindings p.tokens

theorem bindings_member (op : Connective) (isFirst : Bool) (p : Phrase) :
    Token.bindings (p.member op isFirst) = p.bindings := by
  unfold member
  split
  · simp [bindings]
  · rfl

theorem bindings_later (op : Connective) (ps : List Phrase) :
    Token.bindings (later op ps) = ps.flatMap bindings := by
  induction ps with
  | nil => rfl
  | cons p ps ih => simp [later, bindings_member, ih]

/-- Connectives bind nothing. -/
theorem bindings_junction (op : Connective) (ps : List Phrase) :
    (junction op ps).bindings = ps.flatMap bindings := by
  match ps with
  | [] => rfl
  | [p] => simp [junction]
  | p :: q :: ps => simp [junction, bindings, bindings_member, bindings_later]

/-- What is bound in a phrase, if there is one. -/
def bound (p : Option Phrase) : List Binding := p.elim [] bindings

theorem bound_combine? (op : Connective) (ps : List (Option Phrase)) :
    bound (combine? op ps) = ps.flatMap bound := by
  have hpresent : (ps.filterMap id).flatMap bindings = ps.flatMap bound := by
    induction ps with
    | nil => rfl
    | cons p ps ih =>
      cases p with
      | none => simpa [bound] using ih
      | some p => simpa [bound] using ih
  rw [← hpresent]
  unfold combine?
  cases ps.filterMap id with
  | nil => rfl
  | cons p ps => exact bindings_junction op (p :: ps)

end Phrase

namespace Condition

/-- A condition of a backend is the spelling of a phrase. -/
structure SpelledAs (b : Backend) (c : Condition) (p : Phrase) : Prop where
  connective?_eq : c.connective? = p.connective?
  spells : Spells b (c.fragments b) p.tokens

variable {c : Condition} {p : Phrase} {cs : List Condition} {ps : List Phrase}

theorem spelledAs_leaf {x : Comparison} (h : Spells b (x.fragments b) ts) :
    (leaf x).SpelledAs b ⟨none, ts⟩ := by
  refine ⟨rfl, ?_⟩
  rw [fragments]
  exact h

/-- A junction of one is spelled as its only member. -/
theorem SpelledAs.asMember (h : c.SpelledAs b p) : c.asMember.SpelledAs b p := by
  match c with
  | leaf _ | junction _ [] | junction _ (_ :: _ :: _) => exact h
  | junction op [m] =>
    obtain ⟨hconnective, hspells⟩ := h
    rw [connective?] at hconnective
    rw [fragments] at hspells
    exact ⟨hconnective, hspells⟩

theorem spells_member {op : Connective} (isFirst : Bool) (h : c.SpelledAs b p) :
    Spells b (parenthesize (needsParentheses op isFirst c) (c.fragments b))
      (p.member op isFirst) := by
  have hneeds : needsParentheses op isFirst c = p.needsParentheses op isFirst := by
    cases hp : p.connective? <;>
      simp only [needsParentheses, Phrase.needsParentheses, h.connective?_eq, hp]
  rw [hneeds, Phrase.member, parenthesize]
  split
  · exact (Spells.cons_words (by decide) h.spells).append (.words (by decide))
  · exact h.spells

theorem spells_later (op : Connective) (h : List.Forall₂ (SpelledAs b) cs ps) :
    Spells b (laterFragments b op cs) (Phrase.later op ps) := by
  induction h with
  | nil => exact .nil
  | cons hc _ ih =>
    rw [laterFragments, Phrase.later]
    exact .cons_words (by cases op <;> decide) ((spells_member false hc).append ih)

/-- **Junctions.** The spellings of phrases are joined to a spelling of the phrases joined. -/
theorem spelledAs_junction (op : Connective) (h : List.Forall₂ (SpelledAs b) cs ps) :
    (junction op cs).SpelledAs b (Phrase.junction op ps) := by
  match h with
  | .nil =>
    refine ⟨rfl, ?_⟩
    rw [fragments]
    exact .words (by cases op <;> decide)
  | .cons hc .nil =>
    refine ⟨?_, ?_⟩
    · rw [connective?]
      exact hc.connective?_eq
    · rw [fragments]
      exact hc.spells
  | .cons hc (.cons hd hrest) =>
    refine ⟨rfl, ?_⟩
    rw [fragments]
    exact (spells_member true hc).append (spells_later op (.cons hd hrest))

theorem forall₂_filterMap_id {α β : Type} {R : α → β → Prop} {xs : List (Option α)}
    {ys : List (Option β)} (h : List.Forall₂ (Option.Rel R) xs ys) :
    List.Forall₂ R (xs.filterMap id) (ys.filterMap id) := by
  induction h with
  | nil => exact .nil
  | cons hx _ ih =>
    cases hx with
    | none => simpa using ih
    | some hx => simpa using ⟨hx, ih⟩

/-- What is present is joined, in every spelling. -/
theorem spelledAs_combine? (op : Connective) {cs : List (Option Condition)}
    {ps : List (Option Phrase)} (h : List.Forall₂ (Option.Rel (SpelledAs b)) cs ps) :
    Option.Rel (SpelledAs b) (combine? op cs) (Phrase.combine? op ps) := by
  unfold combine? Phrase.combine?
  match cs.filterMap id, ps.filterMap id, forall₂_filterMap_id h with
  | _, _, .nil => exact .none
  | _, _, .cons hc hrest =>
    have hmembers := List.Forall₂.cons hc hrest
    refine .some (spelledAs_junction op ?_)
    rw [List.forall₂_map_left_iff]
    exact hmembers.imp fun _ _ hd => hd.asMember

end Condition

/-! ## Conditions of several backends -/

/-- The conditions of the backends are spellings of one phrase, in which only certain lists of
bindings follow each other. -/
def SpelledAlike {γ : Type} (binds : γ → List Binding) (F : Backend → Condition) : Prop :=
  ∃ (p : Phrase) (parts : List γ), (∀ b, (F b).SpelledAs b p) ∧ p.bindings = parts.flatMap binds

namespace SpelledAlike

variable {γ : Type} {binds : γ → List Binding}

theorem leaf {x : Backend → Comparison} {ts : List Token} (parts : List γ)
    (h : ∀ b, Spells b ((x b).fragments b) ts) (hbinds : Token.bindings ts = parts.flatMap binds) :
    SpelledAlike binds fun b => .leaf (x b) :=
  ⟨⟨none, ts⟩, parts, fun b => Condition.spelledAs_leaf (h b), hbinds⟩

theorem asMember {F : Backend → Condition} (h : SpelledAlike binds F) :
    SpelledAlike binds fun b => (F b).asMember := by
  obtain ⟨p, parts, hF, hbinds⟩ := h
  exact ⟨p, parts, fun b => (hF b).asMember, hbinds⟩

/-- Conditions that are spelled alike are so when joined. -/
theorem junction {α : Type} (op : Connective) {xs : List α} {F : Backend → α → Condition}
    (h : ∀ x ∈ xs, SpelledAlike binds fun b => F b x) :
    SpelledAlike binds fun b => .junction op (xs.map (F b)) := by
  have hphrases : ∃ (ps : List Phrase) (parts : List γ),
      (∀ b, List.Forall₂ (Condition.SpelledAs b) (xs.map (F b)) ps) ∧
      ps.flatMap Phrase.bindings = parts.flatMap binds := by
    induction xs with
    | nil => exact ⟨[], [], fun b => .nil, rfl⟩
    | cons x xs ih =>
      obtain ⟨p, parts, hp, hparts⟩ := h x List.mem_cons_self
      obtain ⟨ps, parts', hps, hparts'⟩ := ih fun y hy => h y (List.mem_cons_of_mem x hy)
      exact ⟨p :: ps, parts ++ parts', fun b => .cons (hp b) (hps b), by simp [hparts, hparts']⟩
  obtain ⟨ps, parts, hps, hparts⟩ := hphrases
  exact ⟨.junction op ps, parts, fun b => Condition.spelledAs_junction op (hps b),
    (Phrase.bindings_junction op ps).trans hparts⟩

/-- So they are when those that are present are combined. -/
theorem combine? {op : Connective} {cs : List (Option Condition)} {c : Condition}
    (h : ∀ d, some d ∈ cs → SpelledAlike binds fun _ => d)
    (hc : Condition.combine? op cs = some c) : SpelledAlike binds fun _ => c := by
  unfold Condition.combine? at hc
  split at hc
  · cases hc
  · obtain rfl := Option.some.inj hc
    refine .junction op fun d hd => (h d ?_).asMember
    simpa using hd

end SpelledAlike

end EntitySearch.Sql
