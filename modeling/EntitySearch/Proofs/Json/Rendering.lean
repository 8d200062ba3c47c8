import EntitySearch.Json.Record
import EntitySearch.Json.Text
import EntitySearch.Proofs.Decimal.Digits
import EntitySearch.Proofs.Json.Grammar
import EntitySearch.Proofs.Json.Number

/-!
# Rendered JSON is JSON

What is written follows the grammar by which texts are read: strings with the characters escaped that
must be, integers without needless zeros, arrays and objects without space.

* `layout_word64`, `layout_strings`: the texts of integers and of lists of strings.
* `layout_object`: the text of an object is one of its members' tokens.
-/

namespace EntitySearch.Json

open Token (Spelled PieceSpelled)

/-! ## Texts in a row -/

namespace Layout

variable {ts us : List Token} {cs ds : List Char}

theorem token {t : Token} (h : t.Spelled cs) : Layout [t] cs := by
  have hlayout : Layout [t] ([] ++ (cs ++ [])) := .cons (by simp) h (.nil (by simp))
  simpa using hlayout

theorem space_append {space : List Char} (hspace : ∀ c ∈ space, Token.isSpace c = true)
    (h : Layout ts cs) : Layout ts (space ++ cs) := by
  have hboth : ∀ other : List Char, (∀ c ∈ other, Token.isSpace c = true) →
      ∀ c ∈ space ++ other, Token.isSpace c = true := by
    intro other hother c hc
    exact (List.mem_append.mp hc).elim (hspace c) (hother c)
  cases h with
  | nil h => exact .nil (hboth _ h)
  | cons h ht hrest =>
    rw [← List.append_assoc]
    exact .cons (hboth _ h) ht hrest

/-- Texts one behind the other. Where they meet there may be no space. -/
theorem append (h : Layout ts cs) (h' : Layout us ds) : Layout (ts ++ us) (cs ++ ds) := by
  induction h with
  | nil hspace => exact h'.space_append hspace
  | cons hspace ht _ ih =>
    rw [List.append_assoc, List.append_assoc]
    exact .cons hspace ht ih

theorem cons_mark {c : Char} {t : Token} (h : Token.punctuation? c = some t) (h' : Layout us ds) :
    Layout (t :: us) (c :: ds) :=
  (token (.mark h)).append h'

end Layout

/-! ## Strings -/

/-- A control character is spelled by its number. -/
theorem pieceSpelled_control {c : Char} (hc : c.toNat < 0x20) :
    PieceSpelled (.char c)
      ['\\', 'u', '0', '0', Text.hexChar (c.toNat / 16), Text.hexChar (c.toNat % 16)] := by
  have hvalue : 16 * (16 * (16 * 0 + 0) + c.toNat / 16) + c.toNat % 16 = c.toNat := by omega
  have hhalves : (Token.isHighHalf c.toNat || Token.isLowHalf c.toNat) = false := by
    have hsmall : ¬ 0xD800 ≤ c.toNat ∧ ¬ 0xDC00 ≤ c.toNat := by omega
    simp [Token.isHighHalf, Token.isLowHalf, hsmall]
  have hpiece : Token.pieceOfUnit c.toNat = .char c := by
    rw [Token.pieceOfUnit, hhalves, Char.ofNat_toNat]
    rfl
  have hhigh : Text.hexValue? (Text.hexChar (c.toNat / 16)) = some (c.toNat / 16) :=
    Text.hexValue?_hexChar (by omega)
  have hlow : Text.hexValue? (Text.hexChar (c.toNat % 16)) = some (c.toNat % 16) :=
    Text.hexValue?_hexChar (by omega)
  have hzero : Text.hexValue? '0' = some 0 := rfl
  have hspelled := PieceSpelled.unit hzero hzero hhigh hlow
  rwa [hvalue, hpiece] at hspelled

/-- A character is written as itself or as an escape. -/
theorem pieceSpelled_quotedChar (c : Char) : PieceSpelled (.char c) (quotedChar c) := by
  by_cases hletter : c = '"' ∨ c = '\\' ∨ c = '\n' ∨ c = '\r' ∨ c = '\t' ∨ c = Char.ofNat 8 ∨
      c = Char.ofNat 12
  · rcases hletter with rfl | rfl | rfl | rfl | rfl | rfl | rfl <;> exact .escape rfl
  · simp only [not_or] at hletter
    obtain ⟨hquote, hbackslash, hnewline, hreturn, htab, hbackspace, hfeed⟩ := hletter
    have hcode : ∀ n, c ≠ Char.ofNat n → c.toNat ≠ n := by
      rintro n hn rfl
      exact hn (Char.ofNat_toNat c).symm
    simp only [quotedChar, beq_iff_eq, hquote, hbackslash, hnewline, hreturn, htab,
      hcode 8 hbackspace, hcode 12 hfeed, ↓reduceIte]
    split
    · exact pieceSpelled_control ‹_›
    · exact .plain hquote hbackslash (by omega)

theorem joinPieces?_chars (cs acc : List Char) :
    Token.joinPieces? acc (cs.map Token.Piece.char) = some (String.ofList (cs.reverse ++ acc)) := by
  induction cs generalizing acc with
  | nil => rfl
  | cons c cs ih =>
    rw [List.map_cons, Token.joinPieces?, ih, List.reverse_cons, List.append_assoc]
    rfl

/-- A quoted string spells it. -/
theorem spelled_quoted (s : String) : Spelled (.text (some s)) (quoted s) := by
  have hpieces : List.Forall₂ PieceSpelled (s.toList.map Token.Piece.char)
      (s.toList.map quotedChar) := by
    rw [List.forall₂_map_left_iff, List.forall₂_map_right_iff, List.forall₂_same]
    exact fun c _ => pieceSpelled_quotedChar c
  have htext : Token.joinPieces? [] (s.toList.map Token.Piece.char).reverse = some s := by
    rw [← List.map_reverse, joinPieces?_chars, List.reverse_reverse, List.append_nil,
      String.ofList_toList]
  have hquoted := Spelled.quoted hpieces
  rw [htext] at hquoted
  rwa [quoted, List.flatMap_def]

/-! ## Numbers -/

/-- An integer that 64 bits hold, with a sign or without one, is spelled by its digits. -/
theorem spelled_integer {n : Int} (hlow : -2 ^ 63 ≤ n) (hhigh : n < 2 ^ 64) :
    Spelled (.number (some (.integer n))) (Decimal.intChars n) := by
  have hlexeme : Lexeme.Spelled ⟨decide (n < 0), Decimal.digits n.natAbs, none, none⟩
      ((if decide (n < 0) = true then ['-'] else []) ++ (Decimal.digits n.natAbs ++ ([] ++ []))) :=
    .mk ⟨Decimal.digits_ne_nil _, fun c => Decimal.isDigit_of_mem_digits⟩
      Decimal.digits_eq_zero .none .none
  have hnumber : Lexeme.number? ⟨decide (n < 0), Decimal.digits n.natAbs, none, none⟩ =
      some (.integer n) := by
    refine Lexeme.number?_eq_integer_iff.mpr ⟨?_, hlow, hhigh⟩
    by_cases hn : n < 0
    · have hzero : n.natAbs ≠ 0 := by omega
      have hvalue : -(n.natAbs : Int) = n := by omega
      simp only [Lexeme.integer?, hn, decide_true, if_true, Decimal.value_digits, hzero, if_false,
        hvalue]
    · have hvalue : (n.natAbs : Int) = n := by omega
      simp only [Lexeme.integer?, hn, decide_false, Bool.false_eq_true, if_false,
        Decimal.value_digits, hvalue]
  have hspelled := Spelled.numeral hlexeme
  rw [hnumber] at hspelled
  by_cases hn : n < 0 <;> simpa [Decimal.intChars, hn] using hspelled

/-- The digits of a number that 64 bits hold spell it. -/
theorem spelled_word64 (n : UInt64) :
    Spelled (.number (some (.integer n.toNat))) (Decimal.intChars n.toNat) := by
  have hlt := n.toNat_lt
  exact spelled_integer (by omega) (by omega)

/-! ## Arrays and objects -/

theorem chars_array (items : List Json) :
    (array items).chars = '[' :: (commaSeparated (items.map chars) ++ [']']) := by
  have hitems : itemsChars items = items.map chars := by
    induction items with
    | nil => rfl
    | cons v items ih => exact congrArg (v.chars :: ·) ih
  rw [← hitems]
  rfl

theorem chars_object (members : List (String × Json)) :
    (object members).chars =
      '{' :: (commaSeparated (members.map fun m => quoted m.1 ++ ':' :: m.2.chars) ++ ['}']) := by
  have hmembers : membersChars members =
      members.map fun m => quoted m.1 ++ ':' :: m.2.chars := by
    induction members with
    | nil => rfl
    | cons m members ih => exact congrArg ((quoted m.1 ++ ':' :: m.2.chars) :: ·) ih
  rw [← hmembers]
  rfl

theorem layout_commaSeparated {parts : List (List Token)} {texts : List (List Char)}
    (h : List.Forall₂ Layout parts texts) :
    Layout (separatedTokens parts) (commaSeparated texts) := by
  induction h with
  | nil => exact .nil (by simp [commaSeparated])
  | @cons part text parts texts hpart hparts ih =>
    cases hparts with
    | nil =>
      rw [separatedTokens, List.flatMap_nil, List.append_nil]
      exact hpart
    | cons hnext hrest =>
      rw [separatedTokens, List.flatMap_cons, List.cons_append]
      exact hpart.append (.cons_mark rfl ih)

theorem layout_array {items : List (List Token)} {vs : List Json}
    (h : List.Forall₂ (fun ts v => Layout ts v.chars) items vs) :
    Layout (arrayTokens items) (array vs).chars := by
  rw [chars_array]
  have hitems : List.Forall₂ Layout items (vs.map chars) := List.forall₂_map_right_iff.mpr h
  exact .cons_mark rfl ((layout_commaSeparated hitems).append (.token (.mark rfl)))

/-- The text of an object is one of its members' tokens. -/
theorem layout_object {ms : List (String × List Token)} {js : List (String × Json)}
    (h : List.Forall₂ (fun m j => m.1 = j.1 ∧ Layout m.2 j.2.chars) ms js) :
    Layout (namedTokens ms) (object js).chars := by
  rw [chars_object, namedTokens, objectTokens, List.map_map]
  have hmembers : List.Forall₂ Layout (ms.map (memberTokens ∘ fun m => (some m.1, m.2)))
      (js.map fun j => quoted j.1 ++ ':' :: j.2.chars) := by
    rw [List.forall₂_map_left_iff, List.forall₂_map_right_iff]
    refine h.imp fun m j hm => ?_
    obtain ⟨hname, hlayout⟩ := hm
    have hkey : Layout [.text (some m.1)] (quoted j.1) := hname ▸ .token (spelled_quoted m.1)
    exact hkey.append (.cons_mark rfl hlayout)
  exact .cons_mark rfl ((layout_commaSeparated hmembers).append (.token (.mark rfl)))

/-! ## Integers and lists of strings -/

/-- The tokens of an integer of 64 bits without sign. -/
def word64Tokens (n : UInt64) : List Token := [.number (some (.integer n.toNat))]

/-- The tokens of a list of strings. -/
def stringsTokens (ss : List String) : List Token := arrayTokens (ss.map fun s => [.text (some s)])

theorem layout_word64 (n : UInt64) : Layout (word64Tokens n) (ofWord64 n).chars :=
  .token (spelled_word64 n)

theorem layout_strings (ss : List String) : Layout (stringsTokens ss) (ofStrings ss).chars := by
  refine layout_array ?_
  rw [List.forall₂_map_left_iff, List.forall₂_map_right_iff, List.forall₂_same]
  exact fun s _ => .token (spelled_quoted s)

theorem denotes_word64 (depth : Nat) (n : UInt64) : Denotes depth (word64Tokens n) (ofWord64 n) :=
  .number _

theorem denotes_strings {depth : Nat} (hdepth : depth < depthLimit) (ss : List String) :
    Denotes depth (stringsTokens ss) (ofStrings ss) := by
  have hitems : List.Forall₂ (Denotes (depth + 1)) (ss.map fun s => [.text (some s)])
      (ss.map string) := by
    rw [List.forall₂_map_left_iff, List.forall₂_map_right_iff, List.forall₂_same]
    exact fun s _ => .text s
  have harray : arrayAt depth (ss.map string) = ofStrings ss :=
    if_neg (Nat.not_le.mpr hdepth)
  exact harray ▸ denotes_array hitems

theorem isValue_word64 (n : UInt64) : IsValue (word64Tokens n) := .number _

theorem isValue_strings (ss : List String) : IsValue (stringsTokens ss) := by
  refine .array fun item hitem => ?_
  obtain ⟨s, -, rfl⟩ := List.mem_map.mp hitem
  exact .text _

theorem word64?_ofWord64 (n : UInt64) : word64? (ofWord64 n) = some n := by
  have hlt := n.toNat_lt
  have hsize : (UInt64.size : Int) = 2 ^ 64 := rfl
  rw [ofWord64, word64?, if_pos (by omega)]
  simp

theorem strings?_ofStrings (ss : List String) : strings? (ofStrings ss) = some ss := by
  rw [ofStrings, strings?]
  induction ss with
  | nil => rfl
  | cons s ss ih => simp [List.mapM_cons, ih, string?]

end EntitySearch.Json
