import EntitySearch.Json.Value
import Mathlib.Data.List.Forall2

/-!
# How JSON texts are laid out

The grammar of JSON texts, from which the scanner is seen to miss none: how each token may be
spelled, and tokens with space between them.

* `Token.Spelled`: the spellings of a token. Numbers and strings have many.
* `Layout`: the texts of a list of tokens.
* `Layout.read?_eq`: a text of tokens that make a document is read as that document.
-/

namespace EntitySearch.Json

/-! ## Spellings -/

/-- One or more digits. -/
def IsDigits (ds : List Char) : Prop := ds ≠ [] ∧ ∀ c ∈ ds, Decimal.isDigit c = true

/-- The fraction of a number, with its point. -/
inductive FractionSpelled : Option (List Char) → List Char → Prop where
  | none : FractionSpelled none []
  | some {ds : List Char} (h : IsDigits ds) : FractionSpelled (some ds) ('.' :: ds)

/-- The exponent of a number, with the letter in front and perhaps a sign. -/
inductive ExponentSpelled : Option Int → List Char → Prop where
  | none : ExponentSpelled none []
  | plain {e : Char} {ds : List Char} (he : e = 'e' ∨ e = 'E') (h : IsDigits ds) :
      ExponentSpelled (some (Decimal.value ds)) (e :: ds)
  | plus {e : Char} {ds : List Char} (he : e = 'e' ∨ e = 'E') (h : IsDigits ds) :
      ExponentSpelled (some (Decimal.value ds)) (e :: '+' :: ds)
  | minus {e : Char} {ds : List Char} (he : e = 'e' ∨ e = 'E') (h : IsDigits ds) :
      ExponentSpelled (some (-Decimal.value ds)) (e :: '-' :: ds)

/-- A number: perhaps a minus sign, digits without a needless zero in front, perhaps a fraction, and
perhaps an exponent. -/
inductive Lexeme.Spelled : Lexeme → List Char → Prop where
  | mk {negative : Bool} {whole fs es : List Char} {fraction : Option (List Char)}
      {exponent : Option Int} (hwhole : IsDigits whole)
      (hzero : whole.head? = some '0' → whole = ['0']) (hfraction : FractionSpelled fraction fs)
      (hexponent : ExponentSpelled exponent es) :
      Spelled ⟨negative, whole, fraction, exponent⟩
        ((if negative then ['-'] else []) ++ (whole ++ (fs ++ es)))

namespace Token

/-- One element of a string: a character that stands for itself, an escape of one letter, or one of
four hexadecimal digits. -/
inductive PieceSpelled : Piece → List Char → Prop where
  | plain {c : Char} (hquote : c ≠ '"') (hbackslash : c ≠ '\\') (hcontrol : 0x20 ≤ c.toNat) :
      PieceSpelled (.char c) [c]
  | escape {e c : Char} (h : escaped? e = some c) : PieceSpelled (.char c) ['\\', e]
  | unit {a b c d : Char} {i j k l : Nat} (ha : Text.hexValue? a = some i)
      (hb : Text.hexValue? b = some j) (hc : Text.hexValue? c = some k)
      (hd : Text.hexValue? d = some l) :
      PieceSpelled (pieceOfUnit (16 * (16 * (16 * i + j) + k) + l)) ['\\', 'u', a, b, c, d]

/-- The spellings of a token. -/
inductive Spelled : Token → List Char → Prop where
  | mark {c : Char} {t : Token} (h : punctuation? c = some t) : Spelled t [c]
  | nullWord : Spelled null ['n', 'u', 'l', 'l']
  | trueWord : Spelled (bool true) ['t', 'r', 'u', 'e']
  | falseWord : Spelled (bool false) ['f', 'a', 'l', 's', 'e']
  | numeral {l : Lexeme} {cs : List Char} (h : l.Spelled cs) : Spelled (number l.number?) cs
  | quoted {pieces : List Piece} {parts : List (List Char)}
      (h : List.Forall₂ PieceSpelled pieces parts) :
      Spelled (text (joinPieces? [] pieces.reverse)) ('"' :: parts.flatten ++ ['"'])

/-- Whether a token is a word or a number, whose end only the next character shows. -/
def isAtom : Token → Bool
  | null | bool _ | number _ => true
  | _ => Bool.false

end Token

/-- The texts of tokens: their spellings in order, with any space around them. -/
inductive Layout : List Token → List Char → Prop where
  | nil {space : List Char} (hspace : ∀ c ∈ space, Token.isSpace c = true) : Layout [] space
  | cons {space cs rest : List Char} {t : Token} {ts : List Token}
      (hspace : ∀ c ∈ space, Token.isSpace c = true) (ht : t.Spelled cs) (hrest : Layout ts rest) :
      Layout (t :: ts) (space ++ (cs ++ rest))

/-! ## Numbers -/

theorem takeWhile_digits {ds rest : List Char} (hds : ∀ c ∈ ds, Decimal.isDigit c = true)
    (hrest : ∀ c ∈ rest.head?, Decimal.isDigit c = false) :
    (ds ++ rest).takeWhile Decimal.isDigit = ds ∧
      (ds ++ rest).dropWhile Decimal.isDigit = rest := by
  rw [List.takeWhile_append_of_pos hds, List.dropWhile_append_of_pos hds]
  cases rest with
  | nil => simp
  | cons c rest => simp [hrest c rfl]

namespace IsDigits

variable {ds : List Char}

theorem all_isDigit (h : IsDigits ds) : (ds.isEmpty || !ds.all Decimal.isDigit) = false := by
  have hall : ds.all Decimal.isDigit = true := List.all_eq_true.mpr h.2
  rw [hall, List.isEmpty_eq_false_iff.mpr h.1]
  rfl

theorem exists_eq_cons (h : IsDigits ds) : ∃ c cs, ds = c :: cs ∧ Decimal.isDigit c = true := by
  obtain ⟨c, cs, rfl⟩ := List.exists_cons_of_ne_nil h.1
  exact ⟨c, cs, rfl, h.2 c List.mem_cons_self⟩

theorem splitSign_eq (h : IsDigits ds) : Decimal.splitSign ds = (false, ds) := by
  obtain ⟨c, cs, rfl, hc⟩ := h.exists_eq_cons
  unfold Decimal.splitSign
  split
  · rename_i heq
    obtain ⟨rfl, -⟩ := List.cons.inj heq
    exact absurd hc (by decide)
  · rename_i heq
    obtain ⟨rfl, -⟩ := List.cons.inj heq
    exact absurd hc (by decide)
  · rfl

theorem readInt?_eq (h : IsDigits ds) :
    Decimal.readInt? ds = some (Decimal.value ds : Int) := by
  simp only [Decimal.readInt?, h.splitSign_eq, h.all_isDigit, Bool.false_eq_true, ↓reduceIte]

theorem readInt?_plus (h : IsDigits ds) :
    Decimal.readInt? ('+' :: ds) = some (Decimal.value ds : Int) := by
  simp only [Decimal.readInt?, Decimal.splitSign, h.all_isDigit, Bool.false_eq_true, ↓reduceIte]

theorem readInt?_minus (h : IsDigits ds) :
    Decimal.readInt? ('-' :: ds) = some (-(Decimal.value ds : Int)) := by
  simp only [Decimal.readInt?, Decimal.splitSign, h.all_isDigit, Bool.false_eq_true, ↓reduceIte]

end IsDigits

theorem ExponentSpelled.readExponent? {exponent : Option Int} {es : List Char}
    (h : ExponentSpelled exponent es) : Lexeme.readExponent? es = some exponent := by
  cases h with
  | none => rfl
  | plain he h | plus he h | minus he h =>
    have hletter : ∀ c : Char, c = 'e' ∨ c = 'E' → (c == 'e' || c == 'E') = true := by simp
    simp only [Lexeme.readExponent?, hletter _ he, ↓reduceIte, h.readInt?_plus,
      h.readInt?_minus, h.readInt?_eq, Option.map_some]

/-- What follows the digits of a number begins with no digit. -/
theorem ExponentSpelled.head_not_digit {exponent : Option Int} {es : List Char}
    (h : ExponentSpelled exponent es) : ∀ c ∈ es.head?, Decimal.isDigit c = false := by
  intro c hc
  cases h with
  | none => cases hc
  | plain he h | plus he h | minus he h =>
    obtain rfl := Option.some.inj hc
    rcases he with rfl | rfl <;> decide

theorem FractionSpelled.head_not_digit {fraction : Option (List Char)} {exponent : Option Int}
    {fs es : List Char} (h : FractionSpelled fraction fs) (he : ExponentSpelled exponent es) :
    ∀ c ∈ (fs ++ es).head?, Decimal.isDigit c = false := by
  cases h with
  | none => exact he.head_not_digit
  | some h =>
    intro c hc
    obtain rfl := Option.some.inj hc
    decide

theorem FractionSpelled.readFraction? {fraction : Option (List Char)} {exponent : Option Int}
    {fs es : List Char} (h : FractionSpelled fraction fs) (he : ExponentSpelled exponent es) :
    Lexeme.readFraction? (fs ++ es) = Option.some (fraction, es) := by
  cases h with
  | none =>
    cases he with
    | none => rfl
    | plain he h | plus he h | minus he h => rcases he with rfl | rfl <;> rfl
  | @some ds h =>
    obtain ⟨htake, hdrop⟩ := takeWhile_digits h.2 he.head_not_digit
    simp only [List.cons_append, Lexeme.readFraction?, htake, hdrop,
      List.isEmpty_eq_false_iff.mpr h.1, Bool.false_eq_true, ↓reduceIte]

/-- A number is read as it is spelled. -/
theorem Lexeme.Spelled.read?_eq {l : Lexeme} {cs : List Char} (h : l.Spelled cs) :
    Lexeme.read? cs = some l := by
  obtain @⟨negative, whole, fs, es, fraction, exponent, hwhole, hzero, hfraction, hexponent⟩ := h
  obtain ⟨htake, hdrop⟩ := takeWhile_digits hwhole.2 (hfraction.head_not_digit hexponent)
  have hneedless : (whole.isEmpty || whole.head? == some '0' && whole.length != 1) = false := by
    obtain ⟨c, cs, rfl, -⟩ := hwhole.exists_eq_cons
    by_cases hc : c = '0'
    · subst hc
      rw [hzero rfl]
      rfl
    · simp [hc]
  unfold Lexeme.read?
  cases negative with
  | true =>
    simp only [↓reduceIte, List.cons_append, List.nil_append, htake, hdrop, hneedless,
      hfraction.readFraction? hexponent, Bool.false_eq_true, Option.bind_eq_bind,
      Option.bind_some, hexponent.readExponent?, Option.pure_def]
  | false =>
    have hsign : ∀ r, whole ++ (fs ++ es) ≠ '-' :: r := by
      obtain ⟨c, cs, rfl, hc⟩ := hwhole.exists_eq_cons
      rintro r heq
      obtain ⟨rfl, -⟩ := List.cons.inj heq
      exact absurd hc (by decide)
    simp only [Bool.false_eq_true, ↓reduceIte, List.nil_append, htake, hdrop, hneedless,
      hfraction.readFraction? hexponent, Option.bind_eq_bind, Option.bind_some,
      hexponent.readExponent?, Option.pure_def]

/-- Numbers are made of the characters that numbers are scanned by. -/
theorem Lexeme.Spelled.isNumberChar {l : Lexeme} {cs : List Char} (h : l.Spelled cs) :
    ∀ c ∈ cs, Token.isNumberChar c = true := by
  have hdigits : ∀ ds, IsDigits ds → ∀ c ∈ ds, Token.isNumberChar c = true := by
    intro ds hds c hc
    simp [Token.isNumberChar, hds.2 c hc]
  obtain @⟨negative, whole, fs, es, fraction, exponent, hwhole, hzero, hfraction, hexponent⟩ := h
  intro c hc
  simp only [List.mem_append] at hc
  rcases hc with hc | hc | hc | hc
  · cases negative with
    | true => obtain rfl := List.mem_singleton.mp hc; decide
    | false => cases hc
  · exact hdigits whole hwhole c hc
  · cases hfraction with
    | none => cases hc
    | some hds =>
      rcases List.mem_cons.mp hc with rfl | hc
      · decide
      · exact hdigits _ hds c hc
  · cases hexponent with
    | none => cases hc
    | plain he hds =>
      rcases List.mem_cons.mp hc with rfl | hc
      · rcases he with rfl | rfl <;> decide
      · exact hdigits _ hds c hc
    | plus he hds | minus he hds =>
      rcases List.mem_cons.mp hc with rfl | hc
      · rcases he with rfl | rfl <;> decide
      · rcases List.mem_cons.mp hc with rfl | hc
        · decide
        · exact hdigits _ hds c hc

/-- Numbers begin with a digit or a minus sign. -/
theorem Lexeme.Spelled.exists_eq_cons {l : Lexeme} {cs : List Char} (h : l.Spelled cs) :
    ∃ c rest, cs = c :: rest ∧ (c = '-' ∨ Decimal.isDigit c = true) := by
  obtain @⟨negative, whole, fs, es, fraction, exponent, hwhole, hzero, hfraction, hexponent⟩ := h
  cases negative with
  | true => exact ⟨_, _, rfl, .inl rfl⟩
  | false =>
    obtain ⟨c, cs, rfl, hc⟩ := hwhole.exists_eq_cons
    exact ⟨c, _, rfl, .inr hc⟩

/-! ## Scanning -/

namespace Token

/-- The tokens that a scan has come to if the text ends here or with a character that goes on with
none of them, last first. -/
inductive Scan.Settles : Scan → List Token → Prop where
  | between (ts : List Token) : Settles ⟨ts, .between⟩ ts
  | word {seen : List Char} {t : Token} (ts : List Token) (h : ofWord? seen = some t) :
      Settles ⟨ts, .word seen⟩ (t :: ts)
  | number {seen : List Char} {t : Token} (ts : List Token) (h : ofNumber? seen = some t) :
      Settles ⟨ts, .number seen⟩ (t :: ts)

/-- Reads characters. -/
def Scan.run (s : Scan) (cs : List Char) : Option Scan := cs.foldlM Scan.step s

namespace Scan

variable {s s' : Scan} {ts : List Token}

theorem run_cons (c : Char) (cs : List Char) : s.run (c :: cs) = (s.step c).bind (·.run cs) := by
  rw [run, List.foldlM_cons]
  rfl

theorem run_append (cs ds : List Char) : s.run (cs ++ ds) = (s.run cs).bind (·.run ds) := by
  rw [run, List.foldlM_append]
  rfl

theorem Settles.finish?_eq (h : s.Settles ts) : s.finish? = some ts.reverse := by
  cases h with
  | between => rfl
  | word ts h | number ts h => simp [finish?, h]

/-- A character that goes on with nothing is read as after completed tokens. -/
theorem Settles.step_eq (h : s.Settles ts) {c : Char}
    (hc : s.mode = .between ∨ isWordChar c = false ∧ isNumberChar c = false) :
    s.step c = stepBetween ts c := by
  cases h with
  | between => rfl
  | word ts h =>
    obtain ⟨hword, -⟩ := hc.resolve_left (by simp)
    simp [step, h, hword]
  | number ts h =>
    obtain ⟨-, hnumber⟩ := hc.resolve_left (by simp)
    simp [step, h, hnumber]

theorem Settles.eq_between (h : s.Settles ts) (hmode : s.mode = .between) :
    s = ⟨ts, .between⟩ := by
  cases h with
  | between => rfl
  | word ts h | number ts h => cases hmode

theorem not_wordChar_of_isSpace {c : Char} (h : isSpace c = true) :
    isWordChar c = false ∧ isNumberChar c = false := by
  simp only [isSpace, Bool.or_eq_true, beq_iff_eq] at h
  rcases h with ((rfl | rfl) | rfl) | rfl <;> decide

/-- Space ends what is under way. -/
theorem Settles.run_space (h : s.Settles ts) {space : List Char}
    (hspace : ∀ c ∈ space, isSpace c = true) :
    space = [] ∧ s.run space = some s ∨ s.run space = some ⟨ts, .between⟩ := by
  have hbetween : ∀ cs : List Char, (∀ c ∈ cs, isSpace c = true) →
      run ⟨ts, .between⟩ cs = some ⟨ts, .between⟩ := by
    intro cs hcs
    induction cs with
    | nil => rfl
    | cons c cs ih =>
      have hstep : step ⟨ts, .between⟩ c = some ⟨ts, .between⟩ := by
        simp [step, stepBetween, hcs c List.mem_cons_self]
      rw [run_cons, hstep]
      exact ih fun d hd => hcs d (List.mem_cons_of_mem c hd)
  cases space with
  | nil => exact .inl ⟨rfl, rfl⟩
  | cons c cs =>
    right
    have hc := hspace c List.mem_cons_self
    have hstep : s.step c = some ⟨ts, .between⟩ := by
      rw [h.step_eq (.inr (not_wordChar_of_isSpace hc))]
      simp [stepBetween, hc]
    rw [run_cons, hstep]
    exact hbetween cs fun d hd => hspace d (List.mem_cons_of_mem c hd)

/-- The elements of a string. -/
theorem run_pieces {pieces : List Piece} {parts : List (List Char)}
    (h : List.Forall₂ PieceSpelled pieces parts) (seen : List Piece) :
    run ⟨ts, .string seen⟩ parts.flatten = some ⟨ts, .string (pieces.reverse ++ seen)⟩ := by
  induction h generalizing seen with
  | nil => rfl
  | @cons piece part pieces parts hpiece _ ih =>
    have hpart : run ⟨ts, .string seen⟩ part = some ⟨ts, .string (piece :: seen)⟩ := by
      cases hpiece with
      | plain hquote hbackslash hcontrol =>
        simp [run, step, hquote, hbackslash, Nat.not_lt.mpr hcontrol]
      | @escape e c h =>
        have hu : e ≠ 'u' := by
          rintro rfl
          cases h
        simp [run, step, hu, h]
      | unit ha hb hc hd =>
        simp [run, step, ha, hb, hc, hd]
    rw [List.flatten_cons, run_append, hpart, Option.bind_some, ih, List.reverse_cons,
      List.append_assoc]
    rfl

theorem run_number {cs : List Char} (hcs : ∀ c ∈ cs, isNumberChar c = true) (seen : List Char) :
    run ⟨ts, .number seen⟩ cs = some ⟨ts, .number (cs.reverse ++ seen)⟩ := by
  induction cs generalizing seen with
  | nil => rfl
  | cons c cs ih =>
    have hstep : step ⟨ts, .number seen⟩ c = some ⟨ts, .number (c :: seen)⟩ := by
      simp [step, hcs c List.mem_cons_self]
    rw [run_cons, hstep, Option.bind_some, ih fun d hd => hcs d (List.mem_cons_of_mem c hd)]
    simp

end Scan

open Scan

theorem stepBetween_number {ts : List Token} {c : Char} (h : c = '-' ∨ Decimal.isDigit c = true) :
    stepBetween ts c = some ⟨ts, .number [c]⟩ := by
  rcases h with rfl | h
  · rfl
  · have hrange : '0'.toNat ≤ c.toNat ∧ c.toNat ≤ '9'.toNat := by
      simpa [Decimal.isDigit] using h
    have hother : ∀ d, Decimal.isDigit d = false → c ≠ d := by
      rintro d hd rfl
      exact Bool.false_ne_true (hd.symm.trans h)
    have hspace : isSpace c = false := by
      simp [isSpace, hother ' ' rfl, hother '\t' rfl, hother '\n' rfl, hother '\r' rfl]
    have hword : isWordChar c = false := by
      have hsmall : ¬ 'a'.toNat ≤ c.toNat := fun hlow =>
        absurd (Nat.le_trans hlow hrange.2) (by decide)
      rw [isWordChar, decide_eq_false hsmall, Bool.false_and]
    simp [stepBetween, hspace, hother '"' rfl, hword, h]

/-- A token alone is scanned as it is. A mark or a string is complete at once. -/
theorem Spelled.exists_run {t : Token} {cs : List Char} (h : t.Spelled cs) (ts : List Token) :
    ∃ s, run ⟨ts, .between⟩ cs = some s ∧ s.Settles (t :: ts) ∧
      (t.isAtom = false → s.mode = .between) := by
  cases h with
  | @mark c t h =>
    refine ⟨⟨t :: ts, .between⟩, ?_, .between _, fun _ => rfl⟩
    unfold punctuation? at h
    split at h <;> cases h <;> rfl
  | nullWord => exact ⟨⟨ts, .word "llun".toList⟩, rfl, .word ts rfl, fun h => nomatch h⟩
  | trueWord => exact ⟨⟨ts, .word "eurt".toList⟩, rfl, .word ts rfl, fun h => nomatch h⟩
  | falseWord => exact ⟨⟨ts, .word "eslaf".toList⟩, rfl, .word ts rfl, fun h => nomatch h⟩
  | @numeral l cs h =>
    obtain ⟨c, rest, rfl, hc⟩ := h.exists_eq_cons
    refine ⟨⟨ts, .number (c :: rest).reverse⟩, ?_, .number ts ?_, fun h => nomatch h⟩
    · have hstep : step ⟨ts, .between⟩ c = some ⟨ts, .number [c]⟩ := stepBetween_number hc
      rw [run_cons, hstep, Option.bind_some,
        run_number fun d hd => h.isNumberChar d (List.mem_cons_of_mem c hd), List.reverse_cons]
    · rw [ofNumber?, List.reverse_reverse, h.read?_eq]
      rfl
  | @quoted pieces parts h =>
    refine ⟨⟨text (joinPieces? [] pieces.reverse) :: ts, .between⟩, ?_, .between _, fun _ => rfl⟩
    have hopen : step ⟨ts, .between⟩ '"' = some ⟨ts, .string []⟩ := rfl
    rw [List.cons_append, run_cons, hopen, Option.bind_some, run_append, run_pieces h,
      List.append_nil]
    rfl

/-- A mark or a string begins with a character that goes on with no word and no number. -/
theorem Spelled.exists_eq_cons {t : Token} {cs : List Char} (h : t.Spelled cs)
    (ht : t.isAtom = false) :
    ∃ c rest, cs = c :: rest ∧ isWordChar c = false ∧ isNumberChar c = false := by
  cases h with
  | @mark c t h =>
    refine ⟨c, [], rfl, ?_⟩
    unfold punctuation? at h
    split at h <;> cases h <;> decide
  | quoted h => exact ⟨'"', _, rfl, by decide, by decide⟩
  | nullWord | trueWord | falseWord | numeral h => cases ht

end Token

/-! ## Texts -/

/-- A word or a number is a value by itself, and stands where one must start. -/
theorem State.step_atom {q q' : State} {t : Token} (ht : t.isAtom = true)
    (h : q.step t = some q') :
    (∃ v frames, q' = .after v frames) ∧ ∀ v frames, q ≠ .after v frames := by
  have hstart : ∀ frames, start? frames t = some q' → ∃ v frames, q' = .after v frames := by
    intro frames h
    cases t with
    | null | bool b => exact ⟨_, _, (Option.some.inj h).symm⟩
    | number n => cases n <;> exact ⟨_, _, (Option.some.inj h).symm⟩
    | _ => cases ht
  cases q with
  | value frames => exact ⟨hstart frames h, by simp⟩
  | firstItem frames =>
    refine ⟨hstart (.array [] :: frames) ?_, by simp⟩
    cases t with
    | null | bool b | number n => exact h
    | _ => cases ht
  | firstKey frames | key members frames | colon members key frames =>
    cases t with
    | null | bool b | number n => cases h
    | _ => cases ht
  | after v frames =>
    cases t with
    | null | bool b | number n =>
      match frames with
      | [] | .array _ :: _ | .object _ _ :: _ => cases h
    | _ => cases ht

/-- **Texts.** A text of tokens is scanned as they are, if some document goes on with them: then no
word or number comes right behind another. -/
theorem Layout.exists_run {ts : List Token} {cs : List Char} (h : Layout ts cs) {s : Token.Scan}
    {done : List Token} {q q' : State} (hs : s.Settles done)
    (hmode : s.mode = .between ∨ ∃ v frames, q = .after v frames)
    (hq : ts.foldlM State.step q = some q') :
    ∃ s', s.run cs = some s' ∧ s'.Settles (ts.reverse ++ done) := by
  induction h generalizing s done q with
  | nil hspace =>
    rcases hs.run_space hspace with ⟨-, hrun⟩ | hrun
    · exact ⟨s, hrun, hs⟩
    · exact ⟨_, hrun, .between done⟩
  | @cons space cs rest t ts hspace ht _ ih =>
    rw [List.foldlM_cons, Option.bind_eq_bind, Option.bind_eq_some_iff] at hq
    obtain ⟨q₁, hstep, hq⟩ := hq
    -- Space completes what is under way, and if there is none a mark or a string does.
    have hcs : ∃ s₁, s.run (space ++ cs) = some s₁ ∧ s₁.Settles (t :: done) ∧
        (t.isAtom = false → s₁.mode = .between) := by
      obtain ⟨s₁, hrun, hsettles, hbetween⟩ := ht.exists_run done
      refine ⟨s₁, ?_, hsettles, hbetween⟩
      rw [Token.Scan.run_append]
      rcases hs.run_space hspace with ⟨-, hspace⟩ | hspace
      · rw [hspace, Option.bind_some, ← hrun]
        cases ha : t.isAtom with
        | false =>
          obtain ⟨c, cs, rfl, hc⟩ := ht.exists_eq_cons ha
          rw [Token.Scan.run_cons, Token.Scan.run_cons, hs.step_eq (.inr hc)]
          rfl
        | true =>
          have hmode := hmode.resolve_right fun ⟨v, frames, hq⟩ =>
            (State.step_atom ha hstep).2 v frames hq
          rw [hs.eq_between hmode]
      · rw [hspace, Option.bind_some, hrun]
    obtain ⟨s₁, hrun, hsettles, hbetween⟩ := hcs
    have hmode₁ : s₁.mode = .between ∨ ∃ v frames, q₁ = .after v frames := by
      cases ha : t.isAtom with
      | false => exact .inl (hbetween ha)
      | true => exact .inr (State.step_atom ha hstep).1
    obtain ⟨s', hrun', hsettles'⟩ := ih hsettles hmode₁ hq
    refine ⟨s', ?_, ?_⟩
    · rw [← List.append_assoc, Token.Scan.run_append, hrun, Option.bind_some, hrun']
    · rw [List.reverse_cons, List.append_assoc]
      exact hsettles'

/-- A text of the tokens of a document is that document. -/
theorem Layout.read?_eq {ts : List Token} {cs : List Char} {v : Json} (h : Layout ts cs)
    (hv : ofTokens? ts = some v) : read? (String.ofList cs) = some v := by
  obtain ⟨q, hq⟩ : ∃ q, ts.foldlM State.step (.value []) = some q := by
    unfold ofTokens? at hv
    split at hv
    · exact ⟨_, ‹_›⟩
    · cases hv
  obtain ⟨s, hrun, hs⟩ := h.exists_run (.between []) (.inl rfl) hq
  have hscan : Token.scan? cs = some ts := by
    show (Token.Scan.run ⟨[], .between⟩ cs).bind Token.Scan.finish? = some ts
    rw [hrun, Option.bind_some, hs.finish?_eq, List.append_nil, List.reverse_reverse]
  rw [read?, String.toList_ofList, hscan, Option.bind_some, hv]

end EntitySearch.Json
