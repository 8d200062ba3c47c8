import EntitySearch.Sql.Fragment

/-!
# SQL text in lexemes

The text of a statement is read with its bound values: a scanner takes it apart, character by
character, into quoted names, words, marks, and places with the values that belong there.

* `lexemes`: the scanner. Its state is what it has read, and what the next character may go on with.
* `Fits`: fragments that stay apart in the text.
* `lexemes?_sqlText`: such fragments are read back as they are, with their values at their places.
-/

namespace EntitySearch.Sql

/-- The smallest parts of SQL text. -/
inductive Lexeme where
  /-- A quoted name, without the quotes. -/
  | name (cs : List Char)
  | word (cs : List Char)
  | mark (c : Char)
  /-- A placeholder with the value bound to it, if there is one. -/
  | slot (v : Option Value)
deriving DecidableEq

/-- Whether a character goes on with a word. -/
def isWordChar (c : Char) : Bool := c.isAlpha || c == '_'

/-- What a scan is in the middle of. -/
inductive Pending where
  | nothing
  | word (cs : List Char)
  /-- Behind a `$`. -/
  | number (ds : List Char)
  | insideName (cs : List Char)
  /-- Behind a quote mark, which ends the name unless another one follows. -/
  | afterName (cs : List Char)
deriving DecidableEq

namespace Pending

/-- What is pending, gone on with by a character. -/
def extend? (b : Backend) : Pending → Char → Option Pending
  | nothing, _ => none
  | word cs, c => if isWordChar c then some (word (cs ++ [c])) else none
  | number ds, c => if Decimal.isDigit c then some (number (ds ++ [c])) else none
  | insideName cs, c => some (if c = b.quoteMark then afterName cs else insideName (cs ++ [c]))
  | afterName cs, c => if c = b.quoteMark then some (insideName (cs ++ [c])) else none

end Pending

/-- The state of a scan: the lexemes that are complete, what is pending, and how many placeholders
there have been. -/
structure Scan where
  done : List Lexeme
  pending : Pending
  seen : Nat

namespace Scan

variable (b : Backend) (values : List Value)

/-- Completes what is pending. A name cannot be completed without its last quote mark. -/
def settle (s : Scan) : Scan :=
  match s.pending with
  | .word cs => ⟨s.done ++ [.word cs], .nothing, s.seen⟩
  | .number ds =>
    -- Positions count from 1.
    let v := if Decimal.value ds = 0 then none else values[Decimal.value ds - 1]?
    ⟨s.done ++ [.slot v], .nothing, s.seen + 1⟩
  | .afterName cs => ⟨s.done ++ [.name cs], .nothing, s.seen⟩
  | .nothing | .insideName _ => s

/-- Begins with a character while nothing is pending. -/
def begin (s : Scan) (c : Char) : Scan :=
  if c = ' ' then s
  else if c = b.quoteMark then { s with pending := .insideName [] }
  else if isWordChar c then { s with pending := .word [c] }
  else if b = .postgres && c == '$' then { s with pending := .number [] }
  else if b ≠ .postgres && c == '?' then ⟨s.done ++ [.slot values[s.seen]?], .nothing, s.seen + 1⟩
  else { s with done := s.done ++ [.mark c] }

/-- Reads a character. -/
def step (s : Scan) (c : Char) : Scan :=
  match s.pending.extend? b c with
  | some p => { s with pending := p }
  | none => (s.settle values).begin b values c

/-- Reads characters. -/
def run (s : Scan) (cs : List Char) : Scan := cs.foldl (step b values) s

/-- Before any text. -/
def init : Scan := ⟨[], .nothing, 0⟩

end Scan

/-- The lexemes of SQL text whose placeholders stand for the given values. -/
def lexemes? (b : Backend) (sql : String) (values : List Value) : Option (List Lexeme) :=
  let s := (Scan.init.run b values sql.toList).settle values
  match s.pending with
  | .nothing => some s.done
  | _ => none

namespace Fragment

/-- The scan of words of SQL by themselves. -/
def scanWords (b : Backend) (w : String) : Scan := Scan.init.run b [] w.toList

/-- The lexemes of a fragment. -/
def lexemes (b : Backend) : Fragment → List Lexeme
  | words w => ((scanWords b w).settle []).done
  | name n => [.name n.toList]
  | bound v => [.slot (some v)]

/-- Whether a character of SQL words means nothing else. -/
def isPlainChar (c : Char) : Bool :=
  !(c == '"' || c == '\x60' || c == '?' || c == '$' || Decimal.isDigit c)

/-- Whether the words of a fragment are nothing but words and marks. -/
def plain : Fragment → Bool
  | words w => w.toList.all isPlainChar
  | _ => true

/-- Whether no lexeme before a fragment can go on with it. -/
def opens : Fragment → Bool
  | words w => w.toList.head?.any fun c => !isWordChar c
  | _ => false

/-- Whether the lexemes of a fragment are complete at its end. -/
def closes (b : Backend) : Fragment → Bool
  | words w => (scanWords b w).pending == .nothing
  | _ => false

/-- Fragments that stay apart in the text: behind any text, or only where nothing is pending. -/
def Fits (b : Backend) : (settled : Bool) → List Fragment → Prop
  | _, [] => True
  | settled, f :: fs =>
    f.plain = true ∧ (settled = true ∨ f.opens = true) ∧ Fits b (f.closes b) fs

end Fragment

/-! ## Scanning fragments -/

namespace Scan

variable {b : Backend} {values : List Value} {s : Scan} {D : List Lexeme} {k : Nat}

theorem run_append (cs ds : List Char) :
    s.run b values (cs ++ ds) = (s.run b values cs).run b values ds :=
  List.foldl_append

theorem step_nothing {c : Char} (h : s.pending = .nothing) :
    s.step b values c = s.begin b values c := by
  rw [step, h, settle, h]
  rfl

theorem step_extend {c : Char} {p : Pending} (h : s.pending.extend? b c = some p) :
    s.step b values c = { s with pending := p } := by
  rw [step, h]

theorem step_begin {c : Char} (h : s.pending.extend? b c = none) :
    s.step b values c = (s.settle values).begin b values c := by
  rw [step, h]

theorem ne_quoteMark {c : Char} (h : Fragment.isPlainChar c = true) : c ≠ b.quoteMark := by
  rintro rfl
  cases b <;> exact absurd h (by decide)

/-- A plain character begins a word, or is a mark, or a space. -/
theorem begin_plain {c : Char} (h : Fragment.isPlainChar c = true) :
    s.begin b values c = if c = ' ' then s
      else if isWordChar c then { s with pending := .word [c] }
      else { s with done := s.done ++ [.mark c] } := by
  have hquote := ne_quoteMark (b := b) h
  simp only [Fragment.isPlainChar, Bool.not_eq_true', Bool.or_eq_false_iff] at h
  simp only [begin, hquote, h.1.1.2, h.1.2, Bool.and_false, Bool.false_eq_true, ↓reduceIte]

/-- What ends every lexeme can as well be read after it is settled. -/
theorem step_settle {c : Char} (h : s.settle values = ⟨D, .nothing, k⟩)
    (hplain : Fragment.isPlainChar c = true) (hword : isWordChar c = false) :
    s.step b values c = Scan.step b values ⟨D, .nothing, k⟩ c := by
  have hquote := ne_quoteMark (b := b) hplain
  have hdigit : Decimal.isDigit c = false := by
    simp only [Fragment.isPlainChar, Bool.not_eq_true', Bool.or_eq_false_iff] at hplain
    exact hplain.2
  have hextend : s.pending.extend? b c = none := by
    cases hp : s.pending with
    | insideName cs =>
      have hs : s.settle values = s := by rw [settle, hp]
      rw [← hs, h] at hp
      cases hp
    | _ => simp [Pending.extend?, hword, hdigit, hquote]
  rw [step_begin hextend, h, step_nothing rfl]

theorem run_settle {w : String} (h : s.settle values = ⟨D, .nothing, k⟩)
    (hplain : (Fragment.words w).plain = true) (hopens : (Fragment.words w).opens = true) :
    s.run b values w.toList = run b values ⟨D, .nothing, k⟩ w.toList := by
  replace hplain : w.toList.all Fragment.isPlainChar = true := hplain
  replace hopens : (w.toList.head?.any fun c => !isWordChar c) = true := hopens
  cases hw : w.toList with
  | nil => simp [hw] at hopens
  | cons c cs =>
    rw [hw, List.all_cons, Bool.and_eq_true] at hplain
    have hword : isWordChar c = false := by simpa [hw] using hopens
    rw [run, List.foldl_cons, step_settle h hplain.1 hword]
    rfl

/-- A scan with other lexemes and placeholders before it. -/
def after (D : List Lexeme) (k : Nat) (s : Scan) : Scan := ⟨D ++ s.done, s.pending, k⟩

/-- What words leave pending. -/
def AmidWords (s : Scan) : Prop := s.pending = .nothing ∨ ∃ cs, s.pending = .word cs

theorem settle_after (h : s.AmidWords) :
    (s.after D k).settle values = ⟨D ++ (s.settle []).done, .nothing, k⟩ := by
  rcases h with h | ⟨cs, h⟩
  · simp [settle, after, h]
  · simp [settle, after, h]

/-- Plain characters read the same whatever came before. -/
theorem step_after {c : Char} (h : s.AmidWords) (hplain : Fragment.isPlainChar c = true) :
    (s.after D k).step b values c = (s.step b [] c).after D k ∧ (s.step b [] c).AmidWords := by
  have hbegin : ∀ t : Scan, t.pending = .nothing →
      (t.after D k).begin b values c = (t.begin b [] c).after D k ∧ (t.begin b [] c).AmidWords := by
    intro t ht
    rw [begin_plain hplain, begin_plain hplain]
    split
    · exact ⟨rfl, .inl ht⟩
    · split
      · exact ⟨rfl, .inr ⟨_, rfl⟩⟩
      · exact ⟨by simp [after], .inl ht⟩
  rcases h with h | ⟨cs, h⟩
  · rw [step_nothing (s := s.after D k) h, step_nothing h]
    exact hbegin s h
  · cases hw : isWordChar c with
    | true =>
      have hp : s.pending.extend? b c = some (.word (cs ++ [c])) := by simp [h, Pending.extend?, hw]
      rw [step_extend (s := s.after D k) hp, step_extend hp]
      exact ⟨rfl, .inr ⟨_, rfl⟩⟩
    | false =>
      have hp : s.pending.extend? b c = none := by simp [h, Pending.extend?, hw]
      have hsettle : (s.after D k).settle values = (s.settle []).after D k := by
        simp [settle, after, h]
      rw [step_begin (s := s.after D k) hp, step_begin hp, hsettle]
      exact hbegin _ (by simp [settle, h])

theorem run_after {cs : List Char} (h : s.AmidWords)
    (hplain : ∀ c ∈ cs, Fragment.isPlainChar c = true) :
    (s.after D k).run b values cs = (s.run b [] cs).after D k ∧ (s.run b [] cs).AmidWords := by
  induction cs generalizing s with
  | nil => exact ⟨rfl, h⟩
  | cons c cs ih =>
    have hc := @step_after b values s D k c h (hplain c List.mem_cons_self)
    have hcs := ih hc.2 fun d hd => hplain d (List.mem_cons_of_mem c hd)
    rw [← hc.1] at hcs
    exact hcs

theorem run_words {w : String} (h : (Fragment.words w).plain = true) :
    run b values ⟨D, .nothing, k⟩ w.toList = (Fragment.scanWords b w).after D k ∧
      (Fragment.scanWords b w).AmidWords := by
  have hinit : (⟨D, .nothing, k⟩ : Scan) = init.after D k := by simp [after, init]
  rw [hinit]
  exact run_after (.inl rfl) (List.all_eq_true.mp h)

/-- A quote mark inside a name is doubled, and read back as one. -/
theorem run_insideName (cs acc : List Char) :
    run b values ⟨D, .insideName acc, k⟩
        (cs.flatMap fun c => if c = b.quoteMark then [c, c] else [c]) =
      ⟨D, .insideName (acc ++ cs), k⟩ := by
  induction cs generalizing acc with
  | nil => simp [run]
  | cons c cs ih =>
    have hc : run b values ⟨D, .insideName acc, k⟩ (if c = b.quoteMark then [c, c] else [c]) =
        ⟨D, .insideName (acc ++ [c]), k⟩ := by
      split
      · rename_i h
        subst h
        simp [run, step, Pending.extend?]
      · rename_i h
        simp [run, step, Pending.extend?, h]
    rw [List.flatMap_cons, run_append, hc, ih, List.append_assoc]
    rfl

theorem run_quoteName (n : String) :
    run b values ⟨D, .nothing, k⟩ (b.quoteName n) = ⟨D, .afterName n.toList, k⟩ := by
  have hbegin : Scan.step b values ⟨D, .nothing, k⟩ b.quoteMark = ⟨D, .insideName [], k⟩ := by
    rw [step_nothing rfl]
    cases b <;> rfl
  rw [Backend.quoteName, List.cons_append, run, List.foldl_cons, hbegin]
  show run b values _ _ = _
  rw [run_append, run_insideName]
  simp [run, step, Pending.extend?]

theorem run_digits {cs : List Char} (ds : List Char) (h : ∀ c ∈ cs, Decimal.isDigit c = true) :
    run b values ⟨D, .number ds, k⟩ cs = ⟨D, .number (ds ++ cs), k⟩ := by
  induction cs generalizing ds with
  | nil => simp [run]
  | cons c cs ih =>
    have hc : Scan.step b values ⟨D, .number ds, k⟩ c = ⟨D, .number (ds ++ [c]), k⟩ :=
      step_extend (by simp [Pending.extend?, h c List.mem_cons_self])
    rw [run, List.foldl_cons, hc]
    have := ih (ds ++ [c]) fun d hd => h d (List.mem_cons_of_mem c hd)
    rwa [List.append_assoc] at this

/-- A placeholder stands for the value at its position. -/
theorem settle_placeholder {v : Value} (h : values[k]? = some v) :
    (run b values ⟨D, .nothing, k⟩ (b.placeholder (k + 1))).settle values =
      ⟨D ++ [.slot (some v)], .nothing, k + 1⟩ := by
  cases b with
  | postgres =>
    have hrun : run .postgres values ⟨D, .nothing, k⟩ (Backend.placeholder .postgres (k + 1)) =
        ⟨D, .number (Decimal.digits (k + 1)), k⟩ :=
      run_digits [] fun c => Decimal.isDigit_of_mem_digits
    rw [hrun]
    simp [settle, h]
  | sqlite =>
    rw [← h]
    rfl
  | mysql =>
    rw [← h]
    rfl

theorem eq_of_settle (h : s.settle values = ⟨D, .nothing, k⟩) (hp : s.pending = .nothing) :
    s = ⟨D, .nothing, k⟩ := by
  rw [← h, settle, hp]

/-- **Scanning fragments.** Behind lexemes `D` and `k` placeholders, fragments that fit there are
scanned as they are. -/
theorem settle_run_charsFrom {fs : List Fragment} {settled : Bool} {rest : List Value}
    (hfits : Fragment.Fits b settled fs) (hs : s.settle values = ⟨D, .nothing, k⟩)
    (hsettled : settled = true → s.pending = .nothing)
    (hvalues : values.drop k = boundValues fs ++ rest) :
    (s.run b values (Fragment.charsFrom b k fs)).settle values =
      ⟨D ++ fs.flatMap (Fragment.lexemes b), .nothing, k + (boundValues fs).length⟩ := by
  induction fs generalizing s settled D k with
  | nil => simpa [Fragment.charsFrom, run, boundValues] using hs
  | cons f fs ih =>
    obtain ⟨hplain, hopen, hfits⟩ := hfits
    cases f with
    | words w =>
      have hstart : s.run b values w.toList = (Fragment.scanWords b w).after D k := by
        rw [← (run_words hplain).1]
        rcases hopen with h | h
        · rw [eq_of_settle hs (hsettled h)]
        · exact run_settle hs hplain h
      have hsettle : ((Fragment.scanWords b w).after D k).settle values =
          ⟨D ++ (Fragment.words w).lexemes b, .nothing, k⟩ :=
        settle_after (@run_words b values D k w hplain).2
      rw [Fragment.charsFrom, run_append, hstart,
        ih hfits hsettle (fun h => beq_iff_eq.mp h) hvalues, List.append_assoc]
      rfl
    | name n =>
      obtain rfl := eq_of_settle hs (hsettled (hopen.resolve_right (by simp [Fragment.opens])))
      rw [Fragment.charsFrom, run_append, run_quoteName,
        ih (D := D ++ [.name n.toList]) hfits rfl (by simp [Fragment.closes]) hvalues,
        List.append_assoc]
      rfl
    | bound v =>
      obtain rfl := eq_of_settle hs (hsettled (hopen.resolve_right (by simp [Fragment.opens])))
      have hcons : values.drop k = v :: (boundValues fs ++ rest) := hvalues
      have hv : values[k]? = some v := by rw [← List.head?_drop, hcons]; rfl
      have hrest : values.drop (k + 1) = boundValues fs ++ rest := by
        rw [← List.tail_drop, hcons]
        rfl
      rw [Fragment.charsFrom, run_append,
        ih hfits (settle_placeholder hv) (by simp [Fragment.closes]) hrest, List.append_assoc,
        Nat.add_assoc, Nat.add_comm 1]
      rfl

end Scan

/-- **Reading back.** Fragments that fit together are read back from their text as they are. -/
theorem lexemes?_sqlText {b : Backend} {fs : List Fragment} (h : Fragment.Fits b true fs) :
    lexemes? b (sqlText b fs) (boundValues fs) = some (fs.flatMap (Fragment.lexemes b)) := by
  have hrun : (Scan.init.run b (boundValues fs) (Fragment.charsFrom b 0 fs)).settle
      (boundValues fs) = ⟨[] ++ fs.flatMap (Fragment.lexemes b), .nothing, 0 + _⟩ :=
    Scan.settle_run_charsFrom h rfl (fun _ => rfl) (List.append_nil _).symm
  rw [lexemes?, sqlText, String.toList_ofList, hrun]
  rfl

end EntitySearch.Sql
