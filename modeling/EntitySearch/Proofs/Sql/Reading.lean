import EntitySearch.Proofs.Sql.Formula
import EntitySearch.Sql.Where

/-!
# Reading conditions back

The text of a condition says what the condition says, parentheses or not.

* `fits_fragments`: the fragments of a condition stay apart in its text.
* `run_comparison_lexemes`: a comparison is read as one.
* `ReadsBack`: what the reader makes of the text of a condition, at the start of parentheses and, if
  no connective joins it, anywhere. By induction on the condition (`readsBack`).
* `readCondition?_sql`: the text of a whole condition is read back as a formula with its meaning.
-/

namespace EntitySearch.Sql

open Fragment

variable {b : Backend}

/-! ## Fragments that fit -/

namespace Fragment

theorem Fits.mono {fs : List Fragment} (settled : Bool) (h : Fits b false fs) :
    Fits b settled fs := by
  cases fs with
  | nil => trivial
  | cons f fs =>
    obtain ⟨hplain, hopen, hfits⟩ := h
    exact ⟨hplain, .inr (hopen.resolve_left (by simp)), hfits⟩

theorem Fits.append {fs gs : List Fragment} {settled : Bool} (hf : Fits b settled fs)
    (hg : Fits b false gs) : Fits b settled (fs ++ gs) := by
  induction fs generalizing settled with
  | nil => exact hg.mono settled
  | cons f fs ih => exact ⟨hf.1, hf.2.1, ih hf.2.2⟩

/-- Words that end a lexeme and leave none behind them pending can stand anywhere. -/
theorem fits_words_cons {w : String} {fs : List Fragment} {settled : Bool}
    (hw : ((words w).plain && (words w).opens && (words w).closes b) = true) (h : Fits b true fs) :
    Fits b settled (words w :: fs) := by
  simp only [Bool.and_eq_true] at hw
  refine ⟨hw.1.1, .inr hw.1.2, ?_⟩
  rw [hw.2]
  exact h

/-- Words at the start of a part. -/
theorem fits_first_words {w : String} {fs : List Fragment}
    (hw : ((words w).plain && (words w).closes b) = true) (h : Fits b true fs) :
    Fits b true (words w :: fs) := by
  simp only [Bool.and_eq_true] at hw
  refine ⟨hw.1, .inl rfl, ?_⟩
  rw [hw.2]
  exact h

end Fragment

theorem fits_columnFragments (c : ColumnRef) : Fits b true (columnFragments c) := by
  refine ⟨rfl, .inl rfl, ?_⟩
  refine fits_words_cons (by cases b <;> rfl) ?_
  exact ⟨rfl, .inl rfl, trivial⟩

theorem Operand.fits_fragments (o : Operand) : Fits b true (o.fragments b) := by
  induction o with
  | column c => exact fits_columnFragments c
  | upper o ih =>
    refine fits_first_words (by cases b <;> rfl) (ih.append ?_)
    exact fits_words_cons (by cases b <;> rfl) trivial
  | castText o ih =>
    refine fits_first_words (by cases b <;> rfl) (ih.append ?_)
    exact fits_words_cons (by cases b <;> rfl) trivial
  | datePart p o ih =>
    -- The format stands before the value on one backend and behind it on the others.
    cases b with
    | sqlite =>
      refine fits_first_words rfl ⟨rfl, .inl rfl, ?_⟩
      exact fits_words_cons rfl (ih.append (fits_words_cons rfl trivial))
    | postgres | mysql =>
      refine fits_first_words rfl ?_
      refine Fits.append (ih.append (fits_words_cons rfl ⟨rfl, .inl rfl, trivial⟩)) ?_
      exact fits_words_cons rfl trivial

theorem fits_separated_bound (vs : List Value) :
    Fits b true (separated ", " (vs.map fun v => [bound v])) := by
  induction vs with
  | nil => trivial
  | cons v vs ih =>
    cases vs with
    | nil => exact ⟨rfl, .inl rfl, trivial⟩
    | cons w ws => exact ⟨rfl, .inl rfl, fits_words_cons (by cases b <;> rfl) ih⟩

theorem Comparison.fits_fragments (x : Comparison) : Fits b true (x.fragments b) := by
  cases x with
  | compare op o v =>
    refine (o.fits_fragments).append (fits_words_cons ?_ ⟨rfl, .inl rfl, trivial⟩)
    cases b <;> cases op <;> rfl
  | isNull negated o =>
    refine (o.fits_fragments).append ⟨?_, .inr ?_, trivial⟩
    · cases negated <;> rfl
    · cases negated <;> rfl
  | member negated o vs =>
    refine Fits.append ((o.fits_fragments).append (fits_words_cons ?_ (fits_separated_bound vs))) ?_
    · cases b <;> cases negated <;> rfl
    · exact fits_words_cons (by cases b <;> rfl) trivial
  | like negated o pattern =>
    refine (o.fits_fragments).append (fits_words_cons ?_ ⟨rfl, .inl rfl, ?_⟩)
    · cases b <;> cases negated <;> rfl
    · exact fits_words_cons (by cases b <;> rfl) trivial

/-! ## Lexemes of comparisons -/

/-- The lexemes of fragments. -/
def fragmentLexemes (b : Backend) (fs : List Fragment) : List Lexeme := fs.flatMap (lexemes b)

/-- The lexemes of a comparison. -/
def Comparison.lexemes (b : Backend) (x : Comparison) : List Lexeme :=
  fragmentLexemes b (x.fragments b)

theorem fragmentLexemes_append (fs gs : List Fragment) :
    fragmentLexemes b (fs ++ gs) = fragmentLexemes b fs ++ fragmentLexemes b gs :=
  List.flatMap_append

theorem fragmentLexemes_cons (f : Fragment) (fs : List Fragment) :
    fragmentLexemes b (f :: fs) = f.lexemes b ++ fragmentLexemes b fs :=
  List.flatMap_cons

theorem depthBehind_cons {f : Fragment} {fs : List Fragment} {d e d' : Nat}
    (hf : depthBehind d (f.lexemes b) = some e)
    (hfs : depthBehind e (fragmentLexemes b fs) = some d') :
    depthBehind d (fragmentLexemes b (f :: fs)) = some d' := by
  rw [fragmentLexemes_cons, depthBehind_append, hf, Option.bind_some, hfs]

theorem depthBehind_trans {fs gs : List Fragment} {d e d' : Nat}
    (hf : depthBehind d (fragmentLexemes b fs) = some e)
    (hg : depthBehind e (fragmentLexemes b gs) = some d') :
    depthBehind d (fragmentLexemes b (fs ++ gs)) = some d' := by
  rw [fragmentLexemes_append, depthBehind_append, hf, Option.bind_some, hg]

/-- The parentheses of an operand match. -/
theorem Operand.depthBehind_fragments (o : Operand) (d : Nat) :
    depthBehind d (fragmentLexemes b (o.fragments b)) = some d := by
  induction o generalizing d with
  | column c => cases b <;> rfl
  | upper o ih =>
    refine depthBehind_cons (e := d + 1) (by cases b <;> rfl) (depthBehind_trans (ih (d + 1)) ?_)
    cases b <;> rfl
  | castText o ih =>
    refine depthBehind_cons (e := d + 1) (by cases b <;> rfl) (depthBehind_trans (ih (d + 1)) ?_)
    cases b <;> rfl
  | datePart p o ih =>
    cases b with
    | sqlite =>
      refine depthBehind_cons (e := d + 1) rfl (depthBehind_cons rfl (depthBehind_cons rfl ?_))
      exact depthBehind_trans (ih (d + 1)) rfl
    | postgres | mysql =>
      refine depthBehind_cons (e := d + 1) rfl ?_
      exact depthBehind_trans (depthBehind_trans (ih (d + 1)) rfl) rfl

theorem depthBehind_separated (vs : List Value) (d : Nat) :
    depthBehind d (fragmentLexemes b (separated ", " (vs.map fun v => [bound v]))) = some d := by
  induction vs with
  | nil => rfl
  | cons v vs ih =>
    cases vs with
    | nil => rfl
    | cons w ws => exact depthBehind_cons rfl (depthBehind_cons (by cases b <;> rfl) ih)

/-- The parentheses of a comparison match, and it has no connective in it. -/
theorem Comparison.depthBehind_lexemes (x : Comparison) : depthBehind 0 (x.lexemes b) = some 0 := by
  cases x with
  | compare op o v =>
    refine depthBehind_trans (o.depthBehind_fragments 0) ?_
    cases b <;> cases op <;> rfl
  | isNull negated o =>
    refine depthBehind_trans (o.depthBehind_fragments 0) ?_
    cases b <;> cases negated <;> rfl
  | member negated o vs =>
    refine depthBehind_trans (e := 1) (depthBehind_trans (o.depthBehind_fragments 0) ?_) ?_
    · refine depthBehind_cons (e := 1) ?_ (depthBehind_separated vs 1)
      cases b <;> cases negated <;> rfl
    · cases b <;> rfl
  | like negated o pattern =>
    refine depthBehind_trans (o.depthBehind_fragments 0) ?_
    cases b <;> cases negated <;> rfl

/-- A comparison begins with a name or a word, not with a parenthesis. -/
theorem Operand.exists_lexemes_eq_cons (o : Operand) (fs : List Fragment) :
    ∃ l ls, fragmentLexemes b (o.fragments b ++ fs) = l :: ls ∧ l.role = .other := by
  rw [fragmentLexemes_append]
  cases o with
  | datePart p o => cases b <;> exact ⟨_, _, rfl, rfl⟩
  | _ => cases b <;> exact ⟨_, _, rfl, rfl⟩

theorem Comparison.exists_lexemes_eq_cons (x : Comparison) :
    ∃ l ls, x.lexemes b = l :: ls ∧ l.role = .other := by
  cases x with
  | member negated o vs =>
    rw [Comparison.lexemes, Comparison.fragments, List.append_assoc]
    exact o.exists_lexemes_eq_cons _
  | _ => exact Operand.exists_lexemes_eq_cons _ _

theorem run_comparison_lexemes (x : Comparison) (outer : List Level) (level : Level) :
    ∃ part, Reader.run ⟨outer, level, .start⟩ (x.lexemes b) = some ⟨outer, level, part⟩ ∧
      part.formula? = some (.atom (x.lexemes b)) := by
  obtain ⟨l, ls, hx, hl⟩ := x.exists_lexemes_eq_cons (b := b)
  refine ⟨.comparison (x.lexemes b) 0, ?_, ?_⟩
  · refine Reader.run_comparison x.depthBehind_lexemes fun _ m hm => ?_
    rw [hx] at hm
    obtain rfl := Option.some.inj hm
    rw [hl]
    simp
  · rw [hx]
    rfl

/-! ## Conditions -/

namespace Condition

theorem fits_parenthesize {fs : List Fragment} (needed : Bool) (h : Fits b true fs) :
    Fits b true (parenthesize needed fs) := by
  cases needed with
  | false => exact h
  | true =>
    refine fits_first_words (by cases b <;> rfl) (h.append ?_)
    exact fits_words_cons (by cases b <;> rfl) trivial

theorem fits_laterFragments (op : Connective) {ms : List Condition}
    (h : ∀ m ∈ ms, Fits b true (m.fragments b)) : Fits b false (laterFragments b op ms) := by
  induction ms with
  | nil => trivial
  | cons m ms ih =>
    rw [laterFragments]
    refine fits_words_cons (by cases b <;> cases op <;> rfl) (Fits.append ?_ ?_)
    · exact fits_parenthesize _ (h m List.mem_cons_self)
    · exact ih fun n hn => h n (List.mem_cons_of_mem m hn)

/-- The fragments of a condition stay apart in its text. -/
theorem fits_fragments {P : Comparison → Prop} {c : Condition} (h : c.Every P) :
    Fits b true (c.fragments b) := by
  induction h with
  | leaf => exact Comparison.fits_fragments _
  | @junction op ms hne _ ih =>
    match ms with
    | [] => exact absurd rfl hne
    | [m] => exact ih m List.mem_cons_self
    | m :: n :: ms =>
      rw [fragments]
      refine (fits_parenthesize _ (ih m List.mem_cons_self)).append ?_
      exact fits_laterFragments op fun k hk => ih k (List.mem_cons_of_mem m hk)

/-- The lexemes of a condition. -/
def lexemes (b : Backend) (c : Condition) : List Lexeme := fragmentLexemes b (c.fragments b)

end Condition

/-- A level that holds a formula in front of a connective. -/
def Level.holding (f : ReadFormula) : Connective → Level
  | .and => ⟨none, some f⟩
  | .or => ⟨some f, none⟩

theorem Level.total_holding (op : Connective) (g u : ReadFormula) :
    (Level.holding g op).total u = .node op g u := by
  cases op <;> rfl

theorem Level.next_eq_holding {level : Level} {op : Connective} (u : ReadFormula)
    (h : op ≠ .or → level.disjunction = none) :
    level.next u op = Level.holding (level.total u) op := by
  cases op with
  | and =>
    have hnone := h (by simp)
    simp [Level.next, Level.holding, Level.total, hnone, joinTo]
  | or => rfl

/-- The reader has read a formula in its innermost parentheses. Unless that is a disjunction, the
formula can go on as a conjunction. -/
structure Reader.Holds (b : Backend) (outer : List Level) (f : Formula Comparison)
    (op? : Option Connective) (r : Reader) : Prop where
  outer_eq : r.outer = outer
  total : ∃ u, r.part.formula? = some u ∧ r.level.total u = f.map (Comparison.lexemes b)
  disjunction_eq : op? ≠ some .or → r.level.disjunction = none

namespace Reader

variable {outer : List Level} {f : Formula Comparison} {op : Connective} {r : Reader}

/-- A connective behind what the reader holds, unless it binds tighter. -/
theorem Holds.step_joining {l : Lexeme} (h : r.Holds b outer f (some op))
    (hl : l.role = .joining op) :
    r.step l = some ⟨outer, .holding (f.map (Comparison.lexemes b)) op, .start⟩ := by
  obtain ⟨outer', level, part⟩ := r
  obtain ⟨rfl, ⟨u, hu, htotal⟩, hnone⟩ := h
  rw [Reader.step_joining hl hu, Level.next_eq_holding u fun hop => hnone (by simpa using hop)]
  simp only at htotal
  rw [htotal]

/-- What the reader holds becomes a group at the end of the parentheses. -/
theorem Holds.step_closing {op? : Option Connective} {level : Level} {l : Lexeme}
    (h : r.Holds b (level :: outer) f op?) (hl : l.role = .closing) :
    r.step l = some ⟨outer, level, .group (f.map (Comparison.lexemes b))⟩ := by
  obtain ⟨outer', level', part⟩ := r
  obtain ⟨rfl, ⟨u, hu, htotal⟩, -⟩ := h
  simp only at htotal
  rw [Reader.step_closing hl hu, htotal]

end Reader

/-- What the reader makes of a condition: at the start of parentheses, and, if the condition needs
none around it, anywhere. -/
structure ReadsBack (b : Backend) (c : Condition) (f : Formula Comparison) : Prop where
  eval_eq : ∀ v, f.eval v = c.eval v
  atStart : ∀ outer, ∃ r, Reader.run ⟨outer, .start, .start⟩ (c.lexemes b) = some r ∧
    r.Holds b outer f c.connective?
  anywhere : c.connective? = none → ∀ outer level, ∃ part,
    Reader.run ⟨outer, level, .start⟩ (c.lexemes b) = some ⟨outer, level, part⟩ ∧
      part.formula? = some (f.map (Comparison.lexemes b))

namespace Condition

variable {m : Condition} {f : Formula Comparison} {op : Connective}

/-- A member in the parentheses that it needs is read as one part. -/
theorem run_member {needed : Bool} (h : ReadsBack b m f)
    (hneeded : m.connective? = none ∨ needed = true) (outer : List Level) (level : Level) :
    ∃ part, Reader.run ⟨outer, level, .start⟩
        (fragmentLexemes b (parenthesize needed (m.fragments b))) = some ⟨outer, level, part⟩ ∧
      part.formula? = some (f.map (Comparison.lexemes b)) := by
  cases needed with
  | false => exact h.anywhere (hneeded.resolve_right (by simp)) outer level
  | true =>
    obtain ⟨r, hr, hholds⟩ := h.atStart (level :: outer)
    have hopen : (words "(").lexemes b = [.mark '('] := by cases b <;> rfl
    have hclose : fragmentLexemes b [words ")"] = [.mark ')'] := by cases b <;> rfl
    refine ⟨.group (f.map (Comparison.lexemes b)), ?_, rfl⟩
    have hmember : fragmentLexemes b (parenthesize true (m.fragments b)) =
        .mark '(' :: (m.lexemes b ++ [.mark ')']) := by
      rw [parenthesize, if_pos rfl, List.cons_append, fragmentLexemes_cons, fragmentLexemes_append,
        hopen, hclose]
      rfl
    rw [hmember, Reader.run_cons]
    show Reader.run ⟨level :: outer, .start, .start⟩ _ = _
    rw [Reader.run_append, hr, Option.bind_some, Reader.run_cons, hholds.step_closing rfl]
    rfl

/-- The first member of a junction can do without parentheses around its own connective. -/
theorem run_firstMember (h : ReadsBack b m f) (op : Connective) (outer : List Level) :
    ∃ r, Reader.run ⟨outer, .start, .start⟩ (fragmentLexemes b
        (parenthesize (needsParentheses op true m) (m.fragments b))) = some r ∧
      r.Holds b outer f (some op) := by
  cases hneeded : needsParentheses op true m with
  | false =>
    obtain ⟨r, hr, hholds⟩ := h.atStart outer
    refine ⟨r, hr, hholds.outer_eq, hholds.total, fun hop => hholds.disjunction_eq fun hor => ?_⟩
    rw [needsParentheses, hor] at hneeded
    cases op with
    | and => exact absurd hneeded (by decide)
    | or => exact hop rfl
  | true =>
    obtain ⟨part, hpart, hf⟩ := run_member h (.inr rfl) outer .start
    exact ⟨_, hpart, rfl, ⟨_, hf, rfl⟩, fun _ => rfl⟩

/-- The members after the first are joined to it one after the other. -/
theorem run_laterFragments {ms : List Condition} (ih : ∀ m ∈ ms, ∃ f, ReadsBack b m f)
    (f : Formula Comparison) (op : Connective) :
    ∃ g : Formula Comparison, (∀ v, g.eval v = (ms.map (eval v)).foldl op.apply (f.eval v)) ∧
      ∀ (outer : List Level) (r : Reader), r.Holds b outer f (some op) →
        ∃ r' : Reader, r.run (fragmentLexemes b (laterFragments b op ms)) = some r' ∧
          r'.Holds b outer g (some op) := by
  induction ms generalizing f with
  | nil => exact ⟨f, fun v => rfl, fun outer r hr => ⟨r, rfl, hr⟩⟩
  | cons m ms ihms =>
    obtain ⟨g, hg⟩ := ih m List.mem_cons_self
    obtain ⟨f', heval, hrun⟩ :=
      ihms (fun n hn => ih n (List.mem_cons_of_mem m hn)) (.node op f g)
    refine ⟨f', fun v => ?_, fun outer r hr => ?_⟩
    · rw [heval v, List.map_cons, List.foldl_cons, ← hg.eval_eq v]
      rfl
    · have hneeded : m.connective? = none ∨ needsParentheses op false m = true := by
        cases hm : m.connective? with
        | none => exact .inl rfl
        | some op' =>
          right
          rw [needsParentheses, hm]
          rfl
      have hword : ∃ l, (words op.word).lexemes b = [l] ∧ l.role = .joining op := by
        cases b <;> cases op <;> exact ⟨_, rfl, rfl⟩
      obtain ⟨l, hl, hrole⟩ := hword
      obtain ⟨part, hpart, hformula⟩ :=
        run_member hg hneeded outer (.holding (f.map (Comparison.lexemes b)) op)
      have hholds : Reader.Holds b outer (.node op f g) (some op)
          ⟨outer, .holding (f.map (Comparison.lexemes b)) op, part⟩ := by
        refine ⟨rfl, ⟨_, hformula, Level.total_holding op _ _⟩, fun hop => ?_⟩
        cases op with
        | and => rfl
        | or => exact absurd rfl hop
      obtain ⟨r', hr', hholds'⟩ := hrun outer _ hholds
      refine ⟨r', ?_, hholds'⟩
      rw [laterFragments, fragmentLexemes_cons, hl, List.singleton_append, Reader.run_cons,
        hr.step_joining hrole, Option.bind_some, fragmentLexemes_append, Reader.run_append, hpart,
        Option.bind_some, hr']

/-- **Reading back.** The text of a condition is read with its meaning. By induction on the
condition: the members of a junction are joined from the left. -/
theorem readsBack {P : Comparison → Prop} {c : Condition} (h : c.Every P) :
    ∃ f, ReadsBack b c f := by
  induction h with
  | @leaf x =>
    refine ⟨.atom x, fun v => rfl, fun outer => ?_, fun _ => run_comparison_lexemes x⟩
    obtain ⟨part, hpart, hf⟩ := run_comparison_lexemes (b := b) x outer .start
    exact ⟨_, hpart, rfl, ⟨_, hf, rfl⟩, fun _ => rfl⟩
  | @junction op ms hne _ ih =>
    match ms with
    | [] => exact absurd rfl hne
    | [m] =>
      obtain ⟨f, hf⟩ := ih m List.mem_cons_self
      refine ⟨f, fun v => ?_, hf.atStart, hf.anywhere⟩
      rw [eval_junction, List.map_singleton, Connective.joined_singleton, hf.eval_eq]
    | m :: n :: ms =>
      obtain ⟨f, hf⟩ := ih m List.mem_cons_self
      obtain ⟨g, heval, hrun⟩ :=
        run_laterFragments (fun k hk => ih k (List.mem_cons_of_mem m hk)) f op
      refine ⟨g, fun v => ?_, fun outer => ?_, fun hnone => nomatch hnone⟩
      · rw [heval v, hf.eval_eq, eval_junction]
        exact (op.joined_cons_eq_foldl (eval v m) _).symm
      · obtain ⟨r, hr, hholds⟩ := run_firstMember hf op outer
        obtain ⟨r', hr', hholds'⟩ := hrun outer r hholds
        refine ⟨r', ?_, hholds'⟩
        rw [lexemes, fragments, fragmentLexemes_append, Reader.run_append, hr, Option.bind_some, hr']

/-- The text of a condition, with its values, spells a formula over its comparisons that comes to
what the condition comes to. -/
theorem readCondition?_sql {P : Comparison → Prop} {c : Condition} (h : c.Every P) (b : Backend) :
    ∃ f : Formula Comparison,
      readCondition? b (c.sql b) (c.values b) = some (f.map (Comparison.lexemes b)) ∧
      ∀ v, f.eval v = c.eval v := by
  obtain ⟨f, hf⟩ := readsBack (b := b) h
  obtain ⟨r, hr, houter, ⟨u, hu, htotal⟩, -⟩ := hf.atStart []
  refine ⟨f, ?_, hf.eval_eq⟩
  have hlexemes : lexemes? b (c.sql b) (c.values b) = some (c.lexemes b) :=
    lexemes?_sqlText (fits_fragments h)
  rw [readCondition?, hlexemes, Option.bind_some, readFormula?, hr, Option.bind_some,
    Reader.finish?, houter]
  simp only [hu, Option.map_some, htotal]

end Condition

end EntitySearch.Sql
