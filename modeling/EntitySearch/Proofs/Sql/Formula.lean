import EntitySearch.Proofs.Sql.Lexeme
import EntitySearch.Proofs.Sql.Truth

/-!
# Reading conditions

A reader for the text of conditions: parentheses group, `AND` binds tighter than `OR`, and
everything between is a comparison, which may have parentheses of its own.

* `Formula`: what is read, by default with the lexemes of the comparisons.
* `readFormula?`: the reader, which goes through the lexemes once. It keeps, for each parenthesis
  that is open, the disjunction so far and the conjunction so far.
* `run_comparison`: the lexemes of a comparison are read as one.
-/

namespace EntitySearch.Sql

/-- Comparisons joined two by two. -/
inductive Formula (τ : Type) where
  | atom (a : τ)
  | node (op : Connective) (f g : Formula τ)
deriving DecidableEq

namespace Formula

variable {τ σ : Type}

/-- The truth of a formula, given that of its comparisons. -/
def eval (v : τ → Truth) : Formula τ → Truth
  | atom a => v a
  | node op f g => op.apply (f.eval v) (g.eval v)

/-- The formula with its comparisons written otherwise. -/
def map (h : τ → σ) : Formula τ → Formula σ
  | atom a => atom (h a)
  | node op f g => node op (f.map h) (g.map h)

end Formula

/-- What a lexeme is to the reader. -/
inductive Role where
  | opening
  | closing
  | joining (op : Connective)
  | other
deriving DecidableEq

/-- The role of a lexeme. -/
def Lexeme.role (l : Lexeme) : Role :=
  if l = mark '(' then .opening
  else if l = mark ')' then .closing
  else if l = word ['A', 'N', 'D'] then .joining .and
  else if l = word ['O', 'R'] then .joining .or
  else .other

/-- A formula over the lexemes of comparisons. -/
abbrev ReadFormula := Formula (List Lexeme)

/-- What stands in one pair of parentheses, up to the last connective. -/
structure Level where
  /-- The disjunction up to the last `OR`. -/
  disjunction : Option ReadFormula
  /-- The conjunction behind it, up to the last `AND`. -/
  conjunction : Option ReadFormula

/-- What stands behind the last connective. -/
inductive Part where
  /-- Lexemes of a comparison, and how many of its parentheses are open. -/
  | comparison (ls : List Lexeme) (depth : Nat)
  | group (f : ReadFormula)

/-- The state of the reader. The outer levels are those of the parentheses around. -/
structure Reader where
  outer : List Level
  level : Level
  part : Part

/-- Nothing read yet. -/
def Level.start : Level := ⟨none, none⟩

/-- Nothing read yet. -/
def Part.start : Part := .comparison [] 0

/-- A part that is complete. -/
def Part.formula? : Part → Option ReadFormula
  | .comparison [] _ => none
  | .comparison ls 0 => some (.atom ls)
  | .comparison _ (_ + 1) => none
  | .group f => some f

/-- A formula joined to what stands before it, if anything does. -/
def joinTo (op : Connective) : Option ReadFormula → ReadFormula → ReadFormula
  | none, f => f
  | some g, f => .node op g f

namespace Level

/-- The level with a last part. -/
def total (l : Level) (f : ReadFormula) : ReadFormula :=
  joinTo .or l.disjunction (joinTo .and l.conjunction f)

/-- The level behind a part and a connective. -/
def next (l : Level) (f : ReadFormula) : Connective → Level
  | .and => ⟨l.disjunction, some (joinTo .and l.conjunction f)⟩
  | .or => ⟨some (l.total f), none⟩

end Level

namespace Reader

/-- Ends the innermost parentheses. -/
def close? (r : Reader) : Option Reader :=
  match r.outer, r.part.formula? with
  | level :: outer, some f => some ⟨outer, level, .group (r.level.total f)⟩
  | _, _ => none

/-- Goes on behind a connective. -/
def join? (r : Reader) (op : Connective) : Option Reader :=
  r.part.formula?.map fun f => { r with level := r.level.next f op, part := .start }

/-- Reads a lexeme. -/
def step (r : Reader) (l : Lexeme) : Option Reader :=
  match r.part, l.role with
  | .comparison [] 0, .opening => some ⟨r.level :: r.outer, .start, .start⟩
  | .comparison ls d, .opening => some { r with part := .comparison (ls ++ [l]) (d + 1) }
  | .comparison ls (d + 1), .closing => some { r with part := .comparison (ls ++ [l]) d }
  | .comparison ls (d + 1), _ => some { r with part := .comparison (ls ++ [l]) (d + 1) }
  | .comparison ls 0, .other => some { r with part := .comparison (ls ++ [l]) 0 }
  | _, .closing => r.close?
  | _, .joining op => r.join? op
  | .group _, _ => none

/-- Reads lexemes. -/
def run (r : Reader) (ls : List Lexeme) : Option Reader := ls.foldlM step r

/-- What has been read, if that is complete. -/
def finish? (r : Reader) : Option ReadFormula :=
  match r.outer with
  | [] => r.part.formula?.map r.level.total
  | _ => none

end Reader

/-- The formula that lexemes spell. -/
def readFormula? (ls : List Lexeme) : Option ReadFormula :=
  (Reader.run ⟨[], .start, .start⟩ ls).bind Reader.finish?

/-- The condition that SQL text spells, with the values of its placeholders. -/
def readCondition? (b : Backend) (sql : String) (values : List Value) : Option ReadFormula :=
  (lexemes? b sql values).bind readFormula?

example : readFormula? [.word ['a'], .word ['O', 'R'], .word ['b'], .word ['A', 'N', 'D'],
    .mark '(', .word ['c'], .mark ')'] =
    some (.node .or (.atom [.word ['a']])
      (.node .and (.atom [.word ['b']]) (.atom [.word ['c']]))) :=
  rfl

/-! ## Reading a comparison -/

/-- How many parentheses are open behind a lexeme that belongs to the same comparison. -/
def depthStep (depth : Nat) (l : Lexeme) : Option Nat :=
  match l.role, depth with
  | .opening, d => some (d + 1)
  | .closing, d + 1 => some d
  | .other, d => some d
  | _, _ => none

/-- How many parentheses are open behind lexemes, if all of them belong to one comparison. -/
def depthBehind (depth : Nat) (ls : List Lexeme) : Option Nat := ls.foldlM depthStep depth

theorem depthBehind_append (depth : Nat) (ls ms : List Lexeme) :
    depthBehind depth (ls ++ ms) = (depthBehind depth ls).bind fun d => depthBehind d ms :=
  List.foldlM_append

/-- A complete part is a whole comparison or a group. -/
theorem Part.complete_cases {part : Part} {f : ReadFormula} (h : part.formula? = some f) :
    (∃ l ls, part = .comparison (l :: ls) 0 ∧ f = .atom (l :: ls)) ∨ part = .group f := by
  cases part with
  | comparison ls d =>
    cases ls with
    | nil => cases h
    | cons l ls =>
      cases d with
      | zero => exact .inl ⟨l, ls, rfl, (Option.some.inj h).symm⟩
      | succ d => cases h
  | group g => exact .inr (congrArg Part.group (Option.some.inj h))

namespace Reader

theorem run_append (r : Reader) (ls ms : List Lexeme) :
    r.run (ls ++ ms) = (r.run ls).bind fun r' => r'.run ms :=
  List.foldlM_append

theorem run_cons (r : Reader) (l : Lexeme) (ls : List Lexeme) :
    r.run (l :: ls) = (r.step l).bind fun r' => r'.run ls :=
  List.foldlM_cons

variable {outer : List Level} {level : Level}

/-- A lexeme of a comparison goes on with it; only at its start would a parenthesis group. -/
theorem step_comparison {ls : List Lexeme} {l : Lexeme} {d d' : Nat}
    (hd : depthStep d l = some d') (hl : ls = [] → l.role ≠ .opening) :
    step ⟨outer, level, .comparison ls d⟩ l =
      some ⟨outer, level, .comparison (ls ++ [l]) d'⟩ := by
  unfold depthStep at hd
  unfold step
  cases hr : l.role with
  | opening =>
    cases ls with
    | nil => exact absurd hr (hl rfl)
    | cons m ms => simpa [hr] using hd
  | closing =>
    cases d with
    | zero => simp [hr] at hd
    | succ d => simpa [hr] using hd
  | joining op => simp [hr] at hd
  | other => cases d <;> simpa [hr] using hd

/-- Lexemes of one comparison are read as such. -/
theorem run_comparison {acc ls : List Lexeme} {d d' : Nat} (hd : depthBehind d ls = some d')
    (hl : acc = [] → ∀ l ∈ ls.head?, l.role ≠ .opening) :
    run ⟨outer, level, .comparison acc d⟩ ls =
      some ⟨outer, level, .comparison (acc ++ ls) d'⟩ := by
  induction ls generalizing acc d with
  | nil =>
    obtain rfl := Option.some.inj hd
    rw [List.append_nil]
    rfl
  | cons l ls ih =>
    rw [depthBehind, List.foldlM_cons] at hd
    obtain ⟨e, he, hd⟩ := Option.bind_eq_some_iff.mp hd
    rw [run_cons, step_comparison he (fun h => hl h l rfl), Option.bind_some,
      ih hd (by simp), List.append_assoc]
    rfl

/-- A closing parenthesis behind a complete part makes a group of the level. -/
theorem step_closing {up : Level} {part : Part} {l : Lexeme} {f : ReadFormula}
    (hl : l.role = .closing) (hf : part.formula? = some f) :
    step ⟨up :: outer, level, part⟩ l = some ⟨outer, up, .group (level.total f)⟩ := by
  rcases Part.complete_cases hf with ⟨m, ms, rfl, rfl⟩ | rfl
  · simp [step, hl, close?, Part.formula?]
  · simp [step, hl, close?, Part.formula?]

/-- A connective behind a complete part. -/
theorem step_joining {part : Part} {l : Lexeme} {op : Connective} {f : ReadFormula}
    (hl : l.role = .joining op) (hf : part.formula? = some f) :
    step ⟨outer, level, part⟩ l = some ⟨outer, level.next f op, .start⟩ := by
  rcases Part.complete_cases hf with ⟨m, ms, rfl, rfl⟩ | rfl
  · simp [step, hl, join?, Part.formula?]
  · simp [step, hl, join?, Part.formula?]

end Reader

end EntitySearch.Sql
