import EntitySearch.Proofs.Sql.Fragment
import EntitySearch.Sql.Where

/-!
# Conditions without their values

The text of a condition and the number of its values do not depend on what the values are
(`Condition.sql_eq_of_erase`, `Condition.length_values_eq_of_erase`).

* `Fragment.erase`, `Condition.erase`: one and the same value in every place of a bound value.
* `fragments_erase`: the fragments of a condition, erased, are those of the erased condition.
* `erase_combine?`: combining conditions takes no notice of their values.
-/

namespace EntitySearch.Sql

/-- The value that stands for all values. -/
def Value.erased : Value := .bool false

/-! ## Fragments -/

/-- The fragment without its value. -/
def Fragment.erase : Fragment → Fragment
  | bound _ => bound .erased
  | words s => words s
  | name s => name s

namespace Fragment

variable {b : Backend}

theorem charsFrom_map_erase (seen : Nat) (fs : List Fragment) :
    charsFrom b seen (fs.map erase) = charsFrom b seen fs := by
  induction fs generalizing seen with
  | nil => rfl
  | cons f fs ih => cases f <;> simp [erase, charsFrom, ih]

theorem boundValues_map_erase (fs : List Fragment) :
    boundValues (fs.map erase) = (boundValues fs).map fun _ => .erased := by
  rw [boundValues, List.filterMap_map, boundValues, List.map_filterMap]
  congr 1
  funext f
  cases f <;> rfl

theorem map_erase_separated (separator : String) (parts : List (List Fragment)) :
    (separated separator parts).map erase = separated separator (parts.map (List.map erase)) := by
  induction parts with
  | nil => rfl
  | cons part parts ih =>
    cases parts with
    | nil => rfl
    | cons next parts => simpa [separated, erase] using ih

/-- Fragments that are the same but for their values have one text. -/
theorem sqlText_eq_of_erase {fs gs : List Fragment} (h : fs.map erase = gs.map erase) :
    sqlText b fs = sqlText b gs := by
  rw [sqlText, ← charsFrom_map_erase, h, charsFrom_map_erase, sqlText]

/-- Fragments that are the same but for their values have equally many. -/
theorem length_boundValues_eq_of_erase {fs gs : List Fragment} (h : fs.map erase = gs.map erase) :
    (boundValues fs).length = (boundValues gs).length := by
  have hlength := congrArg (fun ks => (boundValues ks).length) h
  simpa only [boundValues_map_erase, List.length_map] using hlength

end Fragment

/-! ## Conditions -/

/-- The comparison without its values. How many there are stays. -/
def Comparison.erase : Comparison → Comparison
  | compare op o _ => compare op o .erased
  | isNull negated o => isNull negated o
  | member negated o vs => member negated o (vs.map fun _ => .erased)
  | like negated o _ => like negated o ""

theorem Comparison.fragments_erase (b : Backend) (x : Comparison) :
    (x.erase.fragments b).map Fragment.erase = (x.fragments b).map Fragment.erase := by
  cases x with
  | compare op o v => simp [erase, fragments, Fragment.erase]
  | isNull negated o => rfl
  | member negated o vs =>
    simp [erase, fragments, Fragment.map_erase_separated, Fragment.erase, Function.comp_def]
  | like negated o pattern => simp [erase, fragments, Fragment.erase]

namespace Condition

mutual

/-- The condition without its values. -/
def erase : Condition → Condition
  | leaf x => leaf x.erase
  | junction op members => junction op (eraseMembers members)

/-- The members of a junction without their values. -/
def eraseMembers : List Condition → List Condition
  | [] => []
  | m :: ms => m.erase :: eraseMembers ms

end

theorem eraseMembers_eq (members : List Condition) : eraseMembers members = members.map erase := by
  induction members with
  | nil => rfl
  | cons m ms ih => rw [eraseMembers, ih, List.map_cons]

@[simp] theorem erase_leaf (x : Comparison) : (leaf x).erase = leaf x.erase := by rw [erase]

@[simp] theorem erase_junction (op : Connective) (members : List Condition) :
    (junction op members).erase = junction op (members.map erase) := by
  rw [erase, eraseMembers_eq]

/-- Induction on conditions: the members of a junction come first. -/
theorem induction {motive : Condition → Prop} (leaf : ∀ x, motive (leaf x))
    (junction : ∀ op members, (∀ m ∈ members, motive m) → motive (junction op members))
    (c : Condition) : motive c := by
  refine c.rec (motive_2 := fun members => ∀ m ∈ members, motive m) leaf junction (by simp) ?_
  intro m ms hm hms
  simpa using ⟨hm, hms⟩

/-! ### Combining -/

theorem erase_asMember (c : Condition) : c.asMember.erase = c.erase.asMember := by
  cases c with
  | leaf x => simp [asMember]
  | junction op members =>
    match members with
    | [] => simp [asMember]
    | [m] => simp [asMember]
    | m :: n :: ms => simp [asMember]

/-- **Combining.** Which conditions are present decides how they are combined, not their values. -/
theorem erase_combine? (op : Connective) (conditions : List (Option Condition)) :
    (combine? op conditions).map erase = combine? op (conditions.map fun c => c.map erase) := by
  have hpresent : (conditions.map fun c => c.map erase).filterMap id =
      (conditions.filterMap id).map erase := by
    rw [List.filterMap_map, List.map_filterMap]
    rfl
  unfold combine?
  rw [hpresent]
  cases conditions.filterMap id with
  | nil => rfl
  | cons c cs => simp [erase_asMember, Function.comp_def]

/-! ### Text -/

theorem connective?_erase (c : Condition) : c.erase.connective? = c.connective? := by
  induction c using Condition.induction with
  | leaf x => simp [connective?]
  | junction op members ih =>
    match members with
    | [] => simp [connective?]
    | [m] => simpa [connective?] using ih m List.mem_cons_self
    | m :: n :: ms => simp [connective?]

variable {b : Backend}

theorem map_erase_parenthesize {needed : Bool} {fs gs : List Fragment}
    (h : fs.map Fragment.erase = gs.map Fragment.erase) :
    (parenthesize needed fs).map Fragment.erase = (parenthesize needed gs).map Fragment.erase := by
  cases needed <;> simp [parenthesize, h]

theorem needsParentheses_erase (op : Connective) (isFirst : Bool) (c : Condition) :
    needsParentheses op isFirst c.erase = needsParentheses op isFirst c := by
  rw [needsParentheses, connective?_erase, needsParentheses]

theorem laterFragments_erase (op : Connective) {ms : List Condition}
    (h : ∀ m ∈ ms, (m.erase.fragments b).map Fragment.erase = (m.fragments b).map Fragment.erase) :
    (laterFragments b op (ms.map erase)).map Fragment.erase =
      (laterFragments b op ms).map Fragment.erase := by
  induction ms with
  | nil => rfl
  | cons m ms ih =>
    rw [List.map_cons, laterFragments, laterFragments, needsParentheses_erase, List.map_cons,
      List.map_append, map_erase_parenthesize (h m List.mem_cons_self),
      ih fun n hn => h n (List.mem_cons_of_mem m hn), ← List.map_append, ← List.map_cons]

theorem fragments_erase (c : Condition) :
    (c.erase.fragments b).map Fragment.erase = (c.fragments b).map Fragment.erase := by
  induction c using Condition.induction with
  | leaf x =>
    rw [erase_leaf, fragments, fragments]
    exact x.fragments_erase b
  | junction op members ih =>
    rw [erase_junction]
    match members with
    | [] => rfl
    | [m] =>
      simp only [List.map_cons, List.map_nil, fragments]
      exact ih m List.mem_cons_self
    | m :: n :: ms =>
      have hlater := laterFragments_erase op fun k hk => ih k (List.mem_cons_of_mem m hk)
      rw [List.map_cons, List.map_cons, fragments, ← List.map_cons, List.map_append, hlater,
        needsParentheses_erase, map_erase_parenthesize (ih m List.mem_cons_self),
        ← List.map_append, fragments]

variable {c d : Condition}

theorem map_erase_fragments_eq (h : c.erase = d.erase) :
    (c.fragments b).map Fragment.erase = (d.fragments b).map Fragment.erase := by
  rw [← c.fragments_erase, h, d.fragments_erase]

/-- Conditions that are the same but for their values have one text. -/
theorem sql_eq_of_erase (h : c.erase = d.erase) : c.sql b = d.sql b :=
  Fragment.sqlText_eq_of_erase (map_erase_fragments_eq h)

theorem values_compare (op : CompareOp) (column : ColumnRef) (x : Value) :
    (leaf (.compare op (.column column) x)).values b = [x] := rfl

theorem boundValues_parenthesize (needed : Bool) (fs : List Fragment) :
    boundValues (parenthesize needed fs) = boundValues fs := by
  cases needed <;> simp [parenthesize, boundValues_append]

/-- A junction binds what its members bind, in order. -/
theorem values_junction (op : Connective) (members : List Condition) :
    (junction op members).values b = members.flatMap (values b) := by
  have hlater : ∀ ms : List Condition,
      boundValues (laterFragments b op ms) = ms.flatMap (values b) := by
    intro ms
    induction ms with
    | nil => rfl
    | cons m ms ih =>
      rw [laterFragments, boundValues_words, boundValues_append, boundValues_parenthesize, ih,
        List.flatMap_cons, values]
  match members with
  | [] => rfl
  | [m] => rw [values, fragments, List.flatMap_singleton, values]
  | m :: n :: ms =>
    rw [values, fragments, boundValues_append, boundValues_parenthesize, hlater]
    rfl

/-- The values of a membership are those that the column is compared with. -/
theorem values_member (negated : Bool) (column : ColumnRef) (vs : List Value) :
    (leaf (.member negated (.column column) vs)).values b = vs := by
  have hvalues : boundValues (Fragment.separated ", " (vs.map fun v => [.bound v])) = vs := by
    rw [Fragment.boundValues_separated, List.flatMap_map]
    exact List.flatMap_singleton' vs
  simp [values, fragments, Comparison.fragments, Operand.fragments, columnFragments,
    boundValues_append, hvalues]

/-- Conditions that are the same but for their values have equally many. -/
theorem length_values_eq_of_erase (h : c.erase = d.erase) :
    (c.values b).length = (d.values b).length :=
  Fragment.length_boundValues_eq_of_erase (map_erase_fragments_eq h)

end Condition

end EntitySearch.Sql
