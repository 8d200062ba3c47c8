import EntitySearch.Sql.Condition

/-!
# The truth of conditions

What a condition comes to once every comparison has a truth value of SQL, which may be unknown.

* `Condition.eval`: junctions are Kleene's conjunction and disjunction of their members.
* `Condition.Every`: all comparisons of a condition have a property, and no junction of it is empty.
* `eval_combine?`, `eval_all?_eq_true_iff`, `every_combine?`: what `Condition.combine?` does to both.
  It evaluates to the junction of the members that are present, although it takes junctions of one
  apart.
-/

namespace EntitySearch.Sql

/-- The truth values of SQL. -/
inductive Truth where
  | false
  | unknown
  | true
deriving DecidableEq

namespace Truth

/-- Kleene's conjunction: the least of the two. -/
def and : Truth → Truth → Truth
  | false, _ => false
  | _, false => false
  | true, q => q
  | p, true => p
  | unknown, unknown => unknown

/-- Kleene's disjunction: the greatest of the two. -/
def or : Truth → Truth → Truth
  | true, _ => true
  | _, true => true
  | false, q => q
  | p, false => p
  | unknown, unknown => unknown

end Truth

namespace Connective

/-- Two truth values joined. -/
def apply : Connective → Truth → Truth → Truth
  | and => Truth.and
  | or => Truth.or

/-- What a junction of no members comes to. -/
def neutral : Connective → Truth
  | and => .true
  | or => .false

/-- Any number of truth values joined. -/
def joined (op : Connective) : List Truth → Truth
  | [] => op.neutral
  | p :: ps => op.apply p (op.joined ps)

/-- The truth values that are there, joined, if there is one. -/
def joined? (op : Connective) (ps : List (Option Truth)) : Option Truth :=
  match ps.filterMap id with
  | [] => none
  | present => some (op.joined present)

variable (op : Connective)

theorem apply_assoc (p q r : Truth) : op.apply (op.apply p q) r = op.apply p (op.apply q r) := by
  cases op <;> cases p <;> cases q <;> cases r <;> rfl

@[simp] theorem apply_neutral (p : Truth) : op.apply p op.neutral = p := by
  cases op <;> cases p <;> rfl

@[simp] theorem joined_singleton (p : Truth) : op.joined [p] = p := op.apply_neutral p

@[simp] theorem joined_cons_cons (p q : Truth) (ps : List Truth) :
    op.joined (p :: q :: ps) = op.apply p (op.joined (q :: ps)) := rfl

/-- Joining from the left comes to the same. -/
theorem joined_cons_eq_foldl (p : Truth) (ps : List Truth) :
    op.joined (p :: ps) = ps.foldl op.apply p := by
  induction ps generalizing p with
  | nil => exact op.apply_neutral p
  | cons q qs ih =>
    rw [List.foldl_cons, ← ih]
    exact (op.apply_assoc p q _).symm

/-- A conjunction is true just if all its members are. -/
theorem joined_and_eq_true_iff {ps : List Truth} :
    Connective.and.joined ps = .true ↔ ∀ p ∈ ps, p = .true := by
  induction ps with
  | nil => simp [joined, neutral]
  | cons p ps ih =>
    have happly : ∀ q, Connective.and.apply p q = .true ↔ p = .true ∧ q = .true := by
      intro q
      cases p <;> cases q <;> simp [apply, Truth.and]
    rw [joined, happly, ih, List.forall_mem_cons]

end Connective

namespace Condition

mutual

/-- The truth of a condition, given the truth of comparisons. -/
def eval (v : Comparison → Truth) : Condition → Truth
  | leaf c => v c
  | junction op members => evalMembers v op members

/-- The truth of the members of a junction, joined. -/
def evalMembers (v : Comparison → Truth) (op : Connective) : List Condition → Truth
  | [] => op.neutral
  | m :: ms => op.apply (m.eval v) (evalMembers v op ms)

end

/-- Every comparison of a condition has a property, and no junction of it is empty. -/
inductive Every (P : Comparison → Prop) : Condition → Prop where
  | leaf {c : Comparison} (h : P c) : Every P (leaf c)
  | junction {op : Connective} {members : List Condition} (hne : members ≠ [])
    (h : ∀ m ∈ members, Every P m) : Every P (junction op members)

variable {v : Comparison → Truth} {P Q : Comparison → Prop} {op : Connective}

theorem evalMembers_eq (members : List Condition) :
    evalMembers v op members = op.joined (members.map (eval v)) := by
  induction members with
  | nil => rfl
  | cons m ms ih =>
    rw [evalMembers, ih]
    rfl

@[simp] theorem eval_junction (members : List Condition) :
    (junction op members).eval v = op.joined (members.map (eval v)) :=
  evalMembers_eq members

@[simp] theorem eval_leaves (xs : List Comparison) :
    (junction op (xs.map leaf)).eval v = op.joined (xs.map v) := by
  rw [eval_junction, List.map_map]
  rfl

/-- A junction of one means what its only member means. -/
theorem eval_asMember (c : Condition) : c.asMember.eval v = c.eval v := by
  unfold asMember
  split
  · rw [eval_junction]
    exact (Connective.joined_singleton _ _).symm
  · rfl

/-- **Combining.** The combination of conditions comes to the junction of those that are present,
and is absent if none is. -/
theorem eval_combine? (op : Connective) (conditions : List (Option Condition)) :
    (combine? op conditions).map (eval v) =
      op.joined? (conditions.map fun c => c.map (eval v)) := by
  have hpresent : (conditions.map fun c => c.map (eval v)).filterMap id =
      (conditions.filterMap id).map (eval v) := by
    rw [List.filterMap_map, List.map_filterMap]
    rfl
  unfold combine? Connective.joined?
  rw [hpresent]
  cases conditions.filterMap id with
  | nil => rfl
  | cons c cs =>
    have hmembers : ((c :: cs).map asMember).map (eval v) = (c :: cs).map (eval v) := by
      rw [List.map_map]
      exact List.map_congr_left fun d _ => eval_asMember d
    rw [Option.map_some, eval_junction, hmembers]
    rfl

/-- All the conditions that are present hold just if each of them does. -/
theorem eval_all?_eq_true_iff {conditions : List (Option Condition)} {c : Condition}
    (hc : all? conditions = some c) :
    c.eval v = .true ↔ ∀ d, some d ∈ conditions → d.eval v = .true := by
  unfold all? combine? at hc
  split at hc
  · cases hc
  · obtain rfl := Option.some.inj hc
    rw [eval_junction, Connective.joined_and_eq_true_iff]
    simp [eval_asMember]

theorem Every.asMember {c : Condition} (h : c.Every P) : c.asMember.Every P := by
  unfold Condition.asMember
  split
  · cases h with
    | junction _ hm => exact hm _ List.mem_cons_self
  · exact h

theorem every_combine? {conditions : List (Option Condition)} {c : Condition}
    (h : ∀ d, some d ∈ conditions → d.Every P) (hc : combine? op conditions = some c) :
    c.Every P := by
  unfold combine? at hc
  split at hc
  · cases hc
  · rename_i hne
    obtain rfl := Option.some.inj hc
    refine .junction (fun hnil => hne (List.map_eq_nil_iff.mp hnil)) fun m hm => ?_
    obtain ⟨d, hd, rfl⟩ := List.mem_map.mp hm
    obtain ⟨o, ho, rfl⟩ := List.mem_filterMap.mp hd
    exact (h d ho).asMember

/-- A junction of comparisons, of one at least. -/
theorem every_leaves {cs : List Comparison} (hne : cs ≠ []) (h : ∀ x ∈ cs, P x) :
    (junction op (cs.map leaf)).Every P := by
  refine .junction (fun hnil => hne (List.map_eq_nil_iff.mp hnil)) fun m hm => ?_
  obtain ⟨x, hx, rfl⟩ := List.mem_map.mp hm
  exact .leaf (h x hx)

end Condition

end EntitySearch.Sql
