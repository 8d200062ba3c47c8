import EntitySearch.Proofs.Json.Layout

/-!
# The grammar of JSON documents

Which tokens make a document, and what tree they are read as.

* `IsValue`: the lists of tokens that make one value.
* `Denotes`: tokens are read as a value, inside so many open arrays and objects. How deep that is
  matters, since what is nested too deeply is unreadable.
* `IsValue.exists_denotes`: every value by the grammar is read as something.
* `denotes_object`: an object with readable keys is read as its members, in their order.
-/

namespace EntitySearch.Json

open Token (Spelled)

/-! ## Values -/

/-- Parts with commas between them. -/
def separatedTokens : List (List Token) → List Token
  | [] => []
  | part :: parts => part ++ parts.flatMap fun part => .comma :: part

/-- The tokens of an array with the given items. -/
def arrayTokens (items : List (List Token)) : List Token :=
  .openArray :: (separatedTokens items ++ [.closeArray])

/-- The tokens of a member of an object. -/
def memberTokens (m : Option String × List Token) : List Token := .text m.1 :: .colon :: m.2

/-- The tokens of an object with the given members. A key may denote nothing. -/
def objectTokens (members : List (Option String × List Token)) : List Token :=
  .openObject :: (separatedTokens (members.map memberTokens) ++ [.closeObject])

/-- The tokens of an object whose keys are all readable. -/
def namedTokens (members : List (String × List Token)) : List Token :=
  objectTokens (members.map fun m => (some m.1, m.2))

/-- The tokens of one value: a word, a number or a string, whether or not it denotes anything, or
values in an array or an object. -/
inductive IsValue : List Token → Prop where
  | null : IsValue [.null]
  | bool (b : Bool) : IsValue [.bool b]
  | number (n : Option Number) : IsValue [.number n]
  | text (s : Option String) : IsValue [.text s]
  | array {items : List (List Token)} (h : ∀ item ∈ items, IsValue item) :
      IsValue (arrayTokens items)
  | object {members : List (Option String × List Token)} (h : ∀ m ∈ members, IsValue m.2) :
      IsValue (objectTokens members)

/-! ## Reading -/

/-- Reads tokens. -/
def State.run (q : State) (ts : List Token) : Option State := ts.foldlM State.step q

/-- Inside `depth` open arrays and objects, tokens are read as a value. -/
def Denotes (depth : Nat) (ts : List Token) (v : Json) : Prop :=
  ∀ frames : List Frame, frames.length = depth → State.run (.value frames) ts = some (.after v frames)

/-- A member of an object is read as another. -/
structure MemberDenotes {κ : Type} (depth : Nat) (m : κ × List Token) (j : κ × Json) : Prop where
  key_eq : m.1 = j.1
  denotes : Denotes depth m.2 j.2

namespace State

variable {q q' : State}

theorem run_cons (t : Token) (ts : List Token) : q.run (t :: ts) = (q.step t).bind (·.run ts) := by
  rw [run, List.foldlM_cons]
  rfl

theorem run_append (ts us : List Token) : q.run (ts ++ us) = (q.run ts).bind (·.run us) := by
  rw [run, List.foldlM_append]
  rfl

/-- The first item of an array is read as any other. -/
theorem run_firstItem {v : Json} {frames : List Frame} {ts : List Token}
    (h : run (.value (.array [] :: frames)) ts = some (.after v (.array [] :: frames))) :
    run (.firstItem frames) ts = some (.after v (.array [] :: frames)) := by
  cases ts with
  | nil => cases h
  | cons t ts =>
    rw [run_cons] at h ⊢
    cases t with
    | closeArray => cases h
    | _ => exact h

end State

namespace Denotes

variable {depth : Nat} {ts : List Token} {v w : Json}

theorem null : Denotes depth [.null] Json.null := fun _ _ => rfl

theorem bool (b : Bool) : Denotes depth [.bool b] (Json.bool b) := fun _ _ => rfl

theorem number (n : Number) : Denotes depth [.number (some n)] (Json.number n) := fun _ _ => rfl

theorem text (s : String) : Denotes depth [.text (some s)] (Json.string s) := fun _ _ => rfl

/-- Tokens denote one value at most. -/
theorem eq (hv : Denotes depth ts v) (hw : Denotes depth ts w) : v = w := by
  let frames : List Frame := List.replicate depth (.array [])
  have h := (hv frames List.length_replicate).symm.trans (hw frames List.length_replicate)
  exact (State.after.inj (Option.some.inj h)).1

end Denotes

/-! ### Arrays -/

/-- The array of values inside so many others. -/
def arrayAt (depth : Nat) (vs : List Json) : Json :=
  if depthLimit ≤ depth then unreadable else array vs

theorem run_laterItems {frames : List Frame} {items : List (List Token)} {vs : List Json}
    (h : List.Forall₂ (Denotes (frames.length + 1)) items vs) (v : Json) (acc : List Json) :
    State.run (.after v (.array acc :: frames))
        (items.flatMap (fun item => .comma :: item) ++ [.closeArray]) =
      some (.after (closeArray (vs.reverse ++ v :: acc) frames) frames) := by
  induction h generalizing v acc with
  | nil => rfl
  | @cons item w items vs hitem _ ih =>
    have hcomma : State.step (.after v (.array acc :: frames)) .comma =
        some (.value (.array (v :: acc) :: frames)) := rfl
    rw [List.flatMap_cons, List.append_assoc, List.cons_append, State.run_cons, hcomma,
      Option.bind_some, State.run_append, hitem _ rfl, Option.bind_some, ih, List.reverse_cons,
      List.append_assoc]
    rfl

theorem denotes_array {depth : Nat} {items : List (List Token)} {vs : List Json}
    (h : List.Forall₂ (Denotes (depth + 1)) items vs) :
    Denotes depth (arrayTokens items) (arrayAt depth vs) := by
  rintro frames rfl
  have hopen : State.step (.value frames) .openArray = some (.firstItem frames) := rfl
  rw [arrayTokens, State.run_cons, hopen, Option.bind_some]
  cases h with
  | nil => rfl
  | @cons item v items vs hitem hitems =>
    have hclose : closeArray ((v :: vs).reverse) frames = arrayAt frames.length (v :: vs) := by
      rw [closeArray, List.reverse_reverse, arrayAt]
    rw [separatedTokens, List.append_assoc, State.run_append,
      State.run_firstItem (hitem (.array [] :: frames) rfl), Option.bind_some,
      run_laterItems hitems, ← hclose, List.reverse_cons]

/-! ### Objects -/

/-- The object of members inside so many others. -/
def objectAt (depth : Nat) (members : List (Option String × Json)) : Json :=
  if depthLimit ≤ depth then unreadable
  else match readableMembers? [] members.reverse with
    | some ms => object ms
    | none => unreadable

theorem run_laterMembers {frames : List Frame} {members : List (Option String × List Token)}
    {js : List (Option String × Json)}
    (h : List.Forall₂ (MemberDenotes (frames.length + 1)) members js) (v : Json)
    (acc : List (Option String × Json)) (key : Option String) :
    State.run (.after v (.object acc key :: frames))
        ((members.map memberTokens).flatMap (fun part => .comma :: part) ++ [.closeObject]) =
      some (.after (closeObject (js.reverse ++ (key, v) :: acc) frames) frames) := by
  induction h generalizing v acc key with
  | nil => rfl
  | @cons m j members js hm _ ih =>
    obtain ⟨name, ts⟩ := m
    obtain ⟨name', w⟩ := j
    obtain ⟨rfl, hdenotes⟩ := hm
    have hcomma : State.step (.after v (.object acc key :: frames)) .comma =
        some (.key ((key, v) :: acc) frames) := rfl
    have hkey : State.step (.key ((key, v) :: acc) frames) (.text name) =
        some (.colon ((key, v) :: acc) name frames) := rfl
    have hcolon : State.step (.colon ((key, v) :: acc) name frames) .colon =
        some (.value (.object ((key, v) :: acc) name :: frames)) := rfl
    rw [List.map_cons, List.flatMap_cons, memberTokens, List.append_assoc, List.cons_append,
      List.cons_append, List.cons_append, State.run_cons, hcomma, Option.bind_some, State.run_cons,
      hkey, Option.bind_some, State.run_cons, hcolon, Option.bind_some, State.run_append]
    rw [hdenotes _ rfl, Option.bind_some, ih, List.reverse_cons, List.append_assoc]
    rfl

theorem denotes_objectTokens {depth : Nat} {members : List (Option String × List Token)}
    {js : List (Option String × Json)} (h : List.Forall₂ (MemberDenotes (depth + 1)) members js) :
    Denotes depth (objectTokens members) (objectAt depth js) := by
  rintro frames rfl
  have hopen : State.step (.value frames) .openObject = some (.firstKey frames) := rfl
  rw [objectTokens, State.run_cons, hopen, Option.bind_some]
  cases h with
  | nil => rfl
  | @cons m j members js hm hmembers =>
    obtain ⟨name, ts⟩ := m
    obtain ⟨name', v⟩ := j
    obtain ⟨rfl, hdenotes⟩ := hm
    have hclose : closeObject ((name, v) :: js).reverse frames =
        objectAt frames.length ((name, v) :: js) := rfl
    have hkey : State.step (.firstKey frames) (.text name) = some (.colon [] name frames) := rfl
    have hcolon : State.step (.colon [] name frames) .colon =
        some (.value (.object [] name :: frames)) := rfl
    rw [List.map_cons, separatedTokens, memberTokens, List.append_assoc, List.cons_append,
      List.cons_append, State.run_cons, hkey, Option.bind_some, State.run_cons, hcolon,
      Option.bind_some, State.run_append]
    rw [hdenotes _ rfl, Option.bind_some, run_laterMembers hmembers, ← hclose, List.reverse_cons]

theorem readableMembers?_named (ms : List (String × Json)) (acc : List (String × Json)) :
    readableMembers? acc (ms.map fun m => (some m.1, m.2)) = some (ms.reverse ++ acc) := by
  induction ms generalizing acc with
  | nil => rfl
  | cons m ms ih =>
    rw [List.map_cons, readableMembers?, ih, List.reverse_cons, List.append_assoc]
    rfl

/-- **Objects.** Members with readable keys make an object, in their order, unless they are nested
too deeply. -/
theorem denotes_object {depth : Nat} (hdepth : depth < depthLimit)
    {ms : List (String × List Token)} {js : List (String × Json)}
    (h : List.Forall₂ (MemberDenotes (depth + 1)) ms js) :
    Denotes depth (namedTokens ms) (object js) := by
  have hnamed : List.Forall₂ (MemberDenotes (depth + 1)) (ms.map fun m => (some m.1, m.2))
      (js.map fun j => (some j.1, j.2)) := by
    rw [List.forall₂_map_left_iff, List.forall₂_map_right_iff]
    exact h.imp fun _ _ hm => ⟨congrArg some hm.key_eq, hm.denotes⟩
  have hobject : objectAt depth (js.map fun j => (some j.1, j.2)) = object js := by
    rw [objectAt, if_neg (Nat.not_le.mpr hdepth), ← List.map_reverse, readableMembers?_named,
      List.reverse_reverse, List.append_nil]
  exact hobject ▸ denotes_objectTokens hnamed

/-! ### All values -/

theorem exists_forall₂ {α β : Type} {R : α → β → Prop} {xs : List α}
    (h : ∀ x ∈ xs, ∃ y, R x y) : ∃ ys, List.Forall₂ R xs ys := by
  induction xs with
  | nil => exact ⟨[], .nil⟩
  | cons x xs ih =>
    obtain ⟨y, hy⟩ := h x List.mem_cons_self
    obtain ⟨ys, hys⟩ := ih fun z hz => h z (List.mem_cons_of_mem x hz)
    exact ⟨y :: ys, .cons hy hys⟩

/-- **Values.** Whatever is a value by the grammar is read as one, at any depth. -/
theorem IsValue.exists_denotes {ts : List Token} (h : IsValue ts) (depth : Nat) :
    ∃ v, Denotes depth ts v := by
  induction h generalizing depth with
  | null => exact ⟨_, .null⟩
  | bool b => exact ⟨_, .bool b⟩
  | number n =>
    cases n with
    | none => exact ⟨unreadable, fun _ _ => rfl⟩
    | some n => exact ⟨_, .number n⟩
  | text s =>
    cases s with
    | none => exact ⟨unreadable, fun _ _ => rfl⟩
    | some s => exact ⟨_, .text s⟩
  | array h ih =>
    obtain ⟨vs, hvs⟩ := exists_forall₂ fun item hitem => ih item hitem (depth + 1)
    exact ⟨_, denotes_array hvs⟩
  | object h ih =>
    have hmembers : ∀ m ∈ ‹List (Option String × List Token)›,
        ∃ j, MemberDenotes (depth + 1) m j := by
      intro m hm
      obtain ⟨v, hv⟩ := ih m hm (depth + 1)
      exact ⟨(m.1, v), rfl, hv⟩
    obtain ⟨js, hjs⟩ := exists_forall₂ hmembers
    exact ⟨_, denotes_objectTokens hjs⟩

/-- The members of an object by the grammar are read. -/
theorem exists_memberDenotes {ms : List (String × List Token)} (h : ∀ m ∈ ms, IsValue m.2)
    (depth : Nat) : ∃ js, List.Forall₂ (MemberDenotes depth) ms js := by
  refine exists_forall₂ fun m hm => ?_
  obtain ⟨v, hv⟩ := (h m hm).exists_denotes depth
  exact ⟨(m.1, v), rfl, hv⟩

/-- A text of tokens that denote a value is read as it. -/
theorem Layout.read?_of_denotes {ts : List Token} {cs : List Char} {v : Json} (h : Layout ts cs)
    (hv : Denotes 0 ts v) : read? (String.ofList cs) = some v := by
  have hrun : ts.foldlM State.step (.value []) = some (.after v []) := hv [] rfl
  refine h.read?_eq ?_
  rw [ofTokens?, hrun]

/-- The text of an object is read as its members. -/
theorem Layout.read?_object {ms : List (String × List Token)} {js : List (String × Json)}
    {cs : List Char} (h : Layout (namedTokens ms) cs)
    (hjs : List.Forall₂ (MemberDenotes 1) ms js) :
    read? (String.ofList cs) = some (.object js) :=
  h.read?_of_denotes (denotes_object (by decide) hjs)

end EntitySearch.Json
