import EntitySearch.Proofs.Search.Session

/-!
# Plans of dialogues

A search sends the statements of a plan, one after the other, as long as the answers can be read.

* `answerAt`, `Reply.read`: the answers of a store that gives a list of them, and what is read of
  one.
* `Transcript.Follows`: a dialogue goes by a plan, and fails at the first answer that cannot be read.
* `follows_query_bind`: a query and what comes after it follow the plan that has the query in front.
-/

namespace EntitySearch

variable {α β γ : Type}

/-! ## Answers -/

/-- The answer to the statement at a position; a store that has none left fails. -/
def answerAt (replies : List Reply) (i : Nat) : Reply :=
  replies[i]?.getD (.failure "no answer left")

theorem answerAt_tail (replies : List Reply) (i : Nat) :
    answerAt replies.tail i = answerAt replies (i + 1) := by
  rw [answerAt, List.getElem?_tail, answerAt]

/-- What is read of an answer. A store that fails has nothing to read. -/
def Reply.read (read : List Row → Except SearchError α) : Reply → Except SearchError α
  | failure _ => .error .database
  | rows rs => read rs

/-- What cannot be read counts as a failure of the store. -/
def FailsAsStore (read : List Row → Except SearchError α) : Prop :=
  ∀ rows e, read rows = .error e → e = .database

theorem eq_database_of_readOr {v : Option α} {e : SearchError} (h : readOr v = .error e) :
    e = .database := by
  cases v with
  | none => exact (Except.error.inj h).symm
  | some a => cases h

theorem failsAsStore_readRowCount (b : Sql.Backend) : FailsAsStore (readRowCount b) := by
  intro rows e h
  cases rows with
  | nil => cases h
  | cons row rest => exact eq_database_of_readOr h

theorem failsAsStore_readDistinctCount : FailsAsStore readDistinctCount := by
  intro rows e h
  cases rows with
  | nil => cases h
  | cons row rest => exact eq_database_of_readOr h

variable {read : List Row → Except SearchError α} {f : α → Session β} {s : Sql.Statement}
  {replies : List Reply}

theorem Reply.eq_database_of_read (hread : FailsAsStore read) {reply : Reply} {e : SearchError}
    (h : reply.read read = .error e) : e = .database := by
  cases reply with
  | failure reason => exact (Except.error.inj h).symm
  | rows rs => exact hread rs e h

/-! ## Dialogues with a list of answers -/

namespace Session

theorem lift_ok_bind (a : α) (f : α → Session β) : lift (.ok a) >>= f = f a := rfl

theorem lift_error_bind (e : SearchError) (f : α → Session β) :
    lift (.error e) >>= f = finish (.error e) := rfl

theorem bind_assoc (x : Session α) (f : α → Session β) (g : β → Session γ) :
    x >>= f >>= g = x >>= fun a => f a >>= g := by
  induction x with
  | finish r => cases r <;> rfl
  | ask s next ih => exact congrArg (ask s) (funext ih)

/-- A query is sent, and what is read of the answer goes on with the answers that are left. -/
theorem run_query_bind (s : Sql.Statement) (read : List Row → Except SearchError α)
    (f : α → Session β) (replies : List Reply) :
    (query s read >>= f).run replies =
      ⟨s :: ((lift ((answerAt replies 0).read read) >>= f).run replies.tail).statements,
        ((lift ((answerAt replies 0).read read) >>= f).run replies.tail).result⟩ := by
  cases replies with
  | nil => rfl
  | cons reply rest => cases reply <;> rfl

/-- A dialogue that begins with a query has a result if its answer is read and the rest has one. -/
theorem result_query_bind_eq_ok_iff {b : β} :
    ((query s read >>= f).run replies).result = .ok b ↔
      ∃ a, (answerAt replies 0).read read = .ok a ∧ ((f a).run replies.tail).result = .ok b := by
  rw [run_query_bind]
  cases (answerAt replies 0).read read with
  | error e => simp [lift_error_bind, run]
  | ok a => simp [lift_ok_bind]

/-- What a dialogue ends with comes from its last step. -/
theorem exists_of_result_bind_pure {x : Session α} {k : α → β} {b : β}
    (h : ((x >>= fun a => pure (k a)).run replies).result = .ok b) : ∃ a, b = k a := by
  induction x generalizing replies with
  | finish r =>
    cases r with
    | error e => cases h
    | ok a => exact ⟨a, (Except.ok.inj h).symm⟩
  | ask s next ih => exact ih _ h

end Session

/-! ## Plans -/

/-- A statement of a plan, and which answers to it can be read. -/
structure Step where
  statement : Sql.Statement
  accepts : Reply → Prop

/-- The step of a query. -/
def Step.query (s : Sql.Statement) (read : List Row → Except SearchError α) : Step :=
  ⟨s, fun reply => ∃ a, reply.read read = .ok a⟩

/-- A dialogue goes by a plan. If all its answers can be read, all its statements are sent, nothing
else, and there is a result. Otherwise nothing is sent after the first statement whose answer cannot
be read, and the store is said to have failed. -/
structure Transcript.Follows (plan : List Step) (replies : List Reply) (t : Transcript α) :
    Prop where
  completes : (∀ i (hi : i < plan.length), plan[i].accepts (answerAt replies i)) →
    t.statements = plan.map Step.statement ∧ ∃ a, t.result = .ok a
  fails : ∀ i (hi : i < plan.length),
    (∀ j (hj : j < i), plan[j].accepts (answerAt replies j)) →
    ¬ plan[i].accepts (answerAt replies i) →
    t.statements = (plan.map Step.statement).take (i + 1) ∧ t.result = .error .database

namespace Transcript

theorem follows_pure (a : α) (replies : List Reply) :
    ((pure a : Session α).run replies).Follows [] replies where
  completes _ := ⟨rfl, a, rfl⟩
  fails i hi := absurd hi (Nat.not_lt_zero i)

/-- A query goes by the plan that has it in front of what is done with its answer. -/
theorem follows_query_bind {plan : List Step} (hread : FailsAsStore read)
    (h : ∀ a, (answerAt replies 0).read read = .ok a →
      ((f a).run replies.tail).Follows plan replies.tail) :
    ((Session.query s read >>= f).run replies).Follows (.query s read :: plan) replies := by
  cases hanswer : (answerAt replies 0).read read with
  | error e =>
    have hreject : ¬ (Step.query s read).accepts (answerAt replies 0) := by
      rintro ⟨a, ha⟩
      rw [hanswer] at ha
      cases ha
    obtain rfl := Reply.eq_database_of_read hread hanswer
    rw [Session.run_query_bind, hanswer, Session.lift_error_bind]
    constructor
    · intro hall
      exact absurd (hall 0 (Nat.zero_lt_succ _)) hreject
    · intro i hi hbefore hnot
      cases i with
      | zero => exact ⟨rfl, rfl⟩
      | succ i => exact absurd (hbefore 0 (Nat.zero_lt_succ i)) hreject
  | ok a =>
    obtain ⟨hcompletes, hfails⟩ := h a hanswer
    simp only [answerAt_tail] at hcompletes hfails
    rw [Session.run_query_bind, hanswer, Session.lift_ok_bind]
    constructor
    · intro hall
      obtain ⟨hsent, hresult⟩ := hcompletes fun i hi => hall (i + 1) (Nat.succ_lt_succ hi)
      exact ⟨congrArg (s :: ·) hsent, hresult⟩
    · intro i hi hbefore hnot
      cases i with
      | zero => exact absurd ⟨a, hanswer⟩ hnot
      | succ i =>
        obtain ⟨hsent, hresult⟩ := hfails i (Nat.lt_of_succ_lt_succ hi)
          (fun j hj => hbefore (j + 1) (Nat.succ_lt_succ hj)) hnot
        exact ⟨congrArg (s :: ·) hsent, hresult⟩

end Transcript

end EntitySearch
