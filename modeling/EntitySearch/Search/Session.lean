import EntitySearch.Search.Row
import EntitySearch.Sql.Statement

/-!
# Sessions

A search is a dialogue with a store: statements that depend on the answers so far, and in the end an
error or a result. `Session` is such a dialogue as data, and a store is whatever answers it.

* `Session.run`: the dialogue with a store that gives a list of answers, one per statement.
* `Session.runWith`: the dialogue with a store that answers each statement by a rule.
-/

namespace EntitySearch

/-- A dialogue with a store. -/
inductive Session (α : Type) where
  | finish (result : Except SearchError α)
  | ask (statement : Sql.Statement) (next : Reply → Session α)

/-- What happened in a dialogue: the statements sent, and how it ended. -/
structure Transcript (α : Type) where
  statements : List Sql.Statement
  result : Except SearchError α

namespace Session

variable {α β : Type}

/-- Goes on with the result; an error ends the dialogue. -/
def bind : Session α → (α → Session β) → Session β
  | finish (.ok a), f => f a
  | finish (.error e), _ => finish (.error e)
  | ask s next, f => ask s fun reply => (next reply).bind f

instance : Monad Session where
  pure a := finish (.ok a)
  bind := bind

/-- A step that needs no store. -/
def lift (r : Except SearchError α) : Session α := finish r

/-- Sends a statement and reads the rows of the answer; a failing store ends the dialogue. -/
def query (s : Sql.Statement) (read : List Row → Except SearchError α) : Session α :=
  ask s fun
    | .failure _ => finish (.error .database)
    | .rows rows => finish (read rows)

/-- The dialogue with a store that gives these answers, whatever the statements. A statement past
the last answer fails. -/
def run : Session α → List Reply → Transcript α
  | finish r, _ => ⟨[], r⟩
  | ask s next, replies =>
    let t := (next (replies.head?.getD (.failure "no answer left"))).run replies.tail
    ⟨s :: t.statements, t.result⟩

/-- The dialogue with a store that answers each statement by a rule. -/
def runWith (store : Sql.Statement → Reply) : Session α → Transcript α
  | finish r => ⟨[], r⟩
  | ask s next =>
    let t := (next (store s)).runWith store
    ⟨s :: t.statements, t.result⟩

end Session

end EntitySearch
