import EntitySearch.Paging.Pageable
import EntitySearch.Proofs.Error
import EntitySearch.Search.Session

/-!
# What a dialogue comes to

A search is a chain of steps, each of which ends the dialogue or goes on with a value. The lemmas
here walk down the chain with a store that answers by a rule: `result_bind` for one step, and
`result_lift`, `result_query` for the steps there are.

`SearchRequest.atPage` is a request for another page of the same results.

* `readOr_eq_ok_iff`: what is read is there, or the store has failed.
* `readDistinctCount_eq`: a count that 64 bits with a sign can hold is read as it is.
-/

namespace EntitySearch

namespace Session

variable {α β : Type} {store : Sql.Statement → Reply}

@[simp] theorem result_pure (a : α) : ((pure a : Session α).runWith store).result = .ok a := rfl

@[simp] theorem result_lift (r : Except SearchError α) : ((lift r).runWith store).result = r := rfl

/-- A query that is answered with rows ends as their reading does. -/
theorem result_query {s : Sql.Statement} {read : List Row → Except SearchError α} {rows : List Row}
    (h : store s = .rows rows) : ((query s read).runWith store).result = read rows := by
  unfold query
  rw [runWith, h]
  rfl

/-- A step with a value hands it on. -/
theorem result_bind {x : Session α} {f : α → Session β} {a : α}
    (h : (x.runWith store).result = .ok a) :
    ((x >>= f).runWith store).result = ((f a).runWith store).result := by
  induction x with
  | finish r =>
    have hr : r = .ok a := h
    subst hr
    rfl
  | ask s next ih => exact ih (store s) h

end Session

/-- The request for another page. -/
def SearchRequest.atPage (request : SearchRequest) (n : UInt64) : SearchRequest :=
  { request with pageable := { request.pageable with page := n } }

/-! ## Reading rows -/

theorem readOr_eq_ok_iff {α : Type} {v : Option α} {a : α} : readOr v = .ok a ↔ v = some a := by
  cases v <;> simp [readOr]

/-- The count in the first cell of an answer, if it is not negative. -/
theorem readDistinctCount_eq {row : Row} (rest : List Row) {n : Int64} {count : Nat}
    (hrow : row.firstValue? = some (.bigInt n)) (hn : n.toInt = count) :
    ∃ total, readDistinctCount (row :: rest) = .ok total ∧ total.toNat = count := by
  have hpos : ¬ n < 0 := by
    rw [Int64.lt_iff_toInt_lt, Int64.toInt_zero]
    omega
  refine ⟨n.toUInt64, ?_, ?_⟩
  · simp [readDistinctCount, hrow, distinctCount?, hpos, readOr]
  · rw [Int64.toNat_toUInt64_of_le (Int64.not_lt.mp hpos)]
    show n.toInt.toNat = count
    omega

end EntitySearch
