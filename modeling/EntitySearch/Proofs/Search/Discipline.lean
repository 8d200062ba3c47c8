import EntitySearch.Proofs.Paging.Oversampling
import EntitySearch.Proofs.Predicate.Outcome
import EntitySearch.Proofs.Search.Plan
import EntitySearch.Proofs.Sql.Statement
import EntitySearch.Sample.Customer
import EntitySearch.Search.Pages

/-!
# What searches send

Both searches settle the order and then the predicate before they send anything, go by a plan, and
stop at the first answer that cannot be read (`Resource.searches_disciplined`).

* `Resource.flatPlan`: a count, then a slice of the rows.
* `Resource.childrenPlan`: a count, then the identifiers unless the page or the fan-out is empty, then
  the models unless there are no identifiers to look for.
* `Transcript.Disciplined`: what is asked of a dialogue that goes by a plan.
-/

namespace EntitySearch

/-! ## Discipline -/

variable {ι α σ : Type}

/-- A search that settles its order, then its condition, and then goes by a plan. An error in either
is returned as it is, with nothing sent. A page that is returned has the number and the size that
were asked for, and the total that was read from the first answer. -/
structure Transcript.Disciplined (p : Pageable) (sort : Except SearchError σ) (condition : Outcome)
    (plan : σ → Option Sql.Condition → List Step) (count : List Row → Except SearchError UInt64)
    (replies : List Reply) (t : Transcript (Page α)) : Prop where
  sort_error : ∀ e, sort = .error e → t.statements = [] ∧ t.result = .error e
  condition_error : ∀ key e, sort = .ok key → condition = .error e →
    t.statements = [] ∧ t.result = .error e
  follows : ∀ key c, sort = .ok key → condition = .ok c → t.Follows (plan key c) replies
  page : ∀ page, t.result = .ok page → page.pageNumber = p.page ∧ page.pageSize = p.size ∧
    (answerAt replies 0).read count = .ok page.totalElements

/-- A search that begins with its order and its condition is as disciplined as what comes next. -/
theorem Transcript.disciplined_of_settled {p : Pageable} {sort : Except SearchError σ}
    {condition : Outcome} {plan : σ → Option Sql.Condition → List Step}
    {count : List Row → Except SearchError UInt64} {replies : List Reply}
    {search : σ → Option Sql.Condition → Session (Page α)}
    (hfollows : ∀ key c, ((search key c).run replies).Follows (plan key c) replies)
    (hpage : ∀ key c page, ((search key c).run replies).result = .ok page →
      page.pageNumber = p.page ∧ page.pageSize = p.size ∧
        (answerAt replies 0).read count = .ok page.totalElements) :
    ((Session.lift sort >>= fun key =>
      Session.lift condition >>= fun c => search key c).run replies).Disciplined p sort condition
        plan count replies := by
  cases sort with
  | error e =>
    have hnothing : (Session.lift (.error e) >>= fun key => Session.lift condition >>= fun c =>
        search key c).run replies = ⟨[], .error e⟩ := rfl
    rw [hnothing]
    constructor <;> simp
  | ok key =>
    cases condition with
    | error e =>
      have hnothing : (Session.lift (.ok key) >>= fun key => Session.lift (.error e) >>= fun c =>
          search key c).run replies = ⟨[], .error e⟩ := rfl
      rw [hnothing]
      constructor <;> simp
    | ok c =>
      have hsearch : (Session.lift (.ok key) >>= fun key => Session.lift (.ok c) >>= fun c =>
          search key c).run replies = (search key c).run replies := rfl
      rw [hsearch]
      constructor
      · simp
      · simp
      · intro key' c' hkey hc
        obtain rfl := Except.ok.inj hkey
        obtain rfl := Except.ok.inj hc
        exact hfollows key c
      · exact hpage key c

namespace Resource

variable (r : Resource ι α) {b : Sql.Backend} {p : Pageable} {replies : List Reply}

/-! ## Statements and plans -/

/-- The count of a flat search. -/
def countStatement (c : Option Sql.Condition) : Sql.Statement :=
  .countRows r.columnRefs (r.selection c)

/-- The rows of a flat search. -/
def sliceStatement (p : Pageable) (order : List Sql.SortKey) (c : Option Sql.Condition) :
    Sql.Statement :=
  .slice r.columnRefs (r.selection c) order p.size p.offset

/-- The count of parents. -/
def distinctStatement (c : Option Sql.Condition) : Sql.Statement :=
  .countDistinct r.idRef (r.selection c)

/-- The identifiers of parents. -/
def idsStatement (p : Pageable) (key : Sql.SortKey) (c : Option Sql.Condition) : Sql.Statement :=
  .sortedIds r.idRef key.operand r.createdRef (r.selection c) key.direction
    (oversampledWindow p.offset p.size r.fanOut.multiplier)

/-- The parents with the given identifiers. -/
def modelsStatement (ids : List ι) : Sql.Statement :=
  .byIds r.columnRefs ⟨r.entity.table, [], some (r.idCondition ids)⟩

/-- What a flat search sends. -/
def flatPlan (b : Sql.Backend) (p : Pageable) (order : List Sql.SortKey)
    (c : Option Sql.Condition) : List Step :=
  [.query (r.countStatement c) (readRowCount b),
    .query (r.sliceStatement p order c) r.readModels]

/-- What is sent for the parents with the given identifiers. -/
def modelsPlan (ids : List ι) : List Step :=
  if ids.isEmpty then [] else [.query (r.modelsStatement ids) r.readModels]

variable [DecidableEq ι]

/-- What is sent for the parents of a page, given the answer to the query for identifiers. -/
def parentsPlan (p : Pageable) (key : Sql.SortKey) (c : Option Sql.Condition) (answer : Reply) :
    List Step :=
  if 0 < p.size ∧ 0 < r.fanOut.multiplier then
    .query (r.idsStatement p key c) r.readIds ::
      match answer.read r.readIds with
      | .ok ids => r.modelsPlan (distinctWindow ids p.offset p.size)
      | .error _ => []
  else []

/-- What a search for parents sends. -/
def childrenPlan (p : Pageable) (key : Sql.SortKey) (c : Option Sql.Condition)
    (replies : List Reply) : List Step :=
  .query (r.distinctStatement c) readDistinctCount :: r.parentsPlan p key c (answerAt replies 1)

/-! ## Dialogues -/

variable {r}

omit [DecidableEq ι] in
theorem failsAsStore_readModels : FailsAsStore r.readModels :=
  fun _ _ h => eq_database_of_readOr h

omit [DecidableEq ι] in
theorem failsAsStore_readIds : FailsAsStore r.readIds :=
  fun _ _ h => eq_database_of_readOr h

/-- The models of a page go by their plan. -/
theorem follows_modelsByIds {β : Type} (ids : List ι) (k : List α → β) :
    ((r.modelsByIds ids >>= fun items => pure (k items)).run replies).Follows (r.modelsPlan ids)
      replies := by
  unfold modelsByIds modelsPlan
  split
  · exact Transcript.follows_pure _ _
  · rw [Session.bind_assoc]
    exact Transcript.follows_query_bind failsAsStore_readModels fun models _ =>
      Transcript.follows_pure _ _

omit [DecidableEq ι] in
/-- Nothing is fetched for a page just if it has no room, or parents have no rows. -/
theorem window_ne_zero_iff :
    oversampledWindow p.offset p.size r.fanOut.multiplier ≠ 0 ↔
      0 < p.size ∧ 0 < r.fanOut.multiplier := by
  rw [ne_eq, Pageable.offset, oversampledWindow_eq_zero_iff, not_or]
  simp only [UInt64.pos_iff_ne_zero, ne_eq]

theorem pageIds_eq (p : Pageable) (key : Sql.SortKey) (c : Option Sql.Condition) :
    r.pageIds p key (r.selection c) =
      if 0 < p.size ∧ 0 < r.fanOut.multiplier then
        Session.query (r.idsStatement p key c) r.readIds >>= fun ids =>
          pure (distinctWindow ids p.offset p.size)
      else pure [] := by
  unfold pageIds
  by_cases hroom : 0 < p.size ∧ 0 < r.fanOut.multiplier
  · rw [if_pos hroom]
    exact if_neg (window_ne_zero_iff.mpr hroom)
  · rw [if_neg hroom]
    exact if_pos (Decidable.of_not_not fun hwindow => hroom (window_ne_zero_iff.mp hwindow))

/-- The parents of a page go by their plan. -/
theorem follows_pageIds {β : Type} (key : Sql.SortKey) (c : Option Sql.Condition)
    (k : List α → β) :
    ((r.pageIds p key (r.selection c) >>= fun ids =>
      r.modelsByIds ids >>= fun items => pure (k items)).run replies).Follows
        (r.parentsPlan p key c (answerAt replies 0)) replies := by
  rw [pageIds_eq]
  unfold parentsPlan
  split
  · rw [Session.bind_assoc]
    refine Transcript.follows_query_bind failsAsStore_readIds fun ids hids => ?_
    rw [hids]
    exact follows_modelsByIds _ k
  · exact Transcript.follows_pure _ _

/-- If the models of a page are not asked for, there are none in it. -/
theorem eq_of_parentsPlan {β : Type} {key : Sql.SortKey} {c : Option Sql.Condition} {k : List α → β}
    {page : β} (hplan : (r.parentsPlan p key c (answerAt replies 0)).length < 2)
    (h : ((r.pageIds p key (r.selection c) >>= fun ids =>
      r.modelsByIds ids >>= fun items => pure (k items)).run replies).result = .ok page) :
    page = k [] := by
  rw [pageIds_eq] at h
  unfold parentsPlan at hplan
  split at hplan
  · rename_i hroom
    rw [if_pos hroom, Session.bind_assoc] at h
    obtain ⟨ids, hids, h⟩ := Session.result_query_bind_eq_ok_iff.mp h
    rw [hids] at hplan
    replace h : ((r.modelsByIds (distinctWindow ids p.offset p.size) >>=
        fun items => pure (k items)).run replies.tail).result = .ok page := h
    by_cases hempty : (distinctWindow ids p.offset p.size).isEmpty
    · rw [modelsByIds, if_pos hempty] at h
      exact (Except.ok.inj h).symm
    · simp [modelsPlan, hempty] at hplan
  · rename_i hroom
    rw [if_neg hroom] at h
    exact (Except.ok.inj h).symm

/-! ## Both searches -/

omit [DecidableEq ι] in
theorem disciplined_search (r : Resource ι α) (b : Sql.Backend) (request : SearchRequest)
    (parameters : Filters) (replies : List Reply) :
    ((r.search b request parameters).run replies).Disciplined request.pageable
      (r.flatOrder request.pageable) (r.condition b request.filters parameters)
      (r.flatPlan b request.pageable) (readRowCount b) replies := by
  refine Transcript.disciplined_of_settled (fun order c => ?_) fun order c page hpage => ?_
  · exact Transcript.follows_query_bind (failsAsStore_readRowCount b) fun total _ =>
      Transcript.follows_query_bind failsAsStore_readModels fun items _ =>
        Transcript.follows_pure _ _
  · obtain ⟨total, htotal, hpage⟩ := Session.result_query_bind_eq_ok_iff.mp hpage
    obtain ⟨items, rfl⟩ := Session.exists_of_result_bind_pure hpage
    exact ⟨rfl, rfl, htotal⟩

theorem disciplined_searchWithChildren (r : Resource ι α) (b : Sql.Backend)
    (request : SearchRequest) (parameters : Filters) (replies : List Reply) :
    ((r.searchWithChildren b request parameters).run replies).Disciplined request.pageable
      (r.childrenSort request.pageable) (r.condition b request.filters parameters)
      (fun key c => r.childrenPlan request.pageable key c replies) readDistinctCount replies := by
  refine Transcript.disciplined_of_settled (fun key c => ?_) fun key c page hpage => ?_
  · refine Transcript.follows_query_bind failsAsStore_readDistinctCount fun total _ => ?_
    rw [← answerAt_tail]
    exact follows_pageIds key c _
  · obtain ⟨total, htotal, hpage⟩ := Session.result_query_bind_eq_ok_iff.mp hpage
    rw [← Session.bind_assoc] at hpage
    obtain ⟨items, rfl⟩ := Session.exists_of_result_bind_pure hpage
    exact ⟨rfl, rfl, htotal⟩

/-- A page of parents is empty if no models are asked for. -/
theorem items_searchWithChildren {request : SearchRequest} {parameters : Filters}
    {key : Sql.SortKey} {c : Option Sql.Condition} {page : Page α}
    (hkey : r.childrenSort request.pageable = .ok key)
    (hc : r.condition b request.filters parameters = .ok c)
    (hpage : ((r.searchWithChildren b request parameters).run replies).result = .ok page)
    (hplan : (r.childrenPlan request.pageable key c replies).length < 3) : page.items = [] := by
  have hsearch : r.searchWithChildren b request parameters =
      Session.query (r.distinctStatement c) readDistinctCount >>= fun total =>
        r.pageIds request.pageable key (r.selection c) >>= fun ids =>
          r.modelsByIds ids >>= fun items =>
            pure ⟨items, total, request.pageable.page, request.pageable.size⟩ := by
    rw [searchWithChildren]
    dsimp only
    rw [hkey, hc]
    rfl
  rw [hsearch] at hpage
  obtain ⟨total, -, hpage⟩ := Session.result_query_bind_eq_ok_iff.mp hpage
  have hparents : (r.parentsPlan request.pageable key c (answerAt replies.tail 0)).length < 2 := by
    rw [answerAt_tail]
    exact Nat.lt_of_succ_lt_succ hplan
  rw [eq_of_parentsPlan hparents hpage]

/-! ## Rows of both statements -/

omit [DecidableEq ι] in
theorem boundValues_of_childrenSort {key : Sql.SortKey}
    (hsort : ∀ path o, r.sortOperand path = .ok o → Sql.boundValues (o.fragments b) = [])
    (h : r.childrenSort p = .ok key) : Sql.boundValues (key.operand.fragments b) = [] := by
  unfold childrenSort at h
  dsimp only at h
  split at h
  · obtain rfl := Except.ok.inj h
    rfl
  · obtain ⟨o, ho, rfl⟩ := map_eq_ok_iff.mp h
    exact hsort _ o ho

omit [DecidableEq ι] in
theorem boundValues_of_flatOrder {order : List Sql.SortKey}
    (hsort : ∀ path o, r.sortOperand path = .ok o → Sql.boundValues (o.fragments b) = [])
    (h : r.flatOrder p = .ok order) :
    ∀ k ∈ order, Sql.boundValues (k.operand.fragments b) = [] := by
  obtain ⟨orders, -, h⟩ := bind_eq_ok_iff.mp h
  obtain ⟨keys, hkeys, h⟩ := bind_eq_ok_iff.mp h
  obtain rfl := Except.ok.inj h
  intro k hk
  rcases List.mem_append.mp hk with hk | hk
  · obtain ⟨o, -, ho⟩ := exists_of_mapM_eq_ok hkeys k hk
    obtain ⟨x, hx, rfl⟩ := map_eq_ok_iff.mp ho
    exact hsort _ x hx
  · obtain rfl := List.mem_singleton.mp hk
    rfl

end Resource

end EntitySearch
