import EntitySearch.Proofs.Paging.Oversampling
import EntitySearch.Proofs.Paging.Restoring
import EntitySearch.Proofs.Paging.Window
import EntitySearch.Proofs.Search.Session
import EntitySearch.Sample.Customer
import EntitySearch.Search.Pages

/-!
# Pages of parents

Searching parents through their children gives exact pages, provided no parent has more joined rows
than the resource declares (`searchWithChildren_pages`). All bounds are those of exact arithmetic:
where an offset or a window is cut to 64 bits, the store holds too few rows for it to matter
(`drop_saturatingMul`, `window_covers`).

`AnswersParents` is what is asked of the store. It may find the models of a page in any order.
-/

namespace EntitySearch

/-- The oversampled window has room for all rows of the parents up to the end of the page, unless
it is as large as a window can be. -/
theorem window_covers (page size multiplier : UInt64) :
    (page.toNat + 1) * size.toNat * multiplier.toNat ≤
        (oversampledWindow (saturatingMul page size) size multiplier).toNat ∨
      maxWord ≤ (oversampledWindow (saturatingMul page size) size multiplier).toNat := by
  rw [oversampledWindow_eq page size (clampWord_toNat multiplier).symm, toNat_clampWord,
    Nat.add_mul, Nat.one_mul]
  omega

namespace Resource

variable {ι α : Type} [DecidableEq ι]

/-! ## The store -/

/-- A store with the joined rows `rows` of a request, in its order, whose identifiers are `ids`. It
counts the different identifiers, gives as many of the first rows as it is asked for, and finds one
model for each identifier that it is asked for, in an order of its own. -/
structure AnswersParents (r : Resource ι α) (key : Sql.SortKey) (condition : Option Sql.Condition)
    (rows : List Row) (ids : List ι) (store : Sql.Statement → Reply) : Prop where
  count : ∃ row rest n,
    store (.countDistinct r.idRef (r.selection condition)) = .rows (row :: rest) ∧
      row.firstValue? = some (.bigInt n) ∧ n.toInt = ids.eraseDups.length
  sorted : ∀ limit,
    store (.sortedIds r.idRef key.operand r.createdRef (r.selection condition) key.direction limit)
      = .rows (rows.take limit.toNat)
  models : ∀ wanted : List ι, wanted ≠ [] → wanted.Nodup → wanted ⊆ ids → ∃ found models,
    store (.byIds r.columnRefs ⟨r.entity.table, [], some (r.idCondition wanted)⟩) = .rows found ∧
      r.readModels found = .ok models ∧ (models.map r.idOf?).Perm (wanted.map some)

variable {r : Resource ι α} {key : Sql.SortKey} {condition : Option Sql.Condition}
  {rows : List Row} {ids : List ι} {store : Sql.Statement → Reply}

omit [DecidableEq ι] in
theorem readIds_take (h : r.readIds rows = .ok ids) (n : Nat) :
    r.readIds (rows.take n) = .ok (ids.take n) := by
  rw [readIds, readOr_eq_ok_iff, mapM_eq_some_iff] at h ⊢
  rw [List.map_take, h, List.map_take]

omit [DecidableEq ι] in
theorem length_eq_of_readIds (h : r.readIds rows = .ok ids) : ids.length = rows.length := by
  rw [readIds, readOr_eq_ok_iff, mapM_eq_some_iff] at h
  simpa using (congrArg List.length h).symm

/-! ## The steps of the search -/

/-- How many of the rows are fetched for a page. -/
def window (r : Resource ι α) (p : Pageable) : UInt64 :=
  oversampledWindow p.offset p.size r.fanOut.multiplier

/-- A store that can say how many parents there are has fewer than offsets can reach. -/
theorem AnswersParents.length_distinct_le (hstore : r.AnswersParents key condition rows ids store) :
    (distinct ids).length ≤ maxWord := by
  obtain ⟨-, -, n, -, -, hn⟩ := hstore.count
  have hlt := n.toInt_lt
  rw [distinct_eq_eraseDups, maxWord]
  omega

/-- The identifiers of a page are those of the slice that it stands for, of the rows in its window.
No rows are fetched for an empty window, which stands for an empty slice. -/
theorem result_pageIds (hids : r.readIds rows = .ok ids)
    (hstore : r.AnswersParents key condition rows ids store) (p : Pageable) :
    ((r.pageIds p key (r.selection condition)).runWith store).result =
      .ok (slice (distinct (ids.take (r.window p).toNat)) p.size.toNat p.page.toNat) := by
  unfold pageIds window
  generalize oversampledWindow p.offset p.size r.fanOut.multiplier = w
  by_cases hzero : w = 0
  · subst hzero
    rw [if_pos rfl, Session.result_pure]
    simp [distinct, slice]
  · have hread : ((Session.query (.sortedIds r.idRef key.operand r.createdRef
        (r.selection condition) key.direction w) r.readIds).runWith store).result =
          .ok (ids.take w.toNat) := by
      rw [Session.result_query (hstore.sorted w)]
      exact readIds_take hids w.toNat
    have hle := (distinct_mono (List.take_prefix w.toNat ids)).length_le
    rw [if_neg hzero, Session.result_bind hread, Session.result_pure, distinctWindow,
      Pageable.offset, drop_saturatingMul (Nat.le_trans hle hstore.length_distinct_le)]

/-- The window of a page reaches all its parents if none has more rows than declared. -/
theorem slice_window (hids : r.readIds rows = .ok ids) (hlength : rows.length < 0x8000000000000000)
    (hfan : ∀ id, ids.count id ≤ r.fanOut.multiplier.toNat) (p : Pageable) :
    slice (distinct (ids.take (r.window p).toNat)) p.size.toNat p.page.toNat =
      slice (distinct ids) p.size.toNat p.page.toNat := by
  have hids_length := length_eq_of_readIds hids
  have hcovers := window_covers p.page p.size r.fanOut.multiplier
  refine slice_congr (take_distinct_take hfan (hcovers.imp_right fun h => ?_))
  rw [maxWord] at h
  exact Nat.le_trans (by omega) h

/-- The models of a page are those of its identifiers, in their order. -/
theorem result_modelsByIds (hstore : r.AnswersParents key condition rows ids store)
    {wanted : List ι} (hd : wanted.Nodup) (hsub : wanted ⊆ ids) :
    ∃ items, ((r.modelsByIds wanted).runWith store).result = .ok items ∧
      items.map r.idOf? = wanted.map some := by
  unfold modelsByIds
  cases hw : wanted with
  | nil => exact ⟨[], rfl, rfl⟩
  | cons id rest =>
    rw [← hw]
    obtain ⟨found, models, hfound, hmodels, hperm⟩ :=
      hstore.models wanted (by simp [hw]) hd hsub
    refine ⟨restoreOrder models wanted r.idOf?, ?_, map_restoreOrder hd hperm⟩
    have hquery : ((Session.query (.byIds r.columnRefs ⟨r.entity.table, [],
        some (r.idCondition wanted)⟩) r.readModels).runWith store).result = .ok models :=
      (Session.result_query hfound).trans hmodels
    rw [if_neg (by simp [hw]), Session.result_bind hquery, Session.result_pure]

/-! ## The pages -/

/-- One page: the search succeeds, the items are those of the slice that the page stands for, of the
rows in its window, and the total is the number of parents. -/
theorem result_searchWithChildren_window {b : Sql.Backend} (request : SearchRequest)
    {parameters : Filters} (hkey : r.childrenSort request.pageable = .ok key)
    (hcondition : r.condition b request.filters parameters = .ok condition)
    (hids : r.readIds rows = .ok ids) (hstore : r.AnswersParents key condition rows ids store) :
    ∃ page, ((r.searchWithChildren b request parameters).runWith store).result = .ok page ∧
      page.items.map r.idOf? = (slice (distinct (ids.take (r.window request.pageable).toNat))
        request.pageable.size.toNat request.pageable.page.toNat).map some ∧
      page.totalElements.toNat = (distinct ids).length := by
  obtain ⟨row, rest, n, hcount, hrow, hn⟩ := hstore.count
  obtain ⟨total, htotal, htotal_eq⟩ := readDistinctCount_eq rest hrow hn
  have hpage := result_pageIds hids hstore request.pageable
  generalize (r.window request.pageable).toNat = w at hpage ⊢
  have hsublist : (slice (distinct (ids.take w)) request.pageable.size.toNat
      request.pageable.page.toNat).Sublist (distinct (ids.take w)) :=
    (List.take_sublist _ _).trans (List.drop_sublist _ _)
  obtain ⟨items, hitems, hmap⟩ := result_modelsByIds hstore
    (hsublist.nodup (nodup_distinct _))
    ((hsublist.trans (distinct_sublist _)).trans (List.take_sublist w ids)).subset
  refine ⟨⟨items, total, request.pageable.page, request.pageable.size⟩, ?_, hmap, ?_⟩
  · have hquery : ((Session.query (.countDistinct r.idRef (r.selection condition))
        readDistinctCount).runWith store).result = .ok total :=
      (Session.result_query hcount).trans htotal
    unfold searchWithChildren
    rw [Session.result_bind ((Session.result_lift _).trans hkey),
      Session.result_bind ((Session.result_lift _).trans hcondition), Session.result_bind hquery,
      Session.result_bind hpage, Session.result_bind hitems, Session.result_pure]
  · rw [htotal_eq, distinct_eq_eraseDups]

/-- One page of a resource whose declaration holds: its items are those of the slice of all rows. -/
theorem result_searchWithChildren {b : Sql.Backend} (request : SearchRequest) {parameters : Filters}
    (hkey : r.childrenSort request.pageable = .ok key)
    (hcondition : r.condition b request.filters parameters = .ok condition)
    (hids : r.readIds rows = .ok ids) (hlength : rows.length < 0x8000000000000000)
    (hfan : ∀ id, ids.count id ≤ r.fanOut.multiplier.toNat)
    (hstore : r.AnswersParents key condition rows ids store) :
    ∃ page, ((r.searchWithChildren b request parameters).runWith store).result = .ok page ∧
      page.items.map r.idOf? =
        (slice (distinct ids) request.pageable.size.toNat request.pageable.page.toNat).map some ∧
      page.totalElements.toNat = (distinct ids).length := by
  rw [← slice_window hids hlength hfan request.pageable]
  exact result_searchWithChildren_window request hkey hcondition hids hstore

/-- **Pages of parents are exact.** Let `rows` be the joined rows of a request in its order, fewer
than `2 ^ 63`, and let no parent have more of them than the resource declares. Then every page `n` is
found, with the parents `n * size` to `(n + 1) * size` in the order in which they first occur and
with the number of all parents as the total. So the pages, one after the other, list every parent
once and in that order, and unless they are empty, those that 64 bits can number reach them all. -/
theorem searchWithChildren_pages (r : Resource ι α) (b : Sql.Backend) (request : SearchRequest)
    (parameters : Filters) (hkey : r.childrenSort request.pageable = .ok key)
    (hcondition : r.condition b request.filters parameters = .ok condition)
    (hids : r.readIds rows = .ok ids) (hlength : rows.length < 0x8000000000000000)
    (hfan : ∀ id, ids.count id ≤ r.fanOut.multiplier.toNat)
    (stores : UInt64 → Sql.Statement → Reply)
    (hstores : ∀ n, r.AnswersParents key condition rows ids (stores n)) :
    ∃ page : UInt64 → Page α,
      (∀ n, ((r.searchWithChildren b (request.atPage n) parameters).runWith (stores n)).result =
        .ok (page n)) ∧
      (∀ n, (page n).items.map r.idOf? =
          ((ids.eraseDups.drop (n.toNat * request.pageable.size.toNat)).take
            request.pageable.size.toNat).map some ∧
        (page n).items.length = min request.pageable.size.toNat
          (ids.eraseDups.length - n.toNat * request.pageable.size.toNat) ∧
        (page n).totalElements.toNat = ids.eraseDups.length) ∧
      ∃ parents : List ι, parents.Nodup ∧ (∀ id, id ∈ parents ↔ id ∈ ids) ∧
        (parents.Pairwise fun a b => ids.idxOf a < ids.idxOf b) ∧
        (∀ k ≤ maxWord + 1,
          (List.range k).flatMap (fun n => (page (UInt64.ofNat n)).items.map r.idOf?) =
            (parents.take (k * request.pageable.size.toNat)).map some) ∧
        (0 < request.pageable.size →
          ∃ k ≤ maxWord + 1, parents.take (k * request.pageable.size.toNat) = parents) := by
  obtain ⟨page, hpage⟩ := Classical.skolem.mp fun n =>
    result_searchWithChildren (request.atPage n) hkey hcondition hids hlength hfan (hstores n)
  simp only [← distinct_eq_eraseDups]
  refine ⟨page, fun n => (hpage n).1, fun n => ⟨(hpage n).2.1, ?_, (hpage n).2.2⟩,
    distinct ids, nodup_distinct ids, fun id => mem_distinct id ids, pairwise_idxOf_distinct ids,
    fun k hk => ?_, fun hsize => ⟨(distinct ids).length, ?_, ?_⟩⟩
  · have hlen := congrArg List.length (hpage n).2.1
    rwa [List.length_map, List.length_map, length_slice] at hlen
  · have hslices : ∀ n, (page n).items.map r.idOf? =
        slice ((distinct ids).map some) request.pageable.size.toNat n.toNat := by
      intro n
      rw [(hpage n).2.1, ← slice_map]
      rfl
    rw [flatMap_pages hslices hk, List.map_take]
  · have hle := (distinct_sublist ids).length_le
    have hlen := length_eq_of_readIds hids
    rw [maxWord]
    omega
  · exact List.take_of_length_le (Nat.le_mul_of_pos_right _ (UInt64.lt_iff_toNat_lt.mp hsize))

/-! ## Owners of vehicles -/

open Sample

/-- The owners of five vehicles, by the years of these. -/
def ownersByYear : List Int64 := [2, 1, 2, 3, 1]

/-- A store with the vehicles of `ownersByYear`, which finds customers last first. -/
def ownersStore : Sql.Statement → Reply
  | .countDistinct _ _ => .rows [[("count", some (.bigInt 3))]]
  | .sortedIds _ _ _ _ _ limit => .rows ((ownersByYear.map ownerRow).take limit.toNat)
  | .byIds _ ⟨_, _, some (.leaf (.member _ _ ids))⟩ =>
    .rows ((ids.filterMap Customer.readId?).reverse.map ownerRow)
  | _ => .failure "not understood"

theorem answersParents_ownersStore (key : Sql.SortKey) :
    owners.AnswersParents key none (ownersByYear.map ownerRow) ownersByYear ownersStore where
  count := ⟨_, _, 3, rfl, rfl, by decide⟩
  sorted _ := rfl
  models wanted _ _ _ := by
    have hids : (wanted.map owners.idValue).filterMap Customer.readId? = wanted := by
      rw [List.filterMap_map]
      exact List.filterMap_some
    refine ⟨wanted.reverse.map ownerRow, wanted.reverse, ?_, ?_, ?_⟩
    · show Reply.rows _ = _
      rw [hids]
    · rw [readModels, readOr_eq_ok_iff, mapM_eq_some_iff, List.map_map]
      rfl
    · exact (List.reverse_perm wanted).map some

/-- The second page of two owners has the last of three. -/
theorem searchWithChildren_pages_owners :
    let request : SearchRequest := ⟨.empty, ⟨0, 2, ["vehicles.year"], ["asc"]⟩⟩
    owners.childrenSort request.pageable = .ok ⟨.column ⟨"vehicles", "year"⟩, .asc⟩ ∧
      owners.condition .sqlite request.filters .empty = .ok none ∧
      owners.readIds (ownersByYear.map ownerRow) = .ok ownersByYear ∧
      (∀ id, ownersByYear.count id ≤ owners.fanOut.multiplier.toNat) ∧
      owners.AnswersParents ⟨.column ⟨"vehicles", "year"⟩, .asc⟩ none (ownersByYear.map ownerRow)
        ownersByYear ownersStore ∧
      ∃ page, ((owners.searchWithChildren .sqlite (request.atPage 1) .empty).runWith
          ownersStore).result = .ok page ∧ page.items = [3] ∧ page.totalElements = 3 := by
  intro request
  have hkey : owners.childrenSort request.pageable = .ok ⟨.column ⟨"vehicles", "year"⟩, .asc⟩ := rfl
  have hfan : ∀ id, ownersByYear.count id ≤ owners.fanOut.multiplier.toNat := by
    intro id
    by_cases h : id ∈ ownersByYear
    · have hall : (ownersByYear.all fun id =>
          decide (ownersByYear.count id ≤ owners.fanOut.multiplier.toNat)) = true := by
        decide
      exact of_decide_eq_true (List.all_eq_true.mp hall id h)
    · rw [List.count_eq_zero_of_not_mem h]
      exact Nat.zero_le _
  obtain ⟨page, hrun, hpage, -⟩ := searchWithChildren_pages owners .sqlite request .empty hkey rfl
    rfl (by decide) hfan (fun _ => ownersStore) fun _ => answersParents_ownersStore _
  refine ⟨hkey, rfl, rfl, hfan, answersParents_ownersStore _, page 1, hrun 1, ?_, ?_⟩
  · have hitems : (page 1).items.map some = [3].map some := (hpage 1).1
    exact List.map_inj_right (fun _ _ => Option.some.inj) |>.mp hitems
  · exact UInt64.toNat_inj.mp (hpage 1).2.2

end Resource

end EntitySearch
