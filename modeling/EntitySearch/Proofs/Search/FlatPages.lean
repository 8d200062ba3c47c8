import EntitySearch.Proofs.Paging.Window
import EntitySearch.Proofs.Search.Session
import EntitySearch.Sample.Customer
import EntitySearch.Search.Pages

/-!
# Flat pages

Flat pages neither overlap nor leave rows out, whatever the store does with ties (`search_pages`).

* `RowOrder`: how a store compares rows by one operand. Rows may tie.
* `RowOrder.lexLe`: how they compare under an `ORDER BY`. It is a total preorder (`lexLe_total`,
  `lexLe_trans`), and rows that tie under it tie on every key (`tied_of_lexLe`).
* `MatchingRows.eq_of_arranges`: the identifier is a key of every flat search, so no two rows tie
  and there is only one arrangement that a store can choose.
-/

namespace EntitySearch

/-! ## Orders of rows -/

/-- How a store compares joined rows by the value of an operand: by a total preorder. -/
structure RowOrder (ρ : Type) where
  le : Sql.Operand → ρ → ρ → Prop
  total : ∀ o x y, le o x y ∨ le o y x
  trans : ∀ o x y z, le o x y → le o y z → le o x z

namespace RowOrder

variable {ρ : Type} (ord : RowOrder ρ)

/-- Rows under one sort key, in its direction. -/
def keyLe (k : Sql.SortKey) (x y : ρ) : Prop :=
  match k.direction with
  | .asc => ord.le k.operand x y
  | .desc => ord.le k.operand y x

/-- Rows under an `ORDER BY`: the first key on which they do not tie decides. -/
def lexLe : List Sql.SortKey → ρ → ρ → Prop
  | [], _, _ => True
  | k :: ks, x, y => ord.keyLe k x y ∧ (ord.keyLe k y x → lexLe ks x y)

/-- `l` holds the rows `rows` in an order that an `ORDER BY` allows. -/
structure Arranges (order : List Sql.SortKey) (rows l : List ρ) : Prop where
  perm : l.Perm rows
  sorted : l.Pairwise (ord.lexLe order)

variable {ord} {k : Sql.SortKey} {order : List Sql.SortKey} {x y z : ρ}

theorem keyLe_total (k : Sql.SortKey) (x y : ρ) : ord.keyLe k x y ∨ ord.keyLe k y x := by
  unfold keyLe
  cases k.direction with
  | asc => exact ord.total _ _ _
  | desc => exact ord.total _ _ _

theorem keyLe_trans (hxy : ord.keyLe k x y) (hyz : ord.keyLe k y z) : ord.keyLe k x z := by
  unfold keyLe at *
  cases hk : k.direction with
  | asc => rw [hk] at hxy hyz; exact ord.trans _ _ _ _ hxy hyz
  | desc => rw [hk] at hxy hyz; exact ord.trans _ _ _ _ hyz hxy

theorem lexLe_total (order : List Sql.SortKey) (x y : ρ) :
    ord.lexLe order x y ∨ ord.lexLe order y x := by
  induction order with
  | nil => exact .inl trivial
  | cons k ks ih =>
    by_cases hxy : ord.keyLe k x y
    · by_cases hyx : ord.keyLe k y x
      · exact ih.imp (fun h => ⟨hxy, fun _ => h⟩) (fun h => ⟨hyx, fun _ => h⟩)
      · exact .inl ⟨hxy, fun h => absurd h hyx⟩
    · exact .inr ⟨(keyLe_total k x y).resolve_left hxy, fun h => absurd h hxy⟩

theorem lexLe_trans (hxy : ord.lexLe order x y) (hyz : ord.lexLe order y z) :
    ord.lexLe order x z := by
  induction order with
  | nil => trivial
  | cons k ks ih =>
    refine ⟨keyLe_trans hxy.1 hyz.1, fun hzx => ?_⟩
    -- A tie of the ends is a tie of all three.
    exact ih (hxy.2 (keyLe_trans hyz.1 hzx)) (hyz.2 (keyLe_trans hzx hxy.1))

/-- Rows that tie under an `ORDER BY` tie on every key of it. -/
theorem tied_of_lexLe (hxy : ord.lexLe order x y) (hyx : ord.lexLe order y x) :
    ∀ k ∈ order, ord.keyLe k x y ∧ ord.keyLe k y x := by
  induction order with
  | nil => simp
  | cons k ks ih =>
    intro k' hk'
    rcases List.mem_cons.mp hk' with rfl | hk'
    · exact ⟨hxy.1, hyx.1⟩
    · exact ih (hxy.2 hyx.1) (hyx.2 hxy.1) k' hk'

open Classical in
theorem exists_arranges (ord : RowOrder ρ) (order : List Sql.SortKey) (rows : List ρ) :
    ∃ l, ord.Arranges order rows l := by
  have hsorted := @List.pairwise_mergeSort ρ (fun x y => decide (ord.lexLe order x y))
    (by simpa using fun x y z => lexLe_trans) (by simpa using lexLe_total order) rows
  exact ⟨_, List.mergeSort_perm rows _, hsorted.imp fun h => of_decide_eq_true h⟩

end RowOrder

/-! ## The store -/

variable {ι α ρ : Type}

/-- The joined rows that match a request, one for each model, and how a store orders them. The
order of the identifiers is a strict total one. -/
structure MatchingRows (r : Resource ι α) (ρ : Type) extends RowOrder ρ where
  rows : List ρ
  /-- The cells that a statement for all columns of the entity selects. -/
  cells : ρ → Row
  model : ρ → α
  id : ρ → ι
  before : ι → ι → Prop
  readModel?_cells : ∀ x ∈ rows, r.readModel? (cells x) = some (model x)
  nodup_ids : (rows.map id).Nodup
  length_le : rows.length ≤ maxWord
  before_trichotomous : ∀ i j, before i j ∨ i = j ∨ before j i
  le_id : ∀ x y, le (.column r.idRef) x y ↔ ¬ before (id y) (id x)

namespace MatchingRows

variable {r : Resource ι α} (m : MatchingRows r ρ)

/-- A store that holds the rows. It answers each query for a slice with that slice of some
arrangement that the `ORDER BY` allows, maybe of another one each time, and counts what it likes. -/
structure AnswersSlices (b : Sql.Backend) (order : List Sql.SortKey)
    (condition : Option Sql.Condition) (store : Sql.Statement → Reply) : Prop where
  count : ∃ rows total, store (.countRows r.columnRefs (r.selection condition)) = .rows rows ∧
    readRowCount b rows = .ok total
  slice : ∀ limit offset, ∃ l, m.Arranges order m.rows l ∧
    store (.slice r.columnRefs (r.selection condition) order limit offset) =
      .rows (((l.drop offset.toNat).take limit.toNat).map m.cells)

variable {m}

/-- Rows that tie on the identifier are the same row. -/
theorem eq_of_tied {x y : ρ} (hx : x ∈ m.rows) (hy : y ∈ m.rows)
    (hxy : m.le (.column r.idRef) x y) (hyx : m.le (.column r.idRef) y x) : x = y := by
  have hid : m.id x = m.id y := by
    rw [m.le_id] at hxy hyx
    exact (m.before_trichotomous _ _).resolve_left hyx |>.resolve_right hxy
  obtain ⟨i, hi, rfl⟩ := List.mem_iff_getElem.mp hx
  obtain ⟨j, hj, rfl⟩ := List.mem_iff_getElem.mp hy
  have hget : (m.rows.map m.id)[i]? = (m.rows.map m.id)[j]? := by
    simp [hi, hj, hid]
  obtain rfl := (List.getElem?_inj (by simpa using hi) m.nodup_ids).mp hget
  rfl

/-- With the identifier among the keys there is only one arrangement. -/
theorem eq_of_arranges {order : List Sql.SortKey} {d : Direction}
    (hid : ⟨.column r.idRef, d⟩ ∈ order) {l l' : List ρ} (h : m.Arranges order m.rows l)
    (h' : m.Arranges order m.rows l') : l = l' := by
  refine List.Perm.eq_of_pairwise ?_ h.sorted h'.sorted (h.perm.trans h'.perm.symm)
  intro x y hx hy hxy hyx
  have htied := RowOrder.tied_of_lexLe hxy hyx _ hid
  have hx' := h.perm.mem_iff.mp hx
  have hy' := h'.perm.mem_iff.mp hy
  cases d with
  | asc => exact eq_of_tied hx' hy' htied.1 htied.2
  | desc => exact eq_of_tied hx' hy' htied.2 htied.1

theorem nodup_rows (m : MatchingRows r ρ) : m.rows.Nodup :=
  (List.pairwise_map.mp m.nodup_ids).imp fun hne he => hne (congrArg m.id he)

theorem readModels_cells {l : List ρ} (h : l ⊆ m.rows) :
    r.readModels (l.map m.cells) = .ok (l.map m.model) := by
  rw [Resource.readModels, readOr_eq_ok_iff, mapM_eq_some_iff, List.map_map, List.map_map]
  exact List.map_congr_left fun x hx => m.readModel?_cells x (h hx)

end MatchingRows

namespace Resource

variable {r : Resource ι α}

/-- The identifier is the last key of every flat search. -/
theorem idRef_mem_flatOrder {p : Pageable} {order : List Sql.SortKey}
    (h : r.flatOrder p = .ok order) : ∃ d, ⟨.column r.idRef, d⟩ ∈ order := by
  unfold flatOrder at h
  cases hp : p.sortOrders with
  | error e => rw [hp] at h; cases h
  | ok orders =>
    simp only [hp, bind, Except.bind] at h
    split at h
    · cases h
    · injection h with h
      exact ⟨_, by rw [← h]; exact List.mem_append_right _ (List.mem_singleton.mpr rfl)⟩

/-! ## The pages -/

/-- One page: the search succeeds, and the items are those of the slice of the arrangement that the
page stands for. -/
theorem result_search {b : Sql.Backend} (request : SearchRequest) {parameters : Filters}
    {order : List Sql.SortKey} {condition : Option Sql.Condition} {store : Sql.Statement → Reply}
    {m : MatchingRows r ρ} {l : List ρ} (horder : r.flatOrder request.pageable = .ok order)
    (hcondition : r.condition b request.filters parameters = .ok condition)
    (hl : m.Arranges order m.rows l) (hstore : m.AnswersSlices b order condition store) :
    ∃ page, ((r.search b request parameters).runWith store).result = .ok page ∧
      page.items =
        (slice l request.pageable.size.toNat request.pageable.page.toNat).map m.model := by
  obtain ⟨counted, total, hcounted, htotal⟩ := hstore.count
  obtain ⟨l', hl', hslice⟩ := hstore.slice request.pageable.size request.pageable.offset
  obtain ⟨d, hid⟩ := idRef_mem_flatOrder horder
  have hlength : l.length ≤ maxWord := hl.perm.length_eq ▸ m.length_le
  rw [m.eq_of_arranges hid hl' hl, Pageable.offset, drop_saturatingMul hlength] at hslice
  have hcount : ((Session.query (.countRows r.columnRefs (r.selection condition))
      (readRowCount b)).runWith store).result = .ok total :=
    (Session.result_query hcounted).trans htotal
  have hitems : ((Session.query (.slice r.columnRefs (r.selection condition) order
      request.pageable.size request.pageable.offset) r.readModels).runWith store).result =
      .ok ((slice l request.pageable.size.toNat request.pageable.page.toNat).map m.model) := by
    refine (Session.result_query hslice).trans (MatchingRows.readModels_cells ?_)
    exact fun x hx => hl.perm.mem_iff.mp (List.mem_of_mem_drop (List.mem_of_mem_take hx))
  refine ⟨⟨_, total, request.pageable.page, request.pageable.size⟩, ?_, rfl⟩
  unfold search
  rw [Session.result_bind ((Session.result_lift _).trans horder),
    Session.result_bind ((Session.result_lift _).trans hcondition), Session.result_bind hcount,
    Session.result_bind hitems, Session.result_pure]

/-- **Flat pages tile the rows.** A store that answers each query for rows with a slice of any
arrangement that the `ORDER BY` allows has no choice: there is one arrangement only, and page `n` has
its rows `n * size` to `(n + 1) * size`. So the first `k` pages, one after the other, are its first
`k * size` rows, every row is on one page, and a page that starts beyond the last row is empty, also
if its offset is cut to 64 bits. -/
theorem search_pages (m : MatchingRows r ρ) (b : Sql.Backend) (request : SearchRequest)
    (parameters : Filters) {order : List Sql.SortKey} {condition : Option Sql.Condition}
    (horder : r.flatOrder request.pageable = .ok order)
    (hcondition : r.condition b request.filters parameters = .ok condition)
    (hsize : 0 < request.pageable.size) (stores : UInt64 → Sql.Statement → Reply)
    (hstores : ∀ n, m.AnswersSlices b order condition (stores n)) :
    ∃ (l : List ρ) (page : UInt64 → Page α),
      m.Arranges order m.rows l ∧ (∀ l', m.Arranges order m.rows l' → l' = l) ∧
      (∀ n, ((r.search b (request.atPage n) parameters).runWith (stores n)).result =
        .ok (page n)) ∧
      (∀ n, (page n).items = ((l.drop (n.toNat * request.pageable.size.toNat)).take
        request.pageable.size.toNat).map m.model) ∧
      (∀ n, m.rows.length ≤ n.toNat * request.pageable.size.toNat → (page n).items = []) ∧
      (∀ k ≤ maxWord + 1, (List.range k).flatMap (fun n => (page (UInt64.ofNat n)).items) =
        (l.take (min (k * request.pageable.size.toNat) m.rows.length)).map m.model) ∧
      (∀ x ∈ m.rows, ∃ n : UInt64,
        x ∈ (l.drop (n.toNat * request.pageable.size.toNat)).take request.pageable.size.toNat ∧
        ∀ n' : UInt64, x ∈ (l.drop (n'.toNat * request.pageable.size.toNat)).take
          request.pageable.size.toNat → n' = n) := by
  obtain ⟨l, hl⟩ := m.exists_arranges order m.rows
  obtain ⟨d, hid⟩ := idRef_mem_flatOrder horder
  have hlength := hl.perm.length_eq
  obtain ⟨page, hpage⟩ := Classical.skolem.mp fun n =>
    result_search (request.atPage n) horder hcondition hl (hstores n)
  have hsize' : 0 < request.pageable.size.toNat := UInt64.lt_iff_toNat_lt.mp hsize
  have hitems : ∀ n, (page n).items = (slice l request.pageable.size.toNat n.toNat).map m.model :=
    fun n => (hpage n).2
  refine ⟨l, page, hl, fun l' hl' => m.eq_of_arranges hid hl' hl, fun n => (hpage n).1, hitems,
    fun n hn => ?_, fun k hk => ?_, fun x hx => ?_⟩
  · rw [hitems, slice_eq_nil (by rwa [hlength]), List.map_nil]
  · have hslices : ∀ n, (page n).items =
        slice (l.map m.model) request.pageable.size.toNat n.toNat := by
      intro n
      rw [hitems, ← slice_map]
    rw [flatMap_pages hslices hk, ← List.map_take, ← hlength, ← List.take_take, List.take_length]
  · obtain ⟨i, hi, rfl⟩ := List.mem_iff_getElem.mp (hl.perm.mem_iff.mpr hx)
    have hnodup : l.Nodup := hl.perm.nodup_iff.mpr m.nodup_rows
    have hpos : i / request.pageable.size.toNat < UInt64.size := by
      have hle := m.length_le
      have hdiv := Nat.div_le_self i request.pageable.size.toNat
      rw [maxWord] at hle
      rw [UInt64.size]
      omega
    refine ⟨UInt64.ofNat (i / request.pageable.size.toNat), ?_, fun n' hn' => ?_⟩
    · rw [UInt64.toNat_ofNat_of_lt' hpos]
      exact getElem_mem_slice hsize' hi
    · apply UInt64.toNat_inj.mp
      rw [UInt64.toNat_ofNat_of_lt' hpos]
      exact eq_div_of_getElem_mem_slice hnodup hi hn'

/-! ## Owners that tie -/

open Sample

/-- Three owners, who tie on everything but their identifiers. -/
def tiedOwners : MatchingRows owners Int64 where
  le o x y := o = .column owners.idRef → x ≤ y
  total o x y := by
    rcases Int64.le_total x y with h | h
    · exact .inl fun _ => h
    · exact .inr fun _ => h
  trans o x y z hxy hyz ho := Int64.le_trans (hxy ho) (hyz ho)
  rows := [3, 1, 2]
  cells := ownerRow
  model x := x
  id x := x
  before x y := x < y
  readModel?_cells _ _ := rfl
  nodup_ids := by decide
  length_le := by decide
  before_trichotomous x y := by
    rw [Int64.lt_iff_toInt_lt, Int64.lt_iff_toInt_lt, ← Int64.toInt_inj]
    omega
  le_id x y := by
    rw [Int64.not_lt]
    exact ⟨fun h => h rfl, fun h _ => h⟩

/-- Names in both directions, which leave the order to the identifiers. -/
def tiedOrder : List Sql.SortKey :=
  [⟨.column ⟨"customers", "name"⟩, .desc⟩, ⟨.column ⟨"customers", "name"⟩, .asc⟩,
    ⟨.column ⟨"customers", "id"⟩, .asc⟩]

/-- A store with the owners. -/
def tiedStore : Sql.Statement → Reply
  | .countRows _ _ => .rows [[("num_items", some (.int 3))]]
  | .slice _ _ _ limit offset =>
    .rows ((([1, 2, 3] : List Int64).drop offset.toNat).take limit.toNat |>.map ownerRow)
  | _ => .failure "not understood"

theorem arranges_tiedOwners : tiedOwners.Arranges tiedOrder tiedOwners.rows [1, 2, 3] where
  perm := by decide
  sorted := by
    have hle : ∀ x y : Int64, x ≤ y → tiedOwners.lexLe tiedOrder x y := fun x y h =>
      ⟨fun ho => absurd ho (by decide), fun _ => ⟨fun ho => absurd ho (by decide), fun _ =>
        ⟨fun _ => h, fun _ => trivial⟩⟩⟩
    have hsorted : ([1, 2, 3] : List Int64).Pairwise (· ≤ ·) := by decide
    exact hsorted.imp fun h => hle _ _ h

/-- The second page of two owners has the last of three. -/
theorem search_pages_tiedOwners :
    let request : SearchRequest := ⟨.empty, ⟨0, 2, ["name", "name"], ["desc", "ASC "]⟩⟩
    owners.flatOrder request.pageable = .ok tiedOrder ∧
      owners.condition .sqlite request.filters .empty = .ok none ∧ 0 < request.pageable.size ∧
      tiedOwners.AnswersSlices .sqlite tiedOrder none tiedStore ∧
      ∃ page, ((owners.search .sqlite (request.atPage 1) .empty).runWith tiedStore).result =
        .ok page ∧ page.items = [3] := by
  intro request
  have horder : owners.flatOrder request.pageable = .ok tiedOrder := rfl
  have hstore : tiedOwners.AnswersSlices .sqlite tiedOrder none tiedStore :=
    ⟨⟨_, 3, rfl, rfl⟩, fun _ _ => ⟨_, arranges_tiedOwners, rfl⟩⟩
  obtain ⟨l, page, -, hunique, hrun, hitems, -⟩ := search_pages tiedOwners .sqlite request .empty
    horder rfl (by decide) (fun _ => tiedStore) fun _ => hstore
  refine ⟨horder, rfl, by decide, hstore, page 1, hrun 1, ?_⟩
  rw [hitems 1, ← hunique _ arranges_tiedOwners]
  rfl

end Resource

end EntitySearch
