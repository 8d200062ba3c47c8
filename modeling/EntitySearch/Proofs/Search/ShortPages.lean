import EntitySearch.Proofs.Search.ChildPages

/-!
# Short pages of parents

A resource that declares too few rows per parent gets short pages, but no wrong ones
(`searchWithChildren_initialSegment`): what is missing from a page is missing at its end, and a
larger declaration only adds to it. Nothing is asked here of how often a parent occurs.

* `oversampledWindow_mono`: a larger declaration fetches no fewer rows.
* `distinctWindow_mono`, `result_searchWithChildren_window`: more rows only make a page longer, and a
  page is a window of the rows that were fetched.
-/

namespace EntitySearch

namespace Resource

variable {ι α : Type}

/-- The resource with another declaration of its fan-out. -/
def withFanOut (r : Resource ι α) (f : FanOut) : Resource ι α := { r with fanOut := f }

theorem childrenSort_withFanOut (r : Resource ι α) (f : FanOut) (p : Pageable) :
    (r.withFanOut f).childrenSort p = r.childrenSort p := rfl

variable [DecidableEq ι] {r : Resource ι α} {key : Sql.SortKey} {condition : Option Sql.Condition}
  {rows : List Row} {ids : List ι} {store : Sql.Statement → Reply}

/-- The rows of a resource are what they are, whatever it declares. -/
theorem AnswersParents.withFanOut (h : r.AnswersParents key condition rows ids store) (f : FanOut) :
    (r.withFanOut f).AnswersParents key condition rows ids store :=
  ⟨h.count, h.sorted, h.models⟩

/-- **Short pages.** The distinct elements in a window of the first rows of a list begin the window of
those in more rows, or in all. So whatever fan-out a resource declares, a page of its parents is
found, its items begin the page of the parents that there are, and the total is the number of all
parents; and if more rows per parent are declared, the page keeps what it has. -/
theorem searchWithChildren_initialSegment (r : Resource ι α) (b : Sql.Backend)
    (request : SearchRequest) (parameters : Filters)
    (hkey : r.childrenSort request.pageable = .ok key)
    (hcondition : r.condition b request.filters parameters = .ok condition)
    (hids : r.readIds rows = .ok ids) (stores : FanOut → Sql.Statement → Reply)
    (hstores : ∀ f, r.AnswersParents key condition rows ids (stores f)) :
    (∀ (l : List ι) (offset size : UInt64) (w w' : Nat), w ≤ w' →
      distinctWindow (l.take w) offset size <+: distinctWindow (l.take w') offset size ∧
      distinctWindow (l.take w') offset size <+: distinctWindow l offset size) ∧
    ∃ page : FanOut → Page α,
      (∀ f, (((r.withFanOut f).searchWithChildren b request parameters).runWith (stores f)).result =
        .ok (page f)) ∧
      (∀ f, (page f).items.map r.idOf? <+:
          ((ids.eraseDups.drop (request.pageable.page.toNat * request.pageable.size.toNat)).take
            request.pageable.size.toNat).map some ∧
        (page f).totalElements.toNat = ids.eraseDups.length) ∧
      ∀ f f', f.multiplier ≤ f'.multiplier →
        (page f).items.map r.idOf? <+: (page f').items.map r.idOf? := by
  obtain ⟨page, hpage⟩ := Classical.skolem.mp fun f => result_searchWithChildren_window
    (r := r.withFanOut f) request hkey hcondition hids ((hstores f).withFanOut f)
  have hitems : ∀ f, (page f).items.map r.idOf? =
      (slice (distinct (ids.take ((r.withFanOut f).window request.pageable).toNat))
        request.pageable.size.toNat request.pageable.page.toNat).map some := fun f => (hpage f).2.1
  refine ⟨fun l offset size w w' h => ⟨?_, ?_⟩, page, fun f => (hpage f).1, fun f => ⟨?_, ?_⟩,
    fun f f' h => ?_⟩
  · exact distinctWindow_mono (List.take_prefix_take_left h) offset size
  · exact distinctWindow_mono (List.take_prefix w' l) offset size
  · rw [hitems, ← distinct_eq_eraseDups]
    exact (slice_mono (distinct_mono (List.take_prefix _ _)) _ _).map some
  · rw [(hpage f).2.2, distinct_eq_eraseDups]
  · have hwindow : ((r.withFanOut f).window request.pageable).toNat ≤
        ((r.withFanOut f').window request.pageable).toNat :=
      UInt64.le_iff_toNat_le.mp (oversampledWindow_mono UInt64.le_rfl UInt64.le_rfl h)
    rw [hitems, hitems]
    exact (slice_mono (distinct_mono (List.take_prefix_take_left hwindow)) _ _).map some

open Sample in
/-- Three owners are on the page if two vehicles each are declared; with one each, the third row is of
an owner again, and the page ends before the third owner. -/
theorem searchWithChildren_initialSegment_owners :
    let request : SearchRequest := ⟨.empty, ⟨0, 3, ["vehicles.year"], ["asc"]⟩⟩
    let key : Sql.SortKey := ⟨.column ⟨"vehicles", "year"⟩, .asc⟩
    owners.childrenSort request.pageable = .ok key ∧
      owners.condition .sqlite request.filters .empty = .ok none ∧
      owners.readIds (ownersByYear.map ownerRow) = .ok ownersByYear ∧
      owners.AnswersParents key none (ownersByYear.map ownerRow) ownersByYear ownersStore ∧
      ∃ short full : Page Int64,
        (((owners.withFanOut .single).searchWithChildren .sqlite request .empty).runWith
          ownersStore).result = .ok short ∧
        (((owners.withFanOut (.bound 2)).searchWithChildren .sqlite request .empty).runWith
          ownersStore).result = .ok full ∧
        short.items <+: full.items ∧ short.items = [2, 1] ∧ full.items = [2, 1, 3] ∧
        short.totalElements = 3 ∧ full.totalElements = 3 := by
  intro request key
  have hkey : owners.childrenSort request.pageable = .ok key := rfl
  have hstore := answersParents_ownersStore key
  obtain ⟨-, page, hrun, hpage, hmore⟩ := searchWithChildren_initialSegment owners .sqlite request
    .empty hkey rfl rfl (fun _ => ownersStore) fun _ => hstore
  have hsome : ∀ l l' : List Int64, l.map some <+: l'.map some → l <+: l' := fun l l' h =>
    (List.prefix_map_iff_of_injective fun _ _ => Option.some.inj).mp h
  have hitems : ∀ f, (page f).items.map some =
      (slice (distinct (ownersByYear.take ((owners.withFanOut f).window request.pageable).toNat))
        3 0).map some := by
    intro f
    have hkey' : (owners.withFanOut f).childrenSort request.pageable = .ok key :=
      (owners.childrenSort_withFanOut f _).trans hkey
    obtain ⟨page', hrun', hitems, -⟩ :=
      result_searchWithChildren_window request hkey' rfl rfl (hstore.withFanOut f)
    rw [Except.ok.inj ((hrun f).symm.trans hrun')]
    exact hitems
  have hinj : ∀ l l' : List Int64, l.map some = l'.map some → l = l' := fun _ _ =>
    (List.map_inj_right fun _ _ => Option.some.inj).mp
  exact ⟨hkey, rfl, rfl, hstore, page .single, page (.bound 2), hrun _, hrun _,
    hsome _ _ (hmore .single (.bound 2) (by decide)), hinj _ _ (hitems .single),
    hinj _ _ (hitems (.bound 2)), UInt64.toNat_inj.mp (hpage .single).2,
    UInt64.toNat_inj.mp (hpage (.bound 2)).2⟩

end Resource

end EntitySearch
