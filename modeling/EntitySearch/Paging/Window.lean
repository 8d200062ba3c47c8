import EntitySearch.Paging.Saturating

/-!
# Windows of distinct identifiers

From the identifiers of joined rows to those of a page of parents, and back to the order of the page
once the parents have been fetched in whatever order. A parent joined to its children appears once
per child. A resource declares how many times at most; fetching that many rows for every parent
wanted is sure to reach them all.

* `oversampledWindow`: how many rows to fetch.
* `distinct`: each identifier once, in the order of first occurrences.
* `restoreOrder`: items by the position of their identifier, those without a position last.
-/

namespace EntitySearch

/-! ## Rows to fetch -/

/-- How many joined rows one parent has at most: directly, or as one bound per level of children of
children. -/
inductive FanOut where
  | bound (n : UInt64)
  | levels (ns : List UInt64)
deriving DecidableEq

/-- One row per parent, which holds of a resource that joins no children. -/
def FanOut.single : FanOut := .bound 1

/-- The number of rows per parent. -/
def FanOut.multiplier : FanOut → UInt64
  | bound n => n
  | levels ns => ns.foldl saturatingMul 1

/-- How many rows to fetch so that they cover `offset + size` different parents. -/
def oversampledWindow (offset size multiplier : UInt64) : UInt64 :=
  saturatingMul (saturatingAdd offset size) multiplier

/-! ## Identifiers and items -/

variable {ι α : Type} [DecidableEq ι]

/-- The elements of a list, each once, in the order of their first occurrences. -/
def distinct : List ι → List ι
  | [] => []
  | a :: r => a :: (distinct r).filter (· ≠ a)

/-- The distinct identifiers of a page: `size` of them after the first `offset`. -/
def distinctWindow (ids : List ι) (offset size : UInt64) : List ι :=
  ((distinct ids).drop offset.toNat).take size.toNat

/-- The position of the last occurrence of an identifier. -/
def lastPosition? (id : ι) : List ι → Option Nat
  | [] => none
  | a :: r =>
    match lastPosition? id r with
    | some n => some (n + 1)
    | none => if a = id then some 0 else none

/-- The place of an item: the last position of its identifier. An item whose identifier is unknown
or cannot be read comes after all others. -/
def placeOf (ids : List ι) (id : Option ι) : Nat :=
  (id.bind fun i => lastPosition? i ids).getD ids.length

/-- The items in the order of their places; items of one place stay as they were. -/
def restoreOrder (items : List α) (ids : List ι) (idOf : α → Option ι) : List α :=
  items.mergeSort fun a b => placeOf ids (idOf a) ≤ placeOf ids (idOf b)

theorem mem_distinct (a : ι) (l : List ι) : a ∈ distinct l ↔ a ∈ l := by
  induction l with
  | nil => simp [distinct]
  | cons b r ih =>
    by_cases h : a = b
    · simp [distinct, h]
    · simp [distinct, h, ih]

theorem nodup_distinct (l : List ι) : (distinct l).Nodup := by
  induction l with
  | nil => simp [distinct]
  | cons a r ih =>
    rw [distinct, List.nodup_cons]
    exact ⟨by simp, ih.sublist List.filter_sublist⟩

theorem perm_restoreOrder (items : List α) (ids : List ι) (idOf : α → Option ι) :
    (restoreOrder items ids idOf).Perm items := List.mergeSort_perm _ _

end EntitySearch
