import EntitySearch.Proofs.Calendar.Order
import EntitySearch.Proofs.Predicate.Outcome
import EntitySearch.Sample.Customer
import Mathlib.Order.Hom.Basic

/-!
# Ranges as intervals

What a range predicate selects (`Scope.between_selects`): the rows whose cell holds a value between
the bounds, both included, as far as they are given.

* `Sql.CompareOp.truth`: the truth of comparing a cell, which may be null, with a value. The values
  may be of any order.
* `Sql.Condition.Agree`: predicates with the same SQL, values and truth, though a junction of one
  may stand around one of them.
* `RangeFamily.Point`, `RangeFamily.read?`: the points of a family, and the one that a filter gives.
* `RangeFamily.IsProper`: the filters that are not malformed. They give a point or nothing
  (`RangeFamily.exists_point`).
* `RangeFamily.Compares`: rows compare cells with points as SQL does. `RangeFamily.cellTruth` does
  for any cell.
* `Scope.eval_all?_bounded_iff`: the truth of both bounds together.
-/

namespace EntitySearch

/-! ## Comparing in SQL -/

namespace Sql

variable {D : Type*} [LinearOrder D]

/-- Whether two values of an order compare as a sign says. -/
def CompareOp.holds (x y : D) : CompareOp → Bool
  | equal => x = y
  | notEqual => x ≠ y
  | atLeast => y ≤ x
  | atMost => x ≤ y

/-- Comparing a cell, which is empty if it is null, with a value. Nothing is known of null. -/
def CompareOp.truth (op : CompareOp) (cell : Option D) (y : D) : Truth :=
  match cell with
  | none => .unknown
  | some x => if op.holds x y then .true else .false

theorem CompareOp.truth_eq_true_iff {op : CompareOp} {cell : Option D} {y : D} :
    op.truth cell y = .true ↔ ∃ x, cell = some x ∧ op.holds x y = true := by
  cases cell with
  | none => simp [truth]
  | some x => cases h : op.holds x y <;> simp [truth, h]

/-! ## Predicates that say the same -/

namespace Condition

theorem fragments_asMember (b : Backend) (c : Condition) :
    c.asMember.fragments b = c.fragments b := by
  unfold asMember
  split
  · rw [fragments]
  · rfl

/-- Two predicates say the same, or both nothing: the same SQL with the same values, and the same
truth. -/
def Agree (c d : Option Condition) : Prop :=
  (∀ b, c.map (fragments b) = d.map (fragments b)) ∧ ∀ v, c.map (eval v) = d.map (eval v)

/-- A junction of one condition that is present says what that condition says. -/
theorem agree_combine? {op : Connective} {conditions : List (Option Condition)}
    {c : Option Condition} (h : conditions.filterMap id = c.toList) :
    Agree (combine? op conditions) c := by
  unfold combine?
  rw [h]
  cases c with
  | none => exact ⟨fun _ => rfl, fun _ => rfl⟩
  | some c =>
    refine ⟨fun b => congrArg some ?_, fun v => congrArg some ?_⟩
    · show (junction op [c.asMember]).fragments b = c.fragments b
      rw [fragments, fragments_asMember]
    · show (junction op [c.asMember]).eval v = c.eval v
      rw [eval_junction, List.map_singleton, Connective.joined_singleton, eval_asMember]

end Condition

end Sql

/-! ## Points -/

namespace RangeFamily

/-- What the bounds of a family are: dates, date-times, instants or integers. -/
def Point : RangeFamily → Type
  | date => Calendar.Date
  | dateTime => Calendar.DateTime
  | instant => Calendar.Instant
  | number => ℤ

instance : (family : RangeFamily) → LinearOrder family.Point
  | date => inferInstanceAs (LinearOrder Calendar.Date)
  | dateTime => inferInstanceAs (LinearOrder Calendar.DateTime)
  | instant => inferInstanceAs (LinearOrder Calendar.Instant)
  | number => inferInstanceAs (LinearOrder ℤ)

/-- The point that a value stands for. -/
def point? : (family : RangeFamily) → Sql.Value → Option family.Point
  | date, .date d => some d
  | dateTime, .dateTime t => some t
  | instant, .timestamp t => some t
  | number, .int n => some n.toInt
  | number, .bigInt n => some n.toInt
  | _, _ => none

/-- The value that a filter gives as a bound. -/
def value? (family : RangeFamily) (f : Filters) (key : String) : Option Sql.Value :=
  match family.form? with
  | none => f.number? key
  | some form => (f.nonBlankText? key).bind form.read?

/-- The point that a filter gives as a bound. -/
def read? (family : RangeFamily) (f : Filters) (key : String) : Option family.Point :=
  (family.value? f key).bind family.point?

/-- A filter that is not malformed: its text, unless blank, is of the form of the family; and if
the family has none, its number is an integer. -/
def IsProper (family : RangeFamily) (f : Filters) (key : String) : Prop :=
  match family.form? with
  | none => ∀ x, f.number? key ≠ some (.double x)
  | some form => ∀ t, f.nonBlankText? key = some t → form.read? t ≠ none

variable {family : RangeFamily} {f : Filters} {key : String}

theorem bound_eq (h : family.IsProper f key) : family.bound f key = .ok (family.value? f key) := by
  unfold IsProper at h
  unfold bound value?
  cases hform : family.form? with
  | none => rfl
  | some form =>
    rw [hform] at h
    cases ht : f.nonBlankText? key with
    | none => rfl
    | some t =>
      obtain ⟨x, hx⟩ := Option.ne_none_iff_exists'.mp (h t ht)
      simp only [Option.bind_some, TypedForm.parse, hx]
      rfl

/-- A number that is no double is an integer. -/
theorem exists_point_of_number {v : FilterValue} {x : Sql.Value} (hx : v.number? = some x)
    (hdouble : ∀ y, x ≠ .double y) : ∃ p, number.point? x = some p := by
  cases v with
  | int n | long n =>
    obtain rfl := Option.some.inj hx
    exact ⟨_, rfl⟩
  | float y => exact absurd (Option.some.inj hx).symm (hdouble y)
  | text s =>
    rcases Option.or_eq_some_iff.mp hx with hx | ⟨-, hx⟩
    · obtain ⟨n, -, rfl⟩ := Option.map_eq_some_iff.mp hx
      exact ⟨_, rfl⟩
    · obtain ⟨y, -, rfl⟩ := Option.map_eq_some_iff.mp hx
      exact absurd rfl (hdouble y)
  | bool b | list items => cases hx

/-- A bound that is not malformed is a point of the family. -/
theorem exists_point (h : family.IsProper f key) {x : Sql.Value}
    (hx : family.value? f key = some x) : ∃ p, family.point? x = some p := by
  cases family with
  | number =>
    obtain ⟨v, -, hv⟩ := Option.bind_eq_some_iff.mp hx
    exact exists_point_of_number hv fun y hy => h y (hy ▸ hx)
  | date | dateTime | instant =>
    obtain ⟨t, -, ht⟩ := Option.bind_eq_some_iff.mp hx
    obtain ⟨p, -, rfl⟩ := Option.map_eq_some_iff.mp ht
    exact ⟨p, rfl⟩

theorem read?_eq_none_iff (h : family.IsProper f key) :
    family.read? f key = none ↔ family.value? f key = none := by
  unfold read?
  cases hx : family.value? f key with
  | none => simp
  | some x =>
    obtain ⟨p, hp⟩ := exists_point h hx
    simp [hp]

variable {D : Type*} [LinearOrder D]

/-- The row compares a column as SQL does: the column holds `cell`, on a line that the points of the
family are on too. -/
def Compares (family : RangeFamily) (line : family.Point ↪o D) (o : Sql.Operand) (cell : Option D)
    (v : Sql.Comparison → Sql.Truth) : Prop :=
  ∀ op x p, family.point? x = some p → v (.compare op o x) = op.truth cell (line p)

/-- The truth of comparing one cell with points; of nothing else is anything known. -/
def cellTruth (family : RangeFamily) (line : family.Point ↪o D) (cell : Option D) :
    Sql.Comparison → Sql.Truth
  | .compare op _ x => ((family.point? x).map fun p => op.truth cell (line p)).getD .unknown
  | _ => .unknown

theorem compares_cellTruth (line : family.Point ↪o D) (o : Sql.Operand) (cell : Option D) :
    family.Compares line o cell (family.cellTruth line cell) := by
  intro op x p hp
  rw [cellTruth, hp]
  rfl

end RangeFamily

namespace Scope

variable {s : Scope} {family : RangeFamily} {attr : String} {base : Option String} {a : Attribute}
  {side : Side}

theorem bounded_eq (ha : s.resolve attr = .ok a)
    (h : family.IsProper s.filters (boundKey attr base side)) :
    s.bounded family side attr base =
      .ok ((family.value? s.filters (boundKey attr base side)).map fun x =>
        .leaf (.compare side.compareOp a.operand x)) := by
  rw [bounded, ha]
  show (family.bound s.filters (boundKey attr base side) >>= _) = _
  rw [RangeFamily.bound_eq h]
  rfl

theorem between_eq (ha : s.resolve attr = .ok a)
    (hfrom : family.IsProper s.filters (boundKey attr base .lower))
    (hto : family.IsProper s.filters (boundKey attr base .upper)) :
    ∃ low high, s.bounded family .lower attr base = .ok low ∧
      s.bounded family .upper attr base = .ok high ∧
      s.between family attr base = .ok (Sql.Condition.all? [low, high]) := by
  refine ⟨_, _, bounded_eq ha hfrom, bounded_eq ha hto, ?_⟩
  rw [between, bounded_eq ha hfrom, bounded_eq ha hto]
  rfl

variable {D : Type*} [LinearOrder D] {line : family.Point ↪o D} {cell : Option D}
  {v : Sql.Comparison → Sql.Truth} {o : Option Sql.Condition}

theorem bounded_eq_none_iff (ha : s.resolve attr = .ok a)
    (h : family.IsProper s.filters (boundKey attr base side))
    (ho : s.bounded family side attr base = .ok o) :
    o = none ↔ family.read? s.filters (boundKey attr base side) = none := by
  obtain rfl := Except.ok.inj ((bounded_eq ha h).symm.trans ho)
  rw [RangeFamily.read?_eq_none_iff h, Option.map_eq_none_iff]

/-- A predicate of one bound compares the cell with the bound that is given. -/
theorem exists_eval_bounded (ha : s.resolve attr = .ok a)
    (h : family.IsProper s.filters (boundKey attr base side))
    (hv : family.Compares line a.operand cell v) {d : Sql.Condition}
    (ho : s.bounded family side attr base = .ok (some d)) :
    ∃ p, family.read? s.filters (boundKey attr base side) = some p ∧
      d.eval v = side.compareOp.truth cell (line p) := by
  obtain ⟨x, hx, rfl⟩ := Option.map_eq_some_iff.mp (Except.ok.inj ((bounded_eq ha h).symm.trans ho))
  obtain ⟨p, hp⟩ := RangeFamily.exists_point h hx
  exact ⟨p, by rw [RangeFamily.read?, hx, Option.bind_some, hp], hv _ _ _ hp⟩

/-- For a value in the cell, a bound holds if it is absent or the value is on its side. -/
theorem forall_eval_bounded_iff (ha : s.resolve attr = .ok a)
    (h : family.IsProper s.filters (boundKey attr base side)) {x : D}
    (hv : family.Compares line a.operand (some x) v)
    (ho : s.bounded family side attr base = .ok o) :
    (∀ d, o = some d → d.eval v = .true) ↔
      ∀ p ∈ family.read? s.filters (boundKey attr base side),
        side.compareOp.holds x (line p) = true := by
  cases o with
  | none => simp [(bounded_eq_none_iff ha h ho).mp rfl]
  | some d =>
    obtain ⟨p, hp, heval⟩ := exists_eval_bounded ha h hv ho
    simp [hp, heval, Sql.CompareOp.truth_eq_true_iff]

/-- No bound holds of null. -/
theorem eval_bounded_null (ha : s.resolve attr = .ok a)
    (h : family.IsProper s.filters (boundKey attr base side))
    (hv : family.Compares line a.operand none v) {d : Sql.Condition}
    (ho : s.bounded family side attr base = .ok (some d)) : d.eval v = .unknown := by
  obtain ⟨p, -, heval⟩ := exists_eval_bounded ha h hv ho
  exact heval

/-- Both bounds together hold of the values that are on both sides. -/
theorem eval_all?_bounded_iff (ha : s.resolve attr = .ok a)
    (hfrom : family.IsProper s.filters (boundKey attr base .lower))
    (hto : family.IsProper s.filters (boundKey attr base .upper))
    (hv : family.Compares line a.operand cell v) {low high : Option Sql.Condition}
    (hlow : s.bounded family .lower attr base = .ok low)
    (hhigh : s.bounded family .upper attr base = .ok high) {c : Sql.Condition}
    (hc : Sql.Condition.all? [low, high] = some c) :
    c.eval v = .true ↔ ∃ x, cell = some x ∧
      (∀ l ∈ family.read? s.filters (boundKey attr base .lower), line l ≤ x) ∧
      ∀ h ∈ family.read? s.filters (boundKey attr base .upper), x ≤ line h := by
  have hparts : c.eval v = .true ↔
      (∀ d, low = some d → d.eval v = .true) ∧ ∀ d, high = some d → d.eval v = .true := by
    rw [Sql.Condition.eval_all?_eq_true_iff hc]
    simp [or_imp, forall_and, eq_comm]
  rw [hparts]
  cases cell with
  | some x =>
    rw [forall_eval_bounded_iff ha hfrom hv hlow, forall_eval_bounded_iff ha hto hv hhigh]
    simp [Side.compareOp, Sql.CompareOp.holds]
  | none =>
    have hnull : ∀ d, low = some d ∨ high = some d → d.eval v ≠ .true := by
      rintro d (rfl | rfl)
      · simp [eval_bounded_null ha hfrom hv hlow]
      · simp [eval_bounded_null ha hto hv hhigh]
    -- One of the bounds is there, and it does not hold.
    obtain ⟨d, hd⟩ : ∃ d, low = some d ∨ high = some d := by
      cases low with
      | some d => exact ⟨d, .inl rfl⟩
      | none =>
        cases high with
        | some d => exact ⟨d, .inr rfl⟩
        | none => cases hc
    constructor
    · rintro ⟨hl, hh⟩
      exact absurd (hd.elim (hl d) (hh d)) (hnull d hd)
    · rintro ⟨x, hx, -⟩
      cases hx

/-- **Ranges select intervals.** Unless one of its bounds is malformed, a range of a declared
attribute is never an error. It is no predicate just if neither bound is given. Otherwise it is true
of a row just if the cell holds a value that is not below the lower bound nor above the upper one,
as far as they are given; so of no row if the upper bound is the smaller one, and of a single value
if they are the same. With one bound it says what the predicate of that bound says. The values of
the column may be of any order that the points of the family are part of, as integers are among
fractions and days among minutes. -/
theorem between_selects (s : Scope) (family : RangeFamily) (attr : String) (base : Option String)
    {a : Attribute} (ha : s.resolve attr = .ok a)
    (hfrom : family.IsProper s.filters (filterKey attr base ++ "From"))
    (hto : family.IsProper s.filters (filterKey attr base ++ "To"))
    {D : Type*} [LinearOrder D] (line : family.Point ↪o D) (cell : Option D)
    {v : Sql.Comparison → Sql.Truth} (hv : family.Compares line a.operand cell v) :
    let lo := family.read? s.filters (filterKey attr base ++ "From")
    let hi := family.read? s.filters (filterKey attr base ++ "To")
    ∃ o, s.between family attr base = .ok o ∧
      (o = none ↔ lo = none ∧ hi = none) ∧
      (∀ c, o = some c → (c.eval v = .true ↔
        ∃ x, cell = some x ∧ (∀ l ∈ lo, line l ≤ x) ∧ ∀ h ∈ hi, x ≤ line h)) ∧
      (hi = none → ∃ p, s.bounded family .lower attr base = .ok p ∧ Sql.Condition.Agree o p) ∧
      (lo = none → ∃ p, s.bounded family .upper attr base = .ok p ∧ Sql.Condition.Agree o p) ∧
      (∀ l h, lo = some l → hi = some h → h < l → ∃ c, o = some c ∧ c.eval v ≠ .true) ∧
      ∀ l, lo = some l → hi = some l → ∃ c, o = some c ∧
        (c.eval v = .true ↔ cell = some (line l)) := by
  -- The filters go by their sides from here on.
  have hlower : filterKey attr base ++ "From" = boundKey attr base .lower := rfl
  have hupper : filterKey attr base ++ "To" = boundKey attr base .upper := rfl
  rw [hlower] at hfrom ⊢
  rw [hupper] at hto ⊢
  intro lo hi
  obtain ⟨low, high, hlow, hhigh, hbetween⟩ := between_eq ha hfrom hto
  have hlo : low = none ↔ lo = none := bounded_eq_none_iff ha hfrom hlow
  have hhi : high = none ↔ hi = none := bounded_eq_none_iff ha hto hhigh
  have hnone : Sql.Condition.all? [low, high] = none ↔ lo = none ∧ hi = none := by
    simp [Sql.Condition.all?, Sql.Condition.combine?_eq_none_iff, hlo, hhi]
  have hselects : ∀ c, Sql.Condition.all? [low, high] = some c → (c.eval v = .true ↔
      ∃ x, cell = some x ∧ (∀ l ∈ lo, line l ≤ x) ∧ ∀ h ∈ hi, x ≤ line h) :=
    fun c hc => eval_all?_bounded_iff ha hfrom hto hv hlow hhigh hc
  have hpresent : ∀ l, lo = some l → ∃ c, Sql.Condition.all? [low, high] = some c := by
    intro l hl
    refine Option.ne_none_iff_exists'.mp fun hempty => ?_
    rw [(hnone.mp hempty).1] at hl
    cases hl
  refine ⟨_, hbetween, hnone, hselects, fun h => ⟨low, hlow, ?_⟩, fun h => ⟨high, hhigh, ?_⟩,
    fun l h hl hh hlt => ?_, fun l hl hh => ?_⟩
  · obtain rfl := hhi.mpr h
    exact Sql.Condition.agree_combine? (by cases low <;> rfl)
  · obtain rfl := hlo.mpr h
    exact Sql.Condition.agree_combine? (by cases high <;> rfl)
  · obtain ⟨c, hc⟩ := hpresent l hl
    refine ⟨c, hc, fun heval => ?_⟩
    obtain ⟨x, -, hle, hge⟩ := (hselects c hc).mp heval
    exact absurd (line.le_iff_le.mp ((hle l hl).trans (hge h hh))) (not_le.mpr hlt)
  · obtain ⟨c, hc⟩ := hpresent l hl
    refine ⟨c, hc, ?_⟩
    rw [hselects c hc, hl, hh]
    constructor
    · rintro ⟨x, rfl, hle, hge⟩
      exact congrArg some (le_antisymm (hge l rfl) (hle l rfl))
    · rintro rfl
      exact ⟨line l, rfl, by simp, by simp⟩

open Sample in
/-- A score of nine lies between five and nine. -/
theorem between_selects_scores :
    let customers := Customer.entityWith Customer.attributes Customer.vehicleColumns
    let s : Scope :=
      .new customers (.ofList [("scoreFrom", .text " 5 "), ("scoreTo", .int 9)]) .sqlite
    let score : Attribute := ⟨"score", ⟨"customers", "score"⟩, .int⟩
    let line : RangeFamily.number.Point ↪o ℤ := RelEmbedding.refl (· ≤ ·)
    let v := RangeFamily.number.cellTruth line (some 9)
    s.resolve "score" = .ok score ∧
    (∀ key ∈ ["scoreFrom", "scoreTo"], RangeFamily.number.IsProper s.filters key) ∧
    RangeFamily.number.Compares line score.operand (some 9) v ∧
    ∃ c, s.between .number "score" none = .ok (some c) ∧ c.eval v = .true := by
  intro customers s score line v
  have hscore : s.resolve "score" = .ok score := rfl
  have hlo : s.filters.number? "scoreFrom" = some (.bigInt 5) := by decide
  have hhi : s.filters.number? "scoreTo" = some (.int 9) := rfl
  have hloPoint : RangeFamily.number.read? s.filters "scoreFrom" = some (5 : ℤ) := by
    show (s.filters.number? "scoreFrom").bind _ = _
    rw [hlo]
    rfl
  have hhiPoint : RangeFamily.number.read? s.filters "scoreTo" = some (9 : ℤ) := rfl
  have hfrom : RangeFamily.number.IsProper s.filters "scoreFrom" := by
    intro x hx
    rw [hlo] at hx
    cases hx
  have hto : RangeFamily.number.IsProper s.filters "scoreTo" := by
    intro x hx
    rw [hhi] at hx
    cases hx
  have hv : RangeFamily.number.Compares line score.operand (some 9) v :=
    RangeFamily.compares_cellTruth line score.operand (some 9)
  obtain ⟨o, ho, hnone, hselects, -⟩ :=
    between_selects s .number "score" none hscore hfrom hto line (some 9) hv
  have hpresent : o ≠ none := by
    intro hempty
    cases hloPoint.symm.trans (hnone.mp hempty).1
  obtain ⟨c, rfl⟩ := Option.ne_none_iff_exists'.mp hpresent
  refine ⟨hscore, by simp [hfrom, hto], hv, c, ho, (hselects c rfl).mpr ⟨9, rfl, ?_, ?_⟩⟩
  · intro l hl
    obtain rfl := Option.some.inj (hl.symm.trans hloPoint)
    show (5 : ℤ) ≤ 9
    decide
  · intro h hh
    obtain rfl := Option.some.inj (hh.symm.trans hhiPoint)
    exact le_refl (9 : ℤ)

end Scope

end EntitySearch
