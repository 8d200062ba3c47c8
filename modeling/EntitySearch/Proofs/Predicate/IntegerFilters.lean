import EntitySearch.Proofs.Filter.Integers
import EntitySearch.Proofs.Predicate.Interval
import EntitySearch.Proofs.Predicate.Reads
import EntitySearch.Proofs.Sql.Erasure
import EntitySearch.Proofs.Sql.Spelling

/-!
# Integers as numbers and as text

An integer of 64 bits means the same in a filter whether it is a JSON number or text
(`Criterion.integers_alike`).

* `Filters.AgreeUpTo`: filters that have the same value under a name, or there show one integer each
  in its own way.
* `Sql.Condition.SameNumbers`: conditions of the same SQL that bind the same numbers. Ranges of
  numbers come to such conditions (`Scope.rel_bounded`, `Scope.rel_between`).
* `Filters.nonBlankText?_eq_of_writes`: the decimal digits are also what text filters see of a
  number.
-/

namespace EntitySearch

/-! ## Filters -/

/-- Two filters have the same value under a name, or each shows the same integer of 64 bits there in
one of the ways `W`. -/
def Filters.AgreeUpTo (W : ℤ → FilterValue → Prop) (f g : Filters) (key : String) : Prop :=
  f.get? key = g.get? key ∨ ∃ n v w, (-2 ^ 63 ≤ n ∧ n < 2 ^ 63) ∧ (W n v ∧ W n w) ∧
    f.get? key = some v ∧ g.get? key = some w

/-- Two values are the same or stand for the same integer. -/
def Sql.Value.SameNumber (x y : Sql.Value) : Prop :=
  x = y ∨ ∃ n : ℤ, RangeFamily.number.point? x = some n ∧ RangeFamily.number.point? y = some n

variable {n : ℤ} {v : FilterValue} {s : Scope} {f g : Filters} {key : String}

/-- A value that shows an integer is a number, namely that integer. -/
theorem FilterValue.Shows.exists_number? (h : v.Shows n) (hlow : -2 ^ 63 ≤ n)
    (hhigh : n < 2 ^ 63) : ∃ x, v.number? = some x ∧ RangeFamily.number.point? x = some n := by
  cases h with
  | number =>
    rw [ofInt_eq hlow hhigh]
    split
    · exact ⟨_, rfl, congrArg some (Int32.toInt_ofInt_of_le (by omega) (by omega))⟩
    · exact ⟨_, rfl, congrArg some (Int64.toInt_ofInt_of_le (by omega) (by omega))⟩
  | text ht =>
    refine ⟨_, number?_of_spellsInt ht hlow hhigh, ?_⟩
    exact congrArg some (Int64.toInt_ofInt_of_le (by omega) (by omega))

namespace Filters

theorem number?_rel (h : AgreeUpTo FilterValue.Shows f g key) :
    Option.Rel Sql.Value.SameNumber (f.number? key) (g.number? key) := by
  rcases h with h | ⟨n, v, w, ⟨hlow, hhigh⟩, ⟨hv, hw⟩, hf, hg⟩
  · rw [number?, h, number?]
    cases (g.get? key).bind FilterValue.number? with
    | none => exact .none
    | some x => exact .some (.inl rfl)
  · obtain ⟨x, hx, hxn⟩ := hv.exists_number? hlow hhigh
    obtain ⟨y, hy, hyn⟩ := hw.exists_number? hlow hhigh
    rw [number?, hf, Option.bind_some, hx, number?, hg, Option.bind_some, hy]
    exact .some (.inr ⟨n, hxn, hyn⟩)

theorem nonBlankText?_eq_of_writes (h : AgreeUpTo FilterValue.Writes f g key) :
    f.nonBlankText? key = g.nonBlankText? key := by
  have htext : f.text? key = g.text? key := by
    rcases h with h | ⟨n, v, w, ⟨hlow, hhigh⟩, ⟨hv, hw⟩, hf, hg⟩
    · rw [text?, h, text?]
    · rw [text?, hf, Option.bind_some, hv.text?_eq hlow hhigh, text?, hg, Option.bind_some,
        hw.text?_eq hlow hhigh]
  rw [nonBlankText?, htext, nonBlankText?]

end Filters

/-! ## Conditions -/

namespace Sql

/-- Conditions of the same SQL on every backend, which bind the same numbers in the same order. -/
def Condition.SameNumbers (c d : Condition) : Prop :=
  ∀ b, c.sql b = d.sql b ∧ List.Forall₂ Value.SameNumber (c.values b) (d.values b)

/-- Comparisons of one column with the same number. -/
inductive Condition.SameBound : Condition → Condition → Prop where
  | compare (op : CompareOp) (column : ColumnRef) {x y : Value} (h : x.SameNumber y) :
      SameBound (leaf (.compare op (.column column) x)) (leaf (.compare op (.column column) y))

namespace Condition

variable {c d : Condition}

theorem rel_sameBound (op : CompareOp) (column : ColumnRef) {x y : Option Value}
    (h : Option.Rel Value.SameNumber x y) :
    Option.Rel SameBound (x.map fun v => leaf (.compare op (.column column) v))
      (y.map fun v => leaf (.compare op (.column column) v)) := by
  cases h with
  | none => exact .none
  | some h => exact .some (.compare op column h)

theorem SameBound.sameNumbers (h : SameBound c d) : SameNumbers c d := by
  obtain ⟨op, column, h⟩ := h
  refine fun b => ⟨sql_eq_of_erase (by simp [Comparison.erase]), ?_⟩
  rw [values_compare, values_compare]
  exact .cons h .nil

theorem sameNumbers_junction {op : Connective} {cs ds : List Condition}
    (h : List.Forall₂ SameBound cs ds) : SameNumbers (junction op cs) (junction op ds) := by
  have herase : cs.map erase = ds.map erase := by
    induction h with
    | nil => rfl
    | cons h _ ih =>
      obtain ⟨op, column, -⟩ := h
      simp [ih, Comparison.erase]
  have hvalues : ∀ b, List.Forall₂ Value.SameNumber (cs.flatMap (values b))
      (ds.flatMap (values b)) := by
    intro b
    induction h with
    | nil => exact .nil
    | cons h _ ih => exact List.rel_append (h.sameNumbers b).2 (ih (List.cons.inj herase).2)
  refine fun b => ⟨sql_eq_of_erase (by simp [herase]), ?_⟩
  rw [values_junction, values_junction]
  exact hvalues b

/-- Bounds on the same numbers are combined to conditions of the same numbers. -/
theorem rel_combine? {op : Connective} {cs ds : List (Option Condition)}
    (h : List.Forall₂ (Option.Rel SameBound) cs ds) :
    Option.Rel SameNumbers (combine? op cs) (combine? op ds) := by
  have hmembers : ∀ {cs ds : List Condition}, List.Forall₂ SameBound cs ds →
      List.Forall₂ SameBound (cs.map asMember) (ds.map asMember) := by
    intro cs ds h
    rw [List.forall₂_map_left_iff, List.forall₂_map_right_iff]
    refine h.imp fun c d hcd => ?_
    obtain ⟨op, column, hxy⟩ := hcd
    exact .compare op column hxy
  have hpresent := forall₂_filterMap_id h
  unfold combine?
  generalize cs.filterMap id = cs at hpresent
  generalize ds.filterMap id = ds at hpresent
  cases hpresent with
  | nil => exact .none
  | cons h hs => exact .some (sameNumbers_junction (hmembers (.cons h hs)))

end Condition

end Sql

/-! ## Ranges of numbers -/

namespace Scope

variable {attr : String} {base : Option String} {side : Side}

theorem rel_bounded
    (h : Filters.AgreeUpTo FilterValue.Shows s.filters f (boundKey attr base side)) :
    ExceptRel (Option.Rel Sql.Condition.SameBound) (s.bounded .number side attr base)
      ((s.withFilters f).bounded .number side attr base) := by
  have hresolve : (s.withFilters f).resolve attr = s.resolve attr := rfl
  unfold bounded
  rw [hresolve]
  cases s.resolve attr with
  | error e => exact .error e
  | ok a => exact .ok (Sql.Condition.rel_sameBound _ a.column (Filters.number?_rel h))

theorem rel_between
    (h : ∀ side, Filters.AgreeUpTo FilterValue.Shows s.filters f (boundKey attr base side)) :
    ExceptRel (Option.Rel Sql.Condition.SameNumbers) (s.between .number attr base)
      ((s.withFilters f).between .number attr base) := by
  refine (rel_bounded (h .lower)).bind fun low low' hlow => ?_
  refine (rel_bounded (h .upper)).bind fun high high' hhigh => .ok ?_
  exact Sql.Condition.rel_combine? (.cons hlow (.cons hhigh .nil))

/-- A bound that a filter shows as an integer is that integer. -/
theorem exists_bounded_eq {a : Attribute} (ha : s.resolve attr = .ok a) (hlow : -2 ^ 63 ≤ n)
    (hhigh : n < 2 ^ 63) (hv : v.Shows n)
    (hget : s.filters.get? (boundKey attr base side) = some v) :
    ∃ x, RangeFamily.number.point? x = some n ∧
      s.bounded .number side attr base =
        .ok (some (.leaf (.compare side.compareOp a.operand x))) := by
  obtain ⟨x, hx, hxn⟩ := hv.exists_number? hlow hhigh
  have hnumber : s.filters.number? (boundKey attr base side) = some x := by
    rw [Filters.number?, hget, Option.bind_some, hx]
  refine ⟨x, hxn, ?_⟩
  rw [bounded, ha]
  show Except.ok ((s.filters.number? (boundKey attr base side)).map _) = _
  rw [hnumber]
  rfl

end Scope

/-! ## Criteria -/

namespace Criterion

/-- Ranges of numbers bind the same numbers if their filters show the same integers. -/
theorem rel_outcome {x : Criterion} (hx : x.readsNumbers = true)
    (h : ∀ k ∈ x.keys s.searchKey s.fallbackSearchKey,
      Filters.AgreeUpTo FilterValue.Shows s.filters f k) :
    ExceptRel (Option.Rel Sql.Condition.SameNumbers) (x.outcome s)
      (x.outcome (s.withFilters f)) := by
  cases x with
  | bounded family side attr base =>
    cases family with
    | number =>
      have hbound := Scope.rel_bounded (h (Scope.boundKey attr base side) (by simp [keys]))
      refine hbound.mono fun _ _ hcd => ?_
      cases hcd with
      | none => exact .none
      | some hcd => exact .some hcd.sameNumbers
    | _ => cases hx
  | between family attr base =>
    cases family with
    | number => exact Scope.rel_between fun side => h _ (by cases side <;> simp [keys])
    | _ => cases hx
  | _ => cases hx

/-- **Integers as numbers and as text.** An integer of 64 bits, written as a JSON number, is a filter
value of 32 bits if these suffice and else of 64. As text it is its decimal digits, and as a number
it is itself. Text that spells it, with its sign, zeros in front and blanks around it, is that
number too, of 64 bits. So ranges of numbers bind the integers that their filters show, and come to
the same however these show them; and all that look at the text of filters come to the same for a
number and for its decimal digits in a string. -/
theorem integers_alike :
    (∀ n : ℤ, -2 ^ 63 ≤ n → n < 2 ^ 63 →
      FilterValue.ofInt n =
        (if -2 ^ 31 ≤ n ∧ n < 2 ^ 31 then .int (Int32.ofInt n) else .long (Int64.ofInt n)) ∧
      (Json.readWhole? (Decimal.intText n)).bind FilterValue.ofJson? =
        some (FilterValue.ofInt n) ∧
      (Json.readWhole? (String.ofList (Json.quoted (Decimal.intText n)))).bind
        FilterValue.ofJson? = some (.text (Decimal.intText n)) ∧
      (FilterValue.ofInt n).text? = some (Decimal.intText n) ∧
      (∃ x, (FilterValue.ofInt n).number? = some x ∧ RangeFamily.number.point? x = some n) ∧
      (Int64.ofInt n).toInt = n ∧
      ∀ t, Text.SpellsInt n t → (FilterValue.text t).number? = some (.bigInt (Int64.ofInt n))) ∧
    (∀ (s : Scope) (attr : String) (base : Option String) (side : Side) (a : Attribute) (n : ℤ)
      (v : FilterValue), s.resolve attr = .ok a → -2 ^ 63 ≤ n → n < 2 ^ 63 → v.Shows n →
      s.filters.get? (Scope.boundKey attr base side) = some v →
      ∃ x, RangeFamily.number.point? x = some n ∧
        s.bounded .number side attr base =
          .ok (some (.leaf (.compare side.compareOp a.operand x)))) ∧
    ∀ (s : Scope) (f : Filters) (x : Criterion),
      (x.readsNumbers = true →
        (∀ k ∈ x.keys s.searchKey s.fallbackSearchKey,
          Filters.AgreeUpTo FilterValue.Shows s.filters f k) →
        ExceptRel (Option.Rel Sql.Condition.SameNumbers) (x.outcome s)
          (x.outcome (s.withFilters f))) ∧
      (x.skipsBlank = true → x.readsNumbers = false →
        (∀ k ∈ x.keys s.searchKey s.fallbackSearchKey,
          Filters.AgreeUpTo FilterValue.Writes s.filters f k) →
        x.outcome s = x.outcome (s.withFilters f)) := by
  refine ⟨fun n hlow hhigh => ?_, fun s attr base side a n v ha hlow hhigh hv hget => ?_,
    fun s f x => ⟨fun hx h => rel_outcome hx h, fun hx hnumbers h => ?_⟩⟩
  · exact ⟨FilterValue.ofInt_eq hlow hhigh, FilterValue.readWhole?_intText hlow hhigh,
      FilterValue.readWhole?_quoted _, FilterValue.text?_ofInt hlow hhigh,
      FilterValue.Shows.number.exists_number? hlow hhigh,
      Int64.toInt_ofInt_of_le (by omega) (by omega),
      fun t ht => FilterValue.number?_of_spellsInt ht hlow hhigh⟩
  · exact Scope.exists_bounded_eq ha hlow hhigh hv hget
  · refine outcome_eq_of_views hx (fun k hk => Filters.nonBlankText?_eq_of_writes (h k hk)) ?_
    intro htrue
    rw [hnumbers] at htrue
    cases htrue

open Sample in
/-- The largest integer of 64 bits, once as a number and once as text, as the lower bound of a score
and as what is searched for. -/
theorem integers_alike_largest :
    let n : ℤ := 9223372036854775807
    let t := "\u00a0+0009223372036854775807\t"
    let customers := Customer.entityWith Customer.attributes Customer.vehicleColumns
    let score : Attribute := ⟨"score", ⟨"customers", "score"⟩, .int⟩
    let s : Scope := .new customers (.ofList [("scoreFrom", .ofInt n), ("search", .ofInt n)]) .mysql
    let g : Filters := .ofList [("scoreFrom", .text t), ("search", .text "9223372036854775807")]
    let range := between .number "score" none
    let search := freeText .numeric ["name"]
    Text.SpellsInt n t ∧ (FilterValue.text t).number? = some (.bigInt 9223372036854775807) ∧
    (∃ x, RangeFamily.number.point? x = some n ∧
      s.bounded .number .lower "score" none =
        .ok (some (.leaf (.compare .atLeast score.operand x)))) ∧
    ExceptRel (Option.Rel Sql.Condition.SameNumbers) (range.outcome s)
      (range.outcome (s.withFilters g)) ∧
    search.outcome s = search.outcome (s.withFilters g) := by
  intro n t customers score s g range search
  obtain ⟨hinteger, hbound, hcriteria⟩ := integers_alike
  have ht : Text.SpellsInt n t := by
    refine ⟨['\u00a0'], _, ['\t'], List.forall_mem_singleton.mpr (by decide),
      List.forall_mem_singleton.mpr (by decide),
      @Decimal.SpelledInt.plus ['0', '0', '0'] (by simp) 9223372036854775807, ?_⟩
    decide +kernel
  have htext : Decimal.intText n = "9223372036854775807" := by decide +kernel
  have hfrom : Filters.AgreeUpTo FilterValue.Shows s.filters g "scoreFrom" :=
    .inr ⟨n, _, _, by decide, ⟨.number, .text ht⟩, rfl, rfl⟩
  have hsearch : Filters.AgreeUpTo FilterValue.Writes s.filters g "search" :=
    .inr ⟨n, _, _, by decide, ⟨.number, htext ▸ .text⟩, rfl, rfl⟩
  refine ⟨ht, (hinteger n (by decide) (by decide)).2.2.2.2.2.2 t ht, ?_, ?_, ?_⟩
  · exact hbound s "score" none .lower score n _ rfl (by decide) (by decide) .number rfl
  · refine (hcriteria s g range).1 rfl fun k hk => ?_
    rcases List.mem_pair.mp hk with rfl | rfl
    · exact hfrom
    · exact .inl rfl
  · refine (hcriteria s g search).2 rfl rfl fun k hk => ?_
    rcases List.mem_pair.mp hk with rfl | rfl
    · exact hsearch
    · exact .inl rfl

end Criterion

end EntitySearch
