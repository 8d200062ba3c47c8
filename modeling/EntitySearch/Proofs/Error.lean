import EntitySearch.Error

/-!
# Steps that may fail

When a chain of steps that may fail succeeds, and with which error it fails: the steps before the
last have a value, or the first without one gives the error. A sequence of steps succeeds if each of
them does.

* `bind_eq_ok_iff`, `bind_eq_error_iff`, `bind_eq_error_iff_of_ne`: one step after another.
* `map_eq_ok_iff`, `map_eq_error_iff`: a step whose value is only looked at.
* `mapM_eq_ok_iff`, `mapM_eq_error_iff`, `exists_of_mapM_eq_ok`, `mapM_eq_some_iff`: the same step
  for each element of a list.
* `ExceptRel`: computations that fail alike or come to related results.
-/

namespace EntitySearch

variable {α β : Type} {e : SearchError}

theorem bind_eq_ok_iff {x : Except SearchError α} {f : α → Except SearchError β} {b : β} :
    x >>= f = .ok b ↔ ∃ a, x = .ok a ∧ f a = .ok b := by
  cases x <;> simp [bind, Except.bind]

theorem map_eq_ok_iff {x : Except SearchError α} {f : α → β} {b : β} :
    x.map f = .ok b ↔ ∃ a, x = .ok a ∧ f a = b := by
  cases x <;> simp [Except.map]

theorem bind_eq_error_iff {x : Except SearchError α} {f : α → Except SearchError β} :
    x >>= f = .error e ↔ x = .error e ∨ ∃ a, x = .ok a ∧ f a = .error e := by
  cases x <;> simp [bind, Except.bind]

/-- An error that a step never gives comes from the step before it. -/
theorem bind_eq_error_iff_of_ne {x : Except SearchError α} {f : α → Except SearchError β}
    (hf : ∀ a, f a ≠ .error e) : x >>= f = .error e ↔ x = .error e := by
  rw [bind_eq_error_iff]
  exact or_iff_left fun ⟨a, _, ha⟩ => hf a ha

theorem map_eq_error_iff {x : Except SearchError α} {f : α → β} :
    x.map f = .error e ↔ x = .error e := by
  cases x <;> simp [Except.map]

/-- All steps succeed just if each of them does. -/
theorem mapM_eq_ok_iff {f : α → Except SearchError β} {l : List α} {r : List β} :
    l.mapM f = .ok r ↔ l.map f = r.map .ok := by
  induction l generalizing r with
  | nil => cases r <;> simp [pure, Except.pure]
  | cons a l ih =>
    rw [List.mapM_cons, List.map_cons, bind_eq_ok_iff]
    constructor
    · rintro ⟨b, hb, h⟩
      obtain ⟨bs, hbs, h⟩ := bind_eq_ok_iff.mp h
      obtain rfl := Except.ok.inj h
      rw [hb, ih.mp hbs]
      rfl
    · intro h
      obtain ⟨b, bs, rfl, hb, hbs⟩ := List.map_eq_cons_iff.mp h.symm
      exact ⟨b, hb.symm, bind_eq_ok_iff.mpr ⟨bs, ih.mpr hbs.symm, rfl⟩⟩

/-- The steps fail at the first that does. -/
theorem mapM_eq_error_iff {f : α → Except SearchError β} {l : List α} :
    l.mapM f = .error e ↔ ∃ before a after, l = before ++ a :: after ∧
      (∀ b ∈ before, ∃ c, f b = .ok c) ∧ f a = .error e := by
  induction l with
  | nil => simp [pure, Except.pure]
  | cons x l ih =>
    rw [List.mapM_cons, bind_eq_error_iff]
    constructor
    · rintro (hx | ⟨y, hx, h⟩)
      · exact ⟨[], x, l, rfl, by simp, hx⟩
      · obtain h | ⟨ys, -, h⟩ := bind_eq_error_iff.mp h
        · obtain ⟨before, a, after, rfl, hbefore, ha⟩ := ih.mp h
          exact ⟨x :: before, a, after, rfl, List.forall_mem_cons.mpr ⟨⟨y, hx⟩, hbefore⟩, ha⟩
        · cases h
    · rintro ⟨before, a, after, hl, hbefore, ha⟩
      cases before with
      | nil =>
        obtain ⟨rfl, rfl⟩ := List.cons.inj hl
        exact .inl ha
      | cons b before =>
        obtain ⟨rfl, rfl⟩ := List.cons.inj hl
        obtain ⟨⟨y, hx⟩, hbefore⟩ := List.forall_mem_cons.mp hbefore
        have hrest := ih.mpr ⟨before, a, after, rfl, hbefore, ha⟩
        exact .inr ⟨y, hx, bind_eq_error_iff.mpr (.inl hrest)⟩

/-- Each of several results comes from one of the steps. -/
theorem exists_of_mapM_eq_ok {f : α → Except SearchError β} {l : List α} {xs : List β}
    (h : l.mapM f = .ok xs) : ∀ x ∈ xs, ∃ y ∈ l, f y = .ok x := by
  intro x hx
  have hmem : Except.ok x ∈ l.map f := by
    rw [mapM_eq_ok_iff.mp h]
    exact List.mem_map_of_mem hx
  exact List.mem_map.mp hmem

/-- All elements are read just if each of them is. -/
theorem mapM_eq_some_iff {f : α → Option β} {l : List α} {r : List β} :
    l.mapM f = some r ↔ l.map f = r.map some := by
  induction l generalizing r with
  | nil => cases r <;> simp
  | cons a l ih =>
    simp only [List.mapM_cons, Option.bind_eq_bind, Option.bind_eq_some_iff, List.map_cons]
    constructor
    · rintro ⟨b, hb, bs, hbs, h⟩
      obtain rfl : b :: bs = r := by simpa using h
      rw [hb, ih.mp hbs]
      rfl
    · intro h
      obtain ⟨b, bs, rfl, hb, hbs⟩ := List.map_eq_cons_iff.mp h.symm
      exact ⟨b, hb.symm, bs, ih.mpr hbs.symm, rfl⟩

/-! ## Two computations -/

/-- Two computations fail alike, or come to results that are related. -/
inductive ExceptRel {ε α β : Type} (R : α → β → Prop) : Except ε α → Except ε β → Prop where
  | error (e : ε) : ExceptRel R (.error e) (.error e)
  | ok {a : α} {b : β} (h : R a b) : ExceptRel R (.ok a) (.ok b)

namespace ExceptRel

variable {ε α β γ δ : Type} {R : α → β → Prop} {S : γ → δ → Prop} {x : Except ε α} {y : Except ε β}

theorem mono {T : α → β → Prop} (h : ExceptRel R x y) (hRT : ∀ a b, R a b → T a b) :
    ExceptRel T x y := by
  cases h with
  | error e => exact .error e
  | ok h => exact .ok (hRT _ _ h)

theorem map {f : α → γ} {g : β → δ} (h : ExceptRel R x y) (hfg : ∀ a b, R a b → S (f a) (g b)) :
    ExceptRel S (x.map f) (y.map g) := by
  cases h with
  | error e => exact .error e
  | ok h => exact .ok (hfg _ _ h)

theorem bind {f : α → Except ε γ} {g : β → Except ε δ} (h : ExceptRel R x y)
    (hfg : ∀ a b, R a b → ExceptRel S (f a) (g b)) : ExceptRel S (x.bind f) (y.bind g) := by
  cases h with
  | error e => exact .error e
  | ok h => exact hfg _ _ h

theorem eq_error {e : ε} (h : ExceptRel R x (.error e)) : x = .error e := by
  cases h
  rfl

theorem exists_eq_ok {b : β} (h : ExceptRel R x (.ok b)) : ∃ a, x = .ok a ∧ R a b := by
  cases h with
  | ok h => exact ⟨_, rfl, h⟩

end ExceptRel

end EntitySearch
