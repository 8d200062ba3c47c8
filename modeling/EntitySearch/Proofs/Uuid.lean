import EntitySearch.Proofs.Text.Caseless
import EntitySearch.Proofs.Text.Trim
import EntitySearch.Uuid
import Mathlib.Algebra.GroupWithZero.Nat
import Mathlib.Data.List.Induction

/-!
# Spellings of UUIDs

The texts that spell a UUID, and that these are the texts that are read as it
(`Uuid.read?_eq_some_iff`).

* `Uuid.HasDigits`: the 32 digits of a UUID, each in either case; `Uuid.Grouped`: digits in groups.
* `Uuid.Spelled`: the four spellings, given the characters in front of a uniform resource name.
* `Uuid.Spells`: the spellings with `urn:uuid:` in any case.
* `Uuid.readDigits?_eq_some_iff`, `Uuid.readGroups?_eq_some_iff`: digits and groups of them.
-/

namespace EntitySearch.Uuid

/-- The digits of a UUID, each in either case. -/
def HasDigits (u : Uuid) (ds : List Char) : Prop :=
  ds.map Text.lowerAscii = hexChars 32 u.value.toNat

/-- Digits in five groups, of 8, 4, 4, 4 and 12, with a hyphen between two groups. -/
def Grouped (ds cs : List Char) : Prop :=
  ∃ a b c d e : List Char,
    a.length = 8 ∧ b.length = 4 ∧ c.length = 4 ∧ d.length = 4 ∧ e.length = 12 ∧
    ds = a ++ (b ++ (c ++ (d ++ e))) ∧ cs = a ++ '-' :: (b ++ '-' :: (c ++ '-' :: (d ++ '-' :: e)))

/-- The spellings of a UUID: its digits, these in groups with hyphens, the groups in braces, and the
groups after the characters `urn`. -/
inductive Spelled (urn : List Char) (u : Uuid) : List Char → Prop where
  | digits {ds : List Char} (h : u.HasDigits ds) : Spelled urn u ds
  | groups {ds cs : List Char} (h : u.HasDigits ds) (hcs : Grouped ds cs) : Spelled urn u cs
  | braces {ds cs : List Char} (h : u.HasDigits ds) (hcs : Grouped ds cs) :
    Spelled urn u ('{' :: (cs ++ ['}']))
  | name {ds cs : List Char} (h : u.HasDigits ds) (hcs : Grouped ds cs) : Spelled urn u (urn ++ cs)

/-- The spellings of a UUID, with `urn:uuid:` in any case. -/
def Spells (u : Uuid) (cs : List Char) : Prop :=
  ∃ urn, urn.map Text.lowerAscii = "urn:uuid:".toList ∧ Spelled urn u cs

variable {u : Uuid} {cs ds urn : List Char}

/-! ## Digits -/

theorem length_hexChars (n v : Nat) : (hexChars n v).length = n := by
  induction n generalizing v with
  | zero => rfl
  | succ n ih => rw [hexChars, List.length_append, ih, List.length_singleton]

theorem HasDigits.length_eq (h : u.HasDigits ds) : ds.length = 32 := by
  rw [← List.length_map (f := Text.lowerAscii), h, length_hexChars]

theorem exists_hexChar_of_mem {n v : Nat} {c : Char} (h : c ∈ hexChars n v) :
    ∃ d < 16, c = Text.hexChar d := by
  induction n generalizing v with
  | zero => cases h
  | succ n ih =>
    rcases List.mem_append.mp h with h | h
    · exact ih h
    · exact ⟨v % 16, Nat.mod_lt v (by decide), List.mem_singleton.mp h⟩

/-- Every digit of a UUID is a hexadecimal one. -/
theorem HasDigits.exists_hexValue? (h : u.HasDigits ds) {c : Char} (hc : c ∈ ds) :
    ∃ d, Text.hexValue? c = some d := by
  have hmem : Text.lowerAscii c ∈ hexChars 32 u.value.toNat := h ▸ List.mem_map_of_mem hc
  obtain ⟨d, hd, hchar⟩ := exists_hexChar_of_mem hmem
  exact ⟨d, Text.hexValue?_eq_some_iff.mpr ⟨hd, hchar⟩⟩

theorem readHex?_append (acc : Nat) (cs ds : List Char) :
    readHex? acc (cs ++ ds) = (readHex? acc cs).bind fun n => readHex? n ds := by
  induction cs generalizing acc with
  | nil => rfl
  | cons c cs ih =>
    rw [List.cons_append, readHex?, readHex?, Option.bind_assoc]
    exact congrArg _ (funext fun d => ih (16 * acc + d))

/-- Digits are read as the number that they are the digits of, and nothing else is read. -/
theorem readHex?_eq_some_iff {n : Nat} :
    readHex? 0 cs = some n ↔
      n < 16 ^ cs.length ∧ cs.map Text.lowerAscii = hexChars cs.length n := by
  induction cs using List.reverseRecOn generalizing n with
  | nil =>
    rw [readHex?, Option.some.injEq, List.length_nil, Nat.pow_zero, List.map_nil, hexChars]
    simp only [Nat.lt_one_iff, and_true]
    exact eq_comm
  | append_singleton cs c ih =>
    have hlast : ∀ m, readHex? m [c] = some n ↔
        ∃ d, Text.hexValue? c = some d ∧ 16 * m + d = n := by
      intro m
      simp only [readHex?, Option.bind_eq_some_iff, Option.some.injEq]
    rw [readHex?_append, Option.bind_eq_some_iff, List.map_append, List.map_singleton,
      List.length_append, List.length_singleton, hexChars, Nat.pow_succ,
      List.append_singleton_inj]
    simp only [ih, hlast, Text.hexValue?_eq_some_iff]
    constructor
    · rintro ⟨m, ⟨hm, hcs⟩, d, ⟨hd, hc⟩, rfl⟩
      have hdiv : (16 * m + d) / 16 = m := by omega
      have hmod : (16 * m + d) % 16 = d := by omega
      rw [hdiv, hmod]
      exact ⟨by omega, hcs, hc⟩
    · rintro ⟨hn, hcs, hc⟩
      exact ⟨n / 16, ⟨by omega, hcs⟩, n % 16, ⟨Nat.mod_lt n (by decide), hc⟩, by omega⟩

/-- The digits of a UUID are read as it, and nothing else is. -/
theorem readDigits?_eq_some_iff : readDigits? cs = some u ↔ u.HasDigits cs := by
  have hsize : 16 ^ 32 = 2 ^ 128 := by decide
  constructor
  · intro h
    unfold readDigits? at h
    split at h
    · next hlen =>
      obtain ⟨n, hn, rfl⟩ := Option.map_eq_some_iff.mp h
      rw [readHex?_eq_some_iff, hlen, hsize] at hn
      rw [HasDigits, BitVec.toNat_ofNat, Nat.mod_eq_of_lt hn.1]
      exact hn.2
    · cases h
  · intro h
    have hread : readHex? 0 cs = some u.value.toNat := by
      rw [readHex?_eq_some_iff, h.length_eq, hsize]
      exact ⟨u.value.isLt, h⟩
    rw [readDigits?, if_pos h.length_eq, hread, Option.map_some, BitVec.ofNat_toNat,
      BitVec.setWidth_eq]

/-! ## Groups -/

theorem Grouped.length_eq (h : Grouped ds cs) : cs.length = ds.length + 4 := by
  obtain ⟨a, b, c, d, e, -, -, -, -, -, rfl, rfl⟩ := h
  simp only [List.length_append, List.length_cons]
  omega

theorem Grouped.head?_eq (h : Grouped ds cs) : cs.head? = ds.head? := by
  obtain ⟨a, b, c, d, e, ha, -, -, -, -, rfl, rfl⟩ := h
  cases a with
  | nil => cases ha
  | cons x a => rfl

theorem Grouped.mem (h : Grouped ds cs) {x : Char} (hx : x ∈ cs) : x ∈ ds ∨ x = '-' := by
  obtain ⟨a, b, c, d, e, -, -, -, -, -, rfl, rfl⟩ := h
  simp only [List.mem_append, List.mem_cons] at hx ⊢
  tauto

/-- Digits are cut into just these groups. -/
theorem grouped_iff (hlen : ds.length = 32) : Grouped ds cs ↔ cs = hyphenate groupLengths ds := by
  constructor
  · rintro ⟨a, b, c, d, e, ha, hb, hc, hd, -, rfl, rfl⟩
    simp only [groupLengths, hyphenate, List.take_left' ha, List.drop_left' ha, List.take_left' hb,
      List.drop_left' hb, List.take_left' hc, List.drop_left' hc, List.take_left' hd,
      List.drop_left' hd]
  · rintro rfl
    refine ⟨ds.take 8, (ds.drop 8).take 4, ((ds.drop 8).drop 4).take 4,
      (((ds.drop 8).drop 4).drop 4).take 4, (((ds.drop 8).drop 4).drop 4).drop 4, by simp [hlen],
      by simp [hlen], by simp [hlen], by simp [hlen], by simp [hlen], ?_, rfl⟩
    simp only [List.take_append_drop]

/-- Groups with hyphens between them are joined, and nothing else is. -/
theorem dehyphenate?_eq_some_iff {ns : List Nat} :
    dehyphenate? ns cs = some ds ↔ ds.length = ns.sum ∧ cs = hyphenate ns ds := by
  induction ns generalizing cs ds with
  | nil =>
    rw [dehyphenate?, hyphenate, List.sum_nil, List.length_eq_zero_iff]
    constructor
    · intro h
      split at h
      · next hempty =>
        have hds := Option.some.inj h
        exact ⟨hds.symm, (List.isEmpty_iff.mp hempty).trans hds⟩
      · cases h
    · rintro ⟨rfl, rfl⟩
      rfl
  | cons n ns ih =>
    cases ns with
    | nil =>
      simp only [dehyphenate?, hyphenate, List.sum_cons, List.sum_nil, Nat.add_zero]
      constructor
      · intro h
        split at h
        · next hlen => exact Option.some.inj h ▸ ⟨hlen, rfl⟩
        · cases h
      · rintro ⟨hlen, rfl⟩
        exact if_pos hlen
    | cons m ns =>
      rw [dehyphenate?, hyphenate] <;> try simp only [reduceCtorEq, imp_self]
      constructor
      · intro h
        split at h
        · next r hdrop =>
          obtain ⟨rest, hrest, rfl⟩ := Option.map_eq_some_iff.mp h
          obtain ⟨hlen, rfl⟩ := ih.mp hrest
          have htake : (cs.take n).length = n := by
            have hpos := congrArg List.length hdrop
            rw [List.length_drop, List.length_cons] at hpos
            rw [List.length_take]
            omega
          refine ⟨by rw [List.length_append, htake, hlen, ← List.sum_cons], ?_⟩
          rw [List.take_left' htake, List.drop_left' htake, ← hdrop, List.take_append_drop]
        · cases h
      · rintro ⟨hlen, rfl⟩
        have htake : (ds.take n).length = n := by
          rw [List.sum_cons] at hlen
          rw [List.length_take]
          omega
        have hrest : dehyphenate? (m :: ns) (hyphenate (m :: ns) (ds.drop n)) =
            some (ds.drop n) := by
          refine ih.mpr ⟨?_, rfl⟩
          rw [List.length_drop, hlen, List.sum_cons, Nat.add_sub_cancel_left]
        rw [List.drop_left' htake, List.take_left' htake]
        simp only [hrest, Option.map_some, List.take_append_drop]

theorem readGroups?_eq_some_iff :
    readGroups? cs = some u ↔ ∃ ds, u.HasDigits ds ∧ Grouped ds cs := by
  have hsum : groupLengths.sum = 32 := rfl
  simp only [readGroups?, Option.bind_eq_some_iff, dehyphenate?_eq_some_iff, hsum,
    readDigits?_eq_some_iff]
  constructor
  · rintro ⟨ds, ⟨hlen, hcs⟩, hds⟩
    exact ⟨ds, hds, (grouped_iff hlen).mpr hcs⟩
  · rintro ⟨ds, hds, hcs⟩
    exact ⟨ds, ⟨hds.length_eq, (grouped_iff hds.length_eq).mp hcs⟩, hds⟩

theorem HasDigits.length_groups (h : u.HasDigits ds) (hcs : Grouped ds cs) : cs.length = 36 := by
  rw [hcs.length_eq, h.length_eq]

/-- Groups begin with a digit. -/
theorem HasDigits.head?_groups (h : u.HasDigits ds) (hcs : Grouped ds cs) :
    ∃ c d, cs.head? = some c ∧ Text.hexValue? c = some d := by
  rw [hcs.head?_eq]
  obtain ⟨c, ds, rfl⟩ := List.exists_cons_of_length_eq_add_one h.length_eq
  obtain ⟨d, hd⟩ := h.exists_hexValue? List.mem_cons_self
  exact ⟨c, d, rfl, hd⟩

/-! ## All spellings -/

theorem urnStart_eq : urnStart = ['u', 'r', 'n', ':', 'u', 'u', 'i', 'd', ':'] := by decide

theorem sameLetters_urnStart_iff :
    Text.sameLetters urn urnStart = true ↔ urn.map Text.lowerAscii = "urn:uuid:".toList := by
  have hlower : urnStart.map Text.lowerAscii = "urn:uuid:".toList := by decide
  rw [Text.sameLetters, beq_iff_eq, hlower]

/-- What stands in front of the groups of a uniform resource name has nine characters, the first of
which is a `u`. -/
theorem exists_cons_of_map_lowerAscii (h : urn.map Text.lowerAscii = "urn:uuid:".toList) :
    ∃ c r, urn = c :: r ∧ Text.lowerAscii c = 'u' ∧ urn.length = urnStart.length := by
  have hletters : urn.map Text.lowerAscii = urnStart := h
  have hlength : urn.length = urnStart.length := by rw [← hletters, List.length_map]
  rw [urnStart_eq] at hletters
  obtain ⟨c, r, rfl, hc, -⟩ := List.map_eq_cons_iff.mp hletters
  exact ⟨c, r, rfl, hc, hlength⟩

/-- Groups neither begin with a brace nor are they a uniform resource name. -/
theorem HasDigits.groups_ne (h : u.HasDigits ds) (hcs : Grouped ds cs) :
    cs.head? ≠ some '{' ∧ Text.sameLetters (cs.take urnStart.length) urnStart = false := by
  obtain ⟨c, d, hhead, hd⟩ := h.head?_groups hcs
  have hlower := Text.hexValue?_eq_some_iff.mp hd
  have hne : ∀ d : Fin 16, Text.hexChar d ≠ 'u' := by decide
  constructor
  · rw [hhead]
    intro hc
    obtain rfl := Option.some.inj hc
    have hnone : Text.hexValue? '{' = none := by decide
    cases hnone.symm.trans hd
  · refine Bool.eq_false_iff.mpr fun hurn => ?_
    obtain ⟨c', r, htake, hu, -⟩ :=
      exists_cons_of_map_lowerAscii (sameLetters_urnStart_iff.mp hurn)
    have hhead' := congrArg List.head? htake
    rw [urnStart_eq, List.head?_take, hhead] at hhead'
    obtain rfl : c = c' := Option.some.inj hhead'
    exact hne ⟨d, hlower.1⟩ (hlower.2.symm.trans hu)

theorem not_inBraces (h : cs.head? ≠ some '{') :
    ¬ (cs.head? == some '{' && cs.getLast? == some '}') = true :=
  fun hboth => h (beq_iff_eq.mp (Bool.and_eq_true_iff.mp hboth).1)

theorem Spelled.read?_eq (hurn : urn.map Text.lowerAscii = "urn:uuid:".toList)
    (h : Spelled urn u cs) : read? cs = some u := by
  cases h with
  | digits h => rw [read?, if_pos h.length_eq, readDigits?_eq_some_iff.mpr h]
  | @groups ds _ h hcs =>
    have hlen : cs.length ≠ 32 := by
      rw [h.length_groups hcs]
      decide
    obtain ⟨hbrace, hname⟩ := h.groups_ne hcs
    rw [read?, if_neg hlen, if_neg (not_inBraces hbrace), hname]
    exact readGroups?_eq_some_iff.mpr ⟨ds, h, hcs⟩
  | @braces ds cs h hcs =>
    have hlen : ('{' :: (cs ++ ['}'])).length ≠ 32 := by
      rw [List.length_cons, List.length_append, h.length_groups hcs]
      decide
    have hlast : ('{' :: (cs ++ ['}'])).getLast? = some '}' := by
      rw [← List.cons_append, List.getLast?_concat]
    rw [read?, if_neg hlen, if_pos (by rw [hlast]; rfl), List.drop_one, List.tail_cons,
      List.dropLast_concat]
    exact readGroups?_eq_some_iff.mpr ⟨ds, h, hcs⟩
  | @name ds cs h hcs =>
    obtain ⟨c, r, hcons, hu, hlength⟩ := exists_cons_of_map_lowerAscii hurn
    have hlen : (urn ++ cs).length ≠ 32 := by
      rw [List.length_append, hlength, h.length_groups hcs]
      decide
    have hbrace : (urn ++ cs).head? ≠ some '{' := by
      rw [hcons, List.cons_append, List.head?_cons]
      intro hc
      obtain rfl := Option.some.inj hc
      exact absurd hu (by decide)
    rw [read?, if_neg hlen, if_neg (not_inBraces hbrace), List.take_left' hlength,
      if_pos (sameLetters_urnStart_iff.mpr hurn), List.drop_left' hlength]
    exact readGroups?_eq_some_iff.mpr ⟨ds, h, hcs⟩

/-- A text is read as a UUID just if it spells it. -/
theorem read?_eq_some_iff : read? cs = some u ↔ u.Spells cs := by
  refine ⟨fun h => ?_, fun ⟨urn, hurn, h⟩ => h.read?_eq hurn⟩
  have hstart : urnStart.map Text.lowerAscii = "urn:uuid:".toList := by decide
  unfold read? at h
  split at h
  · exact ⟨urnStart, hstart, .digits (readDigits?_eq_some_iff.mp h)⟩
  · split at h
    · next hbraces =>
      simp only [Bool.and_eq_true, beq_iff_eq] at hbraces
      obtain ⟨ds, hds, hgroups⟩ := readGroups?_eq_some_iff.mp h
      obtain ⟨ys, rfl⟩ := List.getLast?_eq_some_iff.mp hbraces.2
      cases ys with
      | nil => exact absurd hbraces.1 (by decide)
      | cons c ys =>
        obtain rfl : c = '{' := Option.some.inj hbraces.1
        rw [List.cons_append, List.drop_one, List.tail_cons, List.dropLast_concat]
          at hgroups
        exact ⟨urnStart, hstart, .braces hds hgroups⟩
    · split at h
      · next hurn =>
        obtain ⟨ds, hds, hgroups⟩ := readGroups?_eq_some_iff.mp h
        have hname : Spelled (cs.take urnStart.length) u
            (cs.take urnStart.length ++ cs.drop urnStart.length) := .name hds hgroups
        rw [List.take_append_drop] at hname
        exact ⟨_, sameLetters_urnStart_iff.mp hurn, hname⟩
      · obtain ⟨ds, hds, hgroups⟩ := readGroups?_eq_some_iff.mp h
        exact ⟨urnStart, hstart, .groups hds hgroups⟩

/-! ## Blanks -/

theorem HasDigits.not_blank (h : u.HasDigits ds) : ∀ c ∈ ds, Text.isBlankChar c = false := by
  intro c hc
  have hmem : Text.lowerAscii c ∈ hexChars 32 u.value.toNat := h ▸ List.mem_map_of_mem hc
  obtain ⟨d, hd, hchar⟩ := exists_hexChar_of_mem hmem
  have hblank : ∀ d : Fin 16, Text.isBlankChar (Text.hexChar d) = false := by decide
  rw [← Text.isBlankChar_lowerAscii, hchar]
  exact hblank ⟨d, hd⟩

/-- No spelling of a UUID has blank characters in it. -/
theorem Spells.not_blank (h : u.Spells cs) : ∀ c ∈ cs, Text.isBlankChar c = false := by
  obtain ⟨urn, hurn, h⟩ := h
  have hgroups : ∀ {ds cs}, u.HasDigits ds → Grouped ds cs → ∀ c ∈ cs,
      Text.isBlankChar c = false := by
    intro ds cs hds hcs c hc
    rcases hcs.mem hc with hc | rfl
    · exact hds.not_blank c hc
    · decide
  intro c hc
  cases h with
  | digits h => exact h.not_blank c hc
  | groups h hcs => exact hgroups h hcs c hc
  | braces h hcs =>
    rcases List.mem_cons.mp hc with rfl | hc
    · decide
    · rcases List.mem_append.mp hc with hc | hc
      · exact hgroups h hcs c hc
      · obtain rfl := List.mem_singleton.mp hc
        decide
  | name h hcs =>
    rcases List.mem_append.mp hc with hc | hc
    · have hall : ("urn:uuid:".toList).all (fun d => !Text.isBlankChar d) = true := by decide
      rw [← hurn] at hall
      have hlower := List.all_eq_true.mp hall _ (List.mem_map_of_mem hc)
      rwa [Bool.not_eq_true', Text.isBlankChar_lowerAscii] at hlower
    · exact hgroups h hcs c hc

theorem Spells.isTrimmed (h : u.Spells cs) : Text.IsTrimmed cs :=
  Text.isTrimmed_of_forall h.not_blank

end EntitySearch.Uuid
