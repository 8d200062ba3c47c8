import EntitySearch.Text.Pattern

/-!
# What patterns match

The meaning of `x LIKE p ESCAPE '!'`, and the patterns that find a text as it is.

* `patternParts?`: the parts of a pattern. A pattern is malformed if anything but a special character
  stands behind an escape character.
* `accepts`: the matcher, which tries out every length for a `%`. `accepts_anyText` and
  `accepts_chars` say what it comes to.
* `findsExactly_literal`, `findsExactly_plain`: an escaped text, or one without special characters,
  is found where it occurs and nowhere else.
-/

namespace EntitySearch.Text

/-- A part of a pattern: `%`, `_`, or a character that stands for itself. -/
inductive PatternPart where
  | anyText
  | anyChar
  | char (c : Char)
deriving DecidableEq

/-- The parts of a pattern, unless it is malformed. -/
def patternParts? : List Char → Option (List PatternPart)
  | [] => some []
  | c :: cs =>
    if c = escapeMark then
      match cs with
      | d :: rest => if isSpecial d then (patternParts? rest).map (.char d :: ·) else none
      | [] => none
    else if c = '%' then (patternParts? cs).map (.anyText :: ·)
    else if c = '_' then (patternParts? cs).map (.anyChar :: ·)
    else (patternParts? cs).map (.char c :: ·)

/-- Whether parts match a whole text. -/
def accepts : List PatternPart → List Char → Bool
  | [], cs => cs.isEmpty
  | .anyText :: ps, [] => accepts ps []
  | .anyText :: ps, c :: cs => accepts ps (c :: cs) || accepts (.anyText :: ps) cs
  | .anyChar :: _, [] => false
  | .anyChar :: ps, _ :: cs => accepts ps cs
  | .char _ :: _, [] => false
  | .char d :: ps, c :: cs => c == d && accepts ps cs
termination_by ps cs => ps.length + cs.length

/-- `x LIKE p ESCAPE '!'`, or nothing if the pattern is malformed. -/
def like? (p x : String) : Option Bool := (patternParts? p.toList).map fun ps => accepts ps x.toList

/-- The pattern is well formed and matches the texts of which `P` holds. -/
def FindsExactly (p : String) (P : String → Prop) : Prop :=
  ∀ x, ∃ found, like? p x = some found ∧ (found = true ↔ P x)

/-- The text `t` occurs in `x`, at the given place. -/
def Anchor.Finds : Anchor → List Char → List Char → Prop
  | .anywhere, t, x => t <:+: x
  | .atStart, t, x => t <+: x
  | .atEnd, t, x => t <:+ x

/-! ## The matcher -/

theorem accepts_nil {cs : List Char} : accepts [] cs = true ↔ cs = [] := by
  simp [accepts]

/-- `%` stands for any text, also for none. -/
theorem accepts_anyText {ps : List PatternPart} {cs : List Char} :
    accepts (.anyText :: ps) cs = true ↔ ∃ a b, cs = a ++ b ∧ accepts ps b = true := by
  induction cs with
  | nil =>
    rw [accepts]
    constructor
    · intro h
      exact ⟨[], [], rfl, h⟩
    · rintro ⟨a, b, hab, h⟩
      obtain ⟨rfl, rfl⟩ := List.append_eq_nil_iff.mp hab.symm
      exact h
  | cons c cs ih =>
    rw [accepts, Bool.or_eq_true, ih]
    constructor
    · rintro (h | ⟨a, b, rfl, h⟩)
      · exact ⟨[], c :: cs, rfl, h⟩
      · exact ⟨c :: a, b, rfl, h⟩
    · rintro ⟨a, b, hab, h⟩
      cases a with
      | nil =>
        left
        rw [hab]
        exact h
      | cons d a =>
        right
        injection hab with _ hcs
        exact ⟨a, b, hcs, h⟩

/-- Characters stand for themselves. -/
theorem accepts_chars {t : List Char} {ps : List PatternPart} {cs : List Char} :
    accepts (t.map .char ++ ps) cs = true ↔ ∃ b, cs = t ++ b ∧ accepts ps b = true := by
  induction t generalizing cs with
  | nil => simp
  | cons d t ih =>
    cases cs with
    | nil => simp [accepts]
    | cons c cs =>
      rw [List.map_cons, List.cons_append, accepts, Bool.and_eq_true, beq_iff_eq, ih]
      constructor
      · rintro ⟨rfl, b, rfl, h⟩
        exact ⟨b, rfl, h⟩
      · rintro ⟨b, hb, h⟩
        injection hb with hc hcs
        exact ⟨hc, b, hcs, h⟩

/-! ## The parts of a pattern -/

/-- A character that is not special is a part by itself. -/
theorem patternParts?_cons_of_not_special {c : Char} (h : isSpecial c = false) (cs : List Char) :
    patternParts? (c :: cs) = (patternParts? cs).map (.char c :: ·) := by
  simp only [isSpecial, Bool.or_eq_false_iff, beq_eq_false_iff_ne] at h
  rw [patternParts?.eq_def]
  simp only [h.1.1, h.1.2, h.2, ↓reduceIte]

/-- An escaped special character is a part by itself. -/
theorem patternParts?_escaped {c : Char} (h : isSpecial c = true) (cs : List Char) :
    patternParts? (escapeMark :: c :: cs) = (patternParts? cs).map (.char c :: ·) := by
  rw [patternParts?.eq_def]
  simp only [↓reduceIte, h]

/-- Text without special characters stands for itself. -/
theorem patternParts?_append_of_not_special {t : List Char} (h : ∀ c ∈ t, isSpecial c = false)
    (rest : List Char) :
    patternParts? (t ++ rest) = (patternParts? rest).map (t.map .char ++ ·) := by
  induction t with
  | nil => simp
  | cons c t ih =>
    rw [List.cons_append, patternParts?_cons_of_not_special (h c List.mem_cons_self),
      ih fun d hd => h d (List.mem_cons_of_mem c hd), Option.map_map]
    rfl

/-- Escaped text stands for itself, whatever its characters. -/
theorem patternParts?_escapeChars_append (t rest : List Char) :
    patternParts? (escapeChars t ++ rest) = (patternParts? rest).map (t.map .char ++ ·) := by
  induction t with
  | nil => simp
  | cons c t ih =>
    have hc : patternParts? (escapeChars (c :: t) ++ rest) =
        (patternParts? (escapeChars t ++ rest)).map (.char c :: ·) := by
      rw [escapeChars_cons, List.append_assoc]
      cases hs : isSpecial c with
      | true => exact patternParts?_escaped hs _
      | false => exact patternParts?_cons_of_not_special hs _
    rw [hc, ih, Option.map_map]
    rfl

/-- The parts of a pattern whose body stands for the text `t`. -/
def Anchor.parts (a : Anchor) (t : List Char) : List PatternPart :=
  match a with
  | .anywhere => .anyText :: (t.map .char ++ [.anyText])
  | .atStart => t.map .char ++ [.anyText]
  | .atEnd => .anyText :: t.map .char

theorem patternParts?_wrap {body t : List Char} (a : Anchor)
    (h : ∀ rest, patternParts? (body ++ rest) = (patternParts? rest).map (t.map .char ++ ·)) :
    patternParts? (a.wrap body) = some (a.parts t) := by
  have hany : ∀ cs, patternParts? ('%' :: cs) = (patternParts? cs).map (.anyText :: ·) := by
    intro cs
    rw [patternParts?.eq_def]
    rfl
  have hbody := h []
  rw [List.append_nil] at hbody
  cases a with
  | anywhere =>
    rw [Anchor.wrap, List.cons_append, hany, h ['%']]
    rfl
  | atStart =>
    rw [Anchor.wrap, h ['%']]
    rfl
  | atEnd =>
    rw [Anchor.wrap, hany, hbody]
    simp [patternParts?, Anchor.parts]

/-! ## Finding text -/

/-- The parts of a pattern for the text `t` match where `t` occurs. -/
theorem accepts_parts (a : Anchor) (t x : List Char) :
    accepts (a.parts t) x = true ↔ a.Finds t x := by
  have hend : ∀ b, accepts [.anyText] b = true := fun b =>
    accepts_anyText.mpr ⟨b, [], (List.append_nil b).symm, accepts_nil.mpr rfl⟩
  cases a with
  | anywhere =>
    rw [Anchor.parts, accepts_anyText]
    constructor
    · rintro ⟨a, b, rfl, h⟩
      obtain ⟨c, rfl, -⟩ := accepts_chars.mp h
      exact ⟨a, c, List.append_assoc a t c⟩
    · rintro ⟨a, c, rfl⟩
      exact ⟨a, t ++ c, List.append_assoc a t c, accepts_chars.mpr ⟨c, rfl, hend c⟩⟩
  | atStart =>
    rw [Anchor.parts, accepts_chars]
    constructor
    · rintro ⟨b, rfl, -⟩
      exact ⟨b, rfl⟩
    · rintro ⟨b, rfl⟩
      exact ⟨b, rfl, hend b⟩
  | atEnd =>
    have hchars : ∀ b, accepts (t.map .char) b = true ↔ b = t := by
      intro b
      have h := @accepts_chars t [] b
      simp only [List.append_nil, accepts_nil] at h
      rw [h]
      constructor
      · rintro ⟨_, rfl, rfl⟩
        exact List.append_nil t
      · rintro rfl
        exact ⟨[], (List.append_nil b).symm, rfl⟩
    rw [Anchor.parts, accepts_anyText]
    constructor
    · rintro ⟨a, b, rfl, h⟩
      exact ⟨a, by rw [(hchars b).mp h]⟩
    · rintro ⟨a, rfl⟩
      exact ⟨a, t, rfl, (hchars t).mpr rfl⟩

theorem findsExactly_wrap {body t : List Char} (a : Anchor)
    (h : ∀ rest, patternParts? (body ++ rest) = (patternParts? rest).map (t.map .char ++ ·)) :
    FindsExactly (String.ofList (a.wrap body)) fun x => a.Finds t x.toList := by
  intro x
  refine ⟨accepts (a.parts t) x.toList, ?_, accepts_parts a t x.toList⟩
  rw [like?, String.toList_ofList, patternParts?_wrap a h]
  rfl

/-- The pattern for a text that is taken literally finds that text. -/
theorem findsExactly_literal (a : Anchor) (t : String) :
    FindsExactly (a.literal t) fun x => a.Finds t.toList x.toList :=
  findsExactly_wrap a (patternParts?_escapeChars_append t.toList)

example : like? (Anchor.anywhere.literal "5%_!") "off 50_!" = some false := by cbv

/-- The pattern for a text without special characters finds that text. -/
theorem findsExactly_plain (a : Anchor) {t : String} (h : ∀ c ∈ t.toList, isSpecial c = false) :
    FindsExactly (a.plain t) fun x => a.Finds t.toList x.toList :=
  findsExactly_wrap a (patternParts?_append_of_not_special h)

end EntitySearch.Text
