import EntitySearch.Text.Blank

/-!
# Text between blanks

What trimming makes of blank characters around a text that neither begins nor ends with one
(`trimChars_append`).

* `AmidBlanks`: a text that is some characters with blank ones around them. If these are trimmed
  (`IsTrimmed`), trimming gives them back (`AmidBlanks.trimChars_eq`); and every text is what
  trimming makes of it, amid blanks (`amidBlanks_trimChars`).
-/

namespace EntitySearch.Text

variable {before after cs : List Char}

theorem trimStartChars_append (hbefore : ∀ c ∈ before, isBlankChar c = true) (cs : List Char) :
    trimStartChars (before ++ cs) = trimStartChars cs :=
  List.dropWhile_append_of_pos hbefore

theorem trimStartChars_eq_self (hhead : ∀ c ∈ cs.head?, isBlankChar c = false) :
    trimStartChars cs = cs := by
  cases cs with
  | nil => rfl
  | cons c cs => simp [trimStartChars, hhead c rfl]

/-- Trimming takes away the blank characters around a text, and nothing of the text. -/
theorem trimChars_append (hbefore : ∀ c ∈ before, isBlankChar c = true)
    (hafter : ∀ c ∈ after, isBlankChar c = true) (hhead : ∀ c ∈ cs.head?, isBlankChar c = false)
    (hlast : ∀ c ∈ cs.getLast?, isBlankChar c = false) :
    trimChars (before ++ (cs ++ after)) = cs := by
  have hfront : trimStartChars (cs ++ after) = cs ++ after ∨ cs = [] := by
    cases cs with
    | nil => exact .inr rfl
    | cons c cs => exact .inl (trimStartChars_eq_self hhead)
  rcases hfront with hfront | rfl
  · have hafter' : ∀ c ∈ after.reverse, isBlankChar c = true := by simpa using hafter
    have hlast' : ∀ c ∈ cs.reverse.head?, isBlankChar c = false := by simpa using hlast
    rw [trimChars, trimStartChars_append hbefore, hfront, List.reverse_append,
      trimStartChars_append hafter', trimStartChars_eq_self hlast', List.reverse_reverse]
  · rw [trimChars_eq_nil_iff, List.nil_append]
    intro c hc
    exact (List.mem_append.mp hc).elim (hbefore c) (hafter c)

/-- A text that is the given characters with any blank ones around them. -/
def AmidBlanks (t : String) (cs : List Char) : Prop :=
  ∃ before after, (∀ c ∈ before, isBlankChar c = true) ∧ (∀ c ∈ after, isBlankChar c = true) ∧
    t.toList = before ++ (cs ++ after)

/-- Characters that neither begin nor end with a blank one. -/
structure IsTrimmed (cs : List Char) : Prop where
  head : ∀ c ∈ cs.head?, isBlankChar c = false
  last : ∀ c ∈ cs.getLast?, isBlankChar c = false

theorem isTrimmed_of_forall (h : ∀ c ∈ cs, isBlankChar c = false) : IsTrimmed cs :=
  ⟨fun c hc => h c (List.mem_of_mem_head? hc), fun c hc => h c (List.mem_of_getLast? hc)⟩

/-- Whatever stands between trimmed characters, they stay trimmed. -/
theorem IsTrimmed.append {ds : List Char} (hcs : IsTrimmed cs) (hds : IsTrimmed ds) (hne : cs ≠ [])
    (hne' : ds ≠ []) (between : List Char) : IsTrimmed (cs ++ (between ++ ds)) := by
  obtain ⟨c, r, rfl⟩ := List.exists_cons_of_ne_nil hne
  obtain ⟨d, hd⟩ := Option.isSome_iff_exists.mp (List.getLast?_isSome.mpr hne')
  refine ⟨hcs.head, ?_⟩
  rw [← List.append_assoc, List.getLast?_append, hd, Option.some_or, ← hd]
  exact hds.last

theorem AmidBlanks.trimChars_eq {t : String} (h : AmidBlanks t cs) (hcs : IsTrimmed cs) :
    trimChars t.toList = cs := by
  obtain ⟨before, after, hbefore, hafter, ht⟩ := h
  rw [ht, trimChars_append hbefore hafter hcs.head hcs.last]

theorem AmidBlanks.isBlank_eq {t : String} (h : AmidBlanks t cs) (hcs : IsTrimmed cs)
    (hne : cs ≠ []) : isBlank t = false := by
  rw [Bool.eq_false_iff, ne_eq, isBlank_iff, ← trimChars_eq_nil_iff, h.trimChars_eq hcs]
  exact hne

/-- A text stands amid no blanks. -/
theorem amidBlanks_toList (t : String) : AmidBlanks t t.toList :=
  ⟨[], [], by simp, by simp, by simp⟩

theorem amidBlanks_trimChars (t : String) : AmidBlanks t (trimChars t.toList) := by
  have hblank : ∀ cs : List Char, ∀ c ∈ cs.takeWhile isBlankChar, isBlankChar c = true :=
    fun cs c hc => List.all_eq_true.mp List.all_takeWhile c hc
  let rest := trimStartChars t.toList
  refine ⟨t.toList.takeWhile isBlankChar, (rest.reverse.takeWhile isBlankChar).reverse,
    hblank _, fun c hc => hblank _ c (List.mem_reverse.mp hc), ?_⟩
  have hrest : trimChars t.toList ++ (rest.reverse.takeWhile isBlankChar).reverse = rest := by
    rw [trimChars, ← List.reverse_append, trimStartChars, List.takeWhile_append_dropWhile,
      List.reverse_reverse]
  rw [hrest]
  exact List.takeWhile_append_dropWhile.symm

end EntitySearch.Text
