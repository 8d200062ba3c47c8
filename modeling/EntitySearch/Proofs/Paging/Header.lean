import EntitySearch.Paging.Page

/-!
# The range as a header

What the `Content-Range` of a page tells, whatever the resource is called: the range can be read back
from the text, and the characters of the name as far as a header may have them
(`Page.contentRange_reads_back`).

* `Text.cutFirst?_eq_some_iff`, `Text.cutLast?_eq_some_iff`: where a text is cut.
* `ContentRange.read?_chars`: the numbers of a range are read back from what is written of them.
* `ContentRange.cutLast?_header`, `ContentRange.header_inj`: nothing that is written of a range has a
  blank in it, so the last one is where the name ends, however many there are in the name.
* `ContentRange.isSafeChar_of_mem_header`: every character of a header is safe.
-/

namespace EntitySearch

/-! ## Texts in two parts -/

namespace Text

variable {c : Char} {cs before after : List Char}

/-- What stands before the first occurrence of a character, and what behind it. -/
def cutFirst? (c : Char) : List Char → Option (List Char × List Char)
  | [] => none
  | d :: cs =>
    if d = c then some ([], cs)
    else (cutFirst? c cs).map fun (before, after) => (d :: before, after)

/-- What stands before the last occurrence of a character, and what behind it. -/
def cutLast? (c : Char) (cs : List Char) : Option (List Char × List Char) :=
  (cutFirst? c cs.reverse).map fun (after, before) => (before.reverse, after.reverse)

theorem cutFirst?_eq_some_iff :
    cutFirst? c cs = some (before, after) ↔ cs = before ++ c :: after ∧ c ∉ before := by
  induction cs generalizing before with
  | nil => simp [cutFirst?]
  | cons d cs ih =>
    rw [cutFirst?]
    by_cases hd : d = c
    · subst hd
      rw [if_pos rfl]
      cases before with
      | nil => simp
      | cons e before => simp +contextual
    · rw [if_neg hd, Option.map_eq_some_iff]
      constructor
      · rintro ⟨⟨x, y⟩, hxy, h⟩
        obtain ⟨rfl, rfl⟩ := Prod.mk.inj h
        obtain ⟨rfl, hx⟩ := ih.mp hxy
        exact ⟨rfl, by simp [Ne.symm hd, hx]⟩
      · rintro ⟨h, hc⟩
        cases before with
        | nil => exact absurd (List.cons.inj h).1 hd
        | cons e before =>
          obtain ⟨rfl, rfl⟩ := List.cons.inj h
          exact ⟨(before, after), ih.mpr ⟨rfl, fun hmem => hc (List.mem_cons_of_mem _ hmem)⟩, rfl⟩

theorem cutLast?_eq_some_iff :
    cutLast? c cs = some (before, after) ↔ cs = before ++ c :: after ∧ c ∉ after := by
  have hcut : cutFirst? c cs.reverse = some (after.reverse, before.reverse) ↔
      cs.reverse = after.reverse ++ c :: before.reverse ∧ c ∉ after.reverse := cutFirst?_eq_some_iff
  have hreverse : cs.reverse = after.reverse ++ c :: before.reverse ↔ cs = before ++ c :: after := by
    rw [← List.reverse_inj]
    simp
  rw [hreverse, List.mem_reverse] at hcut
  rw [← hcut, cutLast?, Option.map_eq_some_iff]
  constructor
  · rintro ⟨⟨x, y⟩, hxy, h⟩
    obtain ⟨rfl, rfl⟩ := Prod.mk.inj h
    rw [hxy, List.reverse_reverse, List.reverse_reverse]
  · intro h
    exact ⟨_, h, by simp⟩

end Text

/-- Reads a 64-bit number: decimal digits, and nothing else. -/
def Decimal.readWord? (cs : List Char) : Option UInt64 :=
  if !cs.isEmpty && cs.all isDigit && value cs ≤ maxWord then some (clampWord (value cs)) else none

theorem Decimal.readWord?_digits (n : UInt64) : readWord? (digits n.toNat) = some n := by
  have hdigits : (digits n.toNat).all isDigit = true :=
    List.all_eq_true.mpr fun c => isDigit_of_mem_digits
  rw [readWord?, value_digits, clampWord_toNat]
  simp [digits_ne_nil, hdigits, toNat_le_maxWord]

namespace ContentRange

variable (r r' : ContentRange) (resource resource' : String)

/-! ## Numbers -/

/-- What a header has of a range behind the name. -/
def chars : List Char :=
  Decimal.digits r.first.toNat ++ '-' :: (Decimal.digits r.last.toNat ++ '/' ::
    Decimal.digits r.total.toNat)

/-- Reads the three numbers of a range. -/
def read? (cs : List Char) : Option ContentRange := do
  let (first, rest) ← Text.cutFirst? '-' cs
  let (last, total) ← Text.cutFirst? '/' rest
  return ⟨← Decimal.readWord? first, ← Decimal.readWord? last, ← Decimal.readWord? total⟩

theorem not_mem_digits {c : Char} (hc : Decimal.isDigit c = false) (n : Nat) :
    c ∉ Decimal.digits n := by
  intro hmem
  rw [Decimal.isDigit_of_mem_digits hmem] at hc
  cases hc

theorem read?_chars : read? r.chars = some r := by
  have hfirst : Text.cutFirst? '-' r.chars = some (Decimal.digits r.first.toNat,
      Decimal.digits r.last.toNat ++ '/' :: Decimal.digits r.total.toNat) :=
    Text.cutFirst?_eq_some_iff.mpr ⟨rfl, not_mem_digits rfl _⟩
  have hlast : Text.cutFirst? '/' (Decimal.digits r.last.toNat ++ '/' ::
      Decimal.digits r.total.toNat) =
        some (Decimal.digits r.last.toNat, Decimal.digits r.total.toNat) :=
    Text.cutFirst?_eq_some_iff.mpr ⟨rfl, not_mem_digits rfl _⟩
  simp [read?, hfirst, hlast, Decimal.readWord?_digits]

theorem not_space_mem_chars : ' ' ∉ r.chars := by
  have hdigits := not_mem_digits (c := ' ') rfl
  simp [chars, hdigits]

/-! ## Names -/

/-- The characters of ASCII. -/
def isAscii (c : Char) : Bool := c.toNat < 0x80

/-- The control characters of ASCII. -/
def isAsciiControl (c : Char) : Bool := c.toNat < 0x20 || c.toNat == 0x7F

/-- A name without the characters that are not of ASCII and without control characters. -/
def plainName (resource : String) : List Char :=
  resource.toList.filter fun c => isAscii c && !isAsciiControl c

theorem isSafeChar_iff {c : Char} : isSafeChar c = true ↔ 0x20 ≤ c.toNat ∧ c.toNat ≤ 0x7E := by
  simp only [isSafeChar, Bool.and_eq_true, decide_eq_true_eq]
  omega

theorem isSafeChar_eq (c : Char) : isSafeChar c = (isAscii c && !isAsciiControl c) := by
  rw [Bool.eq_iff_iff, isSafeChar_iff]
  simp only [isAscii, isAsciiControl, Bool.and_eq_true, Bool.not_eq_true', Bool.or_eq_false_iff,
    decide_eq_true_eq, decide_eq_false_iff_not, beq_eq_false_iff_ne]
  omega

theorem toList_header : (r.header resource).toList = plainName resource ++ ' ' :: r.chars := by
  simp [header, chars, plainName, ← isSafeChar_eq]

theorem cutLast?_header :
    Text.cutLast? ' ' (r.header resource).toList = some (plainName resource, r.chars) :=
  Text.cutLast?_eq_some_iff.mpr ⟨r.toList_header resource, r.not_space_mem_chars⟩

/-- Headers of the same text say the same. -/
theorem header_inj : r.header resource = r'.header resource' ↔
    plainName resource = plainName resource' ∧ r = r' := by
  constructor
  · intro h
    have hcut := r.cutLast?_header resource
    rw [h, r'.cutLast?_header resource', Option.some.injEq, Prod.mk.injEq] at hcut
    have hread := r.read?_chars
    rw [← hcut.2, r'.read?_chars, Option.some.injEq] at hread
    exact ⟨hcut.1.symm, hread.symm⟩
  · rintro ⟨hname, rfl⟩
    rw [← String.toList_inj, toList_header, toList_header, hname]

/-- Digits, blanks and the marks between the numbers are safe, and of the name nothing else is left. -/
theorem isSafeChar_of_mem_header {c : Char} (h : c ∈ (r.header resource).toList) :
    isSafeChar c = true := by
  have hdigit : ∀ n, c ∈ Decimal.digits n → isSafeChar c = true := by
    intro n hc
    have hrange := Decimal.isDigit_of_mem_digits hc
    simp only [Decimal.isDigit, Bool.and_eq_true, decide_eq_true_eq] at hrange
    rw [isSafeChar_iff]
    exact ⟨Nat.le_trans (by decide) hrange.1, Nat.le_trans hrange.2 (by decide)⟩
  rw [toList_header, chars] at h
  simp only [List.mem_append, List.mem_cons] at h
  rcases h with hname | rfl | hfirst | rfl | hlast | rfl | htotal
  · rw [isSafeChar_eq]
    exact (List.mem_filter.mp hname).2
  · rfl
  · exact hdigit _ hfirst
  · rfl
  · exact hdigit _ hlast
  · rfl
  · exact hdigit _ htotal

end ContentRange

/-! ## Headers -/

/-- Header values can be made of texts of visible characters, and each shows the text it is made of. -/
def TakesVisible {ν : Type} (headerValue? : String → Option ν) (shown : ν → String) : Prop :=
  ∀ s : String, (∀ c ∈ s.toList, 0x20 ≤ c.toNat ∧ c.toNat ≤ 0x7E) →
    ∃ value, headerValue? s = some value ∧ shown value = s

namespace Page

variable {α β ν : Type} {headerValue? : String → Option ν} {shown : ν → String}

theorem visible_of_mem_contentRange (p : Page α) {resource : String} {c : Char}
    (h : c ∈ (p.contentRange resource).toList) : 0x20 ≤ c.toNat ∧ c.toNat ≤ 0x7E :=
  ContentRange.isSafeChar_iff.mp (p.range.isSafeChar_of_mem_header resource h)

theorem exists_contentRangeHeaders_eq (h : TakesVisible headerValue? shown) (p : Page α)
    (resource : String) : ∃ value, p.contentRangeHeaders headerValue? resource =
      [("Content-Range", value)] ∧ shown value = p.contentRange resource := by
  obtain ⟨value, hvalue, hshown⟩ :=
    h (p.contentRange resource) fun c => p.visible_of_mem_contentRange
  exact ⟨value, by rw [contentRangeHeaders, hvalue], hshown⟩

/-- Header values tell texts apart. -/
theorem contentRangeHeaders_inj (h : TakesVisible headerValue? shown) {p : Page α} {q : Page β}
    {resource name : String} :
    q.contentRangeHeaders headerValue? name = p.contentRangeHeaders headerValue? resource ↔
      q.contentRange name = p.contentRange resource := by
  constructor
  · intro heq
    obtain ⟨v, hv, hshown⟩ := exists_contentRangeHeaders_eq h p resource
    obtain ⟨w, hw, hshown'⟩ := exists_contentRangeHeaders_eq h q name
    rw [hv, hw, List.singleton_inj, Prod.mk.injEq] at heq
    rw [← hshown', ← hshown, heq.2]
  · intro heq
    rw [contentRangeHeaders, contentRangeHeaders, heq]

theorem range_eq_iff {p : Page α} {q : Page β} : q.range = p.range ↔
    q.range.first = p.range.first ∧ q.range.last = p.range.last ∧
      q.totalElements = p.totalElements := by
  constructor
  · intro h
    have htotal : q.range.total = p.range.total := by rw [h]
    exact ⟨by rw [h], by rw [h], htotal⟩
  · rintro ⟨hfirst, hlast, htotal⟩
    calc q.range = ⟨q.range.first, q.range.last, q.totalElements⟩ := rfl
      _ = p.range := by rw [hfirst, hlast, htotal]; rfl

/-- Two pages under two names say the same if what is left of the names is the same, and so are both
ends of the ranges and the totals. -/
def SaysSame (p : Page α) (resource : String) (q : Page β) (name : String) : Prop :=
  ContentRange.plainName name = ContentRange.plainName resource ∧
    q.range.first = p.range.first ∧ q.range.last = p.range.last ∧ q.totalElements = p.totalElements

theorem contentRange_eq_iff {p : Page α} {q : Page β} {resource name : String} :
    q.contentRange name = p.contentRange resource ↔ p.SaysSame resource q name :=
  (ContentRange.header_inj _ _ _ _).trans (and_congr_right fun _ => range_eq_iff)

/-- **The range as a header can neither be forged nor lost.** Whatever the resource is called, each
character of the text is visible. Cut at its last blank, the text gives the name without control
characters and without those that are not of ASCII, and behind it the range, whose numbers are read
back. So pages under different names have the same text just if they say the same. If header values
can be made of all visible texts, the header is always there and shows the text, and pages have the
same header just if they say the same. -/
theorem contentRange_reads_back (p : Page α) (resource : String) :
    let text := p.contentRange resource
    (∀ c ∈ text.toList, 0x20 ≤ c.toNat ∧ c.toNat ≤ 0x7E) ∧
    Text.cutLast? ' ' text.toList = some (ContentRange.plainName resource, p.range.chars) ∧
    ContentRange.read? p.range.chars = some p.range ∧
    (∀ (β : Type) (q : Page β) name, q.contentRange name = text ↔ p.SaysSame resource q name) ∧
    ∀ (ν : Type) (headerValue? : String → Option ν) (shown : ν → String),
      TakesVisible headerValue? shown →
      (∃ value, p.contentRangeHeaders headerValue? resource = [("Content-Range", value)] ∧
        shown value = text) ∧
      ∀ (β : Type) (q : Page β) name, q.contentRangeHeaders headerValue? name =
        p.contentRangeHeaders headerValue? resource ↔ p.SaysSame resource q name := by
  intro text
  refine ⟨fun c => p.visible_of_mem_contentRange, p.range.cutLast?_header resource,
    p.range.read?_chars, fun β q name => contentRange_eq_iff,
    fun ν headerValue? shown h => ⟨exists_contentRangeHeaders_eq h p resource, fun β q name => ?_⟩⟩
  rw [contentRangeHeaders_inj h]
  exact contentRange_eq_iff

/-- Header values as texts: of visible characters and tabs, and of nothing else. -/
def visibleText? (s : String) : Option String :=
  if s.toList.all fun c => c == '\t' || ContentRange.isSafeChar c then some s else none

theorem takesVisible_visibleText? : TakesVisible visibleText? id := by
  refine fun s h => ⟨s, if_pos (List.all_eq_true.mpr fun c hc => ?_), rfl⟩
  rw [Bool.or_eq_true, ContentRange.isSafeChar_iff]
  exact .inr (h c hc)

/-- A name that has another range and another header in it: what could begin a header is left out, and
the range is still that of the page. -/
theorem contentRange_reads_back_split :
    let p : Page Char := ⟨['y', 'z'], 12, 2, 5⟩
    let resource := "ünits 0-9/10\r\nRetry-After: 0 \x7F"
    TakesVisible visibleText? id ∧
    (∃ value, p.contentRangeHeaders visibleText? resource = [("Content-Range", value)] ∧
      Text.cutLast? ' ' value.toList = some ("nits 0-9/10Retry-After: 0 ".toList, p.range.chars)) ∧
    ContentRange.read? p.range.chars = some ⟨10, 11, 12⟩ := by
  intro p resource
  obtain ⟨-, hcut, hread, -, hheader⟩ := p.contentRange_reads_back resource
  obtain ⟨⟨value, hvalue, hshown⟩, -⟩ :=
    hheader String visibleText? id takesVisible_visibleText?
  refine ⟨takesVisible_visibleText?, ⟨value, hvalue, ?_⟩, hread⟩
  have hname : ContentRange.plainName resource = "nits 0-9/10Retry-After: 0 ".toList := by decide
  rw [← hshown, hname] at hcut
  exact hcut

end Page

end EntitySearch
