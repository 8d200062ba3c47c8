import EntitySearch.Proofs.Calendar.Written

/-!
# Date-times with fractions

Date-times as filters write them: the minute with nothing behind it, or the second with any number
of digits of fraction.

* `Fraction`: the digits behind the point of a second. They are read as the nanoseconds that they
  make, the rest being cut off (`readFraction?_append`).
* `DateTime.stampChars`: a date-time to the second, with a fraction. It is read back
  (`DateTime.readDateTime?_stampChars`), and a minute is read as the text with no seconds
  (`readDateTime?_minute`).
* `Format.second_or_minute`: no text is in both forms.
* `DateTime.stampChars_lt_iff`: texts with equally long fractions are in the order of what they
  write.
-/

namespace EntitySearch.Calendar

open Decimal (padded isDigit value)

/-! ## Fractions -/

/-- The digits of a fraction of a second; none where there is no point either. -/
structure Fraction where
  digits : List Char
  valid : ∀ c ∈ digits, isDigit c = true

namespace Fraction

/-- The digits behind the point, if there are any. -/
def chars (f : Fraction) : List Char := if f.digits.isEmpty then [] else '.' :: f.digits

/-- The fraction in whole nanoseconds. -/
def nanoseconds (f : Fraction) : Nat := 10 ^ 9 * value f.digits / 10 ^ f.digits.length

theorem nanoseconds_lt (f : Fraction) : f.nanoseconds < 1000000000 := by
  have hvalue := Decimal.value_lt f.valid
  have hpos : 0 < 10 ^ f.digits.length := Nat.pow_pos (by decide)
  rw [nanoseconds, Nat.div_lt_iff_lt_mul hpos]
  omega

variable {f g : Fraction} {rest : List Char}

theorem chars_of_digits_eq_nil (h : f.digits = []) : f.chars = [] := by
  rw [chars, h]
  rfl

theorem chars_of_digits_ne_nil (h : f.digits ≠ []) : f.chars = '.' :: f.digits :=
  if_neg (by simpa using h)

theorem nanoseconds_of_digits_eq_nil (h : f.digits = []) : f.nanoseconds = 0 := by
  rw [nanoseconds, h]
  rfl

/-- Up to nine digits are filled up with zeros. -/
theorem nanoseconds_of_length_le (h : f.digits.length ≤ 9) :
    f.nanoseconds = value f.digits * 10 ^ (9 - f.digits.length) := by
  have hpow : 10 ^ 9 = 10 ^ (9 - f.digits.length) * 10 ^ f.digits.length := by
    rw [← Nat.pow_add, Nat.sub_add_cancel h]
  have hpos : 0 < 10 ^ f.digits.length := Nat.pow_pos (by decide)
  rw [nanoseconds, hpow, Nat.mul_right_comm, Nat.mul_div_cancel _ hpos, Nat.mul_comm]

/-- The first nine digits alone count. -/
theorem nanoseconds_eq_take (f : Fraction) : f.nanoseconds =
    value (f.digits.take 9) * 10 ^ (9 - (f.digits.take 9).length) := by
  rcases Nat.le_total f.digits.length 9 with hle | hle
  · rw [List.take_of_length_le hle, nanoseconds_of_length_le hle]
  · have htake : (f.digits.take 9).length = 9 := by rw [List.length_take, Nat.min_eq_left hle]
    have hdropped : value (f.digits.drop 9) < 10 ^ (f.digits.drop 9).length :=
      Decimal.value_lt fun c hc => f.valid c (List.mem_of_mem_drop hc)
    have hlength : f.digits.length = 9 + (f.digits.drop 9).length := by
      rw [List.length_drop]
      omega
    have hpos : 0 < 10 ^ 9 := by decide
    rw [nanoseconds, hlength, Nat.pow_add, Nat.mul_div_mul_left _ _ hpos, htake, Nat.sub_self,
      Nat.pow_zero, Nat.mul_one, ← List.take_append_drop 9 f.digits, Decimal.value_append,
      List.take_append_drop]
    exact Nat.div_eq_of_lt_le (Nat.le_add_right _ _) (by rw [Nat.succ_mul]; omega)

/-- A fraction is read up to a character that is no digit, nor a point if there is no fraction. -/
theorem readFraction?_append (f : Fraction)
    (hrest : ∀ c ∈ rest.head?, isDigit c = false ∧ c ≠ '.') :
    readFraction? (f.chars ++ rest) = some (f.nanoseconds, rest) := by
  by_cases hnil : f.digits = []
  · rw [chars_of_digits_eq_nil hnil, nanoseconds_of_digits_eq_nil hnil, List.nil_append]
    unfold readFraction?
    split
    · exact absurd rfl (hrest '.' rfl).2
    · rfl
  · have hend : rest.takeWhile isDigit = [] := by
      cases rest with
      | nil => rfl
      | cons c rest => simp [(hrest c rfl).1]
    have hdigits : (f.digits ++ rest).takeWhile isDigit = f.digits := by
      rw [List.takeWhile_append_of_pos f.valid, hend, List.append_nil]
    rw [chars_of_digits_ne_nil hnil, List.cons_append, readFraction?, readNanoseconds?, hdigits,
      if_neg (by simpa using hnil), List.drop_left, nanoseconds_eq_take]
    rfl

/-- Fractions of one length are in the order of their texts. -/
theorem chars_lt_iff (hlen : f.digits.length = g.digits.length) (hle : f.digits.length ≤ 9) :
    f.chars < g.chars ↔ f.nanoseconds < g.nanoseconds := by
  by_cases hnil : f.digits = []
  · have hnil' : g.digits = [] := by
      rw [hnil] at hlen
      exact List.eq_nil_of_length_eq_zero hlen.symm
    rw [chars_of_digits_eq_nil hnil, chars_of_digits_eq_nil hnil',
      nanoseconds_of_digits_eq_nil hnil, nanoseconds_of_digits_eq_nil hnil']
    simp
  · have hnil' : g.digits ≠ [] := by
      intro h
      rw [h] at hlen
      exact hnil (List.eq_nil_of_length_eq_zero hlen)
    have hdigits : f.digits < g.digits ↔ value f.digits < value g.digits := by
      have happend : f.digits ++ [] < g.digits ++ [] ↔ _ :=
        Decimal.append_lt_append_iff f.valid g.valid hlen
      simpa using happend
    rw [chars_of_digits_ne_nil hnil, chars_of_digits_ne_nil hnil', List.cons_lt_cons_iff, hdigits,
      nanoseconds_of_length_le hle, nanoseconds_of_length_le (hlen ▸ hle), ← hlen,
      Nat.mul_lt_mul_right (Nat.pow_pos (by decide))]
    simp

end Fraction

/-! ## Texts -/

/-- A minute of a day as `HH:MM`. -/
def clockChars (hour minute : Nat) : List Char := padded 2 hour ++ ':' :: padded 2 minute

variable {y m d hour minute second : Nat} {f g : Fraction}

/-! ### Blanks -/

theorem not_blank_padded {w n : Nat} : ∀ c ∈ padded w n, Text.isBlankChar c = false :=
  fun _ hc => Decimal.isBlankChar_of_isDigit (Decimal.isDigit_of_mem_padded hc)

theorem not_blank_clockChars : ∀ c ∈ clockChars hour minute, Text.isBlankChar c = false := by
  intro c hc
  rcases List.mem_append.mp hc with hc | hc
  · exact not_blank_padded c hc
  · exact (List.forall_mem_cons (p := (Text.isBlankChar · = false))).mpr
      ⟨by decide, not_blank_padded⟩ c hc

theorem Fraction.not_blank (f : Fraction) : ∀ c ∈ f.chars, Text.isBlankChar c = false := by
  have hdigits : ∀ c ∈ f.digits, Text.isBlankChar c = false := fun c hc =>
    Decimal.isBlankChar_of_isDigit (f.valid c hc)
  unfold chars
  split
  · simp
  · exact List.forall_mem_cons.mpr ⟨by decide, hdigits⟩

/-- A text that begins with a day is trimmed if it does not end with a blank character. -/
theorem isTrimmed_dayChars_append {ends : List Char} (between : List Char)
    (hends : ∀ c ∈ ends, Text.isBlankChar c = false) (hne : ends ≠ []) :
    Text.IsTrimmed (dayChars y m d ++ (between ++ ends)) := by
  have hyear : Text.IsTrimmed (padded 4 y) := Text.isTrimmed_of_forall not_blank_padded
  have happend := hyear.append (Text.isTrimmed_of_forall hends) (Decimal.padded_ne_nil 4 y) hne
    ('-' :: (padded 2 m ++ '-' :: padded 2 d) ++ between)
  rwa [List.append_assoc, ← List.append_assoc (padded 4 y)] at happend

/-! ### Reading -/

/-- A minute is read as far as it goes. -/
theorem run?_minute (hy : y < 10000) (hm : m < 100) (hd : d < 100) (hhour : hour < 100)
    (hminute : minute < 100) (rest : List Char) :
    Format.run? .zero .minute (dayChars y m d ++ 'T' :: (clockChars hour minute ++ rest)) =
      some (⟨y, m, d, hour, minute, 0, 0⟩, rest) := by
  have hyear : ∀ r, Text.trimStartChars (padded 4 y ++ r) = padded 4 y ++ r :=
    (numeral_padded hy).trimStartChars_append
  simp only [Format.minute, Format.date, dayChars, clockChars, List.cons_append, List.nil_append,
    List.append_assoc, Format.run?, Item.read?, hyear, readYear?_padded hy, readField?_padded hm,
    readField?_padded hd, readField?_padded hhour, readField?_padded hminute, Option.bind_some,
    Option.map_some, if_true, Fields.zero]

/-- A second with a fraction is read to its end. -/
theorem run?_second (hy : y < 10000) (hm : m < 100) (hd : d < 100) (hhour : hour < 100)
    (hminute : minute < 100) (hsecond : second < 100) (f : Fraction) :
    Format.run? .zero .second (dayChars y m d ++ 'T' :: (clockChars hour minute ++
      ':' :: (padded 2 second ++ f.chars))) =
      some (⟨y, m, d, hour, minute, second, f.nanoseconds⟩, []) := by
  have hfraction : readFraction? (f.chars ++ []) = some (f.nanoseconds, []) :=
    f.readFraction?_append (by simp)
  rw [List.append_nil] at hfraction
  rw [Format.second, Format.run?_append, run?_minute hy hm hd hhour hminute, Option.bind_some]
  simp only [Format.run?, Item.read?, readField?_padded hsecond, hfraction, Option.bind_some,
    Option.map_some, if_true]

/-- No text is both in the form with seconds and in the one without. -/
theorem Format.second_or_minute (cs : List Char) :
    Format.second.read? cs = none ∨ Format.minute.read? cs = none := by
  cases hminute : Format.minute.read? cs with
  | none => exact .inr rfl
  | some g => exact .inl (read?_append_eq_none hminute rfl)

/-- A minute is the text with no seconds. -/
theorem readDateTime?_minute (hy : y < 10000) (hm : m < 100) (hd : d < 100) (hhour : hour < 100)
    (hminute : minute < 100) :
    readDateTime? (dayChars y m d ++ 'T' :: clockChars hour minute) =
      readDateTime? (dayChars y m d ++ 'T' :: (clockChars hour minute ++ [':', '0', '0'])) := by
  have hwithout : Format.minute.read? (dayChars y m d ++ 'T' :: clockChars hour minute) =
      some ⟨y, m, d, hour, minute, 0, 0⟩ := by
    rw [Format.read?_eq_some_iff]
    simpa using run?_minute hy hm hd hhour hminute []
  have hzero : padded 2 0 = ['0', '0'] := by decide +kernel
  have hwith : Format.second.read?
      (dayChars y m d ++ 'T' :: (clockChars hour minute ++ [':', '0', '0'])) =
      some ⟨y, m, d, hour, minute, 0, 0⟩ := by
    have hrun := run?_second hy hm hd hhour hminute (show 0 < 100 by decide) ⟨[], by simp⟩
    rw [hzero] at hrun
    exact Format.read?_eq_some_iff.mpr hrun
  have hnone := (Format.second_or_minute
    (dayChars y m d ++ 'T' :: clockChars hour minute)).resolve_right (by simp [hwithout])
  have hnone' := (Format.second_or_minute (dayChars y m d ++ 'T' :: (clockChars hour minute ++
    [':', '0', '0']))).resolve_left (by simp [hwith])
  rw [readDateTime?, readDateTime?, hwithout, hwith, hnone, hnone']
  simp

namespace DateTime

variable {t u : DateTime} {sep : Char}

/-- A date-time to the second, with a fraction behind it. -/
def stampChars (t : DateTime) (sep : Char) (f : Fraction) : List Char :=
  t.date.chars ++ sep :: (t.time.minuteChars ++ ':' :: (padded 2 t.time.second ++ f.chars))

/-- The date-time with another fraction of its second. -/
def withFraction (t : DateTime) (f : Fraction) : DateTime :=
  ⟨t.date, ⟨t.time.hour, t.time.minute, t.time.second, f.nanoseconds, t.time.valid.1,
    t.time.valid.2.1, t.time.valid.2.2.1, f.nanoseconds_lt⟩⟩

/-- The text of a date-time is trimmed, also in front of something that is not blank. -/
theorem isTrimmed_stampChars_append (ht : t.date.HasFourDigits) (sep : Char) (f : Fraction)
    {rest : List Char} (hrest : ∀ c ∈ rest, Text.isBlankChar c = false) :
    Text.IsTrimmed (t.stampChars sep f ++ rest) := by
  have hends : ∀ c ∈ padded 2 t.time.second ++ (f.chars ++ rest), Text.isBlankChar c = false := by
    simp only [List.forall_mem_append]
    exact ⟨not_blank_padded, f.not_blank, hrest⟩
  have hne : padded 2 t.time.second ++ (f.chars ++ rest) ≠ [] :=
    List.append_ne_nil_of_left_ne_nil (Decimal.padded_ne_nil _ _) _
  have htrimmed := isTrimmed_dayChars_append (y := t.date.year.natAbs) (m := t.date.month)
    (d := t.date.day) (sep :: (t.time.minuteChars ++ [':'])) hends hne
  simpa [stampChars, Date.chars_eq ht] using htrimmed

theorem isTrimmed_stampChars (ht : t.date.HasFourDigits) (sep : Char) (f : Fraction) :
    Text.IsTrimmed (t.stampChars sep f) := by
  have happend : Text.IsTrimmed (t.stampChars sep f ++ []) :=
    isTrimmed_stampChars_append ht sep f (by simp)
  rwa [List.append_nil] at happend

theorem stampChars_ne_nil (t : DateTime) (sep : Char) (f : Fraction) : t.stampChars sep f ≠ [] := by
  simp [stampChars]

theorem time_lt (t : DateTime) :
    t.time.hour < 10 ^ 2 ∧ t.time.minute < 10 ^ 2 ∧ t.time.second < 10 ^ 2 := by
  have hvalid := t.time.valid
  omega

/-- The parts of a date-time make it up. -/
theorem dateTime?_parts (ht : t.date.HasFourDigits) :
    Fields.dateTime? ⟨t.date.year.natAbs, t.date.month, t.date.day, t.time.hour, t.time.minute,
      t.time.second, t.time.nanosecond⟩ = some t := by
  have hyear : t.date.year = (t.date.year.natAbs : ℤ) := (Int.natAbs_of_nonneg ht.1).symm
  exact (Fields.dateTime?_eq_some_iff ht.natAbs_lt).mpr ⟨⟨hyear, rfl, rfl⟩, rfl, rfl, rfl, rfl⟩

/-- A date-time is read back from its text, with the fraction that stands there. -/
theorem readDateTime?_stampChars (ht : t.date.HasFourDigits) (f : Fraction) :
    readDateTime? (t.stampChars 'T' f) = some (t.withFraction f) := by
  obtain ⟨hhour, hminute, hsecond⟩ := t.time_lt
  have hread : Format.second.read? (t.stampChars 'T' f) = some ⟨t.date.year.natAbs, t.date.month,
      t.date.day, t.time.hour, t.time.minute, t.time.second, f.nanoseconds⟩ := by
    rw [Format.read?_eq_some_iff, stampChars, Date.chars_eq ht]
    exact run?_second ht.natAbs_lt t.date.month_lt t.date.day_lt hhour hminute hsecond f
  have hparts : Fields.dateTime? ⟨t.date.year.natAbs, t.date.month, t.date.day, t.time.hour,
      t.time.minute, t.time.second, f.nanoseconds⟩ = some (t.withFraction f) :=
    dateTime?_parts (t := t.withFraction f) ht
  rw [readDateTime?, hread, Option.bind_some, hparts, Option.some_or]

/-- Texts with equally many digits of fraction, nine at most, are in the order of what they
write. -/
theorem stampChars_lt_iff (ht : t.date.HasFourDigits) (hu : u.date.HasFourDigits)
    (hlen : f.digits.length = g.digits.length) (hle : f.digits.length ≤ 9) :
    t.stampChars sep f < u.stampChars sep g ↔ t.withFraction f < u.withFraction g := by
  have hsame : ∀ {c : Char} {r r' : List Char}, (c :: r < c :: r') ↔ r < r' := by
    intro c r r'
    simp
  have hyear : (t.date.year.natAbs < u.date.year.natAbs ↔ t.date.year < u.date.year) ∧
      (t.date.year.natAbs = u.date.year.natAbs ↔ t.date.year = u.date.year) := by
    obtain ⟨hlow, -⟩ := ht
    obtain ⟨hlow', -⟩ := hu
    omega
  -- All parts have fixed widths, so that the first that differs decides in the text as well.
  rw [stampChars, stampChars, Date.chars_eq ht, Date.chars_eq hu, dayChars, dayChars,
    Time.minuteChars, Time.minuteChars]
  simp only [List.append_assoc, List.cons_append, hsame, Fraction.chars_lt_iff hlen hle, hyear,
    Decimal.padded_append_lt_iff (by decide) ht.natAbs_lt hu.natAbs_lt,
    Decimal.padded_append_lt_iff (by decide) t.date.month_lt u.date.month_lt,
    Decimal.padded_append_lt_iff (by decide) t.date.day_lt u.date.day_lt,
    Decimal.padded_append_lt_iff (by decide) t.time_lt.1 u.time_lt.1,
    Decimal.padded_append_lt_iff (by decide) t.time_lt.2.1 u.time_lt.2.1,
    Decimal.padded_append_lt_iff (by decide) t.time_lt.2.2 u.time_lt.2.2]
  rw [lt_iff, Date.lt_iff, Time.lt_iff, Date.eq_iff]
  simp only [withFraction]
  grind

end DateTime

end EntitySearch.Calendar
