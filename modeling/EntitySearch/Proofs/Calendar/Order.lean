import EntitySearch.Calendar.Instant
import Mathlib.Data.Prod.Lex

/-!
# The order of dates and times

Dates, times of day, date-times and instants, earlier ones first: their parts in order, the larger
ones counting first. A leap second comes after the second before it.

* `Date.lt_iff`, `Time.lt_iff`, `DateTime.lt_iff`: the order by the parts.
-/

namespace EntitySearch.Calendar

namespace Date

/-- The parts of a date, the larger ones first. -/
def key (d : Date) : ℤ ×ₗ ℕ ×ₗ ℕ := toLex (d.year, toLex (d.month, d.day))

theorem key_injective : Function.Injective key := by
  rintro ⟨y, m, k, hd⟩ ⟨y', m', k', he⟩ h
  obtain ⟨rfl, h⟩ := Prod.mk.inj h
  obtain ⟨rfl, rfl⟩ := Prod.mk.inj h
  rfl

theorem eq_iff {d e : Date} : d = e ↔ d.year = e.year ∧ d.month = e.month ∧ d.day = e.day := by
  refine ⟨fun h => h ▸ ⟨rfl, rfl, rfl⟩, fun ⟨hy, hm, hd⟩ => key_injective ?_⟩
  rw [key, key, hy, hm, hd]

instance : LinearOrder Date := LinearOrder.lift' key key_injective

theorem lt_iff {d e : Date} : d < e ↔
    d.year < e.year ∨
      d.year = e.year ∧ (d.month < e.month ∨ d.month = e.month ∧ d.day < e.day) := by
  rw [show d < e ↔ d.key < e.key from Iff.rfl, key, key, Prod.Lex.toLex_lt_toLex,
    Prod.Lex.toLex_lt_toLex]

end Date

namespace Time

/-- The parts of a time, the larger ones first. -/
def key (t : Time) : ℕ ×ₗ ℕ ×ₗ ℕ ×ₗ ℕ :=
  toLex (t.hour, toLex (t.minute, toLex (t.second, t.nanosecond)))

theorem key_injective : Function.Injective key := by
  rintro ⟨h, m, s, n, ht⟩ ⟨h', m', s', n', hu⟩ heq
  obtain ⟨rfl, heq⟩ := Prod.mk.inj heq
  obtain ⟨rfl, heq⟩ := Prod.mk.inj heq
  obtain ⟨rfl, rfl⟩ := Prod.mk.inj heq
  rfl

instance : LinearOrder Time := LinearOrder.lift' key key_injective

theorem lt_iff {t u : Time} : t < u ↔
    t.hour < u.hour ∨ t.hour = u.hour ∧ (t.minute < u.minute ∨ t.minute = u.minute ∧
      (t.second < u.second ∨ t.second = u.second ∧ t.nanosecond < u.nanosecond)) := by
  rw [show t < u ↔ t.key < u.key from Iff.rfl, key, key, Prod.Lex.toLex_lt_toLex,
    Prod.Lex.toLex_lt_toLex, Prod.Lex.toLex_lt_toLex]

end Time

namespace DateTime

/-- The date, then the time of day. -/
def key (t : DateTime) : Date ×ₗ Time := toLex (t.date, t.time)

theorem key_injective : Function.Injective key := by
  rintro ⟨d, t⟩ ⟨d', t'⟩ h
  obtain ⟨rfl, rfl⟩ := Prod.mk.inj h
  rfl

instance : LinearOrder DateTime := LinearOrder.lift' key key_injective

theorem lt_iff {t u : DateTime} : t < u ↔ t.date < u.date ∨ t.date = u.date ∧ t.time < u.time :=
  Prod.Lex.toLex_lt_toLex

end DateTime

namespace Instant

theorem utc_injective : Function.Injective utc := by
  rintro ⟨t⟩ ⟨u⟩ rfl
  rfl

instance : LinearOrder Instant := LinearOrder.lift' utc utc_injective

end Instant

end EntitySearch.Calendar
