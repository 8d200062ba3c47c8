import EntitySearch.Decimal.Numeral
import EntitySearch.Text.Blank
import Mathlib.Algebra.Group.Nat.Defs
import Mathlib.Data.List.Induction

/-!
# Digits and their numbers

The two ways of writing a number, without zeros in front (`digits`) and filled up with them to a
width (`padded`), and what reading makes of them.

* `digits_value`: digits that do not begin with a zero are the ones that their number is written in.
* `value_zeros_append`: zeros in front count for nothing.
* `length_padded`, `value_padded`: the length and the number of what is filled up.
* `append_lt_append_iff`, `padded_append_lt_iff`: digits of one length are in the order of their
  numbers.
-/

namespace EntitySearch.Decimal

variable {n w : Nat} {c : Char} {cs : List Char}

/-! ## Without zeros in front -/

theorem head?_digits_ne_zero (hn : 0 < n) : (digits n).head? ≠ some '0' := by
  fun_induction digits n with
  | case1 n h =>
    have hdigit : ∀ m : Fin 10, 0 < m.val → digitChar m ≠ '0' := by decide
    simpa using hdigit ⟨n, h⟩ hn
  | case2 n h ih =>
    have hhead : (digits (n / 10)).head? ≠ none := by simp [digits_ne_nil]
    obtain ⟨c, hc⟩ := Option.ne_none_iff_exists'.mp hhead
    have hpos : 0 < n / 10 := by omega
    rw [List.head?_append, hc, Option.some_or, ← hc]
    exact ih hpos

/-- No digits begin with a zero but those of zero. -/
theorem digits_eq_zero (h : (digits n).head? = some '0') : digits n = ['0'] := by
  cases n with
  | zero => rw [digits]; rfl
  | succ n => exact absurd h (head?_digits_ne_zero n.succ_pos)

theorem isDigit_iff : isDigit c = true ↔ 0x30 ≤ c.toNat ∧ c.toNat ≤ 0x39 := by
  have hzero : '0'.toNat = 0x30 := rfl
  have hnine : '9'.toNat = 0x39 := rfl
  simp only [isDigit, hzero, hnine, Bool.and_eq_true, decide_eq_true_eq]

/-- Digits are not blank. -/
theorem isBlankChar_of_isDigit {c : Char} (h : isDigit c = true) : Text.isBlankChar c = false := by
  rw [isDigit_iff] at h
  simp only [Text.isBlankChar, Bool.or_eq_false_iff, Bool.and_eq_false_iff, decide_eq_false_iff_not,
    beq_eq_false_iff_ne]
  omega

theorem digitValue_lt (h : isDigit c = true) : digitValue c < 10 := by
  have hzero : '0'.toNat = 0x30 := rfl
  rw [isDigit_iff] at h
  rw [digitValue, hzero]
  omega

theorem digitChar_digitValue (h : isDigit c = true) : digitChar (digitValue c) = c := by
  have hzero : '0'.toNat ≤ c.toNat := (isDigit_iff.mp h).1
  rw [digitChar, digitValue, Nat.add_sub_cancel' hzero, Char.ofNat_toNat]

/-- Digits that do not begin with a zero are the ones that their number is written in. -/
theorem digits_value (hdigits : ∀ c ∈ cs, isDigit c = true) (hne : cs ≠ [])
    (hhead : cs.head? ≠ some '0') : digits (value cs) = cs := by
  induction cs using List.reverseRecOn with
  | nil => exact absurd rfl hne
  | append_singleton ds c ih =>
    have hc := hdigits c (by simp)
    have hlt := digitValue_lt hc
    rw [value_append_singleton]
    cases ds with
    | nil => rw [value_nil, digits, if_pos (by omega), Nat.mul_zero, Nat.zero_add,
        digitChar_digitValue hc, List.nil_append]
    | cons d ds =>
      have hds := ih (fun e he => hdigits e (List.mem_append_left [c] he)) (by simp) hhead
      -- The digits in front are of a positive number, since zero would begin with a zero.
      have hpos : value (d :: ds) ≠ 0 := by
        intro hzero
        rw [hzero, digits, if_pos (by decide)] at hds
        exact hhead (by rw [← hds]; rfl)
      have hdiv : (10 * value (d :: ds) + digitValue c) / 10 = value (d :: ds) := by omega
      have hmod : (10 * value (d :: ds) + digitValue c) % 10 = digitValue c := by omega
      rw [digits, if_neg (by omega), hdiv, hmod, hds, digitChar_digitValue hc]

/-! ## With zeros in front -/

/-- Zeros in front count for nothing. -/
theorem value_zeros_append (hzeros : ∀ c ∈ cs, c = '0') (ds : List Char) :
    value (cs ++ ds) = value ds := by
  have hvalue : value cs = 0 := by
    unfold value
    induction cs with
    | nil => rfl
    | cons c cs ih =>
      obtain rfl := hzeros c List.mem_cons_self
      exact ih fun d hd => hzeros d (List.mem_cons_of_mem _ hd)
  rw [value, List.foldl_append, ← value, hvalue]
  rfl

theorem length_digits_le (hw : 0 < w) (h : n < 10 ^ w) : (digits n).length ≤ w := by
  fun_induction digits n generalizing w with
  | case1 n hn => exact hw
  | case2 n hn ih =>
    cases w with
    | zero => cases hw
    | succ w =>
      have hdiv : n / 10 < 10 ^ w := by
        rw [Nat.pow_succ] at h
        omega
      have hpos : 0 < w := by
        refine Nat.pos_of_ne_zero fun hzero => ?_
        rw [hzero, Nat.pow_zero] at hdiv
        omega
      rw [List.length_append, List.length_singleton]
      exact Nat.succ_le_succ (ih hpos hdiv)

theorem length_padded (hw : 0 < w) (h : n < 10 ^ w) : (padded w n).length = w := by
  rw [padded, List.length_append, List.length_replicate]
  exact Nat.sub_add_cancel (length_digits_le hw h)

theorem padded_ne_nil (w n : Nat) : padded w n ≠ [] := by
  simp [padded, digits_ne_nil]

@[simp] theorem value_padded (w n : Nat) : value (padded w n) = n := by
  rw [padded, value_zeros_append (fun c => List.eq_of_mem_replicate), value_digits]

theorem padded_inj {m : Nat} : padded w m = padded w n ↔ m = n := by
  refine ⟨fun h => ?_, fun h => h ▸ rfl⟩
  rw [← value_padded w m, h, value_padded]

theorem isDigit_of_mem_padded (h : c ∈ padded w n) : isDigit c = true := by
  rcases List.mem_append.mp h with h | h
  · obtain rfl := List.eq_of_mem_replicate h
    decide
  · exact isDigit_of_mem_digits h

/-! ## The order of digits -/

theorem value_append (cs ds : List Char) :
    value (cs ++ ds) = value cs * 10 ^ ds.length + value ds := by
  induction ds using List.reverseRecOn with
  | nil => simp
  | append_singleton ds c ih =>
    rw [← List.append_assoc, value_append_singleton, value_append_singleton, ih,
      List.length_append, List.length_singleton, Nat.pow_succ, Nat.mul_add, ← Nat.add_assoc,
      Nat.mul_left_comm, Nat.mul_comm 10 (10 ^ _)]

theorem value_cons (c : Char) (cs : List Char) :
    value (c :: cs) = digitValue c * 10 ^ cs.length + value cs := by
  have hc : value [c] = digitValue c := by
    rw [← List.nil_append [c], value_append_singleton, value_nil, Nat.mul_zero, Nat.zero_add]
  rw [← List.singleton_append, value_append, hc]

theorem value_lt (h : ∀ c ∈ cs, isDigit c = true) : value cs < 10 ^ cs.length := by
  induction cs using List.reverseRecOn with
  | nil => decide
  | append_singleton cs c ih =>
    have hcs := ih fun d hd => h d (List.mem_append_left [c] hd)
    have hc := digitValue_lt (h c (by simp))
    rw [value_append_singleton, List.length_append, List.length_singleton, Nat.pow_succ]
    omega

/-- Of two numbers in mixed radix the larger place counts first. -/
theorem mul_add_lt_iff {a b x y p : Nat} (hx : x < p) (hy : y < p) :
    a * p + x < b * p + y ↔ a < b ∨ a = b ∧ x < y := by
  have hplace : ∀ {a b : Nat}, a < b → a * p + p ≤ b * p := fun h =>
    Nat.succ_mul _ p ▸ Nat.mul_le_mul_right p h
  rcases Nat.lt_trichotomy a b with h | rfl | h
  · have hp := hplace h
    omega
  · omega
  · have hp := hplace h
    omega

theorem mul_add_eq_iff {a b x y p : Nat} (hx : x < p) (hy : y < p) :
    a * p + x = b * p + y ↔ a = b ∧ x = y := by
  have hlt := mul_add_lt_iff (a := a) (b := b) hx hy
  have hgt := mul_add_lt_iff (a := b) (b := a) hy hx
  omega

/-- Digits are ordered as characters are: in the order of their numbers. -/
theorem digitValue_lt_iff {d : Char} (hc : isDigit c = true) (hd : isDigit d = true) :
    digitValue c < digitValue d ↔ c < d := by
  have hzero : '0'.toNat = 0x30 := rfl
  have horder : c < d ↔ c.toNat < d.toNat := Iff.rfl
  rw [isDigit_iff] at hc hd
  rw [horder, digitValue, digitValue]
  omega

/-- Texts that begin with equally many digits are in the order of the numbers of these, and else in
that of what follows. -/
theorem append_lt_append_iff {ds r r' : List Char} (hcs : ∀ c ∈ cs, isDigit c = true)
    (hds : ∀ c ∈ ds, isDigit c = true) (hlen : cs.length = ds.length) :
    cs ++ r < ds ++ r' ↔ value cs < value ds ∨ value cs = value ds ∧ r < r' := by
  induction cs generalizing ds with
  | nil =>
    obtain rfl := List.eq_nil_of_length_eq_zero hlen.symm
    simp
  | cons c cs ih =>
    obtain ⟨d, ds, rfl⟩ := List.exists_cons_of_length_eq_add_one hlen.symm
    obtain ⟨hc, hcs⟩ := List.forall_mem_cons.mp hcs
    obtain ⟨hd, hds⟩ := List.forall_mem_cons.mp hds
    have hlen := Nat.succ.inj hlen
    have hvalue := value_lt hcs
    have hvalue' := value_lt hds
    have heq : c = d ↔ digitValue c = digitValue d :=
      ⟨congrArg _, fun h => by rw [← digitChar_digitValue hc, h, digitChar_digitValue hd]⟩
    rw [hlen] at hvalue
    rw [List.cons_append, List.cons_append, List.cons_lt_cons_iff, ih hcs hds hlen, value_cons,
      value_cons, hlen, mul_add_lt_iff hvalue hvalue', mul_add_eq_iff hvalue hvalue',
      ← digitValue_lt_iff hc hd, heq]
    grind

/-- Numerals filled up to one width are in the order of their numbers, and else in that of what
follows. -/
theorem padded_append_lt_iff {k : Nat} {r r' : List Char} (hw : 0 < w) (hn : n < 10 ^ w)
    (hk : k < 10 ^ w) : padded w n ++ r < padded w k ++ r' ↔ n < k ∨ n = k ∧ r < r' := by
  have hlen : (padded w n).length = (padded w k).length := by
    rw [length_padded hw hn, length_padded hw hk]
  rw [append_lt_append_iff (fun _ => isDigit_of_mem_padded) (fun _ => isDigit_of_mem_padded) hlen,
    value_padded, value_padded]

end EntitySearch.Decimal
