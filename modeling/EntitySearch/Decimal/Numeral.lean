/-!
# Decimal numerals

Whole numbers in decimal digits, both ways: `digits` writes a number without leading zeros, `value`
reads digits with any number of them.

* `value_digits`: reading what was written gives the number back.
* `isDigit_of_mem_digits`: only the ASCII digits are written.

Hexadecimal digits are written in lower case and read in either case (`Text.hexValue?_hexChar`).
-/

namespace EntitySearch.Decimal

/-- Whether a character is one of `0` … `9`; digits of other scripts are not. -/
def isDigit (c : Char) : Bool := '0'.toNat ≤ c.toNat && c.toNat ≤ '9'.toNat

/-- The number a digit stands for. -/
def digitValue (c : Char) : Nat := c.toNat - '0'.toNat

/-- The digit of a number below ten. -/
def digitChar (n : Nat) : Char := Char.ofNat ('0'.toNat + n)

/-- The decimal digits of a number, without leading zeros; `0` for zero. -/
def digits (n : Nat) : List Char :=
  if n < 10 then [digitChar n] else digits (n / 10) ++ [digitChar (n % 10)]

/-- The number with one more digit written behind it. -/
def appendDigit (n : Nat) (c : Char) : Nat := 10 * n + digitValue c

/-- The number that digits stand for. -/
def value (cs : List Char) : Nat := cs.foldl appendDigit 0

@[simp] theorem value_nil : value [] = 0 := rfl

theorem value_append_singleton (cs : List Char) (c : Char) :
    value (cs ++ [c]) = 10 * value cs + digitValue c := by
  rw [value, List.foldl_append, List.foldl_cons, List.foldl_nil, appendDigit, value]

theorem digitValue_digitChar {n : Nat} (h : n < 10) : digitValue (digitChar n) = n :=
  (by decide : ∀ m : Fin 10, digitValue (digitChar m) = m) ⟨n, h⟩

theorem isDigit_digitChar {n : Nat} (h : n < 10) : isDigit (digitChar n) = true :=
  (by decide : ∀ m : Fin 10, isDigit (digitChar m) = true) ⟨n, h⟩

@[simp] theorem value_digits (n : Nat) : value (digits n) = n := by
  fun_induction digits n with
  | case1 n h =>
    rw [← List.nil_append [_], value_append_singleton, digitValue_digitChar h, value_nil]
    omega
  | case2 n h ih =>
    rw [value_append_singleton, ih, digitValue_digitChar (Nat.mod_lt n (by decide))]
    omega

theorem isDigit_of_mem_digits {n : Nat} {c : Char} (h : c ∈ digits n) : isDigit c = true := by
  fun_induction digits n with
  | case1 n hn => rw [List.mem_singleton.1 h]; exact isDigit_digitChar hn
  | case2 n hn ih =>
    rcases List.mem_append.1 h with h | h
    · exact ih h
    · rw [List.mem_singleton.1 h]; exact isDigit_digitChar (Nat.mod_lt n (by decide))

theorem digits_ne_nil (n : Nat) : digits n ≠ [] := by
  rw [digits]; split <;> simp

/-- The digits of `n`, with zeros in front up to the given width. -/
def padded (width n : Nat) : List Char :=
  let ds := digits n
  List.replicate (width - ds.length) '0' ++ ds

/-- A natural number in decimal digits. -/
def natText (n : Nat) : String := String.ofList (digits n)

/-- The characters of an integer: its digits, after `-` if it is negative. -/
def intChars (n : Int) : List Char :=
  if n < 0 then '-' :: digits n.natAbs else digits n.natAbs

/-- An integer in decimal digits. -/
def intText (n : Int) : String := String.ofList (intChars n)

/-- A sign in front of a numeral, `true` for a minus, and what follows it. -/
def splitSign : List Char → Bool × List Char
  | '-' :: cs => (true, cs)
  | '+' :: cs => (false, cs)
  | cs => (false, cs)

/-- Reads an optional sign and one or more digits, and nothing else. -/
def readInt? (cs : List Char) : Option Int :=
  let (negative, ds) := splitSign cs
  if ds.isEmpty || !ds.all isDigit then none
  else some (if negative then -(value ds : Int) else value ds)

/-- Reads an integer that fits in 64 bits. -/
def readInt64? (cs : List Char) : Option Int64 :=
  (readInt? cs).bind fun n =>
    if -0x8000000000000000 ≤ n ∧ n < 0x8000000000000000 then some (Int64.ofInt n) else none

end EntitySearch.Decimal

namespace EntitySearch.Text

/-- The hexadecimal digit of a number below sixteen. -/
def hexChar (n : Nat) : Char :=
  if n < 10 then Decimal.digitChar n else Char.ofNat ('a'.toNat + (n - 10))

/-- The number that a hexadecimal digit stands for. -/
def hexValue? (c : Char) : Option Nat :=
  if Decimal.isDigit c then some (Decimal.digitValue c)
  else if 'a'.toNat ≤ c.toNat && c.toNat ≤ 'f'.toNat then some (c.toNat - 'a'.toNat + 10)
  else if 'A'.toNat ≤ c.toNat && c.toNat ≤ 'F'.toNat then some (c.toNat - 'A'.toNat + 10)
  else none

/-- Reading the digit that was written gives the number back. -/
theorem hexValue?_hexChar {n : Nat} (h : n < 16) : hexValue? (hexChar n) = some n :=
  (by decide : ∀ m : Fin 16, hexValue? (hexChar m) = some m.val) ⟨n, h⟩

end EntitySearch.Text
