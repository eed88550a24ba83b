import Mathlib.Algebra.Group.Nat.Defs
import Mathlib.Data.List.Basic
import Mathlib.Tactic.Common

/-! Hexadecimal numbers as C's `printf` writes them and `strtoul` reads them.

    `strtoul` takes what looks like a number at the beginning of a text, if anything does:

        blanks, then a sign, then 0x, then digits │ whatever follows

    A number that is too large for an `unsigned long` counts as the largest one, and one behind a
    minus sign is negated modulo the size of the type. -/

namespace Schemes

/-! ### Reading -/

/-- The value of a hexadecimal digit. -/
def hexValue (c : Char) : Option ℕ :=
  if '0' ≤ c ∧ c ≤ '9' then some (c.toNat - 48)
  else if 'a' ≤ c ∧ c ≤ 'f' then some (c.toNat - 87)
  else if 'A' ≤ c ∧ c ≤ 'F' then some (c.toNat - 55)
  else none

/-- `isspace`. -/
def isSpace (c : Char) : Bool := c = ' ' || (9 ≤ c.toNat && c.toNat ≤ 13)

/-- The digits that a text begins with. -/
def leadingDigits : List Char → List ℕ
  | [] => []
  | c :: cs =>
    match hexValue c with
    | some d => d :: leadingDigits cs
    | none => []

/-- The number that the digits are. -/
def ofDigits (digits : List ℕ) : ℕ := digits.foldl (fun v d => 16 * v + d) 0

/-- Whether there is a minus sign in front of the digits, and the digits. -/
def subject (s : List Char) : Bool × List ℕ :=
  let s := s.dropWhile isSpace
  let unsigned := if s.head? = some '-' ∨ s.head? = some '+' then s.tail else s
  let digits := if unsigned.take 2 = ['0', 'x'] ∨ unsigned.take 2 = ['0', 'X'] then unsigned.drop 2
    else unsigned
  (s.head? = some '-', leadingDigits digits)

/-- `strtoul` to the base of 16, for an `unsigned long` of this many bits. -/
def strtoul (bits : ℕ) (s : List Char) : ℕ :=
  let n := ofDigits (subject s).2
  if 2 ^ bits ≤ n then 2 ^ bits - 1
  else if (subject s).1 then (2 ^ bits - n) % 2 ^ bits
  else n

/-! ### Writing -/

/-- `%02x` of a byte. -/
def hexByte (b : UInt8) : List Char := [Nat.digitChar (b.toNat / 16), Nat.digitChar (b.toNat % 16)]

/-- Two digits are read as such. -/
theorem subject_digits (high low : Fin 16) :
    subject [Nat.digitChar high, Nat.digitChar low] = (false, [high.val, low.val]) := by
  revert high low
  decide +kernel

/-- What was written of a byte is read as that byte. -/
theorem strtoul_hexByte {bits : ℕ} (h : 8 ≤ bits) (b : UInt8) : strtoul bits (hexByte b) = b.toNat := by
  have hb := b.toNat_lt
  have hsubject := subject_digits ⟨b.toNat / 16, by omega⟩ ⟨b.toNat % 16, by omega⟩
  have hvalue : ofDigits [b.toNat / 16, b.toNat % 16] = b.toNat := by
    simp only [ofDigits, List.foldl_cons, List.foldl_nil]
    omega
  have hfits : ¬2 ^ bits ≤ b.toNat := by
    have : 2 ^ 8 ≤ 2 ^ bits := Nat.pow_le_pow_right (by decide) h
    omega
  simp only [strtoul, hexByte, hsubject, hvalue, if_neg hfits, Bool.false_eq_true, if_false]

/-- No digit is a character that is not one. -/
theorem notMem_hexByte {c : Char} (hc : hexValue c = none) (b : UInt8) : c ∉ hexByte b := by
  have hb := b.toNat_lt
  have hdigit : ∀ d : Fin 16, hexValue (Nat.digitChar d) ≠ none := by decide +kernel
  intro h
  rcases List.mem_cons.mp h with rfl | h
  · exact hdigit ⟨b.toNat / 16, by omega⟩ hc
  · obtain rfl := List.mem_singleton.mp h
    exact hdigit ⟨b.toNat % 16, by omega⟩ hc

end Schemes
