import ChipEight.Word

/-!
# Hexadecimal text

Numbers in base sixteen with capital digits.

* `Hex.digit` and `Hex.digitValue?` — single digits, and back;
* `Hex.byte` — a byte in exactly two digits;
* `Hex.padded` and `Hex.signed` — numbers filled up with zeros to a width, the
  sign counted in.
-/

namespace ChipEight.Text.Hex

/-- The digit for a value below sixteen. -/
def digit (n : Nat) : Char := Char.ofNat (if n < 10 then 48 + n else 55 + n)

/-- The value of a digit. -/
def digitValue? (c : Char) : Option Nat :=
  if '0' ≤ c ∧ c ≤ '9' then some (c.toNat - 48)
  else if 'A' ≤ c ∧ c ≤ 'F' then some (c.toNat - 55)
  else none

/-- Reading a digit gives the value it was written for. -/
theorem digitValue?_digit {n : Nat} (h : n < 16) : digitValue? (digit n) = some n := by
  have all : ∀ k ∈ List.range 16, digitValue? (digit k) = some k := by decide
  exact all n (List.mem_range.mpr h)

/-- The digits of a number, the highest first. -/
def digits (n : Nat) : List Char :=
  if n < 16 then [digit n] else digits (n / 16) ++ [digit (n % 16)]
termination_by n

/-- A byte in two digits. -/
def byte (b : Byte) : List Char := [digit (b.toNat / 16), digit (b.toNat % 16)]

/-- A number in at least `width` digits. -/
def padded (width n : Nat) : List Char := (digits n).leftpad width '0'

/-- A signed number in at least `width` characters. -/
def signed (width : Nat) (k : Int) : List Char :=
  if k < 0 then '-' :: padded (width - 1) k.natAbs else padded width k.natAbs

end ChipEight.Text.Hex
