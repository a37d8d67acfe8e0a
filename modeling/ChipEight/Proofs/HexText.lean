import ChipEight.Text.Hex
import Mathlib.Algebra.Ring.Nat
import Mathlib.Data.List.Basic

/-!
# Hexadecimal text read back

Numbers written in base sixteen are filled up on the left with zeros, and still stand for the
number that they were written for.

What is proved here:

* **bytes** — `readByte?_byte`: two digits are read back as the byte that they were written for;
* **numbers** — `readNat?_padded`: so is a number, whatever width it was filled up to, and
  `length_padded`: it fills the width exactly if it fits;
* **signs** — `readInt?_signed`: a number below zero is told by the sign in front of it.
-/

namespace ChipEight.Text.Hex

/-! ## Bytes -/

/-- The byte that a text of two digits stands for. -/
def readByte? : List Char → Option Byte
  | [high, low] => do
    let h ← digitValue? high
    let l ← digitValue? low
    return BitVec.ofNat 8 (16 * h + l)
  | _ => none

/-- **Digits** are read back as the byte that they were written for. -/
theorem readByte?_byte (b : Byte) : readByte? (byte b) = some b := by
  have hb := b.isLt
  have hvalue : BitVec.ofNat 8 (16 * (b.toNat / 16) + b.toNat % 16) = b := by
    apply BitVec.eq_of_toNat_eq
    rw [BitVec.toNat_ofNat]
    omega
  rw [byte, readByte?, digitValue?_digit (by omega), digitValue?_digit (by omega)]
  exact congrArg some hvalue

theorem isSome_digitValue?_of_mem_byte {b : Byte} {c : Char} (h : c ∈ byte b) :
    (digitValue? c).isSome := by
  have hb := b.isLt
  have hc : c = digit (b.toNat / 16) ∨ c = digit (b.toNat % 16) := by simpa [byte] using h
  rcases hc with rfl | rfl <;> rw [digitValue?_digit (by omega)] <;> rfl

/-! ## Numbers -/

/-- A digit behind a number that was read before. -/
def pushDigit? (n : Nat) (c : Char) : Option Nat := (digitValue? c).map (16 * n + ·)

/-- The number that a text of one digit or more stands for. -/
def readNat? (text : List Char) : Option Nat :=
  if text = [] then none else text.foldlM pushDigit? 0

theorem digits_ne_nil (n : Nat) : digits n ≠ [] := by
  rw [digits]
  split <;> simp

theorem pushDigit?_digit {d : Nat} (h : d < 16) (n : Nat) :
    pushDigit? n (digit d) = some (16 * n + d) := by
  rw [pushDigit?, digitValue?_digit h, Option.map_some]

/-- The digits of a number, read one after the other.  The induction is that of `digits`. -/
theorem foldlM_digits (n : Nat) : (digits n).foldlM pushDigit? 0 = some n := by
  fun_induction digits n with
  | case1 n h => simp [pushDigit?_digit h]
  | case2 n h ih =>
    have hlast := pushDigit?_digit (Nat.mod_lt n (by omega : 0 < 16)) (n / 16)
    rw [List.foldlM_append, ih, Option.bind_eq_bind, Option.bind_some, List.foldlM_cons, hlast,
      Nat.div_add_mod]
    rfl

/-- Zeros in front of a number say nothing. -/
theorem foldlM_replicate_zero (k : Nat) :
    (List.replicate k '0').foldlM pushDigit? 0 = some 0 := by
  induction k with
  | zero => rfl
  | succ k ih =>
    rw [List.replicate_succ, List.foldlM_cons, show pushDigit? 0 '0' = some 0 from rfl]
    exact ih

theorem padded_eq (width n : Nat) :
    padded width n = List.replicate (width - (digits n).length) '0' ++ digits n := rfl

theorem padded_ne_nil (width n : Nat) : padded width n ≠ [] := by
  rw [padded_eq]
  exact List.append_ne_nil_of_right_ne_nil _ (digits_ne_nil n)

/-- **Numbers** are read back, whatever width they were filled up to. -/
theorem readNat?_padded (width n : Nat) : readNat? (padded width n) = some n := by
  rw [readNat?, if_neg (padded_ne_nil width n), padded_eq, List.foldlM_append,
    foldlM_replicate_zero, Option.bind_eq_bind, Option.bind_some, foldlM_digits]

/-- A number below a power of the base has no more digits than its exponent.  The induction is on
the exponent. -/
theorem length_digits_le {n k : Nat} (h : n < 16 ^ (k + 1)) : (digits n).length ≤ k + 1 := by
  induction k generalizing n with
  | zero =>
    rw [digits, if_pos (by simpa using h)]
    exact Nat.le_refl 1
  | succ k ih =>
    rw [digits]
    split
    case isTrue => simp
    case isFalse =>
      have hrest : n / 16 < 16 ^ (k + 1) := by
        rw [pow_succ] at h
        omega
      have hlength := ih hrest
      rw [List.length_append]
      simpa using hlength

/-- **Numbers** fill the width exactly if they fit. -/
theorem length_padded {width n : Nat} (h : n < 16 ^ (width + 1)) :
    (padded (width + 1) n).length = width + 1 := by
  have hlength := length_digits_le h
  rw [padded_eq, List.length_append, List.length_replicate]
  omega

/-! ## Signs -/

/-- The number that a text stands for, a sign in front if it is below zero. -/
def readInt? : List Char → Option Int
  | '-' :: text => (readNat? text).map fun n : Nat => -(n : Int)
  | text => (readNat? text).map Int.ofNat

theorem isSome_digitValue?_of_mem_digits {n : Nat} {c : Char} (h : c ∈ digits n) :
    (digitValue? c).isSome := by
  fun_induction digits n with
  | case1 n hn =>
    rw [List.mem_singleton.1 h, digitValue?_digit hn]
    rfl
  | case2 n hn ih =>
    rcases List.mem_append.1 h with hfirst | hlast
    · exact ih hfirst
    · rw [List.mem_singleton.1 hlast, digitValue?_digit (Nat.mod_lt n (by omega))]
      rfl

theorem isSome_digitValue?_of_mem_padded {width n : Nat} {c : Char} (h : c ∈ padded width n) :
    (digitValue? c).isSome := by
  rw [padded_eq] at h
  rcases List.mem_append.1 h with hzero | hdigits
  · rw [List.eq_of_mem_replicate hzero]
    rfl
  · exact isSome_digitValue?_of_mem_digits hdigits

/-- What stands in a signed number is a sign or a digit. -/
theorem eq_or_isSome_of_mem_signed {width : Nat} {k : Int} {c : Char} (h : c ∈ signed width k) :
    c = '-' ∨ (digitValue? c).isSome := by
  rw [signed] at h
  split at h
  · rcases List.mem_cons.1 h with rfl | hdigits
    · exact .inl rfl
    · exact .inr (isSome_digitValue?_of_mem_padded hdigits)
  · exact .inr (isSome_digitValue?_of_mem_padded h)

theorem readInt?_padded (width n : Nat) : readInt? (padded width n) = some (n : Int) := by
  have hunsigned (text : List Char) : padded width n ≠ '-' :: text := by
    intro h
    have hsign : '-' ∈ padded width n := h ▸ List.mem_cons_self
    exact absurd (isSome_digitValue?_of_mem_padded hsign) (by decide)
  rw [readInt?, readNat?_padded]
  · rfl
  · exact hunsigned

/-- **Signs**: a signed number is read back. -/
theorem readInt?_signed (width : Nat) (k : Int) : readInt? (signed width k) = some k := by
  rw [signed]
  split
  case isTrue hneg =>
    rw [readInt?, readNat?_padded, Option.map_some]
    congr 1
    omega
  case isFalse hnonneg =>
    rw [readInt?_padded]
    congr 1
    omega

end ChipEight.Text.Hex
