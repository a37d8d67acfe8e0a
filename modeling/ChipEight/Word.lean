/-!
# Machine words

The machine computes on bytes and on 16-bit words.  An opcode is a word, and
its nibbles are the operands of an instruction:

* `Opcode.x`, `Opcode.y` — the two register operands (second and third nibble);
* `Opcode.n`, `Opcode.nn`, `Opcode.nnn` — the immediates of 4, 8 and 12 bits.

`Opcode.nnn_eq`, `Opcode.toNat_nn` and `Opcode.toNat_eq` say how the fields
overlap: the longer immediates are made of the shorter ones.  `Opcode.ofDigits` is the
opcode with four given nibbles.

Operands of arithmetic and the places of sprites are signed integers of 32 bits, which
wrap.  A remainder by a divisor of `2 ^ 32` does not notice: `toInt_emod`,
`toInt_add_emod` and `toInt_sub_emod`.
-/

namespace ChipEight

/-- A memory cell or register. -/
abbrev Byte := BitVec 8

/-- An address or opcode. -/
abbrev Word := BitVec 16

/-- The name of one of the sixteen registers `V0` to `VF`. -/
abbrev Register := Fin 16

/-- The register that arithmetic and drawing use as a flag, `VF`. -/
def flagRegister : Register := 15

/-- The register that is added to the address of a jump, `V0`. -/
def offsetRegister : Register := 0

/-- A word read as an instruction. -/
abbrev Opcode := Word

namespace Opcode

/-! ## Operand fields -/

/-- The second nibble. -/
def x (w : Opcode) : Register := Fin.ofNat 16 (w.toNat / 0x100)

/-- The third nibble. -/
def y (w : Opcode) : Register := Fin.ofNat 16 (w.toNat / 0x10)

/-- The fourth nibble. -/
def n (w : Opcode) : Fin 16 := Fin.ofNat 16 w.toNat

/-- The low byte. -/
def nn (w : Opcode) : Byte := w.setWidth 8

/-- The low twelve bits, an address. -/
def nnn (w : Opcode) : Word := BitVec.ofNat 16 (w.toNat % 0x1000)

@[simp] theorem val_x (w : Opcode) : (x w).val = w.toNat / 0x100 % 0x10 := rfl

@[simp] theorem val_y (w : Opcode) : (y w).val = w.toNat / 0x10 % 0x10 := rfl

@[simp] theorem val_n (w : Opcode) : (n w).val = w.toNat % 0x10 := rfl

@[simp] theorem toNat_nn (w : Opcode) : (nn w).toNat = w.toNat % 0x100 := by
  simp [nn]

@[simp] theorem toNat_nnn (w : Opcode) : (nnn w).toNat = w.toNat % 0x1000 := by
  simp only [nnn, BitVec.toNat_ofNat]
  omega

/-- The low byte is the third and fourth nibble. -/
theorem nn_eq (w : Opcode) : (nn w).toNat = 16 * (y w).val + (n w).val := by
  simp only [toNat_nn, val_y, val_n]
  omega

/-- The address is the second, third and fourth nibble. -/
theorem nnn_eq (w : Opcode) :
    (nnn w).toNat = 256 * (x w).val + 16 * (y w).val + (n w).val := by
  simp only [toNat_nnn, val_x, val_y, val_n]
  omega

/-- An opcode is its top nibble followed by its address. -/
theorem toNat_eq (w : Opcode) : w.toNat = 4096 * (w.toNat / 4096) + (nnn w).toNat := by
  simp only [toNat_nnn]
  omega

/-! ## Opcodes by their digits -/

/-- The opcode with these four hexadecimal digits. -/
def ofDigits (top x y n : Nat) : Opcode := BitVec.ofNat 16 (4096 * top + 256 * x + 16 * y + n)

section

variable {top x y n : Nat} (htop : top < 16) (hx : x < 16) (hy : y < 16) (hn : n < 16)
include htop hx hy hn

theorem toNat_ofDigits :
    (ofDigits top x y n).toNat = 4096 * top + 256 * x + 16 * y + n := by
  unfold ofDigits
  rw [BitVec.toNat_ofNat]
  omega

theorem x_ofDigits : (Opcode.x (ofDigits top x y n)).val = x := by
  rw [val_x, toNat_ofDigits htop hx hy hn]
  omega

theorem y_ofDigits : (Opcode.y (ofDigits top x y n)).val = y := by
  rw [val_y, toNat_ofDigits htop hx hy hn]
  omega

theorem n_ofDigits : (Opcode.n (ofDigits top x y n)).val = n := by
  rw [val_n, toNat_ofDigits htop hx hy hn]
  omega

end

/-- Every opcode is made of its digits. -/
theorem ofDigits_digits (w : Opcode) :
    ofDigits (w.toNat / 4096) (x w).val (y w).val (n w).val = w := by
  have hw := w.isLt
  apply BitVec.eq_of_toNat_eq
  rw [toNat_ofDigits (by omega) (x w).isLt (y w).isLt (n w).isLt, val_x, val_y, val_n]
  omega

end Opcode

/-! ## Signed integers -/

/-- A byte as an integer. -/
theorem toInt_ofByte (a : Byte) : (Int32.ofNat a.toNat).toInt = a.toNat := by
  have ha := a.isLt
  exact Int32.toInt_ofNat_of_lt (by omega)

/-- An integer leaves the remainder of its bits read without a sign. -/
theorem toInt_emod {k : Int} (hk : k ∣ 0x100000000) (v : Int32) :
    v.toInt % k = (v.toBitVec.toNat : Int) % k := by
  have hwrap : v.toInt % 0x100000000 = (v.toBitVec.toNat : Int) % 0x100000000 := by
    show v.toBitVec.toInt % 0x100000000 = _
    rw [BitVec.toInt_eq_toNat_bmod]
    exact Int.bmod_emod
  rw [← Int.emod_emod_of_dvd _ hk, hwrap, Int.emod_emod_of_dvd _ hk]

/-- A sum that wraps leaves the remainder of the exact sum. -/
theorem toInt_add_emod {k : Int} (hk : k ∣ 0x100000000) (a b : Int32) :
    (a + b).toInt % k = (a.toInt + b.toInt) % k := by
  have hwrap : (a + b).toInt % 0x100000000 = (a.toInt + b.toInt) % 0x100000000 := by
    rw [Int32.toInt_add]
    exact Int.bmod_emod
  rw [← Int.emod_emod_of_dvd _ hk, hwrap, Int.emod_emod_of_dvd _ hk]

/-- A difference that wraps leaves the remainder of the exact difference. -/
theorem toInt_sub_emod {k : Int} (hk : k ∣ 0x100000000) (a b : Int32) :
    (a - b).toInt % k = (a.toInt - b.toInt) % k := by
  have hwrap : (a - b).toInt % 0x100000000 = (a.toInt - b.toInt) % 0x100000000 := by
    rw [Int32.toInt_sub]
    exact Int.bmod_emod
  rw [← Int.emod_emod_of_dvd _ hk, hwrap, Int.emod_emod_of_dvd _ hk]

end ChipEight
