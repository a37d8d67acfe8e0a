import ChipEight.Proofs.Changes
import ChipEight.Proofs.Decoding
import ChipEight.Proofs.SignedOperands

/-!
# Arithmetic on registers

The operations `8xyk` read `Vx` and `Vy`, write the flag and then the value.  Both
operands are read before anything is written, so that it makes no difference whether
they are one register or one of them is the flag register; only if `Vx` itself is the
flag register, the value is written over the flag.

What is proved here:

* **bytes** — `toNat_toByte_value` and `toNat_toByte_flag`: value and flag of an operation
  on two bytes, in exact arithmetic;
* **balance** — `balanced`: what value and flag say together about the operands;
* **registers** — `register_compute_self`, `register_compute_flag`: where they go;
* **the whole** — `arithmetic_whatever_the_registers`.
-/

namespace ChipEight

namespace Arithmetic

/-! ## Bytes -/

/-- The value of an operation on two bytes, counted exactly and brought into the range of
a byte. -/
def valueOn (mode : Mode) (a b : Nat) : Arithmetic → Int
  | .set => b
  | .or => (a ||| b : Nat)
  | .and => (a &&& b : Nat)
  | .xor => (a ^^^ b : Nat)
  | .add => ((a : Int) + b) % 256
  | .sub => ((a : Int) - b) % 256
  | .shr =>
    match mode with
    | .canonical => (a / 2 : Nat)
    | .transcribed => 2 * (a : Int) % 256
  | .subn => ((a : Int) - b) % 256
  | .shl => 2 * (a : Int) % 256

/-- The flag of an operation on two bytes, if it has one. -/
def flagOn (a b : Nat) : Arithmetic → Option Nat
  | .add => some (if 255 < a + b then 1 else 0)
  | .sub => some (if b < a then 1 else 0)
  | .shr => some (a % 2)
  | .subn => some (if a ≤ b then 1 else 0)
  | .shl => some (a &&& 0x80)
  | _ => none

end Arithmetic

namespace Machine

/-- The byte that an integer is cut down to. -/
theorem toNat_toByte (v : Int32) : ((toByte v).toNat : Int) = v.toInt % 256 := by
  rw [toInt_emod (by decide)]
  unfold toByte
  rw [BitVec.toNat_setWidth]
  rfl

@[simp] theorem toByte_ofByte (a : Byte) : toByte (Int32.ofNat a.toNat) = a := by
  have ha := a.isLt
  have h := toNat_toByte (Int32.ofNat a.toNat)
  rw [toInt_ofByte] at h
  apply BitVec.eq_of_toNat_eq
  omega

/-! Bitwise operations act on the low bytes by themselves. -/

theorem toByte_or (v w : Int32) : toByte (v ||| w) = toByte v ||| toByte w := BitVec.setWidth_or

theorem toByte_and (v w : Int32) : toByte (v &&& w) = toByte v &&& toByte w := BitVec.setWidth_and

theorem toByte_xor (v w : Int32) : toByte (v ^^^ w) = toByte v ^^^ toByte w := BitVec.setWidth_xor

end Machine

namespace Arithmetic

open Machine (toByte toNat_toByte toByte_ofByte toByte_or toByte_and toByte_xor)

/-- **Bytes: the value.**  The bitwise operations are taken bit by bit, and the others from
their exact results. -/
theorem toNat_toByte_value (mode : Mode) (op : Arithmetic) (a b : Byte) :
    ((toByte (op.apply mode (Int32.ofNat a.toNat) (Int32.ofNat b.toNat)).value).toNat : Int)
      = op.valueOn mode a.toNat b.toNat := by
  have ha : (Int32.ofNat a.toNat).toInt = a.toNat := toInt_ofByte a
  have hb : (Int32.ofNat b.toNat).toInt = b.toNat := toInt_ofByte b
  have hlt := a.isLt
  cases op with
  | set => exact congrArg (fun v : Byte => (v.toNat : Int)) (toByte_ofByte b)
  | or =>
    show ((toByte (_ ||| _)).toNat : Int) = (a.toNat ||| b.toNat : Nat)
    rw [toByte_or, toByte_ofByte, toByte_ofByte, BitVec.toNat_or]
  | and =>
    show ((toByte (_ &&& _)).toNat : Int) = (a.toNat &&& b.toNat : Nat)
    rw [toByte_and, toByte_ofByte, toByte_ofByte, BitVec.toNat_and]
  | xor =>
    show ((toByte (_ ^^^ _)).toNat : Int) = (a.toNat ^^^ b.toNat : Nat)
    rw [toByte_xor, toByte_ofByte, toByte_ofByte, BitVec.toNat_xor]
  | add =>
    show ((toByte (lowByte _)).toNat : Int) = ((a.toNat : Int) + b.toNat) % 256
    rw [toNat_toByte, toInt_sum, ha, hb, Int.emod_emod]
  | sub | subn =>
    show ((toByte (lowByte _)).toNat : Int) = ((a.toNat : Int) - b.toNat) % 256
    rw [toNat_toByte, toInt_difference, ha, hb, Int.emod_emod]
  | shl =>
    show ((toByte (double _)).toNat : Int) = 2 * (a.toNat : Int) % 256
    rw [toNat_toByte, toInt_double, ha, Int.emod_emod]
  | shr =>
    cases mode with
    | canonical =>
      show ((toByte (Int32.ofNat a.toNat >>> 1)).toNat : Int) = (a.toNat / 2 : Nat)
      rw [toNat_toByte, toInt_half, ha]
      omega
    | transcribed =>
      show ((toByte (double _)).toNat : Int) = 2 * (a.toNat : Int) % 256
      rw [toNat_toByte, toInt_double, ha, Int.emod_emod]

/-- A flag that tells a condition, as a byte. -/
theorem toNat_toByte_indicator (p : Prop) [Decidable p] :
    (toByte (indicator p)).toNat = if p then 1 else 0 := by
  unfold indicator
  split <;> rfl

/-- **Bytes: the flag.** -/
theorem toNat_toByte_flag (mode : Mode) (op : Arithmetic) (a b : Byte) :
    (op.apply mode (Int32.ofNat a.toNat) (Int32.ofNat b.toNat)).flag.map
        (fun flag => (toByte flag).toNat)
      = op.flagOn a.toNat b.toNat := by
  have ha : (Int32.ofNat a.toNat).toInt = a.toNat := toInt_ofByte a
  have hb : (Int32.ofNat b.toNat).toInt = b.toNat := toInt_ofByte b
  have hgt : Int32.ofNat a.toNat > Int32.ofNat b.toNat ↔ b.toNat < a.toNat := by
    rw [gt_iff_toInt_lt, ha, hb]
    omega
  cases op with
  | add =>
    have hcarry := carry_iff (a := Int32.ofNat a.toNat) (b := Int32.ofNat b.toNat) (by omega)
    rw [ha, hb] at hcarry
    have hsum : (255 : Int) < a.toNat + b.toNat ↔ 255 < a.toNat + b.toNat := by omega
    simp only [apply, flagOn, Option.map_some, toNat_toByte_indicator, hcarry, hsum]
  | sub => simp only [apply, flagOn, Option.map_some, toNat_toByte_indicator, hgt]
  | subn => simp only [apply, flagOn, Option.map_some, toNat_toByte_indicator, hgt, Nat.not_lt]
  | shr =>
    have hodd : (toByte (Int32.ofNat a.toNat &&& 1)).toNat = a.toNat % 2 := by
      have hbit : (Int32.ofNat a.toNat &&& 1).toInt = a.toNat % 2 := by
        rw [toInt_and_one, ha]
      have hbyte := toNat_toByte (Int32.ofNat a.toNat &&& 1)
      omega
    cases mode <;> exact congrArg some hodd
  | shl =>
    have hhigh : toByte (Int32.ofNat a.toNat &&& 0x80) = a &&& 0x80 := by
      rw [toByte_and, toByte_ofByte]
      rfl
    exact congrArg (fun v : Byte => some v.toNat) hhigh
  | _ => rfl

/-! ## Balance -/

/-- What the value and the flag of an operation say together about its operands. -/
def Balanced (mode : Mode) (a b value flag : Nat) : Arithmetic → Prop
  | .add => 256 * flag + value = a + b
  | .sub => value + b = a + 256 * (if a < b then 1 else 0)
  | .subn => value + b = a + 256 * (if a < b then 1 else 0)
  | .shr => mode = .canonical → 2 * value + flag = a
  | .shl => value + 2 * flag = 2 * a
  | _ => True

/-- **Balance**, for operands that are bytes. -/
theorem balanced {mode : Mode} {op : Arithmetic} {a b value flag old : Nat} (ha : a < 256)
    (hb : b < 256) (hvalue : (value : Int) = op.valueOn mode a b)
    (hflag : flag = (op.flagOn a b).getD old) : op.Balanced mode a b value flag := by
  cases op with
  | add =>
    simp only [valueOn, flagOn, Option.getD_some] at hvalue hflag
    show 256 * flag + value = a + b
    split at hflag <;> omega
  | sub | subn =>
    simp only [valueOn] at hvalue
    show value + b = a + 256 * (if a < b then 1 else 0)
    split <;> omega
  | shr =>
    simp only [flagOn, Option.getD_some] at hflag
    intro hmode
    subst hmode
    simp only [valueOn] at hvalue
    omega
  | shl =>
    -- the bit that falls out on the left is worth 256 after the shift
    have hhigh : a &&& 0x80 = a / 128 % 2 * 128 := by
      show a &&& 2 ^ 7 = _
      rw [Nat.and_two_pow, Nat.testBit_eq_decide_div_mod_eq]
      rcases Nat.mod_two_eq_zero_or_one (a / 128) with h | h <;> simp [h]
    simp only [valueOn, flagOn, Option.getD_some, hhigh] at hvalue hflag
    show value + 2 * flag = 2 * a
    omega
  | _ => trivial

/-- The last digit of the opcodes of an operation. -/
def digit : Arithmetic → Nat
  | .set => 0x0
  | .or => 0x1
  | .and => 0x2
  | .xor => 0x3
  | .add => 0x4
  | .sub => 0x5
  | .shr => 0x6
  | .subn => 0x7
  | .shl => 0xE

theorem digit_lt (op : Arithmetic) : op.digit < 16 := by
  cases op <;> decide

end Arithmetic

/-! ## Registers -/

namespace Machine

variable {m : Machine} {op : Arithmetic} {x y : Register}

/-- The value goes into `Vx`, whatever was written before. -/
theorem register_compute_self :
    (m.compute op x y).register x
      = toByte (op.apply m.mode (m.operand x) (m.operand y)).value := by
  unfold compute
  rw [register_setRegister, if_pos rfl]

/-- The flag goes into `VF`, if there is one, and stays there unless `Vx` is `VF`. -/
theorem register_compute_flag (hx : x ≠ flagRegister) :
    (m.compute op x y).register flagRegister
      = ((op.apply m.mode (m.operand x) (m.operand y)).flag.map toByte).getD
          (m.register flagRegister) := by
  unfold compute
  rw [register_setRegister, if_neg (Ne.symm hx)]
  cases (op.apply m.mode (m.operand x) (m.operand y)).flag with
  | none => rfl
  | some flag =>
    show (m.setRegister flagRegister (toByte flag)).register flagRegister = toByte flag
    rw [register_setRegister, if_pos rfl]

/-- The opcodes `8xyk` are those of the operations on registers. -/
theorem ofOpcode?_arithmetic (op : Arithmetic) (x y : Register) :
    Operation.ofOpcode? (Opcode.ofDigits 8 x y op.digit) = some (.arithmetic op) := by
  have htop : Opcode.top (Opcode.ofDigits 8 x y op.digit) = 8 :=
    Opcode.top_ofDigits (by decide) x.isLt y.isLt op.digit_lt
  have hn : (Opcode.n (Opcode.ofDigits 8 x y op.digit)).val = op.digit :=
    Opcode.n_ofDigits (by decide) x.isLt y.isLt op.digit_lt
  have hbits : (Opcode.ofDigits 8 x y op.digit &&& 0xF00F).toNat = 0x8000 + op.digit := by
    rw [Opcode.toNat_and_n, htop, hn]
  apply Operation.ofOpcode?_of_accepts_of_ne
  · rw [Entry.accepts_iff]
    cases op <;> exact hbits
  · simp

/-- Under the first digit 8 the table knows no others. -/
theorem eq_ofDigits_of_known {w : Opcode} (htop : Opcode.top w = 8)
    (hknown : Operation.ofOpcode? w ≠ none) :
    ∃ op : Arithmetic, w = Opcode.ofDigits 8 (Opcode.x w) (Opcode.y w) op.digit := by
  have hassigned : ¬ Opcode.Unassigned w := by
    intro h
    exact hknown (Operation.ofOpcode?_eq_none_iff.2
      (Operation.position_eq_iff.2 (Opcode.forall_not_accepts_iff.2 h)))
  have hmem : (Opcode.n w).val ∈
      [Arithmetic.set, .or, .and, .xor, .add, .sub, .shr, .subn, .shl].map Arithmetic.digit := by
    by_contra hnot
    exact hassigned (.inl ⟨htop, hnot⟩)
  obtain ⟨op, -, hop⟩ := List.mem_map.1 hmem
  refine ⟨op, ?_⟩
  rw [hop, ← htop]
  exact (Opcode.ofDigits_digits w).symm

/-- An arithmetic opcode always succeeds. -/
theorem execute_arithmetic (m : Machine) (op : Arithmetic) (x y : Register) :
    (m.execute (Opcode.ofDigits 8 x y op.digit)).result = .ok ((m.compute op x y).advance 2) := by
  have hx : Opcode.x (Opcode.ofDigits 8 x y op.digit) = x :=
    Fin.ext (Opcode.x_ofDigits (by decide) x.isLt y.isLt op.digit_lt)
  have hy : Opcode.y (Opcode.ofDigits 8 x y op.digit) = y :=
    Fin.ext (Opcode.y_ofDigits (by decide) x.isLt y.isLt op.digit_lt)
  refine execute_ok_iff.2 (.inl ⟨_, ofOpcode?_arithmetic op x y, rfl, ?_⟩)
  show _ = Instruction.perform m (.arithmetic op (Opcode.x _) (Opcode.y _))
  rw [hx, hy]
  rfl

/-- What an operation on `Vx` and `Vy` leaves in the registers. -/
structure Computed (m : Machine) (op : Arithmetic) (x y : Register) (m' : Machine) : Prop where
  value : ((m'.register x).toNat : Int)
    = op.valueOn m.mode (m.register x).toNat (m.register y).toNat
  /-- An operation without a flag leaves the old one. -/
  flag : x ≠ flagRegister → (m'.register flagRegister).toNat
    = (op.flagOn (m.register x).toNat (m.register y).toNat).getD
        (m.register flagRegister).toNat
  balance : x ≠ flagRegister → op.Balanced m.mode (m.register x).toNat (m.register y).toNat
    (m'.register x).toNat (m'.register flagRegister).toNat
  others (r : Register) : r ≠ x → r ≠ flagRegister → m'.register r = m.register r

theorem computed_compute (m : Machine) (op : Arithmetic) (x y : Register) :
    m.Computed op x y ((m.compute op x y).advance 2) := by
  have hvalue : (((m.compute op x y).register x).toNat : Int)
      = op.valueOn m.mode (m.register x).toNat (m.register y).toNat := by
    rw [register_compute_self]
    exact Arithmetic.toNat_toByte_value m.mode op (m.register x) (m.register y)
  have hflag (hx : x ≠ flagRegister) : ((m.compute op x y).register flagRegister).toNat
      = (op.flagOn (m.register x).toNat (m.register y).toNat).getD
          (m.register flagRegister).toNat := by
    rw [register_compute_flag hx,
      ← Arithmetic.toNat_toByte_flag m.mode op (m.register x) (m.register y)]
    show _ = ((op.apply m.mode (m.operand x) (m.operand y)).flag.map _).getD _
    cases (op.apply m.mode (m.operand x) (m.operand y)).flag <;> rfl
  exact {
    value := hvalue
    flag := hflag
    balance := fun hx =>
      Arithmetic.balanced (m.register x).isLt (m.register y).isLt hvalue (hflag hx)
    others := fun r hx hr => register_compute hx fun _ => hr }

/-- **Arithmetic, whatever the registers.**  The opcodes under the first digit 8 that the
table knows are those of nine operations.  Each of them succeeds, in both modes, and
leaves in `Vx` its value on what `Vx` and `Vy` held before, also when these are one
register or the flag register; when `Vx` is not `VF`, it leaves the flag there, which
balances with the value; and it changes no other register.  The flags of the two
subtractions exclude each other. -/
theorem arithmetic_whatever_the_registers :
    (∀ w : Opcode, Opcode.top w = 8 → Operation.ofOpcode? w ≠ none →
      ∃ op : Arithmetic, w = Opcode.ofDigits 8 (Opcode.x w) (Opcode.y w) op.digit) ∧
    (∀ (m : Machine) (op : Arithmetic) (x y : Register),
      ∃ m', (m.execute (Opcode.ofDigits 8 x y op.digit)).result = .ok m' ∧
        m.Computed op x y m') ∧
    ∀ (m : Machine) (x y : Register), x ≠ flagRegister →
      ∃ m₁ m₂, (m.execute (Opcode.ofDigits 8 x y Arithmetic.sub.digit)).result = .ok m₁ ∧
        (m.execute (Opcode.ofDigits 8 x y Arithmetic.subn.digit)).result = .ok m₂ ∧
        (m₁.register flagRegister).toNat + (m₂.register flagRegister).toNat = 1 := by
  refine ⟨fun w htop hknown => eq_ofDigits_of_known htop hknown, ?_, ?_⟩
  · intro m op x y
    exact ⟨_, m.execute_arithmetic op x y, m.computed_compute op x y⟩
  · intro m x y hx
    refine ⟨_, _, m.execute_arithmetic .sub x y, m.execute_arithmetic .subn x y, ?_⟩
    have hsub := (m.computed_compute .sub x y).flag hx
    have hsubn := (m.computed_compute .subn x y).flag hx
    simp only [Arithmetic.flagOn, Option.getD_some] at hsub hsubn
    rw [hsub, hsubn]
    split <;> split <;> omega

/-- A machine with nothing but the high bit in every register. -/
def highBits : Machine :=
  { powerOn ⟨0, 0⟩ .canonical with registers := Vector.replicate 16 0x80 }

/-- A register added to itself overflows into the flag and comes out as zero; subtracted
from itself it leaves zero and one of the two flags. -/
theorem arithmetic_whatever_the_registers_itself :
    let v3 : Register := ⟨3, by decide⟩
    (∃ op : Arithmetic, (0x8334 : Opcode) = Opcode.ofDigits 8 v3 v3 op.digit) ∧
      (∃ m', (highBits.execute 0x8334).result = .ok m' ∧
        (m'.register v3).toNat = 0 ∧ (m'.register flagRegister).toNat = 1) ∧
      ∃ m₁ m₂, (highBits.execute 0x8335).result = .ok m₁ ∧
        (highBits.execute 0x8337).result = .ok m₂ ∧
        (m₁.register flagRegister).toNat + (m₂.register flagRegister).toNat = 1 := by
  intro v3
  have hne : v3 ≠ flagRegister := by decide
  obtain ⟨hknown, hcomputed, hflags⟩ := arithmetic_whatever_the_registers
  refine ⟨hknown 0x8334 (by decide) (by decide +kernel), ?_, hflags highBits v3 v3 hne⟩
  obtain ⟨m', hok, h⟩ := hcomputed highBits .add v3 v3
  have hvalue := h.value
  have hflag := h.flag hne
  have hheld : (highBits.register v3).toNat = 0x80 := rfl
  rw [hheld] at hvalue hflag
  exact ⟨m', hok, Int.natCast_inj.1 hvalue, hflag⟩

end Machine

end ChipEight
