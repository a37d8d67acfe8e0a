import ChipEight.Machine.Execute

/-!
# What an instruction changes

Facts about `Instruction.perform` that hold of every machine, one for each part
of the machine, so that the definition need not be opened again.

* `decode?_eq_some_iff` — a decoded instruction carries the operand fields of its
  opcode;
* `stack_perform_call`, `stack_perform_ret`, `stack_perform_of_keeps` — the call
  stack changes under calls and returns only;
* `Instruction.target` and `pc_perform` — where an instruction leads, as a number
  without bound, and the program counter as that number modulo `2 ^ 16`.
-/

namespace ChipEight

/-! ## Decoded instructions -/

namespace Instruction

theorem decode?_eq_some_iff {w : Opcode} {i : Instruction} :
    decode? w = some i ↔ ∃ op, Operation.ofOpcode? w = some op ∧ op.withOperands w = i := by
  simp [decode?]

/-- The operands of a decoded instruction are those of its opcode. -/
theorem withOperands_operation {w : Opcode} {i : Instruction} (h : decode? w = some i) :
    i.operation.withOperands w = i := by
  obtain ⟨op, -, rfl⟩ := decode?_eq_some_iff.1 h
  rw [operation_withOperands]

/-- The address in a decoded jump has twelve bits. -/
theorem address_le {w : Opcode} {i : Instruction} {address : Word} (h : decode? w = some i)
    (hi : i = .jump address ∨ i = .call address ∨ i = .jumpOffset address) :
    address.toNat ≤ 0x0FFF := by
  have hw := withOperands_operation h
  have hnnn : (Opcode.nnn w).toNat ≤ 0x0FFF := by
    rw [Opcode.toNat_nnn]
    omega
  rcases hi with rfl | rfl | rfl <;> cases hw <;> exact hnnn

end Instruction

/-! ## Parts that stay as they are -/

namespace Machine

/-- Arithmetic reads the registers and the mode, and changes registers only. -/
theorem compute_congr (m m' : Machine) (hregisters : m'.registers = m.registers)
    (hmode : m'.mode = m.mode) (op : Arithmetic) (x y : Register) :
    m'.compute op x y = { m' with registers := (m.compute op x y).registers } := by
  have happly : op.apply m'.mode (m'.operand x) (m'.operand y)
      = op.apply m.mode (m.operand x) (m.operand y) := by
    simp only [operand, register, hregisters, hmode]
  simp only [compute, happly]
  cases (op.apply m.mode (m.operand x) (m.operand y)).flag <;>
    simp only [setRegister, hregisters]

/-- Arithmetic changes registers and nothing else. -/
theorem compute_eq (m : Machine) (op : Arithmetic) (x y : Register) :
    m.compute op x y = { m with registers := (m.compute op x y).registers } :=
  compute_congr m m rfl rfl op x y

end Machine

namespace Instruction

/-! ## The call stack -/

/-- Whether an instruction leaves the call stack alone. -/
def keepsStack : Instruction → Bool
  | .call _ => false
  | .ret => false
  | _ => true

@[simp] theorem stack_perform_call (m : Machine) (address : Word) :
    ((call address).perform m).stack = m.stack.push m.pc := rfl

@[simp] theorem stack_perform_ret (m : Machine) : (ret.perform m).stack = m.stack.pop := rfl

/-- A call needs a free cell. -/
theorem failure?_call_eq_none_iff {m : Machine} {address : Word} :
    (call address).failure? m = none ↔ m.stack.depth < 16 := by
  rw [failure?, Option.map_eq_none_iff, CallStack.pushFault?, ite_eq_left_iff]
  simp

/-- A return needs an address. -/
theorem failure?_ret_eq_none_iff {m : Machine} : ret.failure? m = none ↔ 0 < m.stack.depth := by
  rw [failure?, Option.map_eq_none_iff, CallStack.popFault?, ite_eq_left_iff]
  simp

/-- Only calls and returns change the call stack. -/
theorem stack_perform_of_keeps {m : Machine} {i : Instruction} (h : i.keepsStack = true) :
    (i.perform m).stack = m.stack := by
  cases i with
  | call address => cases h
  | ret => cases h
  | arithmetic op x y =>
    show ((m.compute op x y).advance 2).stack = m.stack
    rw [Machine.compute_eq]
    rfl
  | waitKey x =>
    rw [perform]
    cases m.keypad.lowest? <;> rfl
  | _ => rfl

/-! ## The program counter -/

/-- How far a skip goes. -/
def skipLength (condition : Bool) : Nat := if condition then 4 else 2

/-- Where an instruction leads, counted without a bound. -/
def target (m : Machine) : Instruction → Nat
  | .ret => m.stack.top.toNat + 2
  | .jump address => address.toNat
  | .call address => address.toNat
  | .jumpOffset address => address.toNat + (m.register offsetRegister).toNat
  | .skipByte x value => m.pc.toNat + skipLength (m.register x == value)
  | .skipNotByte x value => m.pc.toNat + skipLength (m.register x != value)
  | .skipEqual x y => m.pc.toNat + skipLength (m.register x == m.register y)
  | .skipNotEqual x y => m.pc.toNat + skipLength (m.register x != m.register y)
  | .skipKey x => m.pc.toNat + skipLength (m.keyDown x)
  | .skipNoKey x => m.pc.toNat + skipLength (!m.keyDown x)
  | .waitKey _ => m.pc.toNat + if m.keypad.lowest?.isSome then 2 else 0
  | _ => m.pc.toNat + 2

/-- **The program counter.**  It becomes the target of the instruction, modulo
`2 ^ 16`. -/
theorem pc_perform (m : Machine) (i : Instruction) :
    (i.perform m).pc = BitVec.ofNat 16 (i.target m) := by
  have hskip (c : Bool) : (m.skipIf c).pc = BitVec.ofNat 16 (m.pc.toNat + skipLength c) := by
    cases c <;> simp [Machine.skipIf, Machine.advance, skipLength, BitVec.ofNat_add]
  have htwo : m.pc + 2 = BitVec.ofNat 16 (m.pc.toNat + 2) := by simp [BitVec.ofNat_add]
  cases i with
  | ret => simp [perform, target, BitVec.ofNat_add]
  | jump address => simp [perform, target]
  | call address => simp [perform, target]
  | jumpOffset address => simp [perform, target, BitVec.ofNat_add]
  | skipByte x value => exact hskip _
  | skipNotByte x value => exact hskip _
  | skipEqual x y => exact hskip _
  | skipNotEqual x y => exact hskip _
  | skipKey x => exact hskip _
  | skipNoKey x => exact hskip _
  | arithmetic op x y =>
    show ((m.compute op x y).advance 2).pc = _
    rw [Machine.compute_eq]
    exact htwo
  | waitKey x =>
    rw [perform, target]
    cases m.keypad.lowest? with
    | none => simp
    | some key => exact htwo
  | _ => exact htwo

/-- A target that is a word is where the program counter stands, with nothing
lost. -/
theorem toNat_pc_perform {m : Machine} {i : Instruction} (h : i.target m < 0x10000) :
    (i.perform m).pc.toNat = i.target m := by
  rw [pc_perform, BitVec.toNat_ofNat, Nat.mod_eq_of_lt h]

end Instruction

end ChipEight
