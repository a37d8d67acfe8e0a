import ChipEight.Proofs.Frame

/-!
# What an opcode may change

Most of the machine stays as it is under most opcodes.  `Part.changedBy` says which
operations may change which part, and the parts that some operation changes in a
few places only, memory and registers, are followed cell by cell.

What is proved here:

* **inversion** — `execute_ok_iff`: an opcode that succeeds performed its
  instruction, whose check passed, or did nothing because it has none;
* **parts** — `same_perform`: a part stays the same under every operation that is
  not listed for it;
* **cells** — `cell_perform` and `register_perform`: the memory cells and the
  registers that an operation leaves alone;
* **the whole machine** — `changes_of_execute`.
-/

namespace ChipEight

open Operation (ofOpcode?)

namespace Machine

/-- **An opcode that succeeds.** -/
theorem execute_ok_iff {m m' : Machine} {w : Opcode} :
    (m.execute w).result = .ok m' ↔
      (∃ op, ofOpcode? w = some op ∧ (op.withOperands w).failure? m = none ∧
        m' = (op.withOperands w).perform m) ∨
      (ofOpcode? w = none ∧ m' = m) := by
  rw [Outcome.result_eq_ok_iff, execute, Instruction.decode?]
  cases ofOpcode? w with
  | none => simp [eq_comm (a := m)]
  | some op => simp [eq_comm (a := (op.withOperands w).perform m)]

/-- An opcode whose check passes does what its instruction does. -/
theorem execute_of_decode {m : Machine} {w : Opcode} {i : Instruction}
    (hi : Instruction.decode? w = some i) (hcheck : i.failure? m = none) :
    (m.execute w).result = .ok (i.perform m) := by
  simp [Outcome.result_eq_ok_iff, execute, hi, hcheck]

end Machine

/-! ## Parts -/

/-- The parts of a machine, but for the program counter, which nearly every opcode
moves. -/
inductive Part where
  | memory
  | index
  | registers
  | stack
  | delayTimer
  | soundTimer
  | keypad
  | display
  | redraw
  | random
  | mode
  deriving DecidableEq, Repr

/-- Two machines have the same part. -/
def Part.Same (m m' : Machine) : Part → Prop
  | .memory => m'.memory = m.memory
  | .index => m'.index = m.index
  | .registers => m'.registers = m.registers
  | .stack => m'.stack = m.stack
  | .delayTimer => m'.delayTimer = m.delayTimer
  | .soundTimer => m'.soundTimer = m.soundTimer
  | .keypad => m'.keypad = m.keypad
  | .display => m'.display = m.display
  | .redraw => m'.redraw = m.redraw
  | .random => m'.random = m.random
  | .mode => m'.mode = m.mode

/-- The operations that may change a part. -/
def Part.changedBy : Part → Operation → Bool
  | .memory, .decimal => true
  | .memory, .store => true
  | .index, .loadIndex => true
  | .index, .addIndex => true
  | .index, .glyph => true
  | .index, .restore => true
  | .registers, .loadByte => true
  | .registers, .addByte => true
  | .registers, .arithmetic _ => true
  | .registers, .random => true
  | .registers, .draw => true
  | .registers, .getDelay => true
  | .registers, .waitKey => true
  | .registers, .restore => true
  | .stack, .call => true
  | .stack, .ret => true
  | .delayTimer, .setDelay => true
  | .soundTimer, .setSound => true
  | .display, .clear => true
  | .display, .draw => true
  | .redraw, .clear => true
  | .redraw, .draw => true
  | .random, .random => true
  | _, _ => false

namespace Instruction

/-- **Parts.**  An instruction changes only what is listed for its operation. -/
theorem same_perform (m : Machine) {i : Instruction} {p : Part}
    (h : p.changedBy i.operation = false) : p.Same m (i.perform m) := by
  cases i with
  | arithmetic op x y =>
    rw [perform, Machine.compute_eq]
    cases p <;> first | rfl | cases h
  | waitKey x =>
    rw [perform]
    cases m.keypad.lowest? <;> cases p <;> first | rfl | cases h
  | _ => cases p <;> first | rfl | cases h

/-- The redraw flag is set by painting, and never taken back. -/
theorem redraw_perform (m : Machine) (i : Instruction) :
    (i.perform m).redraw = (m.redraw || i.paints) :=
  congrArg Machine.redraw (i.perform_setRedraw m m.redraw)

/-! ## Memory cells -/

/-- The number of cells at `I` that an instruction reads or writes. -/
def reach : Instruction → Nat
  | .draw _ _ height => height.val
  | .decimal _ => 3
  | .store x => x.val + 1
  | .restore x => x.val + 1
  | _ => 0

/-- **Memory.**  An instruction that may change memory keeps the cells that are not
within reach, and the others keep them all. -/
theorem cell_perform (m : Machine) {i : Instruction} {a : Nat}
    (h : Part.memory.changedBy i.operation = true →
      a < m.index.toNat ∨ m.index.toNat + i.reach ≤ a) :
    (i.perform m).memory.cell a = m.memory.cell a := by
  have hwrite {bytes : List Byte} (hlen : bytes.length = i.reach)
      (hout : a < m.index.toNat ∨ m.index.toNat + i.reach ≤ a) :
      (m.memory.write m.index.toNat bytes).cell a = m.memory.cell a := by
    rw [Memory.cell_write]
    split
    · rw [List.getElem?_eq_none (by omega)]
      rfl
    · rfl
  cases hi : Part.memory.changedBy i.operation with
  | false => exact congrArg (Memory.cell · a) (same_perform m (p := .memory) hi)
  | true =>
    cases i with
    | decimal x => exact hwrite rfl (h hi)
    | store x => exact hwrite (m.length_firstRegisters x) (h hi)
    | _ => cases hi

end Instruction

/-! ## Registers -/

/-- Whether an arithmetic operation computes a flag. -/
def Arithmetic.hasFlag : Arithmetic → Bool
  | .set => false
  | .or => false
  | .and => false
  | .xor => false
  | _ => true

theorem Arithmetic.isSome_flag (mode : Mode) (op : Arithmetic) (a b : Int32) :
    (op.apply mode a b).flag.isSome = op.hasFlag := by
  cases op with
  | shr => cases mode <;> rfl
  | _ => rfl

theorem Machine.register_compute {m : Machine} {op : Arithmetic} {x y r : Register}
    (hx : r ≠ x) (hflag : op.hasFlag = true → r ≠ flagRegister) :
    (m.compute op x y).register r = m.register r := by
  have hsome := Arithmetic.isSome_flag m.mode op (m.operand x) (m.operand y)
  simp only [compute]
  cases hf : (op.apply m.mode (m.operand x) (m.operand y)).flag with
  | none => simp only [register_setRegister, if_neg hx]
  | some flag =>
    rw [hf, Option.isSome_some] at hsome
    simp only [register_setRegister, if_neg hx, if_neg (hflag hsome.symm)]

namespace Instruction

/-- Whether an instruction may write a register.  Waiting for a key writes only once
a key is down. -/
def writes (m : Machine) (r : Register) : Instruction → Bool
  | .loadByte x _ => r == x
  | .addByte x _ => r == x
  | .arithmetic op x _ => r == x || op.hasFlag && r == flagRegister
  | .random x _ => r == x
  | .draw _ _ _ => r == flagRegister
  | .getDelay x => r == x
  | .waitKey x => r == x && m.keypad.lowest?.isSome
  | .restore x => decide (r ≤ x)
  | _ => false

/-- **Registers.**  Those that are not written keep what they hold. -/
theorem register_perform (m : Machine) {i : Instruction} {r : Register}
    (h : i.writes m r = false) : (i.perform m).register r = m.register r := by
  have hset {x : Register} {value : Byte} (hx : (r == x) = false) :
      (m.setRegister x value).register r = m.register r := by
    rw [Machine.register_setRegister, if_neg (by simpa using hx)]
  cases i with
  | loadByte x value => exact hset h
  | addByte x value => exact hset h
  | random x mask => exact hset h
  | draw x y height => exact hset h
  | getDelay x => exact hset h
  | arithmetic op x y =>
    rw [writes, Bool.or_eq_false_iff, Bool.and_eq_false_imp] at h
    exact Machine.register_compute (by simpa using h.1) fun hop => by simpa using h.2 hop
  | waitKey x =>
    rw [perform]
    cases hkey : m.keypad.lowest? with
    | none => rfl
    | some key =>
      rw [writes, hkey, Option.isSome_some, Bool.and_true] at h
      exact hset h
  | restore x =>
    show (m.restoreRegisters x)[r] = m.register r
    rw [writes, decide_eq_false_iff_not] at h
    simp [Machine.restoreRegisters, h]
  | _ => rfl

end Instruction

/-! ## The whole machine -/

/-- What an opcode that succeeds may have changed, and where it left the program
counter. -/
structure Changes (m : Machine) (w : Opcode) (m' : Machine) : Prop where
  part (p : Part) : p.Same m m' ∨ ∃ op, ofOpcode? w = some op ∧ p.changedBy op = true
  /-- The digits of a byte take three cells, and `V0` to `Vx` take `x + 1`. -/
  cell (a : Nat) : m'.memory.cell a = m.memory.cell a ∨
    (ofOpcode? w = some .decimal ∧ m.index.toNat ≤ a ∧ a ≤ m.index.toNat + 2) ∨
    (ofOpcode? w = some .store ∧ m.index.toNat ≤ a ∧ a ≤ m.index.toNat + (Opcode.x w).val)
  register (r : Register) : m'.register r = m.register r ∨
    ∃ op, ofOpcode? w = some op ∧ (op.withOperands w).writes m r = true
  /-- No opcode takes the redraw flag back. -/
  redraw : m'.redraw = true ↔
    m.redraw = true ∨ ofOpcode? w = some .clear ∨ ofOpcode? w = some .draw
  keypad : m'.keypad = m.keypad
  mode : m'.mode = m.mode
  pc : m'.pc = BitVec.ofNat 16 ((Instruction.decode? w).elim m.pc.toNat (·.target m))
  /-- The address that a return goes to is the one taken off the stack. -/
  returned : ofOpcode? w = some .ret → m.stack.tryPop = .ok (m.stack.top, m'.stack)
  called : ofOpcode? w = some .call → m.stack.tryPush m.pc = .ok m'.stack
  waiting : ofOpcode? w = some .waitKey → m.keypad = .released → m' = m
  unknown : ofOpcode? w = none → m' = m

namespace Changes

variable {m : Machine} {w : Opcode}

/-- An opcode without an instruction changes nothing. -/
theorem refl_of_unknown (h : ofOpcode? w = none) : Changes m w m where
  part p := .inl (by cases p <;> rfl)
  cell a := .inl rfl
  register r := .inl rfl
  redraw := by simp [h]
  keypad := rfl
  mode := rfl
  pc := by simp [Instruction.decode?, h]
  returned hop := by rw [h] at hop; cases hop
  called hop := by rw [h] at hop; cases hop
  waiting hop := by rw [h] at hop; cases hop
  unknown _ := rfl

/-- An instruction whose check passed. -/
theorem of_perform {op : Operation} (hop : ofOpcode? w = some op)
    (hcheck : (op.withOperands w).failure? m = none) :
    Changes m w ((op.withOperands w).perform m) where
  part p := by
    cases hp : p.changedBy op with
    | true => exact .inr ⟨op, hop, hp⟩
    | false => exact .inl (Instruction.same_perform m (by rwa [Instruction.operation_withOperands]))
  cell a := by
    by_cases hin : Part.memory.changedBy op = true ∧
        m.index.toNat ≤ a ∧ a < m.index.toNat + (op.withOperands w).reach
    · obtain ⟨hp, hle, hlt⟩ := hin
      cases op with
      | decimal => exact .inr (.inl ⟨hop, hle, Nat.le_of_lt_succ hlt⟩)
      | store => exact .inr (.inr ⟨hop, hle, Nat.le_of_lt_succ hlt⟩)
      | _ => cases hp
    · refine .inl (Instruction.cell_perform m fun hp => ?_)
      rw [Instruction.operation_withOperands] at hp
      have hout : ¬ (m.index.toNat ≤ a ∧ a < m.index.toNat + (op.withOperands w).reach) :=
        fun hwithin => hin ⟨hp, hwithin⟩
      omega
  register r := by
    cases hr : (op.withOperands w).writes m r with
    | true => exact .inr ⟨op, hop, hr⟩
    | false => exact .inl (Instruction.register_perform m hr)
  redraw := by
    have hpaints : (op.withOperands w).paints = true ↔ op = .clear ∨ op = .draw := by
      cases op <;> simp [Operation.withOperands, Instruction.paints]
    rw [Instruction.redraw_perform, Bool.or_eq_true, hpaints, hop, Option.some.injEq,
      Option.some.injEq]
  keypad := Instruction.same_perform m (p := .keypad) rfl
  mode := Instruction.same_perform m (p := .mode) rfl
  pc := by
    rw [Instruction.pc_perform, Instruction.decode?, hop]
    rfl
  returned h := by
    cases hop.symm.trans h
    have hnone : m.stack.popFault? = none := Option.map_eq_none_iff.1 hcheck
    rw [CallStack.tryPop, hnone]
    rfl
  called h := by
    cases hop.symm.trans h
    have hnone : m.stack.pushFault? = none := Option.map_eq_none_iff.1 hcheck
    rw [CallStack.tryPush, hnone]
    rfl
  waiting h hkeypad := by
    cases hop.symm.trans h
    have hnone : m.keypad.lowest? = none := Keypad.lowest?_eq_none_iff.2 hkeypad
    rw [Operation.withOperands, Instruction.perform, hnone]
  unknown h := by cases hop.symm.trans h

end Changes

/-- **What an opcode may change.**  An opcode that succeeds, on any machine and in
either mode, changes memory, registers and the other parts only where its operation
is listed to, sets the redraw flag when it paints and never takes it back, and moves
the program counter to its target modulo `2 ^ 16`. -/
theorem changes_of_execute {m m' : Machine} {w : Opcode} (h : (m.execute w).result = .ok m') :
    Changes m w m' := by
  rcases Machine.execute_ok_iff.1 h with ⟨op, hop, hcheck, rfl⟩ | ⟨hnone, rfl⟩
  · exact .of_perform hop hcheck
  · exact .refl_of_unknown hnone

/-- A machine whose program counter stands on the last address. -/
def atLastAddress : Machine := { Machine.powerOn ⟨0, 0⟩ .canonical with pc := 0xFFFF }

/-- A skip from the last address, taken because `V0` is zero, wraps around. -/
theorem changes_of_execute_wrapping :
    Changes atLastAddress 0x3000 (atLastAddress.execute 0x3000).machine ∧
      (atLastAddress.execute 0x3000).machine.pc = 3 := by
  have hok : (atLastAddress.execute 0x3000).result = .ok (atLastAddress.execute 0x3000).machine :=
    Outcome.result_eq_ok_iff.2 ⟨by decide +kernel, rfl⟩
  have h := changes_of_execute hok
  exact ⟨h, h.pc.trans (by decide +kernel)⟩

end ChipEight
