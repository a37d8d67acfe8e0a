import ChipEight.Failure
import ChipEight.Instruction
import ChipEight.Machine

/-!
# Executing one instruction

`Instruction.perform` says what each instruction does to the machine, and
`Instruction.failure?` which check of it fails.  `Machine.execute` applies an
opcode: its instruction if it has one, otherwise nothing but a notice for the
host.

The two do not hang on each other: an instruction whose check fails goes on past
the end of memory or of the stack, reads zeros or the nearest cell there, and
writes nowhere.  An `Outcome` keeps the notices of all that was executed, and
`Outcome.result` drops the machine if any check failed.
-/

namespace ChipEight

/-! ## Parts of instructions -/

namespace Machine

/-- Go past the next instruction if the condition holds. -/
def skipIf (m : Machine) (condition : Bool) : Machine := m.advance (if condition then 4 else 2)

/-- The number of the key named by `Vx`. -/
def keyNumber (m : Machine) (x : Register) : Nat := (m.register x).toNat

/-- Whether the key named by `Vx` is down.  A number that is no key's stands for
the last key. -/
def keyDown (m : Machine) (x : Register) : Bool := m.keypad[min (m.keyNumber x) 15]

/-- What is wrong with the number of the key named by `Vx`. -/
def keyFault? (m : Machine) (x : Register) : Option Fault :=
  if m.keyNumber x < 16 then none else some (.noSuchKey x (m.register x))

/-- What is wrong with an access to `length` bytes at `I`. -/
def indexFault? (m : Machine) (length : Nat) : Option Fault :=
  Memory.rangeFault? m.index.toNat length

/-- A register as an operand of arithmetic. -/
def operand (m : Machine) (x : Register) : Int32 := Int32.ofNat (m.register x).toNat

/-- The low byte of a result. -/
def toByte (v : Int32) : Byte := v.toBitVec.setWidth 8

/-- Combine `Vx` and `Vy` into `Vx`.  The flag is written first, so that an
operation on `VF` itself keeps its value there. -/
def compute (m : Machine) (op : Arithmetic) (x y : Register) : Machine :=
  let result := op.apply m.mode (m.operand x) (m.operand y)
  let flagged := match result.flag with
    | none => m
    | some flag => m.setRegister flagRegister (toByte flag)
  flagged.setRegister x (toByte result.value)

/-- The sprite of `height` rows at `I`, placed at `(Vx, Vy)`. -/
def sprite (m : Machine) (x y : Register) (height : Fin 16) : Sprite where
  x := m.operand x
  y := m.operand y
  rows := Vector.ofFn fun r : Fin 15 => m.memory.cell (m.index.toNat + r.val)
  height := Int32.ofNat height.val

/-- Of the fifteen rows that are read only the first `height` are drawn. -/
theorem draws_sprite (m : Machine) (x y : Register) (height : Fin 16) (r : Fin 15) (c : Fin 8) :
    (m.sprite x y height).draws r c =
      (decide (r.val < height.val) && (m.memory.cell (m.index.toNat + r.val)).getMsbD c.val) := by
  have hlt : Int32.ofNat r.val < Int32.ofNat height.val ↔ r.val < height.val := by
    rw [Int32.lt_iff_toInt_lt, Int32.toInt_ofNat_of_lt (by omega),
      Int32.toInt_ofNat_of_lt (by omega)]
    omega
  simp only [Sprite.draws, sprite, hlt]
  simp

/-- Draw the sprite of `height` rows at `I` to `(Vx, Vy)`; the flag tells
whether it hit a lit pixel. -/
def draw (m : Machine) (x y : Register) (height : Fin 16) : Machine :=
  let (display, collision) := m.display.blit (m.sprite x y height)
  { m.setRegister flagRegister (if collision then 1 else 0) with
    display := display, redraw := true }

/-- The hundreds, tens and ones of a byte. -/
def decimalDigits (b : Byte) : List Byte := [b / 100, b / 10 % 10, b % 10]

/-- The values of `V0` to `Vx`. -/
def firstRegisters (m : Machine) (x : Register) : List Byte := m.registers.toList.take (x.val + 1)

@[simp] theorem length_firstRegisters (m : Machine) (x : Register) :
    (m.firstRegisters x).length = x.val + 1 := by
  rw [firstRegisters, List.length_take, Vector.length_toList]
  omega

theorem getElem?_firstRegisters (m : Machine) (x i : Register) :
    (m.firstRegisters x)[i.val]? = if i ≤ x then some (m.register i) else none := by
  rw [firstRegisters, List.getElem?_take, Vector.getElem?_toList]
  by_cases h : i ≤ x
  · have hlt : i.val < x.val + 1 := Nat.lt_succ_of_le h
    simp [h, hlt, register]
  · have hle : ¬ i.val < x.val + 1 := fun hlt => h (Nat.le_of_lt_succ hlt)
    rw [if_neg h, if_neg hle]

/-- Read `V0` to `Vx` from memory at `I`; the other registers stay. -/
def restoreRegisters (m : Machine) (x : Register) : Vector Byte 16 :=
  Vector.ofFn fun i : Fin 16 =>
    if i ≤ x then m.memory.cell (m.index.toNat + i.val) else m.register i

end Machine

/-! ## Instructions -/

/-- The check of an instruction that fails, if it has one and that fails. -/
def Instruction.failure? (m : Machine) : Instruction → Option Failure
  | .ret => m.stack.popFault?.map (Failure.mk .ret)
  | .call _ => m.stack.pushFault?.map (Failure.mk .call)
  | .draw _ _ height => (m.indexFault? height.val).map (Failure.mk .draw)
  | .skipKey x => (m.keyFault? x).map (Failure.mk .skipKey)
  | .skipNoKey x => (m.keyFault? x).map (Failure.mk .skipNoKey)
  | .decimal _ => (m.indexFault? 3).map (Failure.mk .decimal)
  | .store x => (m.indexFault? (x.val + 1)).map (Failure.mk .store)
  | .restore x => (m.indexFault? (x.val + 1)).map (Failure.mk .restore)
  | _ => none

open Machine in
/-- What an instruction does. -/
def Instruction.perform (m : Machine) : Instruction → Machine
  | .clear => { m with display := m.display.clear, redraw := true }.advance 2
  | .ret => { m with stack := m.stack.pop, pc := m.stack.top + 2 }
  | .sys _ => m.advance 2
  | .jump address => { m with pc := address }
  | .call address => { m with stack := m.stack.push m.pc, pc := address }
  | .skipByte x value => m.skipIf (m.register x == value)
  | .skipNotByte x value => m.skipIf (m.register x != value)
  | .skipEqual x y => m.skipIf (m.register x == m.register y)
  | .loadByte x value => (m.setRegister x value).advance 2
  | .addByte x value => (m.setRegister x (m.register x + value)).advance 2
  | .arithmetic op x y => (m.compute op x y).advance 2
  | .skipNotEqual x y => m.skipIf (m.register x != m.register y)
  | .loadIndex address => { m with index := address }.advance 2
  | .jumpOffset address => { m with pc := address + (m.register offsetRegister).setWidth 16 }
  | .random x mask =>
    { m.setRegister x (m.random.byte &&& mask) with random := m.random.next }.advance 2
  | .draw x y height => (m.draw x y height).advance 2
  | .skipKey x => m.skipIf (m.keyDown x)
  | .skipNoKey x => m.skipIf (!m.keyDown x)
  | .getDelay x => (m.setRegister x m.delayTimer).advance 2
  | .waitKey x =>
    match m.keypad.lowest? with
    | some key => (m.setRegister x (BitVec.ofNat 8 key.val)).advance 2
    | none => m
  | .setDelay x => { m with delayTimer := m.register x }.advance 2
  | .setSound x => { m with soundTimer := m.register x }.advance 2
  | .addIndex x => { m with index := m.index + (m.register x).setWidth 16 }.advance 2
  | .glyph x =>
    { m with index := BitVec.ofNat 16 (glyphStart + glyphSize * (m.register x).toNat) }.advance 2
  | .decimal x =>
    { m with memory := m.memory.write m.index.toNat (decimalDigits (m.register x)) }.advance 2
  | .store x => { m with memory := m.memory.write m.index.toNat (m.firstRegisters x) }.advance 2
  | .restore x =>
    { m with
      registers := m.restoreRegisters x, index := m.index + BitVec.ofNat 16 (x.val + 1) }.advance 2

/-! ## Outcomes -/

/-- An opcode without an instruction, and where it stood. -/
structure Notice where
  opcode : Opcode
  address : Word
  deriving DecidableEq, Repr

/-- A machine after some instructions, the notices for the host, and the checks
that failed, both in the order in which they came up. -/
structure Outcome where
  machine : Machine
  notices : List Notice := []
  failures : List Failure := []

namespace Outcome

/-- The machine, or the fault that is reported. -/
def result (o : Outcome) : Except Fault Machine :=
  match Failure.reported? o.failures with
  | none => .ok o.machine
  | some f => .error f.fault

/-- Go on from an outcome. -/
def andThen (o : Outcome) (next : Machine → Outcome) : Outcome :=
  let after := next o.machine
  { machine := after.machine
    notices := o.notices ++ after.notices
    failures := o.failures ++ after.failures }

/-- Only an outcome without failures gives a machine. -/
theorem result_eq_ok_iff {o : Outcome} {m : Machine} :
    o.result = .ok m ↔ o.failures = [] ∧ o.machine = m := by
  rw [← Failure.reported?_eq_none_iff, result]
  split <;> simp_all

end Outcome

/-! ## Opcodes -/

namespace Machine

/-- Apply an opcode.  One without an instruction changes nothing, so the
program counter stays on it. -/
def execute (m : Machine) (w : Opcode) : Outcome :=
  match Instruction.decode? w with
  | some instruction =>
    { machine := instruction.perform m, failures := (instruction.failure? m).toList }
  | none => { machine := m, notices := [⟨w, m.pc⟩] }

end Machine

end ChipEight
