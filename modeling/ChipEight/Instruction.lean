import ChipEight.Operation

/-!
# Instructions

An instruction is an operation together with exactly the operands that it uses.
`Instruction.decode?` reads one from an opcode by the instruction table; a word
that no entry accepts has no instruction.
-/

namespace ChipEight

/-- An operation with its operands. -/
inductive Instruction where
  /-- Blank the display. -/
  | clear
  /-- Return from a subroutine. -/
  | ret
  /-- A call into machine code, which this machine passes over. -/
  | sys (address : Word)
  /-- Go on at `address`. -/
  | jump (address : Word)
  /-- Call the subroutine at `address`. -/
  | call (address : Word)
  /-- Skip when `Vx` is `value`. -/
  | skipByte (x : Register) (value : Byte)
  /-- Skip when `Vx` is not `value`. -/
  | skipNotByte (x : Register) (value : Byte)
  /-- Skip when `Vx` and `Vy` are equal. -/
  | skipEqual (x y : Register)
  /-- Set `Vx` to `value`. -/
  | loadByte (x : Register) (value : Byte)
  /-- Add `value` to `Vx`; the flag stays as it is. -/
  | addByte (x : Register) (value : Byte)
  /-- Combine `Vx` and `Vy` into `Vx`. -/
  | arithmetic (op : Arithmetic) (x y : Register)
  /-- Skip when `Vx` and `Vy` differ. -/
  | skipNotEqual (x y : Register)
  /-- Point `I` at `address`. -/
  | loadIndex (address : Word)
  /-- Go on at `address + V0`. -/
  | jumpOffset (address : Word)
  /-- Set `Vx` to a random byte, masked by `mask`. -/
  | random (x : Register) (mask : Byte)
  /-- Draw the sprite of `height` rows at `I` to the place `(Vx, Vy)`. -/
  | draw (x y : Register) (height : Fin 16)
  /-- Skip when the key named by `Vx` is down. -/
  | skipKey (x : Register)
  /-- Skip when the key named by `Vx` is up. -/
  | skipNoKey (x : Register)
  /-- Set `Vx` to the delay timer. -/
  | getDelay (x : Register)
  /-- Wait for a key and put it into `Vx`. -/
  | waitKey (x : Register)
  /-- Set the delay timer to `Vx`. -/
  | setDelay (x : Register)
  /-- Set the sound timer to `Vx`. -/
  | setSound (x : Register)
  /-- Add `Vx` to `I`. -/
  | addIndex (x : Register)
  /-- Point `I` at the glyph of the digit in `Vx`. -/
  | glyph (x : Register)
  /-- Write the three decimal digits of `Vx` to memory at `I`. -/
  | decimal (x : Register)
  /-- Write `V0` to `Vx` to memory at `I`. -/
  | store (x : Register)
  /-- Read `V0` to `Vx` from memory at `I`, and move `I` past them. -/
  | restore (x : Register)
  deriving DecidableEq, Repr

/-- The instruction with this operation and the operand fields of `w`. -/
def Operation.withOperands (w : Opcode) : Operation → Instruction
  | .clear => .clear
  | .ret => .ret
  | .sys => .sys (Opcode.nnn w)
  | .jump => .jump (Opcode.nnn w)
  | .call => .call (Opcode.nnn w)
  | .skipByte => .skipByte (Opcode.x w) (Opcode.nn w)
  | .skipNotByte => .skipNotByte (Opcode.x w) (Opcode.nn w)
  | .skipEqual => .skipEqual (Opcode.x w) (Opcode.y w)
  | .loadByte => .loadByte (Opcode.x w) (Opcode.nn w)
  | .addByte => .addByte (Opcode.x w) (Opcode.nn w)
  | .arithmetic op => .arithmetic op (Opcode.x w) (Opcode.y w)
  | .skipNotEqual => .skipNotEqual (Opcode.x w) (Opcode.y w)
  | .loadIndex => .loadIndex (Opcode.nnn w)
  | .jumpOffset => .jumpOffset (Opcode.nnn w)
  | .random => .random (Opcode.x w) (Opcode.nn w)
  | .draw => .draw (Opcode.x w) (Opcode.y w) (Opcode.n w)
  | .skipKey => .skipKey (Opcode.x w)
  | .skipNoKey => .skipNoKey (Opcode.x w)
  | .getDelay => .getDelay (Opcode.x w)
  | .waitKey => .waitKey (Opcode.x w)
  | .setDelay => .setDelay (Opcode.x w)
  | .setSound => .setSound (Opcode.x w)
  | .addIndex => .addIndex (Opcode.x w)
  | .glyph => .glyph (Opcode.x w)
  | .decimal => .decimal (Opcode.x w)
  | .store => .store (Opcode.x w)
  | .restore => .restore (Opcode.x w)

namespace Instruction

/-- The operation of an instruction. -/
def operation : Instruction → Operation
  | .clear => .clear
  | .ret => .ret
  | .sys _ => .sys
  | .jump _ => .jump
  | .call _ => .call
  | .skipByte _ _ => .skipByte
  | .skipNotByte _ _ => .skipNotByte
  | .skipEqual _ _ => .skipEqual
  | .loadByte _ _ => .loadByte
  | .addByte _ _ => .addByte
  | .arithmetic op _ _ => .arithmetic op
  | .skipNotEqual _ _ => .skipNotEqual
  | .loadIndex _ => .loadIndex
  | .jumpOffset _ => .jumpOffset
  | .random _ _ => .random
  | .draw _ _ _ => .draw
  | .skipKey _ => .skipKey
  | .skipNoKey _ => .skipNoKey
  | .getDelay _ => .getDelay
  | .waitKey _ => .waitKey
  | .setDelay _ => .setDelay
  | .setSound _ => .setSound
  | .addIndex _ => .addIndex
  | .glyph _ => .glyph
  | .decimal _ => .decimal
  | .store _ => .store
  | .restore _ => .restore

@[simp] theorem operation_withOperands (w : Opcode) (op : Operation) :
    (op.withOperands w).operation = op := by
  cases op <;> rfl

/-- The instruction of an opcode, `none` when no table entry accepts it. -/
def decode? (w : Opcode) : Option Instruction := (Operation.ofOpcode? w).map (·.withOperands w)

/-- Decoding keeps the operation that the table gives. -/
theorem map_operation_decode? (w : Opcode) :
    (decode? w).map operation = Operation.ofOpcode? w := by
  simp [decode?, Option.map_map, Function.comp_def]

end Instruction

end ChipEight
