import ChipEight.Word

/-!
# The instruction table

The thirty-five operations of the machine, each with the mask and the pattern
that recognise its opcodes.  An opcode belongs to an entry when its masked bits
equal the pattern, and the first entry of the table that accepts it wins.

* `Operation.entry` — label, mnemonic, mask and pattern of an operation;
* `Operation.all` — the operations in table order;
* `Operation.ofOpcode?` and `Operation.position` — the first match of a word;
* `Entry.ofInt` — the first match of an integer of any size and sign, read in
  two's complement.
-/

namespace ChipEight

/-! ## Operations and their entries -/

/-- The operations on two registers, opcodes `8xyk`. -/
inductive Arithmetic where
  | set
  | or
  | and
  | xor
  | add
  | sub
  | shr
  | subn
  | shl
  deriving DecidableEq, Repr

/-- What an opcode tells the machine to do, operands left out. -/
inductive Operation where
  | clear
  | ret
  | sys
  | jump
  | call
  | skipByte
  | skipNotByte
  | skipEqual
  | loadByte
  | addByte
  | arithmetic (op : Arithmetic)
  | skipNotEqual
  | loadIndex
  | jumpOffset
  | random
  | draw
  | skipKey
  | skipNoKey
  | getDelay
  | waitKey
  | setDelay
  | setSound
  | addIndex
  | glyph
  | decimal
  | store
  | restore
  deriving DecidableEq, Repr

/-- One line of the instruction table. -/
structure Entry where
  /-- The entry's name in the table. -/
  label : String
  /-- The assembly text, with operand names in place of operands. -/
  mnemonic : String
  /-- The bits of an opcode that count. -/
  mask : Word
  /-- The value that those bits must have. -/
  pattern : Word
  deriving DecidableEq, Repr

/-- The table line of an arithmetic operation. -/
def Arithmetic.entry : Arithmetic → Entry
  | .set => ⟨"LD_VX_VY", "LD Vx, Vy", 0xF00F, 0x8000⟩
  | .or => ⟨"OR_VX_VY", "OR Vx, Vy", 0xF00F, 0x8001⟩
  | .and => ⟨"AND_VX_VY", "AND Vx, Vy", 0xF00F, 0x8002⟩
  | .xor => ⟨"XOR_VX_VY", "XOR Vx, Vy", 0xF00F, 0x8003⟩
  | .add => ⟨"ADD_VX_VY", "ADD Vx, Vy", 0xF00F, 0x8004⟩
  | .sub => ⟨"SUB_VX_VY", "SUB Vx, Vy", 0xF00F, 0x8005⟩
  | .shr => ⟨"SHR_VX", "SHR Vx \x7b, Vy\x7d", 0xF00F, 0x8006⟩
  | .subn => ⟨"SUBN_VX_VY", "SUBN Vx, Vy", 0xF00F, 0x8007⟩
  | .shl => ⟨"SHL_VX", "SHL Vx \x7b, Vy\x7d", 0xF00F, 0x800E⟩

namespace Operation

/-- The table line of an operation. -/
def entry : Operation → Entry
  | .clear => ⟨"CLS", "CLS", 0xFFFF, 0x00E0⟩
  | .ret => ⟨"RET", "RET", 0xFFFF, 0x00EE⟩
  | .sys => ⟨"SYS_ADDR", "SYS addr", 0xF000, 0x0000⟩
  | .jump => ⟨"JP_ADDR", "JP addr", 0xF000, 0x1000⟩
  | .call => ⟨"CALL_ADDR", "CALL addr", 0xF000, 0x2000⟩
  | .skipByte => ⟨"SE_VX_BYTE", "SE Vx, byte", 0xF000, 0x3000⟩
  | .skipNotByte => ⟨"SNE_VX_BYTE", "SNE Vx, byte", 0xF000, 0x4000⟩
  | .skipEqual => ⟨"SE_VX_VY", "SE Vx, Vy", 0xF000, 0x5000⟩
  | .loadByte => ⟨"LD_VX_BYTE", "LD Vx, byte", 0xF000, 0x6000⟩
  | .addByte => ⟨"ADD_VX_BYTE", "ADD Vx, byte", 0xF000, 0x7000⟩
  | .arithmetic op => op.entry
  | .skipNotEqual => ⟨"SNE_VX_VY", "SNE Vx, Vy", 0xF000, 0x9000⟩
  | .loadIndex => ⟨"LD_I_ADDR", "LD I, addr", 0xF000, 0xA000⟩
  | .jumpOffset => ⟨"JP_V0_ADDR", "JP V0, addr", 0xF000, 0xB000⟩
  | .random => ⟨"RND_VX_BYTE", "RND Vx, byte", 0xF000, 0xC000⟩
  | .draw => ⟨"DRW_VX_VY_N", "DRW Vx, Vy, nibble", 0xF000, 0xD000⟩
  | .skipKey => ⟨"SKP_VX", "SKP Vx", 0xF0FF, 0xE09E⟩
  | .skipNoKey => ⟨"SKNP_VX", "SKNP Vx", 0xF0FF, 0xE0A1⟩
  | .getDelay => ⟨"LD_VX_DT", "LD Vx, DT", 0xF0FF, 0xF007⟩
  | .waitKey => ⟨"LD_VX_K", "LD Vx, K", 0xF0FF, 0xF00A⟩
  | .setDelay => ⟨"LD_DT_VX", "LD DT, Vx", 0xF0FF, 0xF015⟩
  | .setSound => ⟨"LD_ST_VX", "LD ST, Vx", 0xF0FF, 0xF018⟩
  | .addIndex => ⟨"ADD_I_VX", "ADD I, Vx", 0xF0FF, 0xF01E⟩
  | .glyph => ⟨"LD_F_VX", "LD F, Vx", 0xF0FF, 0xF029⟩
  | .decimal => ⟨"LD_B_VX", "LD B, Vx", 0xF0FF, 0xF033⟩
  | .store => ⟨"LD_MEM_I_VX", "LD [I], Vx", 0xF0FF, 0xF055⟩
  | .restore => ⟨"LD_VX_MEM_I", "LD Vx, [I]", 0xF0FF, 0xF065⟩

/-- The operations in table order. -/
def all : List Operation :=
  [.clear, .ret, .sys, .jump, .call, .skipByte, .skipNotByte, .skipEqual, .loadByte, .addByte,
    .arithmetic .set, .arithmetic .or, .arithmetic .and, .arithmetic .xor, .arithmetic .add,
    .arithmetic .sub, .arithmetic .shr, .arithmetic .subn, .arithmetic .shl,
    .skipNotEqual, .loadIndex, .jumpOffset, .random, .draw, .skipKey, .skipNoKey,
    .getDelay, .waitKey, .setDelay, .setSound, .addIndex, .glyph, .decimal, .store, .restore]

/-- Every operation has a line in the table. -/
theorem mem_all (op : Operation) : op ∈ all := by
  cases op with
  | arithmetic op => cases op <;> decide
  | _ => decide

end Operation

/-! ## First match on words -/

namespace Entry

/-- The whole table. -/
def table : List Entry := Operation.all.map Operation.entry

/-- The line shown for a word that no entry accepts. -/
def unknown : Entry := ⟨"UNKNOWN", "UNKNOWN", 0xFFFF, 0xFFFF⟩

/-- Whether the masked bits of a word equal the pattern. -/
def accepts (e : Entry) (w : Opcode) : Bool := w &&& e.mask == e.pattern

end Entry

namespace Operation

/-- The first operation whose entry accepts the word. -/
def ofOpcode? (w : Opcode) : Option Operation := all.find? (·.entry.accepts w)

/-- The place in the table of the first entry that accepts the word, and the
length of the table when none does. -/
def position (w : Opcode) : Nat := all.findIdx (·.entry.accepts w)

/-- The position of a word that no entry accepts. -/
def unknownPosition : Nat := all.length

end Operation

/-! ## First match on integers -/

/-- The bits of `k` that `mask` selects.  A negative integer is read in two's
complement: the bits of `-(m + 1)` are those of `m`, each one inverted. -/
def selectBits (k : Int) (mask : Nat) : Nat :=
  match k with
  | .ofNat m => m &&& mask
  | .negSucc m => mask ^^^ (m &&& mask)

namespace Entry

/-- Whether the masked bits of an integer equal the pattern. -/
def acceptsInt (e : Entry) (k : Int) : Bool := selectBits k e.mask.toNat == e.pattern.toNat

/-- The first entry that accepts an integer, `unknown` when there is none. -/
def ofInt (k : Int) : Entry := (table.find? (·.acceptsInt k)).getD unknown

/-- The assembly text of an opcode, operands not filled in. -/
def disassemble (k : Int) : String := (ofInt k).mnemonic

end Entry

end ChipEight
