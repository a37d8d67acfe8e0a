import ChipEight.Arithmetic
import ChipEight.CallStack
import ChipEight.Display
import ChipEight.Keypad
import ChipEight.Memory
import ChipEight.Random

/-!
# The machine

The whole state of the machine: memory, registers, call stack, timers, keypad,
display, the redraw flag and the key of the random stream.
-/

namespace ChipEight

/-- The state of the machine. -/
structure Machine where
  memory : Memory
  /-- The address of the next instruction. -/
  pc : Word
  /-- The index register `I`. -/
  index : Word
  /-- The registers `V0` to `VF`. -/
  registers : Vector Byte 16
  stack : CallStack
  delayTimer : Byte
  soundTimer : Byte
  keypad : Keypad
  display : Display
  /-- Whether the display was drawn on since the host last painted it. -/
  redraw : Bool
  random : RandomKey
  mode : Mode
  deriving DecidableEq

namespace Machine

/-- The machine when it is switched on. -/
def powerOn (key : RandomKey) (mode : Mode) : Machine where
  memory := Memory.powerOn
  pc := BitVec.ofNat 16 programStart
  index := 0
  registers := Vector.replicate 16 0
  stack := .empty
  delayTimer := 0
  soundTimer := 0
  keypad := .released
  display := .blank
  redraw := false
  random := key
  mode := mode

/-- The value of one register. -/
def register (m : Machine) (x : Register) : Byte := m.registers[x]

/-- Set one register. -/
def setRegister (m : Machine) (x : Register) (value : Byte) : Machine :=
  { m with registers := m.registers.set x value }

theorem register_setRegister (m : Machine) (x : Register) (value : Byte) (r : Register) :
    (m.setRegister x value).register r = if r = x then value else m.register r := by
  simp only [register, setRegister, Fin.getElem_fin, Vector.getElem_set, Fin.ext_iff,
    eq_comm (a := x.val)]

/-- Move the program counter, modulo `2 ^ 16`. -/
def advance (m : Machine) (amount : Word) : Machine := { m with pc := m.pc + amount }

/-- A timer one cycle later; it stops at zero. -/
def countDown (timer : Byte) : Byte := if timer = 0 then 0 else timer - 1

/-- Both timers one cycle later. -/
def tick (m : Machine) : Machine :=
  { m with delayTimer := countDown m.delayTimer, soundTimer := countDown m.soundTimer }

/-- Whether the host should sound the tone. -/
def soundActive (m : Machine) : Bool := 0 < m.soundTimer

/-- The host has painted the display. -/
def acknowledge (m : Machine) : Machine := { m with redraw := false }

/-- Latch one key. -/
def latch (m : Machine) (key : Fin 16) (pressed : Bool) : Machine :=
  { m with keypad := m.keypad.latch key pressed }

/-- Latch all keys. -/
def latchAll (m : Machine) (keys : Keypad) : Machine := { m with keypad := keys }

end Machine

end ChipEight
