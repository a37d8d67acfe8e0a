import ChipEight.Operation

/-!
# Register arithmetic

The nine `8xyk` operations as functions on signed 32-bit integers.  On the
machine they are applied to bytes; as functions they are defined for every pair
of integers and wrap at 32 bits.

The flag is computed before any wrapping of the result to a byte, and an
operation without a flag leaves `VF` alone.
-/

namespace ChipEight

/-- Which way `SHR` shifts: `canonical` to the right, `transcribed` to the left.
Nothing else depends on the mode. -/
inductive Mode where
  | canonical
  | transcribed
  deriving DecidableEq, Repr

/-- The value of an arithmetic operation, and its flag if it has one. -/
structure Arithmetic.Result where
  value : Int32
  flag : Option Int32 := none
  deriving DecidableEq

namespace Arithmetic

/-- The value modulo 256. -/
def lowByte (v : Int32) : Int32 := v &&& 0xFF

/-- The flag that tells whether a condition holds. -/
def indicator (p : Prop) [Decidable p] : Int32 := if p then 1 else 0

/-- Shift left by one, to a byte. -/
def double (a : Int32) : Int32 := lowByte (a <<< 1)

/-- The operation on the values `a` of `Vx` and `b` of `Vy`.

The carry of `add` is read off before the addition, as `b > 255 - a`.  Both
subtractions compute `a - b` and differ in the sense of the flag.  The flag of
`shl` is the high bit in place, `0x80`, and not `1`. -/
def apply (mode : Mode) : Arithmetic → Int32 → Int32 → Result
  | .set, _, b => { value := b }
  | .or, a, b => { value := a ||| b }
  | .and, a, b => { value := a &&& b }
  | .xor, a, b => { value := a ^^^ b }
  | .add, a, b => { value := lowByte (a + b), flag := indicator (b > 255 - a) }
  | .sub, a, b => { value := lowByte (a - b), flag := indicator (a > b) }
  | .shr, a, _ =>
    match mode with
    | .canonical => { value := a >>> 1, flag := some (a &&& 1) }
    | .transcribed => { value := double a, flag := some (a &&& 1) }
  | .subn, a, b => { value := lowByte (a - b), flag := indicator (¬ a > b) }
  | .shl, a, _ => { value := double a, flag := some (a &&& 0x80) }

end Arithmetic

end ChipEight
