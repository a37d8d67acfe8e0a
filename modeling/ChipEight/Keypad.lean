import ChipEight.Word

/-!
# The keypad

Sixteen keys, each up or down.  A host latches one key, or all of them at once
from a buffer.  A buffer may have any shape; only a flat one with sixteen
entries is accepted.
-/

namespace ChipEight

/-- Which keys are down, indexed by key. -/
abbrev Keypad := Vector Bool 16

namespace Keypad

/-- No key down. -/
def released : Keypad := Vector.replicate 16 false

/-- Latch one key. -/
def latch (k : Keypad) (key : Fin 16) (pressed : Bool) : Keypad := k.set key pressed

/-- The lowest key that is down. -/
def lowest? (k : Keypad) : Option (Fin 16) := (List.finRange 16).find? fun i => k[i]

theorem lowest?_eq_none_iff {k : Keypad} : k.lowest? = none ↔ k = released := by
  rw [lowest?, List.find?_eq_none]
  constructor
  · intro h
    apply Vector.ext
    intro i hi
    simpa [released] using h ⟨i, hi⟩ (List.mem_finRange _)
  · rintro rfl
    simp [released]

end Keypad

/-- What a host may say of a key. -/
inductive KeyValue where
  | bool (b : Bool)
  | int (n : Int)
  | null
  deriving DecidableEq, Repr

/-- Whether that means that the key is down: any number but zero does, and no value at all does
not. -/
def KeyValue.pressed : KeyValue → Bool
  | .bool b => b
  | .int n => n != 0
  | .null => false

/-- Latches for the keypad: one entry, or a row of smaller buffers. -/
inductive KeyBuffer where
  | entry (pressed : Bool)
  | row (items : List KeyBuffer)

namespace KeyBuffer

/-- The lengths of a buffer along its axes, measured on the first items. -/
def shape : KeyBuffer → List Nat
  | .entry _ => []
  | .row [] => [0]
  | .row (b :: bs) => (bs.length + 1) :: b.shape

/-- The entry itself, if the buffer is one. -/
def pressed? : KeyBuffer → Option Bool
  | .entry pressed => some pressed
  | .row _ => none

/-- The keypad of a flat buffer with sixteen entries. -/
def keypad? : KeyBuffer → Option Keypad
  | .entry _ => none
  | .row items => do
    let entries ← items.mapM pressed?
    if h : entries.length = 16 then some ⟨entries.toArray, by simp [h]⟩ else none

end KeyBuffer

end ChipEight
