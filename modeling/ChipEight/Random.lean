import ChipEight.Word

/-!
# Random bytes

The stream of random bytes comes from the block cipher Threefry-2x32 with
twenty rounds.  A key is two 32-bit words; drawing a byte replaces the key by a
successor that depends on nothing but the key.

* `RandomKey.block` — the cipher;
* `RandomKey.next` and `RandomKey.byte` — the successor key and the byte that
  goes with it.
-/

namespace ChipEight

/-- A key of the random stream. -/
structure RandomKey where
  high : UInt32
  low : UInt32
  deriving DecidableEq, Repr

namespace RandomKey

/-! ## The block cipher -/

/-- Rotate a word to the left by `r` bits, for `0 < r < 32`. -/
def rotateLeft (v r : UInt32) : UInt32 := (v <<< r) ||| (v >>> (32 - r))

/-- One round: add, rotate, exclude. -/
def mix (x : UInt32 × UInt32) (r : UInt32) : UInt32 × UInt32 :=
  (x.1 + x.2, rotateLeft x.2 r ^^^ (x.1 + x.2))

/-- The rotations of the even groups of four rounds. -/
def evenRotations : List UInt32 := [13, 15, 26, 6]

/-- The rotations of the odd groups of four rounds. -/
def oddRotations : List UInt32 := [17, 29, 16, 24]

/-- The third word of the key schedule. -/
def parity (k : RandomKey) : UInt32 := k.high ^^^ k.low ^^^ 0x1BD11BDA

/-- Word `i` of the key schedule, which repeats after three words. -/
def schedule (k : RandomKey) (i : Nat) : UInt32 :=
  match i % 3 with
  | 0 => k.high
  | 1 => k.low
  | _ => k.parity

/-- Group `i` of four rounds, followed by the injection of the key. -/
def fourRounds (k : RandomKey) (x : UInt32 × UInt32) (i : Nat) : UInt32 × UInt32 :=
  let y := (if i % 2 = 0 then evenRotations else oddRotations).foldl mix x
  (y.1 + k.schedule (i + 1), y.2 + k.schedule (i + 2) + UInt32.ofNat (i + 1))

/-- The cipher applied to the two counter words. -/
def block (k : RandomKey) (c₀ c₁ : UInt32) : RandomKey :=
  let y := (List.range 5).foldl k.fourRounds (c₀ + k.high, c₁ + k.low)
  ⟨y.1, y.2⟩

/-! ## The stream -/

/-- The key after a draw. -/
def next (k : RandomKey) : RandomKey := k.block 0 0

/-- The byte that a draw gives. -/
def byte (k : RandomKey) : Byte :=
  let bits := ((k.block 0 1).block 0 1).block 0 0
  BitVec.setWidth 8 (bits.high ^^^ bits.low).toBitVec

/-- The key of a seed, which is counted modulo `2 ^ 32`.  Seeds outside the
signed 64-bit range have none. -/
def ofSeed? (seed : Int) : Option RandomKey :=
  if -0x8000000000000000 ≤ seed ∧ seed < 0x8000000000000000 then
    some ⟨0, UInt32.ofNat (seed % 0x100000000).toNat⟩
  else
    none

end RandomKey

end ChipEight
