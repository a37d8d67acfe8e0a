import ChipEight.Fault

/-!
# Memory

The 4096 cells of memory.  Reading past the end gives zero and writing past the
end does nothing; `Memory.rangeFault?` tells whether a whole range lies inside.

* `Memory.read` and `Memory.write` — runs of consecutive cells; `cell_write`
  says which cell holds what after a write;
* `Memory.powerOn` — all zero except for the glyphs of the sixteen hexadecimal
  digits at `0x050`.
-/

namespace ChipEight

/-- The contents of memory. -/
abbrev Memory := Vector Byte 4096

/-- Where programs are loaded and where execution starts. -/
def programStart : Nat := 0x200

/-- Where the glyphs of the hexadecimal digits stand. -/
def glyphStart : Nat := 0x050

/-- The number of bytes of a glyph, one for each of its rows. -/
def glyphSize : Nat := 5

/-- The glyphs of the digits `0` to `F`. -/
def glyphs : List Byte :=
  [0xF0, 0x90, 0x90, 0x90, 0xF0,
    0x20, 0x60, 0x20, 0x20, 0x70,
    0xF0, 0x10, 0xF0, 0x80, 0xF0,
    0xF0, 0x10, 0xF0, 0x10, 0xF0,
    0x90, 0x90, 0xF0, 0x10, 0x10,
    0xF0, 0x80, 0xF0, 0x10, 0xF0,
    0xF0, 0x80, 0xF0, 0x90, 0xF0,
    0xF0, 0x10, 0x20, 0x40, 0x40,
    0xF0, 0x90, 0xF0, 0x90, 0xF0,
    0xF0, 0x90, 0xF0, 0x10, 0xF0,
    0xF0, 0x90, 0xF0, 0x90, 0x90,
    0xE0, 0x90, 0xE0, 0x90, 0xE0,
    0xF0, 0x80, 0x80, 0x80, 0xF0,
    0xE0, 0x90, 0x90, 0x90, 0xE0,
    0xF0, 0x80, 0xF0, 0x80, 0xF0,
    0xF0, 0x80, 0xF0, 0x80, 0x80]

namespace Memory

/-! ## Cells and runs of cells -/

/-- The cell at an address, zero past the end. -/
def cell (m : Memory) (address : Nat) : Byte := m[address]?.getD 0

/-- Change one cell, if there is one at this address. -/
def setCell (m : Memory) (address : Nat) (value : Byte) : Memory :=
  m.setIfInBounds address value

/-- The `length` cells from `start` on. -/
def read (m : Memory) (start length : Nat) : List Byte :=
  (List.range length).map fun i => m.cell (start + i)

/-- Write consecutive cells from `start` on. -/
def write (m : Memory) (start : Nat) : List Byte → Memory
  | [] => m
  | b :: bs => write (m.setCell start b) (start + 1) bs

/-- What is wrong with an access to `length` bytes at `start`: nothing if all of
them lie in memory.  A range of no bytes may start at the very end. -/
def rangeFault? (start length : Nat) : Option Fault :=
  if start + length ≤ 4096 then none else some (.outOfRange length start)

/-- Memory when the machine is switched on. -/
def powerOn : Memory := write (Vector.replicate 4096 0) glyphStart glyphs

/-! ## Reading back -/

/-- Memories with the same cells are equal. -/
theorem ext_cell {m m' : Memory} (h : ∀ i < 4096, m.cell i = m'.cell i) : m = m' := by
  apply Vector.ext
  intro i hi
  simpa [cell, hi] using h i hi

theorem cell_setCell (m : Memory) (a : Nat) (b : Byte) (i : Nat) :
    (m.setCell a b).cell i = if i = a ∧ a < 4096 then b else m.cell i := by
  simp only [cell, setCell, Vector.getElem?_setIfInBounds]
  grind

/-- After a write, the cells of the range hold the bytes and all others are as
before. -/
theorem cell_write (m : Memory) (start : Nat) (bytes : List Byte) (i : Nat) :
    (m.write start bytes).cell i =
      if start ≤ i ∧ i < 4096 then (bytes[i - start]?).getD (m.cell i) else m.cell i := by
  induction bytes generalizing m start with
  | nil => simp [write]
  | cons b bs ih =>
    rw [write, ih, cell_setCell]
    grind

/-- A write leaves room for a change to any cell that is not in its range, before it
or after it. -/
theorem write_setCell (m : Memory) {start a : Nat} {bytes : List Byte} (b : Byte)
    (h : a < start ∨ start + bytes.length ≤ a) :
    (m.setCell a b).write start bytes = (m.write start bytes).setCell a b := by
  apply ext_cell
  intro i hi
  rw [cell_write, cell_setCell, cell_setCell, cell_write]
  by_cases hia : i = a
  · by_cases hstart : start ≤ i
    · have hpast : bytes[i - start]? = none := List.getElem?_eq_none (by omega)
      simp [hpast]
    · simp [hstart]
  · simp [hia]

@[simp] theorem length_read (m : Memory) (start length : Nat) :
    (m.read start length).length = length := by
  simp [read]

theorem rangeFault?_eq_none_iff {start length : Nat} :
    rangeFault? start length = none ↔ start + length ≤ 4096 := by
  simp [rangeFault?]

theorem rangeFault?_eq_some_iff {start length : Nat} {f : Fault} :
    rangeFault? start length = some f ↔ 4096 < start + length ∧ f = .outOfRange length start := by
  unfold rangeFault?
  grind

end Memory

end ChipEight
