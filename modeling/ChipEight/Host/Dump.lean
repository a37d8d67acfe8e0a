import ChipEight.Host.Refusal
import ChipEight.Machine.Execute
import ChipEight.Text.Hex

/-!
# Dumps and listings

Memory and display as text, for people to read.

* `Memory.dump` — all cells, two hexadecimal digits each, in lines of a width;
* `Display.dump` — one glyph for each pixel, a line for each row;
* `Memory.listing` — consecutive opcodes with their mnemonics.
-/

namespace ChipEight

/-- A list cut into pieces of `width` items, the last one possibly shorter. -/
def pieces {α : Type} (width : Nat) (items : List α) : List (List α) :=
  if _ : items = [] ∨ width = 0 then []
  else items.take width :: pieces width (items.drop width)
termination_by items.length
decreasing_by
  have : 0 < items.length := List.length_pos_iff.mpr (by simp_all)
  rw [List.length_drop]
  omega

/-- Lines put together, a line break between any two. -/
def joinLines (lines : List (List Char)) : List Char := ['\n'].intercalate lines

/-! ## Dumps -/

/-- The cells in hexadecimal, `width` to a line and with spaces between. -/
def Memory.dump (m : Memory) (width : Nat) : List Char :=
  joinLines ((pieces width (m.toList.map Text.Hex.byte)).map fun line => [' '].intercalate line)

/-- A dump with lines of any width.  There are no lines of negative width. -/
def Memory.dump? (m : Memory) (width : Int) : Except Refusal (List Char) :=
  if width = 0 then .error .emptyLines else .ok (m.dump width.toNat)

/-- The pixels as text, with one text for lit and one for dark pixels. -/
def Display.dump (d : Display) (on off : List Char) : List Char :=
  joinLines (d.rows.map fun row => row.flatMap fun lit => if lit then on else off)

/-- How a lit pixel is shown unless the host says otherwise. -/
def Display.onGlyph : List Char := ['■']

/-- How a dark pixel is shown unless the host says otherwise. -/
def Display.offGlyph : List Char := ['□']

/-! ## Listings -/

/-- The cell at a signed address.  Negative addresses count from the end. -/
def Memory.signedCell (m : Memory) (address : Int) : Except Refusal Byte :=
  if -4096 ≤ address ∧ address < 4096 then
    .ok (m.cell (address % 4096).toNat)
  else
    .error (.noSuchCell address)

/-- One line of a listing. -/
def listingLine (address : Int) (opcode : Opcode) : List Char :=
  Text.Hex.signed 3 address ++ ": ".toList ++ Text.Hex.padded 4 opcode.toNat ++ "  ".toList
    ++ (Entry.disassemble opcode.toNat).toList

/-- The lines of `count` consecutive opcodes. -/
def Memory.listingLines (m : Memory) : Nat → Int → Except Refusal (List (List Char))
  | 0, _ => .ok []
  | count + 1, address => do
    let high ← m.signedCell address
    let low ← m.signedCell (address + 1)
    let rest ← m.listingLines count (address + 2)
    return listingLine address (high ++ low) :: rest

/-- The listing of `length` cells from `start` on.  An odd cell at the end is
left out. -/
def Memory.listing (m : Memory) (length start : Int) : Except Refusal (List (List Char)) :=
  m.listingLines (length / 2).toNat start

end ChipEight
