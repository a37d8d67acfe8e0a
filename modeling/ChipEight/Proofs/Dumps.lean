import ChipEight.Host.Dump
import ChipEight.Proofs.HexText
import Mathlib.Data.List.Basic

/-!
# Dumps read back

A dump is text for people, and still loses nothing: whoever cuts it at the characters between
the cells has the cells again.

What is proved here:

* **pieces** — `flatten_pieces`, `length_pieces`, `length_of_mem_dropLast_pieces`: the items of a
  list in lines of a width, of which only the last may be shorter, and `getElem?_pieces`: the items
  in one of them;
* **separators** — `splitOnP_intercalate`: text that was put together by a separator is cut at
  least there;
* **memory** — `splitOn_dump` and `splitOn_line`: the lines of a dump, and the cells of a line;
  `getElem?_splitOn_dump`: which cells these are; `splitOnP_dump` and `cellsOfDump?_dump`: all cells
  at once, and their values;
* **the display** — `splitOn_dump` and `getElem?_splitOn_dump`: the lines of a dump, and where the
  glyph of a pixel stands in them; `getElem?_rows` and `getElem?_pixels`: where the pixel stands;
* **the whole** — `dumps_lose_nothing`.
-/

namespace ChipEight

/-! ## Pieces -/

section

variable {α : Type} {width : Nat}

theorem pieces_nil : pieces width ([] : List α) = [] := by
  simp [pieces]

theorem pieces_of_ne_nil {items : List α} (hwidth : 0 < width) (hitems : items ≠ []) :
    pieces width items = items.take width :: pieces width (items.drop width) := by
  rw [pieces, dif_neg]
  rintro (hnil | hzero)
  · exact hitems hnil
  · omega

/-- **Pieces** put together again. -/
theorem flatten_pieces (hwidth : 0 < width) (items : List α) :
    (pieces width items).flatten = items := by
  fun_induction pieces width items with
  | case1 items h =>
    rcases h with hnil | hzero
    · exact hnil.symm
    · omega
  | case2 items h ih => rw [List.flatten_cons, ih, List.take_append_drop]

/-- There is a piece for every `width` items and one for what is left. -/
theorem length_pieces (hwidth : 0 < width) (items : List α) :
    (pieces width items).length = (items.length + width - 1) / width := by
  fun_induction pieces width items with
  | case1 items h =>
    obtain rfl : items = [] := h.resolve_right (by omega)
    exact (Nat.div_eq_of_lt (by simp; omega)).symm
  | case2 items h ih =>
    have hpos : 0 < items.length := List.length_pos_iff.2 fun hnil => h (.inl hnil)
    rw [List.length_cons, ih, List.length_drop]
    by_cases hshort : items.length ≤ width
    · have hrest : (items.length - width + width - 1) / width = 0 := Nat.div_eq_of_lt (by omega)
      rw [hrest, show items.length + width - 1 = items.length - 1 + width by omega,
        Nat.add_div_right _ hwidth, Nat.div_eq_of_lt (by omega)]
    · rw [show items.length + width - 1 = items.length - width + width - 1 + width by omega,
        Nat.add_div_right _ hwidth]

/-- **Pieces** start at the multiples of the width. -/
theorem getElem?_pieces (hwidth : 0 < width) {items : List α} {i : Nat}
    (h : width * i < items.length) :
    (pieces width items)[i]? = some ((items.drop (width * i)).take width) := by
  induction i generalizing items with
  | zero =>
    have hitems : items ≠ [] := List.length_pos_iff.1 (by omega)
    rw [pieces_of_ne_nil hwidth hitems]
    rfl
  | succ i ih =>
    rw [Nat.mul_succ] at h
    have hitems : items ≠ [] := List.length_pos_iff.1 (by omega)
    have hrest : width * i < (items.drop width).length := by
      rw [List.length_drop]
      omega
    rw [pieces_of_ne_nil hwidth hitems, List.getElem?_cons_succ, ih hrest, List.drop_drop,
      Nat.mul_succ, Nat.add_comm]

theorem ne_nil_of_mem_pieces (hwidth : 0 < width) {items piece : List α}
    (h : piece ∈ pieces width items) : piece ≠ [] := by
  fun_induction pieces width items with
  | case1 => cases h
  | case2 items hmore ih =>
    rcases List.mem_cons.1 h with rfl | hlater
    · intro hnil
      rcases List.take_eq_nil_iff.1 hnil with hzero | hitems
      · omega
      · exact hmore (.inl hitems)
    · exact ih hlater

/-- Only the last piece may be short. -/
theorem length_of_mem_dropLast_pieces (hwidth : 0 < width) {items piece : List α}
    (h : piece ∈ (pieces width items).dropLast) : piece.length = width := by
  fun_induction pieces width items with
  | case1 => cases h
  | case2 items hmore ih =>
    by_cases hlast : items.drop width = []
    · rw [hlast, pieces_nil] at h
      cases h
    · have hne : pieces width (items.drop width) ≠ [] := by
        rw [pieces_of_ne_nil hwidth hlast]
        exact List.cons_ne_nil _ _
      rw [List.dropLast_cons_of_ne_nil hne] at h
      rcases List.mem_cons.1 h with rfl | hlater
      · have hlong : 0 < (items.drop width).length := List.length_pos_iff.2 hlast
        rw [List.length_drop] at hlong
        exact List.length_take_of_le (by omega)
      · exact ih hlater

end

/-! ## Separators -/

section

variable {p : Char → Bool} {sep c : Char} {parts : List (List Char)}

/-- **Separators.**  Text that was put together by a separator is cut there, and wherever its
parts are. -/
theorem splitOnP_intercalate (hsep : p sep = true) (h : parts ≠ []) :
    ([sep].intercalate parts).splitOnP p = parts.flatMap fun part => part.splitOnP p := by
  induction parts with
  | nil => exact absurd rfl h
  | cons part rest ih =>
    cases rest with
    | nil => simp
    | cons next rest =>
      rw [List.intercalate_cons_cons, List.append_assoc, List.singleton_append,
        List.splitOnP_append_cons _ _ hsep, ih (List.cons_ne_nil _ _)]
      rfl

/-- What stands between the parts is the separator. -/
theorem mem_intercalate (h : c ∈ [sep].intercalate parts) : c = sep ∨ ∃ part ∈ parts, c ∈ part := by
  induction parts with
  | nil => cases h
  | cons part rest ih =>
    cases rest with
    | nil => exact .inr ⟨part, by simp, by simpa using h⟩
    | cons next rest =>
      rw [List.intercalate_cons_cons, List.mem_append, List.mem_append, List.mem_singleton] at h
      rcases h with (hpart | rfl) | hrest
      · exact .inr ⟨part, by simp, hpart⟩
      · exact .inl rfl
      · rcases ih hrest with rfl | ⟨later, hlater, hc⟩
        · exact .inl rfl
        · exact .inr ⟨later, List.mem_cons_of_mem _ hlater, hc⟩

end

/-! ## Memory -/

namespace Memory

open Text.Hex (byte readByte? readByte?_byte digitValue? isSome_digitValue?_of_mem_byte)

/-- Whether a character stands between the cells of a dump. -/
def separates (c : Char) : Bool := c == '\n' || c == ' '

/-- The cells that are read off a dump. -/
def cellsOfDump? (text : List Char) : Option (List Byte) :=
  (text.splitOnP separates).mapM readByte?

/-- A separator is not a digit. -/
theorem separates_of_mem_byte {b : Byte} {c : Char} (h : c ∈ byte b) : separates c = false := by
  have hdigit := isSome_digitValue?_of_mem_byte h
  cases hsep : separates c with
  | false => rfl
  | true =>
    have hc : c = '\n' ∨ c = ' ' := by simpa [separates] using hsep
    rcases hc with rfl | rfl <;> exact absurd hdigit (by decide)

variable {w : Nat} {m : Memory} {line : List (List Char)}

/-- The cells in hexadecimal, a list of them for each line. -/
def dumpLines (m : Memory) (w : Nat) : List (List (List Char)) := pieces w (m.toList.map byte)

theorem dump_eq (m : Memory) (w : Nat) :
    m.dump w = ['\n'].intercalate ((m.dumpLines w).map fun line => [' '].intercalate line) := rfl

theorem dumpLines_ne_nil (hw : 0 < w) : m.dumpLines w ≠ [] := by
  rw [dumpLines, pieces_of_ne_nil hw (by simp)]
  exact List.cons_ne_nil _ _

theorem exists_byte_of_mem_line (hw : 0 < w) (hline : line ∈ m.dumpLines w) {cell : List Char}
    (hcell : cell ∈ line) : ∃ b, cell = byte b := by
  have hmem : cell ∈ (m.dumpLines w).flatten := List.mem_flatten.2 ⟨line, hline, hcell⟩
  rw [dumpLines, flatten_pieces hw] at hmem
  obtain ⟨b, -, rfl⟩ := List.mem_map.1 hmem
  exact ⟨b, rfl⟩

/-- **Memory**: the lines of a dump. -/
theorem splitOn_dump (hw : 0 < w) (m : Memory) :
    (m.dump w).splitOn '\n' = (m.dumpLines w).map fun line => [' '].intercalate line := by
  rw [dump_eq]
  apply List.splitOn_intercalate
  · intro text htext hnewline
    obtain ⟨line, hline, rfl⟩ := List.mem_map.1 htext
    rcases mem_intercalate hnewline with h | ⟨cell, hcell, h⟩
    · exact absurd h (by decide)
    · obtain ⟨b, rfl⟩ := exists_byte_of_mem_line hw hline hcell
      exact absurd (separates_of_mem_byte h) (by decide)
  · simpa using dumpLines_ne_nil hw

/-- **Memory**: the cells of a line. -/
theorem splitOn_line (hw : 0 < w) (hline : line ∈ m.dumpLines w) :
    ([' '].intercalate line).splitOn ' ' = line := by
  apply List.splitOn_intercalate
  · intro cell hcell hspace
    obtain ⟨b, rfl⟩ := exists_byte_of_mem_line hw hline hcell
    exact absurd (separates_of_mem_byte hspace) (by decide)
  · exact ne_nil_of_mem_pieces hw hline

/-- **Memory**: the cells of a full line are those from a multiple of the width on. -/
theorem getElem?_splitOn_dump (hw : 0 < w) (m : Memory) {i : Nat} (hi : w * (i + 1) ≤ 4096) :
    ((m.dump w).splitOn '\n')[i]? = some ([' '].intercalate ((m.read (w * i) w).map byte)) := by
  rw [Nat.mul_succ] at hi
  have hcells : (m.toList.drop (w * i)).take w = m.read (w * i) w := by
    apply List.ext_getElem
    · simp only [List.length_take, List.length_drop, Vector.length_toList, length_read]
      omega
    · intro k hk _
      simp only [List.length_take, List.length_drop, Vector.length_toList] at hk
      have hcell : w * i + k < 4096 := by omega
      simp [read, cell, hcell]
  rw [splitOn_dump hw, List.getElem?_map, dumpLines, getElem?_pieces hw (by simp; omega),
    ← List.map_drop, ← List.map_take, hcells, Option.map_some]

/-- **Memory**: the cells of all lines at once. -/
theorem splitOnP_dump (hw : 0 < w) (m : Memory) :
    (m.dump w).splitOnP separates = m.toList.map byte := by
  have hcut {line : List (List Char)} (hline : line ∈ m.dumpLines w) :
      ([' '].intercalate line).splitOnP separates = line := by
    rw [splitOnP_intercalate (by decide) (ne_nil_of_mem_pieces hw hline)]
    calc line.flatMap (fun cell => cell.splitOnP separates)
        = line.flatMap (fun cell => [cell]) := by
          refine List.flatMap_congr fun cell hcell => ?_
          obtain ⟨b, rfl⟩ := exists_byte_of_mem_line hw hline hcell
          exact List.splitOnP_eq_singleton fun c hc => separates_of_mem_byte hc
      _ = line := List.flatMap_singleton' line
  rw [dump_eq, splitOnP_intercalate (by decide) (by simpa using dumpLines_ne_nil hw),
    List.flatMap_map]
  calc (m.dumpLines w).flatMap (fun line => ([' '].intercalate line).splitOnP separates)
      = (m.dumpLines w).flatMap id := List.flatMap_congr fun line hline => hcut hline
    _ = m.toList.map byte := by rw [List.flatMap_id, dumpLines, flatten_pieces hw]

theorem mapM_readByte? (bytes : List Byte) : (bytes.map byte).mapM readByte? = some bytes := by
  induction bytes with
  | nil => rfl
  | cons b rest ih =>
    rw [List.map_cons, List.mapM_cons, readByte?_byte, ih]
    rfl

/-- **Memory** is read off its dump. -/
theorem cellsOfDump?_dump (hw : 0 < w) (m : Memory) : cellsOfDump? (m.dump w) = some m.toList := by
  rw [cellsOfDump?, splitOnP_dump hw, mapM_readByte?]

theorem dump_inj (hw : 0 < w) {m m' : Memory} : m.dump w = m'.dump w ↔ m = m' := by
  refine ⟨fun h => ?_, fun h => h ▸ rfl⟩
  have hcells : some m.toList = some m'.toList := by
    rw [← cellsOfDump?_dump hw m, h, cellsOfDump?_dump hw m']
  exact Vector.toList_inj.1 (Option.some.inj hcells)

theorem dump?_of_pos {w : Int} (hw : 1 ≤ w) (m : Memory) : m.dump? w = .ok (m.dump w.toNat) :=
  if_neg (by omega)

end Memory

/-! ## The display -/

namespace Display

variable {on off : Char}

/-- The glyph of a pixel. -/
def glyph (on off : Char) (lit : Bool) : Char := if lit then on else off

/-- Different glyphs tell the pixels apart. -/
theorem glyph_beq (h : on ≠ off) (lit : Bool) : (glyph on off lit == on) = lit := by
  cases lit with
  | true => exact beq_self_eq_true on
  | false => exact beq_eq_false_iff_ne.2 (Ne.symm h)

theorem dump_eq (d : Display) (on off : Char) :
    d.dump [on] [off] = ['\n'].intercalate (d.rows.map fun row => row.map (glyph on off)) := by
  have hrow (row : List Bool) :
      row.flatMap (fun lit => if lit then [on] else [off]) = row.map (glyph on off) := by
    rw [List.map_eq_flatMap]
    refine List.flatMap_congr fun lit _ => ?_
    cases lit <;> rfl
  simp only [dump, joinLines, hrow]

/-- **The display**: the lines of a dump. -/
theorem splitOn_dump (hon : on ≠ '\n') (hoff : off ≠ '\n') (d : Display) :
    (d.dump [on] [off]).splitOn '\n' = d.rows.map fun row => row.map (glyph on off) := by
  rw [dump_eq]
  apply List.splitOn_intercalate
  · intro line hline hnewline
    obtain ⟨row, -, rfl⟩ := List.mem_map.1 hline
    obtain ⟨lit, -, hlit⟩ := List.mem_map.1 hnewline
    cases lit with
    | true => exact hon hlit
    | false => exact hoff hlit
  · simp [rows]

@[simp] theorem length_rows (d : Display) : d.rows.length = 32 := by
  simp [rows]

theorem length_of_mem_rows {d : Display} {row : List Bool} (h : row ∈ d.rows) :
    row.length = 64 := by
  obtain ⟨y, -, rfl⟩ := List.mem_map.1 h
  simp

/-- **The display**: a pixel stands in its row at its column. -/
theorem getElem?_rows (d : Display) (x : Column) (y : Row) :
    (d.rows[y.val]?.bind fun row => row[x.val]?) = some (d.pixel x y) := by
  simp [rows]

/-- **The display**: so does its glyph, in the lines of a dump. -/
theorem getElem?_splitOn_dump (hon : on ≠ '\n') (hoff : off ≠ '\n') (d : Display) (x : Column)
    (y : Row) : (((d.dump [on] [off]).splitOn '\n')[y.val]?.bind fun glyphs => glyphs[x.val]?)
      = some (glyph on off (d.pixel x y)) := by
  have hpixel := d.getElem?_rows x y
  rw [Option.bind_eq_some_iff] at hpixel ⊢
  obtain ⟨row, hrow, hlit⟩ := hpixel
  refine ⟨row.map (glyph on off), ?_, ?_⟩
  · rw [splitOn_dump hon hoff, List.getElem?_map, hrow]
    rfl
  · rw [List.getElem?_map, hlit]
    rfl

/-- The pixels are kept row after row. -/
theorem getElem?_pixels (d : Display) (x : Column) (y : Row) :
    d.pixels[64 * y.val + x.val]? = some (d.pixel x y) :=
  Vector.getElem?_eq_getElem (Cell.at x y).isLt

end Display

/-! ## The whole -/

/-- **Dumps lose nothing.**  A dump of memory in lines of any width has a line for every `w` cells
and one for what is left, all but the last of exactly `w` cells, and cut at line breaks and spaces
it is read back as the 4096 cells in the order of their addresses; so dumps of one width are equal
only for equal memories.  A dump of the display with two different glyphs has 32 lines of 64
glyphs, and the glyph in a column of a line tells whether the pixel there is lit, which is what
the rows of the display and its cells say. -/
theorem dumps_lose_nothing :
    (∀ (m : Memory) (w : Int), 1 ≤ w → ∃ text, m.dump? w = .ok text ∧
      ((text.splitOn '\n').length : Int) = (4096 + w - 1) / w ∧
      (∀ line ∈ (text.splitOn '\n').dropLast, ((line.splitOn ' ').length : Int) = w) ∧
      Memory.cellsOfDump? text = some m.toList) ∧
    (∀ (m m' : Memory) (w : Int), 1 ≤ w → (m.dump? w = m'.dump? w ↔ m = m')) ∧
    ∀ (d : Display) (on off : Char), on ≠ off → on ≠ '\n' → off ≠ '\n' →
      let lines := (d.dump [on] [off]).splitOn '\n'
      lines.length = 32 ∧ (∀ line ∈ lines, line.length = 64) ∧
        ∀ (x : Column) (y : Row), ∃ glyph lit,
          (lines[y.val]?.bind fun glyphs => glyphs[x.val]?) = some glyph ∧
          glyph = (if lit then on else off) ∧ lit = (glyph == on) ∧
          (d.rows[y.val]?.bind fun row => row[x.val]?) = some lit ∧
          d.pixels[64 * y.val + x.val]? = some lit := by
  refine ⟨fun m w hw => ?_, fun m m' w hw => ?_, fun d on off hne hon hoff => ?_⟩
  · have hpos : 0 < w.toNat := by omega
    have hcast : (w.toNat : Int) = w := Int.toNat_of_nonneg (by omega)
    refine ⟨_, Memory.dump?_of_pos hw m, ?_, fun text htext => ?_, Memory.cellsOfDump?_dump hpos m⟩
    · have hlength : ((m.dump w.toNat).splitOn '\n').length = (4096 + w.toNat - 1) / w.toNat := by
        rw [Memory.splitOn_dump hpos, List.length_map, Memory.dumpLines, length_pieces hpos]
        simp
      rw [hlength, Int.natCast_ediv, hcast]
      exact congrArg (· / w) (by omega)
    · rw [Memory.splitOn_dump hpos, ← List.map_dropLast] at htext
      obtain ⟨line, hline, rfl⟩ := List.mem_map.1 htext
      rw [Memory.splitOn_line hpos (List.dropLast_subset _ hline),
        length_of_mem_dropLast_pieces hpos hline, hcast]
  · rw [Memory.dump?_of_pos hw, Memory.dump?_of_pos hw, Except.ok.injEq]
    exact Memory.dump_inj (by omega)
  · intro lines
    have hlines : lines = d.rows.map fun row => row.map (Display.glyph on off) :=
      Display.splitOn_dump hon hoff d
    refine ⟨by rw [hlines, List.length_map, Display.length_rows], fun line hline => ?_,
      fun x y => ?_⟩
    · rw [hlines] at hline
      obtain ⟨row, hrow, rfl⟩ := List.mem_map.1 hline
      rw [List.length_map, Display.length_of_mem_rows hrow]
    · exact ⟨_, _, Display.getElem?_splitOn_dump hon hoff d x y, rfl,
        (Display.glyph_beq hne _).symm, d.getElem?_rows x y, d.getElem?_pixels x y⟩

/-- A width that does not divide the number of cells, one that is larger, where the memories
differ in the last cell, and a display with nothing but its last pixel lit. -/
theorem dumps_lose_nothing_uneven :
    let m : Memory := Vector.replicate 4096 0
    let x : Column := ⟨63, by decide⟩
    let y : Row := ⟨31, by decide⟩
    let d := Display.blank.flip (.at x y)
    (∃ text, m.dump? 3000 = .ok text ∧ ((text.splitOn '\n').length : Int) = 2 ∧
        (∀ line ∈ (text.splitOn '\n').dropLast, ((line.splitOn ' ').length : Int) = 3000) ∧
        Memory.cellsOfDump? text = some m.toList) ∧
      m.dump? 5000 ≠ (m.setCell 4095 0xFF).dump? 5000 ∧
      ((d.dump ['#'] ['.']).splitOn '\n').length = 32 ∧
      (((d.dump ['#'] ['.']).splitOn '\n')[y.val]?.bind fun glyphs => glyphs[x.val]?)
        = some '#' := by
  intro m x y d
  obtain ⟨hmemory, hequal, hdisplay⟩ := dumps_lose_nothing
  refine ⟨?_, ?_, ?_⟩
  · exact hmemory m 3000 (by decide)
  · rw [Ne, hequal m _ 5000 (by decide)]
    intro h
    have hcell := congrArg (·.cell 4095) h
    simp only [Memory.cell_setCell, and_self, Nat.reduceLT, if_true] at hcell
    simp [m, Memory.cell] at hcell
  · obtain ⟨hlength, -, hpixels⟩ := hdisplay d '#' '.' (by decide) (by decide) (by decide)
    obtain ⟨glyph, lit, hglyph, hlit, -, -, hcell⟩ := hpixels x y
    have hlast : d.pixels[64 * y.val + x.val]? = some true := by
      rw [d.getElem?_pixels, Display.pixel, Display.lit_flip, if_pos rfl]
      simp [Display.blank, Display.lit]
    obtain rfl : true = lit := Option.some.inj (hlast.symm.trans hcell)
    exact ⟨hlength, hglyph.trans (congrArg some hlit)⟩

end ChipEight
