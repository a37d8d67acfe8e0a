import ChipEight.Word

/-!
# The display

A screen of 64 by 32 pixels, each lit or dark, kept row after row.  A sprite is
drawn by flipping one pixel for each of its set bits, and both coordinates wrap
around the edges.

* `Display.flip` — one pixel switched, and `lit_foldl_flip` for many;
* `Sprite.cells` — the pixels that a sprite flips;
* `Display.blit` — the display afterwards, and whether a lit pixel was hit.
-/

namespace ChipEight

/-- A column of pixels. -/
abbrev Column := Fin 64

/-- A row of pixels. -/
abbrev Row := Fin 32

/-- The number of a pixel, `64 * y + x` in column `x` of row `y`. -/
abbrev Cell := Fin 2048

/-- The number of the pixel in column `x` of row `y`. -/
def Cell.at (x : Column) (y : Row) : Cell := ⟨64 * y.val + x.val, by omega⟩

/-- The column of a pixel. -/
def Cell.column (c : Cell) : Column := ⟨c.val % 64, by omega⟩

/-- The row of a pixel. -/
def Cell.row (c : Cell) : Row := ⟨c.val / 64, by omega⟩

/-- Every pixel is the one in its column and row. -/
@[simp] theorem Cell.at_column_row (c : Cell) : Cell.at c.column c.row = c := by
  apply Fin.ext
  show 64 * (c.val / 64) + c.val % 64 = c.val
  omega

/-- Column and row are read off the number of a pixel. -/
theorem Cell.at_eq_iff {x x' : Column} {y y' : Row} :
    Cell.at x y = Cell.at x' y' ↔ x = x' ∧ y = y' := by
  simp only [Cell.at, Fin.ext_iff]
  omega

/-- The pixels, lit ones `true`. -/
structure Display where
  pixels : Vector Bool 2048
  deriving DecidableEq

namespace Display

/-! ## Pixels -/

/-- Every pixel dark. -/
def blank : Display := ⟨Vector.replicate 2048 false⟩

/-- Every pixel dark, whatever was shown. -/
def clear (_ : Display) : Display := blank

/-- Whether a pixel is lit. -/
def lit (d : Display) (c : Cell) : Bool := d.pixels[c]

/-- Whether the pixel in column `x` of row `y` is lit. -/
def pixel (d : Display) (x : Column) (y : Row) : Bool := d.lit (.at x y)

/-- Switch one pixel. -/
def flip (d : Display) (c : Cell) : Display := ⟨d.pixels.set c (!d.lit c)⟩

/-- Displays that show the same are equal. -/
theorem ext_lit {d d' : Display} (h : ∀ c, d.lit c = d'.lit c) : d = d' := by
  obtain ⟨pixels⟩ := d
  obtain ⟨pixels'⟩ := d'
  congr 1
  apply Vector.ext
  intro i hi
  exact h ⟨i, hi⟩

theorem lit_flip (d : Display) (c c' : Cell) :
    (d.flip c).lit c' = if c' = c then !d.lit c else d.lit c' := by
  simp only [flip, lit]
  grind

/-- Flipping a list of pixels switches those that stand in it an odd number of
times. -/
theorem lit_foldl_flip (cells : List Cell) (d : Display) (c : Cell) :
    (cells.foldl flip d).lit c = (d.lit c ^^ (cells.count c % 2 == 1)) := by
  induction cells generalizing d with
  | nil => simp
  | cons c' cs ih =>
    rw [List.foldl_cons, ih, lit_flip, List.count_cons]
    by_cases h : c = c'
    · subst h
      simp only [if_true, BEq.rfl]
      rcases Nat.mod_two_eq_zero_or_one (cs.count c) with h | h <;> simp [h, Nat.add_mod]
    · simp [h, Ne.symm h]

/-- The rows of pixels, top row first and leftmost pixel first. -/
def rows (d : Display) : List (List Bool) :=
  (List.finRange 32).map fun y => (List.finRange 64).map fun x => d.pixel x y

/-- The display with these pixels. -/
def ofPixels (f : Column → Row → Bool) : Display := ⟨Vector.ofFn fun c : Cell => f c.column c.row⟩

end Display

/-! ## Sprites -/

/-- Up to fifteen rows of eight pixels and where to draw them.  Rows from
`height` on are left out; `height` may be negative or larger than fifteen. -/
structure Sprite where
  x : Int32
  y : Int32
  rows : Vector Byte 15
  height : Int32
  deriving DecidableEq

namespace Sprite

theorem toNat_emod_lt {size : Nat} (h : 0 < size) (v : Int) : (v % size).toNat < size := by
  have hpos : (0 : Int) < size := Int.natCast_pos.2 h
  rw [Int.toNat_lt (Int.emod_nonneg v (Int.ne_of_gt hpos))]
  exact Int.emod_lt_of_pos v hpos

/-- A signed coordinate wrapped onto an axis of `size` pixels. -/
def wrap (size : Nat) (h : 0 < size) (v : Int32) : Fin size :=
  ⟨(v.toInt % size).toNat, toNat_emod_lt h v.toInt⟩

/-- The pixel under bit `c` (from the left) of row `r`. -/
def target (s : Sprite) (r : Fin 15) (c : Fin 8) : Cell :=
  .at (wrap 64 (by decide) (s.x + Int32.ofNat c.val))
    (wrap 32 (by decide) (s.y + Int32.ofNat r.val))

/-- Whether bit `c` (from the left) of row `r` is drawn. -/
def draws (s : Sprite) (r : Fin 15) (c : Fin 8) : Bool :=
  decide (Int32.ofNat r.val < s.height) && s.rows[r].getMsbD c.val

/-- The pixels that the sprite flips, row after row. -/
def cells (s : Sprite) : List Cell :=
  (List.finRange 15).flatMap fun r =>
    ((List.finRange 8).filter fun c => s.draws r c).map fun c => s.target r c

/-- Sprites at one place that draw the same bits flip the same pixels, whatever else
their rows hold. -/
theorem cells_congr {s t : Sprite} (hx : s.x = t.x) (hy : s.y = t.y)
    (hdraws : ∀ r c, s.draws r c = t.draws r c) : s.cells = t.cells := by
  simp only [cells, target, hx, hy, hdraws]

end Sprite

namespace Display

/-- Flip every pixel of a sprite, and tell whether one of them was lit before. -/
def blit (d : Display) (s : Sprite) : Display × Bool :=
  (s.cells.foldl flip d, s.cells.any d.lit)

end Display

end ChipEight
