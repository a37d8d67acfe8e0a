import ChipEight.Display
import Mathlib.Data.List.Nodup

/-!
# Sprites on a screen without edges

A sprite is drawn bit by bit: each of its 120 bits has a place, computed with
coordinates that wrap at `2 ^ 32` before they wrap around the screen.  Seen from a
pixel it is the other way round: how far the pixel lies to the right of the sprite and
below it, going around, says which bit stands over it, if any does.  The two views
agree because 64 and 32 divide `2 ^ 32`.

What is proved here:

* **places** — `target_eq_iff`: a bit has its place at a pixel exactly when the pixel
  lies that far across and down; so no two bits share a place (`target_injective`);
* **one sprite** — `lit_blit` and `pixel_blit`: the exclusive or of the display and the
  sprite;
* **all places at once** — `putAll_eq_blit`: reading all 120 pixels first and writing
  all of them back, in any order, comes to the same;
* **the whole** — `blit_is_exclusive_or`.
-/

namespace ChipEight

/-! ## The bit over a pixel -/

namespace Sprite

/-- How far a column lies to the right of the sprite's left edge, going around. -/
def across (s : Sprite) (x : Column) : Nat := (((x.val : Int) - s.x.toInt) % 64).toNat

/-- How far a row lies below the sprite's upper edge, going around. -/
def down (s : Sprite) (y : Row) : Nat := (((y.val : Int) - s.y.toInt) % 32).toNat

/-- A row of the sprite as a number; there are fifteen of them. -/
def rowValue (s : Sprite) (r : Nat) : Nat := (s.rows[r]?.getD 0).toNat

/-- Whether the sprite has a set bit over the pixel in column `x` of row `y`.  The
leftmost bit of a row is bit 7 of its number, and rows from the height on have none. -/
def bit (s : Sprite) (x : Column) (y : Row) : Bool :=
  decide (s.across x < 8) && decide ((s.down y : Int) < min s.height.toInt 15) &&
    (s.rowValue (s.down y)).testBit (7 - s.across x)

/-! ## Places -/

/-- Going `k` steps on from `v`, around a circle, leads to `p` exactly when `p` lies `k`
steps behind `v`. -/
theorem emod_add_eq_iff {size v k p : Int} (hk : 0 ≤ k) (hks : k < size) (hp : 0 ≤ p)
    (hps : p < size) : (v + k) % size = p ↔ (p - v) % size = k := by
  have hforth : v + k - v = k := by omega
  have hback : v + (p - v) = p := by omega
  constructor
  · intro h
    calc (p - v) % size = (v + k - v) % size := by rw [← h, Int.emod_sub_emod]
      _ = k := by rw [hforth, Int.emod_eq_of_lt hk hks]
  · intro h
    calc (v + k) % size = (v + (p - v)) % size := by rw [← h, Int.add_emod_emod]
      _ = p := by rw [hback, Int.emod_eq_of_lt hp hps]

/-- A coordinate that wraps at `2 ^ 32` on its way leads to the same place. -/
theorem val_wrap_add {size : Nat} (hpos : 0 < size) (hdvd : (size : Int) ∣ 0x100000000) {k : Nat}
    (hk : k < 64) (v : Int32) :
    (wrap size hpos (v + Int32.ofNat k)).val = ((v.toInt + k) % size).toNat := by
  have hoffset : (Int32.ofNat k).toInt = k := Int32.toInt_ofNat_of_lt (by omega)
  show ((v + Int32.ofNat k).toInt % size).toNat = _
  rw [toInt_add_emod hdvd, hoffset]

theorem wrap_add_eq_iff {size : Nat} (hpos : 0 < size) (hdvd : (size : Int) ∣ 0x100000000)
    (hsize : size ≤ 64) {k : Nat} (hk : k < size) (v : Int32) (p : Fin size) :
    wrap size hpos (v + Int32.ofNat k) = p ↔ (((p.val : Int) - v.toInt) % size).toNat = k := by
  have hval := val_wrap_add hpos hdvd (k := k) (by omega) v
  have hne : (size : Int) ≠ 0 := by omega
  have hplace := Int.emod_nonneg (v.toInt + k) hne
  have hdistance := Int.emod_nonneg ((p.val : Int) - v.toInt) hne
  have hgo : (v.toInt + k) % size = p.val ↔ ((p.val : Int) - v.toInt) % size = k :=
    emod_add_eq_iff (by omega) (by omega) (by omega) (by omega)
  rw [Fin.ext_iff, hval]
  omega

/-- **Places.**  A bit has its place at the pixel that lies as far across and down as the
bit stands in the sprite. -/
theorem target_eq_iff {s : Sprite} {r : Fin 15} {c : Fin 8} {x : Column} {y : Row} :
    s.target r c = .at x y ↔ s.across x = c.val ∧ s.down y = r.val := by
  unfold target
  rw [Cell.at_eq_iff, wrap_add_eq_iff (by decide) (by decide) (by decide) (by omega),
    wrap_add_eq_iff (by decide) (by decide) (by decide) (by omega)]
  rfl

/-- No two bits share a place. -/
theorem target_injective (s : Sprite) :
    Function.Injective fun p : Fin 15 × Fin 8 => s.target p.1 p.2 := by
  rintro ⟨r, c⟩ ⟨r', c'⟩ h
  have hplace : s.target r c = .at (s.target r' c').column (s.target r' c').row := by
    rw [Cell.at_column_row]
    exact h
  have hplace' : s.target r' c' = .at (s.target r' c').column (s.target r' c').row := by
    rw [Cell.at_column_row]
  obtain ⟨hc, hr⟩ := target_eq_iff.1 hplace
  obtain ⟨hc', hr'⟩ := target_eq_iff.1 hplace'
  exact Prod.ext (Fin.ext (hr.symm.trans hr')) (Fin.ext (hc.symm.trans hc'))

/-! ## The pixels that are flipped -/

theorem draws_iff {s : Sprite} {r : Fin 15} {c : Fin 8} :
    s.draws r c = true ↔
      (r.val : Int) < s.height.toInt ∧ (s.rowValue r.val).testBit (7 - c.val) = true := by
  have hr : (Int32.ofNat r.val).toInt = r.val := Int32.toInt_ofNat_of_lt (by omega)
  have hc : c.val < 8 := c.isLt
  have hrow : s.rows[r.val]? = some s.rows[r.val] := Vector.getElem?_eq_getElem r.isLt
  unfold draws rowValue
  rw [Bool.and_eq_true, decide_eq_true_eq, Int32.lt_iff_toInt_lt, hr, hrow, Option.getD_some,
    BitVec.testBit_toNat]
  simp [BitVec.getMsbD_eq_getLsbD, hc]

/-- The pixel under a bit is flipped when the bit is drawn. -/
theorem bit_eq_draws {s : Sprite} {r : Fin 15} {c : Fin 8} {x : Column} {y : Row}
    (h : s.target r c = .at x y) : s.bit x y = s.draws r c := by
  obtain ⟨hx, hy⟩ := target_eq_iff.1 h
  have hr : r.val < 15 := r.isLt
  have hc : c.val < 8 := c.isLt
  rw [Bool.eq_iff_iff, draws_iff, bit, hx, hy]
  simp only [Bool.and_eq_true, decide_eq_true_eq, hc, true_and]
  constructor
  · rintro ⟨hlt, hset⟩
    exact ⟨by omega, hset⟩
  · rintro ⟨hlt, hset⟩
    exact ⟨by omega, hset⟩

/-- Over a pixel with a set bit some bit has its place. -/
theorem exists_target_of_bit {s : Sprite} {x : Column} {y : Row} (h : s.bit x y = true) :
    ∃ r c, s.target r c = .at x y := by
  simp only [bit, Bool.and_eq_true, decide_eq_true_eq] at h
  obtain ⟨⟨hx, hy⟩, -⟩ := h
  exact ⟨⟨s.down y, by omega⟩, ⟨s.across x, hx⟩, target_eq_iff.2 ⟨rfl, rfl⟩⟩

/-- The bits of a sprite by row and column, row after row. -/
def slots : List (Fin 15 × Fin 8) :=
  (List.finRange 15).flatMap fun r => (List.finRange 8).map fun c => (r, c)

theorem mem_slots (p : Fin 15 × Fin 8) : p ∈ slots := by
  simp [slots]

theorem nodup_slots : slots.Nodup := (List.nodup_finRange 15).product (List.nodup_finRange 8)

theorem cells_eq (s : Sprite) :
    s.cells = (slots.filter fun p => s.draws p.1 p.2).map fun p => s.target p.1 p.2 := by
  simp [cells, slots, List.filter_flatMap, List.map_flatMap, List.filter_map, Function.comp_def]

/-- No pixel is flipped twice. -/
theorem nodup_cells (s : Sprite) : s.cells.Nodup := by
  rw [cells_eq]
  exact (nodup_slots.filter _).map s.target_injective

/-- **The pixels that a sprite flips** are those with a set bit over them. -/
theorem mem_cells_iff {s : Sprite} {x : Column} {y : Row} :
    Cell.at x y ∈ s.cells ↔ s.bit x y = true := by
  simp only [cells_eq, List.mem_map, List.mem_filter, mem_slots, true_and, Prod.exists]
  constructor
  · rintro ⟨r, c, hdrawn, hplace⟩
    rw [bit_eq_draws hplace, hdrawn]
  · intro h
    obtain ⟨r, c, hplace⟩ := exists_target_of_bit h
    exact ⟨r, c, by rw [← bit_eq_draws hplace, h], hplace⟩

end Sprite

/-! ## One sprite -/

namespace Display

open Sprite (slots mem_slots nodup_slots)

/-- **One sprite.**  A pixel afterwards is the exclusive or of what it was and the bit
over it. -/
theorem pixel_blit (d : Display) (s : Sprite) (x : Column) (y : Row) :
    (d.blit s).1.pixel x y = (d.pixel x y ^^ s.bit x y) := by
  show (s.cells.foldl flip d).lit (.at x y) = (d.lit (.at x y) ^^ s.bit x y)
  rw [lit_foldl_flip, s.nodup_cells.count]
  by_cases h : Cell.at x y ∈ s.cells
  · simp [h, Sprite.mem_cells_iff.1 h]
  · have hbit : s.bit x y = false := by
      simpa using mt Sprite.mem_cells_iff.2 h
    simp [h, hbit]

/-- The same, by the number of the pixel. -/
theorem lit_blit (d : Display) (s : Sprite) (c : Cell) :
    (d.blit s).1.lit c = (d.lit c ^^ s.bit c.column c.row) := by
  have h := d.pixel_blit s c.column c.row
  unfold pixel at h
  rwa [Cell.at_column_row] at h

/-- The sprite hit something exactly when a set bit of it stands over a lit pixel. -/
theorem hit_blit_iff {d : Display} {s : Sprite} :
    (d.blit s).2 = true ↔ ∃ x y, s.bit x y = true ∧ d.pixel x y = true := by
  show s.cells.any d.lit = true ↔ _
  rw [List.any_eq_true]
  constructor
  · rintro ⟨c, hc, hlit⟩
    rw [← c.at_column_row] at hc hlit
    exact ⟨c.column, c.row, Sprite.mem_cells_iff.1 hc, hlit⟩
  · rintro ⟨x, y, hbit, hlit⟩
    exact ⟨.at x y, Sprite.mem_cells_iff.2 hbit, hlit⟩

/-! ## All places at once -/

/-- Give one pixel a value. -/
def put (d : Display) (c : Cell) (on : Bool) : Display := ⟨d.pixels.setIfInBounds c.val on⟩

/-- Give pixels their values, one after another. -/
def putAll (d : Display) (writes : List (Cell × Bool)) : Display :=
  writes.foldl (fun d w => d.put w.1 w.2) d

theorem lit_put (d : Display) (c c' : Cell) (on : Bool) :
    (d.put c on).lit c' = if c' = c then on else d.lit c' := by
  show (d.pixels.setIfInBounds c.val on)[c'.val] = if c' = c then on else d.pixels[c'.val]
  rw [Vector.getElem_setIfInBounds]
  by_cases h : c' = c
  · simp [h]
  · simp [h, Fin.val_ne_of_ne (Ne.symm h)]

theorem lit_putAll_of_notMem {d : Display} {writes : List (Cell × Bool)} {c : Cell}
    (h : c ∉ writes.map Prod.fst) : (d.putAll writes).lit c = d.lit c := by
  induction writes generalizing d with
  | nil => rfl
  | cons w rest ih =>
    rw [List.map_cons, List.mem_cons, not_or] at h
    show ((d.put w.1 w.2).putAll rest).lit c = d.lit c
    rw [ih h.2, lit_put, if_neg h.1]

/-- Writes to different pixels all stay. -/
theorem lit_putAll_of_mem {d : Display} {writes : List (Cell × Bool)} {c : Cell} {on : Bool}
    (hnodup : (writes.map Prod.fst).Nodup) (h : (c, on) ∈ writes) :
    (d.putAll writes).lit c = on := by
  induction writes generalizing d with
  | nil => simp at h
  | cons w rest ih =>
    rw [List.map_cons, List.nodup_cons] at hnodup
    show ((d.put w.1 w.2).putAll rest).lit c = on
    rcases List.mem_cons.1 h with rfl | hrest
    · rw [lit_putAll_of_notMem hnodup.1, lit_put, if_pos rfl]
    · exact ih hnodup.2 hrest

/-- What goes to the places of the 120 bits: what stands there, or its opposite if the
bit is drawn. -/
def writes (d : Display) (s : Sprite) : List (Cell × Bool) :=
  slots.map fun p => (s.target p.1 p.2, d.lit (s.target p.1 p.2) ^^ s.draws p.1 p.2)

theorem map_fst_writes (d : Display) (s : Sprite) :
    (d.writes s).map Prod.fst = slots.map fun p => s.target p.1 p.2 := by
  simp [writes]

/-- **All places at once.**  Writing to all places, in any order, comes to flipping the
pixels under the bits that are drawn, one after another. -/
theorem putAll_eq_blit {d : Display} {s : Sprite} {ws : List (Cell × Bool)}
    (h : ws.Perm (d.writes s)) : d.putAll ws = (d.blit s).1 := by
  have hperm : (ws.map Prod.fst).Perm (slots.map fun p => s.target p.1 p.2) := by
    rw [← d.map_fst_writes s]
    exact h.map Prod.fst
  have hnodup : (ws.map Prod.fst).Nodup :=
    hperm.nodup_iff.2 (nodup_slots.map s.target_injective)
  apply ext_lit
  intro c
  rw [lit_blit]
  by_cases hc : c ∈ ws.map Prod.fst
  · obtain ⟨⟨r, k⟩, -, rfl⟩ := List.mem_map.1 (hperm.mem_iff.1 hc)
    have hwrite : (s.target r k, d.lit (s.target r k) ^^ s.draws r k) ∈ ws :=
      h.mem_iff.2 (List.mem_map.2 ⟨(r, k), mem_slots _, rfl⟩)
    have hplace : s.target r k = .at (s.target r k).column (s.target r k).row :=
      (Cell.at_column_row _).symm
    rw [lit_putAll_of_mem hnodup hwrite, Sprite.bit_eq_draws hplace]
  · -- nothing is written here, and no bit stands over the pixel
    have hbit : s.bit c.column c.row = false := by
      rw [Bool.eq_false_iff]
      intro hset
      obtain ⟨r, k, hplace⟩ := Sprite.exists_target_of_bit hset
      rw [Cell.at_column_row] at hplace
      exact hc (hperm.mem_iff.2 (List.mem_map.2 ⟨(r, k), mem_slots _, hplace⟩))
    rw [lit_putAll_of_notMem hc, hbit, Bool.xor_false]

/-! ## The whole -/

/-- **A sprite is drawn by exclusive or, on a screen without edges.**  For every display
and every sprite, at any place and of any height, a pixel afterwards is what it was, or
its opposite if a set bit of the sprite stands over it; a hit is told exactly when such a
bit stands over a lit pixel; no two of the 120 bits share a place, wherever the
coordinates wrap; and so writing back all 120 pixels at once, in any order, loses none
of them. -/
theorem blit_is_exclusive_or (d : Display) (s : Sprite) :
    (∀ x y, (d.blit s).1.pixel x y = (d.pixel x y ^^ s.bit x y)) ∧
      ((d.blit s).2 = true ↔ ∃ x y, s.bit x y = true ∧ d.pixel x y = true) ∧
      (Function.Injective fun p : Fin 15 × Fin 8 => s.target p.1 p.2) ∧
      ∀ ws, ws.Perm (d.writes s) → d.putAll ws = (d.blit s).1 :=
  ⟨d.pixel_blit s, hit_blit_iff, s.target_injective, fun _ h => putAll_eq_blit h⟩

/-- Two rows from the last pixel but three of the last row on, at coordinates so large
that the sums for the right half and for the second row wrap at `2 ^ 31`. -/
def cornerSprite : Sprite where
  x := 0x7FFFFFFC
  y := 0x7FFFFFFF
  rows := Vector.replicate 15 0x81
  height := 2

/-- The last bit of the second row comes out in the opposite corner, also when the pixels
are written back last bit first. -/
theorem blit_is_exclusive_or_corner :
    (blank.blit cornerSprite).1.pixel ⟨3, by decide⟩ ⟨0, by decide⟩ = true ∧
      blank.putAll (blank.writes cornerSprite).reverse = (blank.blit cornerSprite).1 := by
  obtain ⟨hpixel, -, -, hwrites⟩ := blit_is_exclusive_or blank cornerSprite
  refine ⟨?_, hwrites _ (List.reverse_perm _)⟩
  rw [hpixel]
  decide +kernel

end Display

end ChipEight
