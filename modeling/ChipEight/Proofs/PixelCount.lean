import ChipEight.Proofs.Blit
import Mathlib.Algebra.GroupWithZero.Nat
import Mathlib.Data.List.FinRange

/-!
# The number of lit pixels

Every bit that is drawn switches one pixel: on a dark one it adds a lit pixel, and on a
lit one it takes a lit pixel away.  As no two bits share a pixel, the lit pixels before
and after a sprite balance with its bits.

What is proved here:

* **one pixel** — `litCount_flip`, and `litCount_foldl_flip` for different pixels one
  after another;
* **bits** — `countP_cells`: the pixels that are flipped, counted row by row at the places
  of the bits, which are computed without a bound before they go around the screen;
* **the whole** — `blit_balances_pixels`.
-/

namespace ChipEight

/-! ## One pixel -/

namespace Display

/-- The number of lit pixels. -/
def litCount (d : Display) : Nat := d.pixels.count true

/-- **One pixel.**  Switching it on adds one, and switching it off takes one away. -/
theorem litCount_flip (d : Display) (c : Cell) :
    (d.flip c).litCount + 2 * (if d.lit c then 1 else 0) = d.litCount + 1 := by
  have hset : (d.flip c).litCount
      = (d.litCount - if (d.lit c == true) = true then 1 else 0)
          + if ((!d.lit c) == true) = true then 1 else 0 :=
    Vector.count_set c.isLt
  rw [hset]
  cases h : d.lit c with
  | false => simp
  | true =>
    have hpos : 0 < d.litCount := Vector.count_pos_iff.2 (h ▸ Vector.getElem_mem c.isLt)
    simp
    omega

/-- Flipping different pixels one after another.  Each of them still shows what it did at
first when its turn comes. -/
theorem litCount_foldl_flip {cells : List Cell} (h : cells.Nodup) (d : Display) :
    (cells.foldl flip d).litCount + 2 * cells.countP d.lit = d.litCount + cells.length := by
  induction cells generalizing d with
  | nil => rfl
  | cons c cs ih =>
    obtain ⟨hc, hcs⟩ := List.nodup_cons.1 h
    have hrest : cs.countP (d.flip c).lit = cs.countP d.lit := by
      refine List.countP_congr fun c' hc' => ?_
      have hne : c' ≠ c := fun heq => hc (heq ▸ hc')
      rw [lit_flip, if_neg hne]
    have hflip := d.litCount_flip c
    have hflips := ih hcs (d.flip c)
    rw [hrest] at hflips
    rw [List.foldl_cons, List.countP_cons, List.length_cons]
    omega

end Display

/-! ## Bits -/

namespace Sprite

/-- How many of the fifteen rows are drawn. -/
def drawnRows (s : Sprite) : Nat := (min (max s.height.toInt 0) 15).toNat

/-- The pixel under bit `c` (from the left) of row `r`. -/
def place (s : Sprite) (r c : Nat) : Cell :=
  .at ⟨((s.x.toInt + c) % 64).toNat, @toNat_emod_lt 64 (by decide) _⟩
    ⟨((s.y.toInt + r) % 32).toNat, @toNat_emod_lt 32 (by decide) _⟩

/-- The number of set bits, in the rows that are drawn, whose pixels have a property. -/
def bitsOn (s : Sprite) (p : Cell → Bool) : Nat :=
  ((List.range s.drawnRows).map fun r =>
    (List.range 8).countP fun c => (s.rowValue r).testBit (7 - c) && p (s.place r c)).sum

/-- The number of set bits in the rows that are drawn. -/
def weight (s : Sprite) : Nat :=
  ((List.range s.drawnRows).map fun r => (List.range 8).countP (s.rowValue r).testBit).sum

/-- The places of the bits, with coordinates that wrap at `2 ^ 32` on their way. -/
theorem target_eq_place (s : Sprite) (r : Fin 15) (c : Fin 8) :
    s.target r c = s.place r.val c.val := by
  unfold target place
  rw [Cell.at_eq_iff]
  exact ⟨Fin.ext (val_wrap_add _ (by decide) (by omega) _),
    Fin.ext (val_wrap_add _ (by decide) (by omega) _)⟩

/-- A sum over more rows than are drawn. -/
theorem sum_drawn {n k : Nat} (hk : k ≤ n) (f : Nat → Nat) :
    ((List.range n).map fun r => if r < k then f r else 0).sum = ((List.range k).map f).sum := by
  obtain ⟨j, rfl⟩ := Nat.exists_eq_add_of_le hk
  have hfirst : (List.range k).map (fun r => if r < k then f r else 0) = (List.range k).map f :=
    List.map_congr_left fun r hr => if_pos (List.mem_range.1 hr)
  have hlater (r : Nat) : ¬ k + r < k := by omega
  rw [List.range_add, List.map_append, List.sum_append, hfirst]
  simp [Function.comp_def, hlater]

theorem drawnRows_le (s : Sprite) : s.drawnRows ≤ 15 := by
  unfold drawnRows
  omega

/-- **Bits.**  The pixels that a sprite flips, counted row by row. -/
theorem countP_cells (s : Sprite) (p : Cell → Bool) : s.cells.countP p = s.bitsOn p := by
  have hrow (r : Fin 15) :
      (((List.finRange 8).filter fun c => s.draws r c).map fun c => s.target r c).countP p
        = if r.val < s.drawnRows then
            (List.range 8).countP fun c => (s.rowValue r.val).testBit (7 - c) && p (s.place r.val c)
          else 0 := by
    have hdrawn : r.val < s.drawnRows ↔ (r.val : Int) < s.height.toInt := by
      unfold drawnRows
      omega
    rw [List.countP_map, List.countP_filter, ← List.map_coe_finRange_eq_range, List.countP_map]
    by_cases hr : r.val < s.drawnRows
    · rw [if_pos hr]
      refine List.countP_congr fun c _ => ?_
      simp only [Function.comp_apply, target_eq_place, Bool.and_eq_true, draws_iff, ← hdrawn, hr,
        true_and]
      exact and_comm
    · rw [if_neg hr, List.countP_eq_zero]
      intro c _ hdraws
      exact hr (hdrawn.2 (draws_iff.1 (Bool.and_eq_true_iff.1 hdraws).2).1)
  have hsum : s.cells.countP p
      = ((List.range 15).map fun r => if r < s.drawnRows then
            (List.range 8).countP fun c => (s.rowValue r).testBit (7 - c) && p (s.place r c)
          else 0).sum := by
    unfold cells
    rw [List.countP_flatMap, ← List.map_coe_finRange_eq_range (n := 15), List.map_map]
    exact congrArg List.sum (List.map_congr_left fun r _ => hrow r)
  rw [hsum, sum_drawn s.drawnRows_le]
  rfl

/-- A bit is counted from either side. -/
theorem bitsOn_true (s : Sprite) : s.bitsOn (fun _ => true) = s.weight := by
  have hreverse : (List.range 8).map (7 - ·) = (List.range 8).reverse := by decide
  unfold bitsOn weight
  congr 2
  funext r
  calc (List.range 8).countP (fun c => (s.rowValue r).testBit (7 - c) && true)
      = ((List.range 8).map (7 - ·)).countP (s.rowValue r).testBit := by
        simp [List.countP_map, Function.comp_def]
    _ = (List.range 8).countP (s.rowValue r).testBit := by rw [hreverse, List.countP_reverse]

theorem length_cells (s : Sprite) : s.cells.length = s.weight := by
  rw [← List.countP_true, countP_cells, bitsOn_true]

end Sprite

/-! ## The whole -/

namespace Display

/-- The number of sprite bits that land on a lit pixel. -/
def overlap (d : Display) (s : Sprite) : Nat := s.bitsOn d.lit

/-- **A sprite balances.** -/
theorem litCount_blit (d : Display) (s : Sprite) :
    (d.blit s).1.litCount + 2 * d.overlap s = d.litCount + s.weight := by
  have hflips := litCount_foldl_flip s.nodup_cells d
  rw [s.countP_cells, s.length_cells] at hflips
  exact hflips

/-- The sprite hit something exactly when some bit of it landed on a lit pixel. -/
theorem hit_blit_iff_overlap {d : Display} {s : Sprite} :
    (d.blit s).2 = true ↔ 0 < d.overlap s := by
  unfold overlap
  rw [← s.countP_cells, List.countP_pos_iff]
  exact List.any_eq_true

/-- **Lit pixels balance with the bits of a sprite.**  For every display and every sprite, at
any place and of any height, the lit pixels afterwards are those before and one for each set
bit that is drawn, less two for each of these bits that landed on a lit pixel; and a hit is
told exactly when some bit did, that is, when the lit pixels did not grow by all the bits. -/
theorem blit_balances_pixels (d : Display) (s : Sprite) :
    ((d.blit s).1.litCount : Int) = d.litCount + s.weight - 2 * d.overlap s ∧
      ((d.blit s).2 = true ↔ 0 < d.overlap s) ∧
      ((d.blit s).2 = true ↔ ((d.blit s).1.litCount : Int) - d.litCount < s.weight) := by
  have hbalance := d.litCount_blit s
  have hhit := hit_blit_iff_overlap (d := d) (s := s)
  refine ⟨by omega, hhit, ?_⟩
  rw [hhit]
  omega

end Display

end ChipEight
