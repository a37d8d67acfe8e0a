import ChipEight.Proofs.Blit
import Mathlib.Algebra.BigOperators.Group.Finset.Lemmas
import Mathlib.Algebra.Group.Nat.Even

/-!
# Sprites drawn one over another

Every sprite of a list is drawn on what those before it have left.  In the end a pixel
has been switched once for each sprite with a set bit over it, whatever was lit in
between, so that the order does not matter to what is shown, and two draws of one sprite
cancel.  It does matter to the hits: which of two sprites that share a pixel hits the
other depends on which comes first.

What is proved here:

* **counting** — `lit_blitAll`: a pixel changes when an odd number of sprites has a set
  bit over it;
* **evenness** — `even_countP`: if everything stands in a list an even number of times,
  an even number of its members has any given property;
* **the whole** — `overlays_commute_and_cancel`.
-/

namespace ChipEight

/-- Draw sprites one after another, and tell of each whether it hit a lit pixel. -/
def Display.blitAll (d : Display) : List Sprite → Display × List (Sprite × Bool)
  | [] => (d, [])
  | s :: rest =>
    let after := (d.blit s).1.blitAll rest
    (after.1, (s, (d.blit s).2) :: after.2)

namespace Display

/-! ## Counting -/

/-- **Counting.**  The induction is on the sprites, and each of them is drawn on another
display. -/
theorem lit_blitAll (d : Display) (sprites : List Sprite) (c : Cell) :
    (d.blitAll sprites).1.lit c
      = (d.lit c ^^ (sprites.countP (fun s => s.bit c.column c.row) % 2 == 1)) := by
  induction sprites generalizing d with
  | nil => simp [blitAll]
  | cons s rest ih =>
    show ((d.blit s).1.blitAll rest).1.lit c = _
    rw [ih, lit_blit, List.countP_cons]
    generalize rest.countP (fun s => s.bit c.column c.row) = n
    by_cases h : s.bit c.column c.row = true
    · -- one sprite more changes the parity
      rcases Nat.mod_two_eq_zero_or_one n with hn | hn <;> simp [h, hn, Nat.add_mod]
    · simp [h]

/-- Displays after as many switches of every pixel, counted modulo two, are equal. -/
theorem blitAll_congr {d : Display} {sprites sprites' : List Sprite}
    (h : ∀ p : Sprite → Bool, sprites.countP p % 2 = sprites'.countP p % 2) :
    (d.blitAll sprites).1 = (d.blitAll sprites').1 := by
  apply ext_lit
  intro c
  rw [lit_blitAll, lit_blitAll, h]

end Display

/-! ## Evenness -/

/-- **Evenness.**  The members with a property are as many as the times that each of
them stands in the list, added up. -/
theorem even_countP {α : Type} [DecidableEq α] {l : List α} (h : ∀ a, Even (l.count a))
    (p : α → Bool) : Even (l.countP p) := by
  have hsum : l.countP p = ∑ a ∈ (l.filter p).toFinset, (l.filter p).count a := by
    rw [List.sum_toFinset_count_eq_length, List.countP_eq_length_filter]
  rw [hsum]
  apply Finset.even_sum
  intro a ha
  have hp : p a = true := (List.mem_filter.1 (List.mem_toFinset.1 ha)).2
  rw [List.count_filter hp]
  exact h a

/-! ## The whole -/

namespace Display

/-- The leftmost bit of one row, drawn into the upper left corner. -/
def dot : Sprite := ⟨0, 0, Vector.replicate 15 0x80, 1⟩

/-- One row of two bits, drawn there. -/
def dash : Sprite := ⟨0, 0, Vector.replicate 15 0xC0, 1⟩

/-- **Sprites drawn one over another commute and cancel.**  Any order of the same draws
ends on the same display, and draws that all come an even number of times end on the
display that they began with, whatever it shows.  The hits are another matter: there are
draws that tell other hits in another order. -/
theorem overlays_commute_and_cancel :
    (∀ (d : Display) (sprites sprites' : List Sprite), sprites.Perm sprites' →
      (d.blitAll sprites).1 = (d.blitAll sprites').1) ∧
    (∀ (d : Display) (sprites : List Sprite), (∀ s, Even (sprites.count s)) →
      (d.blitAll sprites).1 = d) ∧
    ∃ (d : Display) (sprites sprites' : List Sprite), sprites.Perm sprites' ∧
      ¬ (d.blitAll sprites).2.Perm (d.blitAll sprites').2 := by
  refine ⟨?_, ?_, ?_⟩
  · intro d sprites sprites' hperm
    apply blitAll_congr
    intro p
    rw [hperm.countP_eq]
  · intro d sprites heven
    have hnone : (d.blitAll sprites).1 = (d.blitAll []).1 := by
      apply blitAll_congr
      intro p
      exact Nat.even_iff.1 (even_countP heven p)
    exact hnone
  · -- whichever comes first hits nothing
    refine ⟨blank, [dot, dash], [dash, dot], List.Perm.swap dash dot [], ?_⟩
    intro hperm
    have hfirst : (dot, false) ∈ (blank.blitAll [dot, dash]).2 := by decide +kernel
    have hsecond : (dot, false) ∉ (blank.blitAll [dash, dot]).2 := by decide +kernel
    exact hsecond (hperm.mem_iff.1 hfirst)

/-- Over a display that is not blank, both orders of two draws show the same, in which the
dash has taken away the dot; and drawn twice over they leave nothing behind. -/
theorem overlays_commute_and_cancel_dash :
    let d := (blank.blit cornerSprite).1
    (d.blitAll [dot, dash]).1 = (d.blitAll [dash, dot]).1 ∧
      (d.blitAll [dot, dash]).1.pixel ⟨0, by decide⟩ ⟨0, by decide⟩ = false ∧
      (d.blitAll [dot, dash, dot, dash]).1 = d := by
  intro d
  obtain ⟨hperm, heven, -⟩ := overlays_commute_and_cancel
  refine ⟨hperm d _ _ (List.Perm.swap dash dot []), by decide +kernel, heven d _ ?_⟩
  intro s
  have htwice : [dot, dash, dot, dash] = [dot, dash] ++ [dot, dash] := rfl
  rw [htwice, List.count_append]
  exact ⟨_, rfl⟩

end Display

end ChipEight
