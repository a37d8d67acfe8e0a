import ChipEight.Proofs.Blit
import ChipEight.Proofs.Changes
import ChipEight.Proofs.Decoding

/-!
# Drawing from memory

A drawing opcode `Dxyn` reads fifteen cells at `I`, past the end of memory if need be,
and draws the first `n` of them at `(Vx, Vy)`; `VF` tells of a hit.  The place is read
before `VF` is written, so that `VF` may be one of the coordinates.

What is proved here:

* **the bit over a pixel** — `bit_sprite`: read off the registers and memory, whatever the
  cells hold that are not drawn;
* **one opcode** — `execute_draw` and `painted_draw`: a range inside memory is all that it
  takes, and what it does to display, flag and redraw flag is `Machine.Painted`;
* **the same opcode again** — `display_of_painted_twice` and `hits_of_painted`: the display is
  what it was, and the hits are the pixels that the first opcode switched on;
* **the whole** — `draws_exclusive_or`.
-/

namespace ChipEight

namespace Machine

/-! ## The bit over a pixel -/

/-- Whether the sprite of `height` rows at `I`, placed at `(Vx, Vy)`, has a set bit over
the pixel in column `px` of row `py`. -/
def overlay (m : Machine) (x y : Register) (height : Fin 16) (px : Column) (py : Row) : Bool :=
  let c := (((px.val : Int) - (m.register x).toNat) % 64).toNat
  let r := (((py.val : Int) - (m.register y).toNat) % 32).toNat
  decide (c < 8) && decide (r < height.val) &&
    (m.memory.cell (m.index.toNat + r)).toNat.testBit (7 - c)

/-- **The bit over a pixel.** -/
theorem bit_sprite (m : Machine) (x y : Register) (height : Fin 16) (px : Column) (py : Row) :
    (m.sprite x y height).bit px py = m.overlay x y height px py := by
  have hacross : (m.sprite x y height).across px
      = (((px.val : Int) - (m.register x).toNat) % 64).toNat := by
    show (((px.val : Int) - (m.operand x).toInt) % 64).toNat = _
    unfold operand
    rw [toInt_ofByte]
  have hdown : (m.sprite x y height).down py
      = (((py.val : Int) - (m.register y).toNat) % 32).toNat := by
    show (((py.val : Int) - (m.operand y).toInt) % 32).toNat = _
    unfold operand
    rw [toInt_ofByte]
  have hheight : (m.sprite x y height).height.toInt = height.val :=
    Int32.toInt_ofNat_of_lt (by omega)
  unfold Sprite.bit overlay
  rw [hacross, hdown, hheight]
  generalize (((px.val : Int) - (m.register x).toNat) % 64).toNat = c
  generalize (((py.val : Int) - (m.register y).toNat) % 32).toNat = r
  by_cases hr : r < height.val
  · -- a row that is drawn is one of the fifteen that are read
    have hrow : (m.sprite x y height).rowValue r
        = (m.memory.cell (m.index.toNat + r)).toNat := by
      have hlt : r < 15 := by omega
      simp [Sprite.rowValue, sprite, hlt]
    have hmin : (r : Int) < min (height.val : Int) 15 := by omega
    simp [hr, hmin, hrow]
  · have hmin : ¬ (r : Int) < min (height.val : Int) 15 := by omega
    simp [hr, hmin]

/-! ## One opcode -/

/-- A set bit of the sprite stands over a lit pixel. -/
def Hits (m : Machine) (x y : Register) (height : Fin 16) : Prop :=
  ∃ px py, m.overlay x y height px py = true ∧ m.display.pixel px py = true

/-- What drawing does to the display and the two flags. -/
structure Painted (m : Machine) (x y : Register) (height : Fin 16) (m' : Machine) : Prop where
  pixel (px : Column) (py : Row) :
    m'.display.pixel px py = (m.display.pixel px py ^^ m.overlay x y height px py)
  hit : m.Hits x y height → m'.register flagRegister = 1
  /-- The flag does not keep what it held before. -/
  miss : ¬ m.Hits x y height → m'.register flagRegister = 0
  /-- The host has to paint again even if nothing was drawn. -/
  redraw : m'.redraw = true

variable {m m₁ m₂ : Machine} {x y : Register} {height : Fin 16}

theorem hits_iff : m.Hits x y height ↔ (m.display.blit (m.sprite x y height)).2 = true := by
  rw [Display.hit_blit_iff]
  simp only [bit_sprite, Hits]

theorem painted_draw (m : Machine) (x y : Register) (height : Fin 16) :
    m.Painted x y height ((m.draw x y height).advance 2) := by
  have hflag : ((m.draw x y height).advance 2).register flagRegister
      = if (m.display.blit (m.sprite x y height)).2 then 1 else 0 := by
    show (m.setRegister flagRegister _).register flagRegister = _
    rw [register_setRegister, if_pos rfl]
    rfl
  refine ⟨?_, ?_, ?_, rfl⟩
  · intro px py
    show (m.display.blit (m.sprite x y height)).1.pixel px py = _
    rw [Display.pixel_blit, bit_sprite]
  · intro hhits
    rw [hflag, hits_iff.1 hhits]
    rfl
  · intro hnone
    rw [hits_iff, Bool.not_eq_true] at hnone
    rw [hflag, hnone]
    rfl

/-- The opcodes `Dxyn` draw. -/
theorem ofOpcode?_draw (x y : Register) (height : Fin 16) :
    Operation.ofOpcode? (Opcode.ofDigits 0xD x y height) = some .draw := by
  have htop : Opcode.top (Opcode.ofDigits 0xD x y height) = 0xD :=
    Opcode.top_ofDigits (by decide) x.isLt y.isLt height.isLt
  apply Operation.ofOpcode?_of_accepts_of_ne
  · rw [Entry.accepts_iff]
    show (Opcode.ofDigits 0xD x y height &&& 0xF000).toNat = 0xD000
    rw [Opcode.toNat_and_top, htop]
  · simp

/-- A drawing opcode whose rows lie inside memory succeeds. -/
theorem execute_draw (h : m.index.toNat + height.val ≤ 4096) :
    (m.execute (Opcode.ofDigits 0xD x y height)).result = .ok ((m.draw x y height).advance 2) := by
  have hx : Opcode.x (Opcode.ofDigits 0xD x y height) = x :=
    Fin.ext (Opcode.x_ofDigits (by decide) x.isLt y.isLt height.isLt)
  have hy : Opcode.y (Opcode.ofDigits 0xD x y height) = y :=
    Fin.ext (Opcode.y_ofDigits (by decide) x.isLt y.isLt height.isLt)
  have hn : Opcode.n (Opcode.ofDigits 0xD x y height) = height :=
    Fin.ext (Opcode.n_ofDigits (by decide) x.isLt y.isLt height.isLt)
  refine execute_ok_iff.2 (.inl ⟨_, ofOpcode?_draw x y height, ?_, ?_⟩)
  · show (m.indexFault? (Opcode.n (Opcode.ofDigits 0xD x y height)).val).map _ = none
    rw [hn, indexFault?, Memory.rangeFault?_eq_none_iff.2 h]
    rfl
  · show _ = Instruction.perform m (.draw (Opcode.x _) (Opcode.y _) (Opcode.n _))
    rw [hx, hy, hn]
    rfl

/-! ## The same opcode again -/

/-- The same sprite stands at the same place as long as neither coordinate is `VF`. -/
theorem overlay_draw (hx : x ≠ flagRegister) (hy : y ≠ flagRegister) (px : Column) (py : Row) :
    ((m.draw x y height).advance 2).overlay x y height px py = m.overlay x y height px py := by
  have hkeep {r : Register} (hr : r ≠ flagRegister) :
      ((m.draw x y height).advance 2).register r = m.register r := by
    show (m.setRegister flagRegister _).register r = m.register r
    rw [register_setRegister, if_neg hr]
  unfold overlay
  rw [hkeep hx, hkeep hy]
  rfl

/-- Drawing the same sprite again restores the display. -/
theorem display_of_painted_twice (h₁ : m.Painted x y height m₁) (h₂ : m₁.Painted x y height m₂)
    (hsame : ∀ px py, m₁.overlay x y height px py = m.overlay x y height px py) :
    m₂.display = m.display := by
  apply Display.ext_lit
  intro c
  have hpixel : m₂.display.pixel c.column c.row = m.display.pixel c.column c.row := by
    rw [h₂.pixel, h₁.pixel, hsame, Bool.xor_assoc, Bool.xor_self, Bool.xor_false]
  unfold Display.pixel at hpixel
  rwa [Cell.at_column_row] at hpixel

/-- What the same sprite hits is what it switched on the first time. -/
theorem hits_of_painted (h₁ : m.Painted x y height m₁)
    (hsame : ∀ px py, m₁.overlay x y height px py = m.overlay x y height px py) :
    m₁.Hits x y height ↔
      ∃ px py, m.display.pixel px py = false ∧ m₁.display.pixel px py = true := by
  constructor
  · rintro ⟨px, py, hbit, hlit⟩
    refine ⟨px, py, ?_, hlit⟩
    rw [h₁.pixel, ← hsame, hbit] at hlit
    simpa using hlit
  · rintro ⟨px, py, hdark, hlit⟩
    refine ⟨px, py, ?_, hlit⟩
    rw [h₁.pixel, hdark, Bool.false_xor] at hlit
    rw [hsame, hlit]

/-! ## The whole -/

/-- **Drawing from memory is exclusive or.**  Whenever the rows to be drawn lie inside
memory, which those of an empty sprite may do at its very end, the opcode succeeds.  A
pixel is switched exactly if a set bit of the sprite stands over it, placed by the
coordinates as they were, `VF` tells whether such a pixel was lit, and the redraw flag is
up.  The same opcode again, when neither coordinate is `VF`, succeeds too and restores the
display, and `VF` then tells whether the first had switched on any pixel. -/
theorem draws_exclusive_or {m : Machine} {x y : Register} {height : Fin 16}
    (h : m.index.toNat + height.val ≤ 4096) :
    ∃ m₁, (m.execute (Opcode.ofDigits 0xD x y height)).result = .ok m₁ ∧
      m.Painted x y height m₁ ∧
      (x ≠ flagRegister → y ≠ flagRegister →
        ∃ m₂, (m₁.execute (Opcode.ofDigits 0xD x y height)).result = .ok m₂ ∧
          m₁.Painted x y height m₂ ∧ m₂.display = m.display ∧
          (m₂.register flagRegister = 1 ↔
            ∃ px py, m.display.pixel px py = false ∧ m₁.display.pixel px py = true)) := by
  have hfirst := m.painted_draw x y height
  refine ⟨_, execute_draw h, hfirst, ?_⟩
  intro hx hy
  have hsame (px : Column) (py : Row) :
      ((m.draw x y height).advance 2).overlay x y height px py = m.overlay x y height px py :=
    overlay_draw hx hy px py
  have hsecond := ((m.draw x y height).advance 2).painted_draw x y height
  refine ⟨_, execute_draw h, hsecond, display_of_painted_twice hfirst hsecond hsame, ?_⟩
  rw [← hits_of_painted hfirst hsame]
  constructor
  · intro hflag
    by_contra hnone
    rw [hsecond.miss hnone] at hflag
    exact absurd hflag (by decide)
  · exact hsecond.hit

/-- Draws the last cell of memory, two pixels far apart, around the right edge. -/
def lastCell : Machine :=
  { powerOn ⟨0, 0⟩ .canonical with
    memory := Vector.replicate 4096 0x81
    index := 4095
    registers := Vector.replicate 16 62 }

/-- The right pixel comes out on the left, and the same opcode again takes it away and
tells of the hit. -/
theorem draws_exclusive_or_lastCell :
    ∃ m₁ m₂, (lastCell.execute 0xD121).result = .ok m₁ ∧ (m₁.execute 0xD121).result = .ok m₂ ∧
      m₁.display.pixel ⟨5, by decide⟩ ⟨30, by decide⟩ = true ∧
      m₁.register flagRegister = 0 ∧
      m₂.display = lastCell.display ∧ m₂.register flagRegister = 1 := by
  have hrange : lastCell.index.toNat + (Opcode.n 0xD121).val ≤ 4096 := by decide
  have hbit : lastCell.overlay (Opcode.x 0xD121) (Opcode.y 0xD121) (Opcode.n 0xD121)
      ⟨5, by decide⟩ ⟨30, by decide⟩ = true := by decide +kernel
  have hdark (px : Column) (py : Row) : lastCell.display.pixel px py = false := by
    simp [lastCell, powerOn, Display.blank, Display.pixel, Display.lit]
  obtain ⟨m₁, hok₁, hfirst, htwice⟩ :=
    draws_exclusive_or (x := Opcode.x 0xD121) (y := Opcode.y 0xD121) hrange
  obtain ⟨m₂, hok₂, -, hdisplay, hflag⟩ := htwice (by decide) (by decide)
  have hlit : m₁.display.pixel ⟨5, by decide⟩ ⟨30, by decide⟩ = true := by
    rw [hfirst.pixel, hbit, hdark]
    rfl
  refine ⟨m₁, m₂, hok₁, hok₂, hlit, hfirst.miss ?_, hdisplay, hflag.2 ⟨_, _, hdark _ _, hlit⟩⟩
  rintro ⟨px, py, -, hhit⟩
  rw [hdark] at hhit
  cases hhit

end Machine

end ChipEight
