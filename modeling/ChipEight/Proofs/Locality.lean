import ChipEight.Proofs.Changes
import ChipEight.Proofs.FirstFault

/-!
# The cells of one cycle

A cycle reads its opcode and, under four operations, a run of cells at `I`, and no
other cell of memory has any part in it: a change to one of them may be made before
the cycle or after it, and comes to the same.

The runs have fixed lengths, whatever the operands say.  Drawing reads fifteen rows
and draws the first of them only; restoring reads sixteen cells and keeps the first;
and storing may be carried out by reading sixteen cells, putting the registers over
the first of them and writing all sixteen back.  Any of these cells may lie past the
end of memory.

What is proved here:

* **sixteen cells** — `write_overlaid`: what is written back past the registers
  leaves no trace;
* **instructions** — `perform_poke`: an instruction leaves room for a change to any
  cell that is not within its reach;
* **opcodes** — `execute_poke`: the same notices and the same failed check, too;
* **cycles** — `footprint_of_step`.
-/

namespace ChipEight

namespace Machine

/-- The machine with one memory cell changed. -/
def poke (m : Machine) (a : Nat) (b : Byte) : Machine :=
  { m with memory := m.memory.setCell a b }

theorem cell_poke_of_ne (m : Machine) {a i : Nat} (b : Byte) (h : i ≠ a) :
    (m.poke a b).memory.cell i = m.memory.cell i := by
  rw [poke, Memory.cell_setCell, if_neg (by simp [h])]

theorem compute_poke (m : Machine) (a : Nat) (b : Byte) (op : Arithmetic) (x y : Register) :
    (m.poke a b).compute op x y = (m.compute op x y).poke a b := by
  rw [compute_congr m (m.poke a b) rfl rfl, compute_eq m]
  rfl

/-! ## Sixteen cells -/

/-- The sixteen cells at `I`, with `V0` to `Vx` put over the first of them. -/
def overlaid (m : Machine) (x : Register) : List Byte :=
  (List.finRange 16).map fun i =>
    if i ≤ x then m.register i else m.memory.cell (m.index.toNat + i.val)

theorem getElem?_overlaid (m : Machine) (x i : Register) :
    (m.overlaid x)[i.val]? =
      some (if i ≤ x then m.register i else m.memory.cell (m.index.toNat + i.val)) := by
  simp [overlaid]

/-- Writing all sixteen cells comes to writing the registers: the others get what they
hold, and those past the end of memory are dropped. -/
theorem write_overlaid (m : Machine) (x : Register) :
    m.memory.write m.index.toNat (m.overlaid x)
      = m.memory.write m.index.toNat (m.firstRegisters x) := by
  apply Memory.ext_cell
  intro a ha
  rw [Memory.cell_write, Memory.cell_write]
  by_cases hstart : m.index.toNat ≤ a ∧ a < 4096
  · rw [if_pos hstart, if_pos hstart]
    by_cases hlane : a - m.index.toNat < 16
    · obtain ⟨i, hi⟩ : ∃ i : Register, i.val = a - m.index.toNat := ⟨⟨_, hlane⟩, rfl⟩
      have hcell : m.index.toNat + i.val = a := by omega
      rw [← hi, getElem?_overlaid, getElem?_firstRegisters, hcell]
      by_cases hx : i ≤ x
      · rw [if_pos hx, if_pos hx]
      · rw [if_neg hx, if_neg hx]
        rfl
    · -- past the sixteen cells neither list has anything to write
      have hoverlaid : (m.overlaid x)[a - m.index.toNat]? = none :=
        List.getElem?_eq_none (by simp [overlaid]; omega)
      have hfirst : (m.firstRegisters x)[a - m.index.toNat]? = none :=
        List.getElem?_eq_none (by rw [length_firstRegisters]; omega)
      rw [hoverlaid, hfirst]
  · rw [if_neg hstart, if_neg hstart]

end Machine

/-! ## Instructions -/

namespace Instruction

variable {m : Machine} {a : Nat}

/-- No check looks at memory. -/
theorem failure?_poke (m : Machine) (a : Nat) (b : Byte) (i : Instruction) :
    i.failure? (m.poke a b) = i.failure? m := by
  cases i <;> rfl

/-- A cell that holds none of the rows drawn may be among those read. -/
theorem draw_poke {x y : Register} {height : Fin 16}
    (h : a < m.index.toNat ∨ m.index.toNat + height.val ≤ a) (b : Byte) :
    (m.poke a b).draw x y height = (m.draw x y height).poke a b := by
  have hcells : ((m.poke a b).sprite x y height).cells = (m.sprite x y height).cells := by
    refine Sprite.cells_congr rfl rfl fun r c => ?_
    rw [Machine.draws_sprite, Machine.draws_sprite]
    by_cases hr : r.val < height.val
    · have hne : m.index.toNat + r.val ≠ a := by omega
      have hcell := m.cell_poke_of_ne b hne
      rw [show (m.poke a b).index = m.index from rfl, hcell]
    · simp [hr]
  have hblit : (m.poke a b).display.blit ((m.poke a b).sprite x y height)
      = m.display.blit (m.sprite x y height) := by
    rw [Display.blit, hcells]
    rfl
  simp only [Machine.draw, hblit]
  rfl

/-- A cell that is not read into `V0` to `Vx`. -/
theorem restoreRegisters_poke {x : Register}
    (h : a < m.index.toNat ∨ m.index.toNat + (x.val + 1) ≤ a) (b : Byte) :
    (m.poke a b).restoreRegisters x = m.restoreRegisters x := by
  rw [Machine.restoreRegisters, Machine.restoreRegisters]
  congr 1
  funext i
  by_cases hi : i ≤ x
  · have hne : m.index.toNat + i.val ≠ a := by
      have := Fin.le_def.1 hi
      omega
    rw [if_pos hi, if_pos hi]
    exact m.cell_poke_of_ne b hne
  · rw [if_neg hi, if_neg hi]
    rfl

/-- **Instructions.**  A cell that is not within reach may be changed before or
after. -/
theorem perform_poke {i : Instruction}
    (h : a < m.index.toNat ∨ m.index.toNat + i.reach ≤ a) (b : Byte) :
    i.perform (m.poke a b) = (i.perform m).poke a b := by
  have hwrite (bytes : List Byte) (hlen : bytes.length = i.reach) :
      (m.poke a b).memory.write m.index.toNat bytes
        = (m.memory.write m.index.toNat bytes).setCell a b :=
    Memory.write_setCell m.memory b (by rwa [hlen])
  cases i with
  | arithmetic op x y => exact congrArg (Machine.advance · 2) (m.compute_poke a b op x y)
  | draw x y height => exact congrArg (Machine.advance · 2) (draw_poke h b)
  | waitKey x =>
    have hkeypad : (m.poke a b).keypad.lowest? = m.keypad.lowest? := rfl
    rw [perform, perform, hkeypad]
    cases m.keypad.lowest? <;> rfl
  | decimal x =>
    have hmemory := hwrite (Machine.decimalDigits (m.register x)) rfl
    exact congrArg (fun memory => Machine.advance { m with memory := memory } 2) hmemory
  | store x =>
    have hmemory := hwrite (m.firstRegisters x) (m.length_firstRegisters x)
    exact congrArg (fun memory => Machine.advance { m with memory := memory } 2) hmemory
  | restore x =>
    rw [perform, restoreRegisters_poke h]
    rfl
  | _ => rfl

end Instruction

/-! ## Opcodes and cycles -/

namespace Outcome

/-- An outcome with something done to its machine. -/
def update (o : Outcome) (f : Machine → Machine) : Outcome := { o with machine := f o.machine }

/-- What is reported does not hang on the machine. -/
theorem result_update (o : Outcome) (f : Machine → Machine) :
    (o.update f).result = o.result.map f := by
  rw [result, result, update]
  cases Failure.reported? o.failures <;> rfl

end Outcome

namespace Machine

variable {m : Machine} {f : Machine → Machine}

/-- What commutes with the instruction of an opcode, and does not matter to its check, commutes
with the opcode. -/
theorem execute_update {w : Opcode} (hpc : (f m).pc = m.pc)
    (hinstruction : ∀ i, Instruction.decode? w = some i →
      i.failure? (f m) = i.failure? m ∧ i.perform (f m) = f (i.perform m)) :
    (f m).execute w = (m.execute w).update f := by
  rw [execute, execute]
  cases hi : Instruction.decode? w with
  | none => simp only [Outcome.update, hpc]
  | some i =>
    obtain ⟨hcheck, hperform⟩ := hinstruction i hi
    simp only [Outcome.update, hcheck, hperform]

/-- What commutes with the opcode of a cycle, if that can be fetched, commutes with the cycle. -/
theorem result_step_update (hpc : (f m).pc = m.pc) (htick : ∀ m', (f m').tick = f m'.tick)
    (hexecute : ∀ w, m.fetch = .ok w →
      (f m).opcode = w ∧ (f m).execute w = (m.execute w).update f) :
    (f m).step.result = m.step.result.map f := by
  have hfetch : (f m).fetchFault? = m.fetchFault? := by rw [fetchFault?, hpc, fetchFault?]
  cases hfault : m.fetchFault? with
  | some fault =>
    rw [result_step_of_fetchFault hfault, result_step_of_fetchFault (hfetch.trans hfault)]
    rfl
  | none =>
    obtain ⟨hopcode, hsame⟩ := hexecute m.opcode
      (fetch_eq_ok_iff.2 ⟨fetchFault?_eq_none_iff.1 hfault, rfl⟩)
    have hstep : (f m).step = m.step.update f := by
      rw [step, hopcode, hsame, hfetch, step]
      simp only [Outcome.update, htick]
    rw [hstep, Outcome.result_update]

end Machine

/-- The number of cells at `I` that an opcode reads or writes. -/
def Opcode.reach (w : Opcode) : Nat := (Instruction.decode? w).elim 0 Instruction.reach

namespace Machine

variable {m : Machine} {a : Nat}

/-- **Opcodes.** -/
theorem execute_poke {w : Opcode} (h : a < m.index.toNat ∨ m.index.toNat + Opcode.reach w ≤ a)
    (b : Byte) :
    (m.poke a b).execute w = (m.execute w).update (·.poke a b) := by
  refine execute_update (f := (·.poke a b)) rfl fun i hi => ⟨i.failure?_poke m a b, ?_⟩
  rw [Opcode.reach, hi] at h
  exact Instruction.perform_poke h b

/-- The cells that the next cycle reads or writes: the two of its opcode and, once
that is fetched, those within its reach. -/
def Uses (m : Machine) (a : Nat) : Prop :=
  a = m.pc.toNat ∨ a = m.pc.toNat + 1 ∨
    ∃ w, m.fetch = .ok w ∧ m.index.toNat ≤ a ∧ a < m.index.toNat + Opcode.reach w

/-- Two cells are all that is fetched. -/
theorem opcode_poke (hpc : m.pc.toNat + 2 ≤ 4096) (hhigh : a ≠ m.pc.toNat)
    (hlow : a ≠ m.pc.toNat + 1) (b : Byte) : (m.poke a b).opcode = m.opcode := by
  have hmin : min m.pc.toNat 4095 = m.pc.toNat := by omega
  have hcells : (m.poke a b).memory.cell (min m.pc.toNat 4095)
        ++ (m.poke a b).memory.cell (m.pc.toNat + 1)
      = m.memory.cell (min m.pc.toNat 4095) ++ m.memory.cell (m.pc.toNat + 1) := by
    rw [hmin, m.cell_poke_of_ne b hhigh.symm, m.cell_poke_of_ne b hlow.symm]
  exact hcells

/-- A change to a cell that a cycle does not use may be made before the cycle or after it. -/
theorem result_step_poke (h : ¬ m.Uses a) (b : Byte) :
    (m.poke a b).step.result = m.step.result.map (·.poke a b) := by
  refine result_step_update (f := (·.poke a b)) rfl (fun _ => rfl) fun w hfetch => ?_
  obtain ⟨hpc, hw⟩ := fetch_eq_ok_iff.1 hfetch
  have hopcode : (m.poke a b).opcode = m.opcode :=
    opcode_poke hpc (fun heq => h (.inl heq)) (fun heq => h (.inr (.inl heq))) b
  have hreach : ¬ (m.index.toNat ≤ a ∧ a < m.index.toNat + Opcode.reach w) :=
    fun hin => h (.inr (.inr ⟨w, hfetch, hin⟩))
  exact ⟨hopcode.trans hw, execute_poke (by omega) b⟩

/-- **One cycle uses no other cells.**  Changing a cell that the cycle does not use
and then making the cycle fails exactly when the cycle fails, with the same fault, and
otherwise gives the machine that the cycle gives, with the cell changed after it.  This
is so although storing comes to the same as writing sixteen cells. -/
theorem footprint_of_step :
    (∀ (m : Machine) (a : Nat) (b : Byte), ¬ m.Uses a →
      (m.poke a b).step.result = m.step.result.map (·.poke a b)) ∧
      ∀ (m : Machine) (x : Register), (Instruction.store x).perform m =
        { m with memory := m.memory.write m.index.toNat (m.overlaid x) }.advance 2 := by
  refine ⟨fun m a b h => result_step_poke h b, fun m x => ?_⟩
  rw [write_overlaid]
  rfl

/-- Draws one row from cell 4090 on. -/
def drawingNearEnd : Machine :=
  { (Session.ready ⟨0, 0⟩ 1 [0xD1, 0x21]).machine with index := 4090 }

/-- The last cell of memory is among the fifteen that are read, and not among those
drawn. -/
theorem footprint_of_step_near_end :
    drawingNearEnd.step.result = .ok drawingNearEnd.step.machine ∧
      (drawingNearEnd.poke 4095 0xFF).step.result
        = .ok (drawingNearEnd.step.machine.poke 4095 0xFF) := by
  have hunused : ¬ drawingNearEnd.Uses 4095 := by
    have hreach : Opcode.reach drawingNearEnd.opcode = 1 := by decide +kernel
    have hindex : drawingNearEnd.index.toNat = 4090 := rfl
    rintro (heq | heq | ⟨w, hw, -, hlt⟩)
    · exact absurd heq (by decide)
    · exact absurd heq (by decide)
    · rw [← (fetch_eq_ok_iff.1 hw).2, hreach, hindex] at hlt
      omega
  have hok : drawingNearEnd.step.result = .ok drawingNearEnd.step.machine :=
    Outcome.result_eq_ok_iff.2 ⟨by decide +kernel, rfl⟩
  refine ⟨hok, ?_⟩
  rw [footprint_of_step.1 drawingNearEnd 4095 0xFF hunused, hok]
  rfl

end Machine

end ChipEight
