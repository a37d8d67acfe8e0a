import ChipEight.Proofs.Decoding
import ChipEight.Proofs.Loading
import ChipEight.Proofs.Locality

/-!
# Registers saved and restored

`Fx55` writes `V0` to `Vx` to memory at `I`, and `Fx65` reads them back and moves `I` past
them.  Either is carried out on all sixteen registers or cells, of which those past `Vx`
have no effect, so that the cells may run past the end of memory as long as the first of
them do not.

What is proved here:

* **one opcode** — `saved_store` and `restored_restore`: what the two do, as `Machine.Saved`
  and `Machine.Restored`;
* **both of them** — `register_of_restored_saved` and `memory_of_saved_restored`: whichever
  comes first, the other brings back what was there;
* **the whole** — `saves_and_restores`.
-/

namespace ChipEight

/-! ## One opcode -/

namespace Instruction

theorem decode?_store (x : Register) : decode? (Opcode.ofDigits 0xF x 5 5) = some (.store x) :=
  decode?_endingWith .store rfl (by decide) rfl (fun _ => rfl) x

theorem decode?_restore (x : Register) :
    decode? (Opcode.ofDigits 0xF x 6 5) = some (.restore x) :=
  decode?_endingWith .restore rfl (by decide) rfl (fun _ => rfl) x

end Instruction

namespace Machine

variable {m m₁ m₂ m₃ : Machine} {x : Register}

/-- What writing `V0` to `Vx` to memory at `I` does to memory, `I` and the registers. -/
structure Saved (m : Machine) (x : Register) (m' : Machine) : Prop where
  saved (i : Register) : i ≤ x → m'.memory.cell (m.index.toNat + i.val) = m.register i
  outside (a : Nat) : a < m.index.toNat ∨ m.index.toNat + x.val < a →
    m'.memory.cell a = m.memory.cell a
  /-- All sixteen cells may be written, those past `Vx` with what they hold. -/
  lanes : m'.memory = m.memory.write m.index.toNat (m.overlaid x)
  index : m'.index = m.index
  registers : m'.registers = m.registers

/-- What reading `V0` to `Vx` from memory at `I` does to the registers, memory and `I`. -/
structure Restored (m : Machine) (x : Register) (m' : Machine) : Prop where
  restored (i : Register) : i ≤ x → m'.register i = m.memory.cell (m.index.toNat + i.val)
  kept (i : Register) : x < i → m'.register i = m.register i
  memory : m'.memory = m.memory
  /-- The sum is a word, so that nothing wraps. -/
  index : m'.index.toNat = m.index.toNat + x.val + 1

/-- A run that starts at `I` lies inside memory. -/
theorem indexFault?_eq_none {length : Nat} (h : m.index.toNat + length ≤ 4096) :
    m.indexFault? length = none :=
  Memory.rangeFault?_eq_none_iff.2 h

theorem saved_store (h : m.index.toNat + x.val + 1 ≤ 4096) :
    m.Saved x ((Instruction.store x).perform m) where
  saved i hi := by
    have hregister : (m.firstRegisters x)[i.val]? = some (m.register i) := by
      rw [getElem?_firstRegisters, if_pos hi]
    exact m.memory.cell_write_of_inside hregister (by have hle := Fin.le_def.1 hi; omega)
  outside a ha := Instruction.cell_perform m fun _ => ha.imp_right Nat.succ_le_of_lt
  lanes := (m.write_overlaid x).symm
  index := rfl
  registers := rfl

theorem restored_restore (h : m.index.toNat + x.val + 1 ≤ 4096) :
    m.Restored x ((Instruction.restore x).perform m) where
  restored i hi := by
    show (m.restoreRegisters x)[i] = _
    simp [restoreRegisters, hi]
  kept i hi := by
    show (m.restoreRegisters x)[i] = _
    simp [restoreRegisters, Fin.not_le.2 hi]
  memory := rfl
  index := by
    show (m.index + BitVec.ofNat 16 (x.val + 1)).toNat = _
    rw [BitVec.toNat_add, BitVec.toNat_ofNat]
    omega

theorem execute_store (h : m.index.toNat + x.val + 1 ≤ 4096) :
    (m.execute (Opcode.ofDigits 0xF x 5 5)).result = .ok ((Instruction.store x).perform m) := by
  refine execute_of_decode (Instruction.decode?_store x) ?_
  rw [Instruction.failure?, indexFault?_eq_none h, Option.map_none]

theorem execute_restore (h : m.index.toNat + x.val + 1 ≤ 4096) :
    (m.execute (Opcode.ofDigits 0xF x 6 5)).result = .ok ((Instruction.restore x).perform m) := by
  refine execute_of_decode (Instruction.decode?_restore x) ?_
  rw [Instruction.failure?, indexFault?_eq_none h, Option.map_none]

/-! ## Both of them -/

/-- Registers that were saved are restored from the same cells, whatever the registers hold by
then. -/
theorem register_of_restored_saved (h₁ : m.Saved x m₁) (h₂ : m₂.Restored x m₃)
    (hmemory : m₂.memory = m₁.memory) (hindex : m₂.index = m.index) {r : Register} (hr : r ≤ x) :
    m₃.register r = m.register r := by
  rw [h₂.restored r hr, hmemory, hindex, h₁.saved r hr]

/-- Registers that were restored are saved to the cells that they came from. -/
theorem memory_of_saved_restored (h₁ : m.Restored x m₁) (h₂ : m₂.Saved x m₃)
    (hmemory : m₂.memory = m₁.memory) (hregisters : m₂.registers = m₁.registers)
    (hindex : m₂.index = m.index) : m₃.memory = m.memory := by
  apply Memory.ext_cell
  intro a _
  by_cases hin : m.index.toNat ≤ a ∧ a ≤ m.index.toNat + x.val
  · -- the cell of a register that was restored
    obtain ⟨r, rfl⟩ : ∃ r : Register, a = m.index.toNat + r.val :=
      ⟨⟨a - m.index.toNat, by omega⟩, by simp; omega⟩
    have hr : r ≤ x := Fin.le_def.2 (by omega)
    have hsaved := h₂.saved r hr
    rw [hindex] at hsaved
    have hregister : m₂.register r = m₁.register r := congrArg (·[r]) hregisters
    rw [hsaved, hregister, h₁.restored r hr]
  · rw [h₂.outside a (by rw [hindex]; omega), hmemory, h₁.memory]

/-! ## The whole -/

/-- **Registers are saved and restored.**  Whenever the cells of `V0` to `Vx` at `I` lie inside
memory, both opcodes succeed.  The one that saves puts each of these registers into its cell,
and no other cell, register or `I` changes, although sixteen cells may be written; the other,
at the same `I` and whatever the registers were changed to, brings the saved ones back, keeps
the changed ones past `Vx` and all of memory, and moves `I` past the cells without wrapping.
In the other order, with `I` set back in between, memory stays as it was. -/
theorem saves_and_restores {m : Machine} {x : Register} (h : m.index.toNat + x.val + 1 ≤ 4096) :
    (∃ m₁, (m.execute (Opcode.ofDigits 0xF x 5 5)).result = .ok m₁ ∧ m.Saved x m₁ ∧
      ∀ changed : Vector Byte 16, ∃ m₂,
        ({ m₁ with registers := changed }.execute (Opcode.ofDigits 0xF x 6 5)).result = .ok m₂ ∧
          (∀ r ≤ x, m₂.register r = m.register r) ∧ (∀ r, x < r → m₂.register r = changed[r]) ∧
          m₂.memory = m₁.memory ∧ m₂.index.toNat = m.index.toNat + x.val + 1) ∧
    ∃ m₁, (m.execute (Opcode.ofDigits 0xF x 6 5)).result = .ok m₁ ∧ m.Restored x m₁ ∧
      ∃ m₂, ({ m₁ with index := m.index }.execute (Opcode.ofDigits 0xF x 5 5)).result = .ok m₂ ∧
        m₂.memory = m.memory := by
  constructor
  · have hsaved := saved_store h
    refine ⟨_, execute_store h, hsaved, fun changed => ?_⟩
    let m₂ := { (Instruction.store x).perform m with registers := changed }
    have hrange : m₂.index.toNat + x.val + 1 ≤ 4096 := h
    have hrestored : m₂.Restored x _ := restored_restore hrange
    refine ⟨_, execute_restore hrange, fun r hr => ?_, hrestored.kept, hrestored.memory,
      hrestored.index⟩
    exact register_of_restored_saved hsaved hrestored rfl rfl hr
  · have hrestored := restored_restore h
    refine ⟨_, execute_restore h, hrestored, ?_⟩
    let m₂ := { (Instruction.restore x).perform m with index := m.index }
    have hrange : m₂.index.toNat + x.val + 1 ≤ 4096 := h
    have hsaved : m₂.Saved x _ := saved_store hrange
    exact ⟨_, execute_store hrange, memory_of_saved_restored hrestored hsaved rfl rfl rfl⟩

/-- A machine whose registers hold their own numbers, with `I` at the last cell but one. -/
def numbered : Machine :=
  { powerOn ⟨0, 0⟩ .canonical with
    index := 4094
    registers := Vector.ofFn fun r : Fin 16 => BitVec.ofNat 8 r.val }

/-- `V0` and `V1` fill the last two cells of memory, and come back when everything else has
been taken away. -/
theorem saves_and_restores_atEnd :
    numbered.index.toNat + 1 + 1 ≤ 4096 ∧
      ∃ m₁ m₂, (numbered.execute 0xF155).result = .ok m₁ ∧ m₁.memory.cell 4095 = 1 ∧
        ({ m₁ with registers := Vector.replicate 16 0 }.execute 0xF165).result = .ok m₂ ∧
        m₂.register 1 = 1 ∧ m₂.register 2 = 0 ∧ m₂.index.toNat = 4096 := by
  have hrange : numbered.index.toNat + (1 : Register).val + 1 ≤ 4096 := by decide
  obtain ⟨⟨m₁, hok₁, hsaved, hchanged⟩, -⟩ := saves_and_restores hrange
  obtain ⟨m₂, hok₂, hregister, hkept, -, hindex⟩ := hchanged (Vector.replicate 16 0)
  refine ⟨by decide, m₁, m₂, hok₁, ?_, hok₂, ?_, ?_, hindex⟩
  · exact (hsaved.saved 1 (by decide)).trans (by decide)
  · exact (hregister 1 (by decide)).trans (by decide)
  · exact (hkept 2 (by decide)).trans (by decide)

end Machine

end ChipEight
