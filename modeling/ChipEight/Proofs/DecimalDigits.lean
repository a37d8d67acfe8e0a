import ChipEight.Proofs.Faults
import ChipEight.Proofs.Transfer

/-!
# Decimal digits in memory

`Fx33` writes the hundreds, tens and ones of `Vx` to memory at `I`, and `F265` reads them into
`V0`, `V1` and `V2`.  `Vx` may be one of these: its value is taken before it is overwritten.

What is proved here:

* **digits** — `value_decimalDigits`: the digits of a byte make up its value;
* **one opcode** — `execute_decimal`: the last place where three digits fit, and
  `failure?_decimal` and `raised?_decimal`: the first where they do not;
* **read back** — `readBack_restore`: what the two opcodes leave, as `Machine.ReadBack`;
* **the whole** — `decimal_reads_back`.
-/

namespace ChipEight

namespace Machine

variable {m : Machine} {x : Register}

/-! ## Digits -/

/-- **Digits.**  The hundreds, tens and ones of a byte. -/
theorem value_decimalDigits (b : Byte) :
    (b / 100).toNat ≤ 9 ∧ (b / 10 % 10).toNat ≤ 9 ∧ (b % 10).toNat ≤ 9 ∧
      100 * (b / 100).toNat + 10 * (b / 10 % 10).toNat + (b % 10).toNat = b.toNat := by
  have hlt := b.isLt
  have hhundreds : (b / 100).toNat = b.toNat / 100 := BitVec.toNat_udiv
  have htens : (b / 10 % 10).toNat = b.toNat / 10 % 10 := by
    rw [BitVec.toNat_umod, BitVec.toNat_udiv]
    rfl
  have hones : (b % 10).toNat = b.toNat % 10 := BitVec.toNat_umod
  omega

/-! ## One opcode -/

theorem decode?_decimal (x : Register) :
    Instruction.decode? (Opcode.ofDigits 0xF x 3 3) = some (.decimal x) :=
  Instruction.decode?_endingWith .decimal rfl (by decide) rfl (fun _ => rfl) x

theorem execute_decimal (h : m.index.toNat ≤ 4093) :
    (m.execute (Opcode.ofDigits 0xF x 3 3)).result = .ok ((Instruction.decimal x).perform m) := by
  refine execute_of_decode (decode?_decimal x) ?_
  rw [Instruction.failure?, indexFault?_eq_none (by omega), Option.map_none]

/-- Three digits do not fit. -/
theorem failure?_decimal (h : 4094 ≤ m.index.toNat) :
    (Instruction.decimal x).failure? m = some ⟨.decimal, .outOfRange 3 m.index.toNat⟩ := by
  have hfault : m.indexFault? 3 = some (.outOfRange 3 m.index.toNat) :=
    Memory.rangeFault?_eq_some_iff.2 ⟨by omega, rfl⟩
  rw [Instruction.failure?, hfault, Option.map_some]

theorem raised?_decimal (h : 4094 ≤ m.index.toNat) :
    (m.execute (Opcode.ofDigits 0xF x 3 3)).raised? = some (.outOfRange 3 m.index.toNat) := by
  rw [Outcome.raised?_of_error (execute_of_failure (decode?_decimal x) (failure?_decimal h)),
    Fault.raised_outOfRange]

/-! ## Read back -/

/-- What is left of a machine after the digits of `Vx` were written to memory and read into
`V0`, `V1` and `V2`. -/
structure ReadBack (m : Machine) (x : Register) (m' : Machine) : Prop where
  digits : (m'.register 0).toNat ≤ 9 ∧ (m'.register 1).toNat ≤ 9 ∧ (m'.register 2).toNat ≤ 9
  value : 100 * (m'.register 0).toNat + 10 * (m'.register 1).toNat + (m'.register 2).toNat
    = (m.register x).toNat
  kept (r : Register) : 2 < r → m'.register r = m.register r
  index : m'.index.toNat = m.index.toNat + 3
  outside (a : Nat) : a < m.index.toNat ∨ m.index.toNat + 2 < a →
    m'.memory.cell a = m.memory.cell a

/-- **Read back.**  Nothing is written between the two opcodes. -/
theorem readBack_restore {m' : Machine} (h : m.index.toNat ≤ 4093)
    (hrestored : ((Instruction.decimal x).perform m).Restored 2 m') : m.ReadBack x m' := by
  have hread {r : Register} {b : Byte} (hr : r ≤ 2)
      (hb : (decimalDigits (m.register x))[r.val]? = some b) : m'.register r = b := by
    rw [hrestored.restored r hr]
    exact m.memory.cell_write_of_inside hb (by have hle := Fin.le_def.1 hr; omega)
  have hhundreds : m'.register 0 = m.register x / 100 := hread (by decide) rfl
  have htens : m'.register 1 = m.register x / 10 % 10 := hread (by decide) rfl
  have hones : m'.register 2 = m.register x % 10 := hread (by decide) rfl
  have hvalue := value_decimalDigits (m.register x)
  rw [← hhundreds, ← htens, ← hones] at hvalue
  exact {
    digits := ⟨hvalue.1, hvalue.2.1, hvalue.2.2.1⟩
    value := hvalue.2.2.2
    kept := hrestored.kept
    index := hrestored.index
    outside := fun a ha => by
      rw [hrestored.memory]
      exact Instruction.cell_perform m fun _ => ha.imp_right Nat.succ_le_of_lt }

/-! ## The whole -/

/-- **Decimal digits are read back.**  Wherever three cells at `I` lie inside memory, both
opcodes succeed, and `V0`, `V1` and `V2` then hold decimal digits that make up the value that
`Vx` had, whichever register it is; the other registers are kept, `I` stands behind the digits,
and no cell but theirs has changed.  Anywhere else the first opcode is a bad memory access,
and a host that asks for it keeps its session as it was. -/
theorem decimal_reads_back (m : Machine) (x : Register) :
    (m.index.toNat ≤ 4093 →
      ∃ m₁ m₂, (m.execute (Opcode.ofDigits 0xF x 3 3)).result = .ok m₁ ∧
        (m₁.execute 0xF265).result = .ok m₂ ∧ m.ReadBack x m₂) ∧
    (4094 ≤ m.index.toNat →
      (m.execute (Opcode.ofDigits 0xF x 3 3)).raised? = some (.outOfRange 3 m.index.toNat) ∧
        ∀ s : Session, s.machine = m →
          s.RefusesWith (.outOfRange 3 m.index.toNat)
            (s.execute (Opcode.ofDigits 0xF x 3 3).toNat)) := by
  constructor
  · intro h
    have hrange : ((Instruction.decimal x).perform m).index.toNat + (2 : Register).val + 1 ≤ 4096 :=
      Nat.succ_le_succ (Nat.add_le_add_right h 2)
    have hopcode : (0xF265 : Opcode) = Opcode.ofDigits 0xF (2 : Register) 6 5 := by decide
    rw [hopcode]
    exact ⟨_, _, execute_decimal h, execute_restore hrange,
      readBack_restore h (restored_restore hrange)⟩
  · intro h
    refine ⟨raised?_decimal h, fun s hs => ?_⟩
    subst hs
    have hfault := execute_of_failure (decode?_decimal x) (failure?_decimal h)
    rw [← Opcode.ofInt_toNat (Opcode.ofDigits 0xF x 3 3)] at hfault
    exact Session.execute_of_error hfault

/-- A machine with the greatest byte in every register. -/
def greatest (index : Word) : Machine :=
  { pointing index with registers := Vector.replicate 16 255 }

/-- The digits take the last three cells, and the middle one overwrites the register that they
were taken from.  One cell further there is no room. -/
theorem decimal_reads_back_overwritten :
    (greatest 4093).index.toNat ≤ 4093 ∧ 4094 ≤ (greatest 4094).index.toNat ∧
      (∃ m₁ m₂, ((greatest 4093).execute 0xF133).result = .ok m₁ ∧
        (m₁.execute 0xF265).result = .ok m₂ ∧
        100 * (m₂.register 0).toNat + 10 * (m₂.register 1).toNat + (m₂.register 2).toNat = 255) ∧
      ((greatest 4094).execute 0xF133).raised? = some (.outOfRange 3 4094) := by
  refine ⟨by decide, by decide, ?_, ?_⟩
  · obtain ⟨m₁, m₂, hdecimal, hrestore, hread⟩ :=
      (decimal_reads_back (greatest 4093) 1).1 (by decide)
    exact ⟨m₁, m₂, hdecimal, hrestore, hread.value⟩
  · exact ((decimal_reads_back (greatest 4094) 1).2 (by decide)).1

end Machine

end ChipEight
