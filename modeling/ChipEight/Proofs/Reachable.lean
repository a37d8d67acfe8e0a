import ChipEight.Proofs.Requests
import ChipEight.Proofs.ReturnStack

/-!
# What holds in every run of a host

A machine that was switched on and has since been driven by requests, in any order
and the refused ones included, keeps within bounds (`Machine.InBounds`): its stack
is tidy and holds addresses of opcodes only, and its program counter is at most
`0x10FE`.  The parts need each other.  The fetch of a call bounds the address that
it stacks, the stacked addresses bound where a return leads, and the worst of all
targets is that of a jump by `V0`.

What is proved here:

* **instructions** — `target_le`: where an instruction leads, in terms of the
  program counter and the newest return address;
* **cycles** — `inBounds_of_step`, and `inBounds_of_steps` for many;
* **requests** — `inBounds_perform` for one, and `inBounds_performAll` for a whole
  run, in which no program counter is ever cut off at sixteen bits.
-/

namespace ChipEight

/-! ## Tidy stacks -/

/-- The depth counts cells, the cells past it are zero, and the others hold
addresses from which an opcode can be fetched. -/
structure CallStack.Tidy (s : CallStack) : Prop where
  sound : s.Sound
  clean : s.Clean
  address_le : ∀ i : Nat, (i : Int) < s.depth → (s.cell i).toNat ≤ 0x0FFE

namespace CallStack

variable {s : CallStack}

theorem tidy_empty : empty.Tidy :=
  ⟨sound_empty, by decide, fun i hi => absurd hi (Int.not_lt.2 (Int.natCast_nonneg i))⟩

theorem Tidy.mem_le (h : s.Tidy) {a : Word} (ha : a ∈ s.toList) : a.toNat ≤ 0x0FFE :=
  (forall_mem_toList_iff h.sound (p := fun a => a.toNat ≤ 0x0FFE)).2 h.address_le a ha

theorem tidy_push {a : Word} (h : s.Tidy) (hroom : s.depth < 16) (ha : a.toNat ≤ 0x0FFE) :
    (s.push a).Tidy := by
  have hsound := sound_push a h.sound hroom
  refine ⟨hsound, clean_push a h.clean h.sound.1 hroom, ?_⟩
  refine (forall_mem_toList_iff hsound (p := fun a => a.toNat ≤ 0x0FFE)).1 fun b hb => ?_
  rw [toList_push a h.sound.1 hroom] at hb
  rcases List.mem_append.1 hb with hb | hb
  · exact h.mem_le hb
  · rw [List.mem_singleton.1 hb]
    exact ha

theorem tidy_pop (h : s.Tidy) (hpos : 0 < s.depth) : s.pop.Tidy := by
  have hsound := sound_pop h.sound hpos
  refine ⟨hsound, clean_pop h.clean hpos h.sound.2, ?_⟩
  refine (forall_mem_toList_iff hsound (p := fun a => a.toNat ≤ 0x0FFE)).1 fun b hb => ?_
  refine h.mem_le ?_
  rw [toList_pop hpos h.sound.2]
  exact List.mem_append_left _ hb

/-- The newest address; an empty stack gives its last cell, which is zero. -/
theorem Tidy.top_le (h : s.Tidy) : s.top.toNat ≤ 0x0FFE := by
  rcases Int.lt_or_le 0 s.depth with hpos | hempty
  · refine h.mem_le ?_
    rw [toList_pop hpos h.sound.2]
    exact List.mem_append_right _ List.mem_cons_self
  · have hdepth : s.depth = 0 := Int.le_antisymm hempty h.sound.1
    have hlast : s.cell 15 = 0 := h.clean 15 (by decide) (by rw [hdepth]; decide)
    have htop : s.top = s.cell 15 := by
      rw [top, hdepth]
      rfl
    rw [htop, hlast]
    decide

end CallStack

/-! ## Instructions -/

theorem Instruction.skipLength_le (c : Bool) : skipLength c ≤ 4 := by cases c <;> decide

/-- Where an instruction leads: behind the newest return address, to an address of
twelve bits and a byte, or at most four bytes on. -/
theorem Instruction.target_le {m : Machine} {w : Opcode} {i : Instruction}
    (h : decode? w = some i) (htop : m.stack.top.toNat ≤ 0x0FFE) :
    i.target m ≤ 0x10FE ∨ i.target m ≤ m.pc.toNat + 4 := by
  cases i with
  | ret =>
    rw [target]
    omega
  | jump address =>
    have := address_le h (.inl rfl)
    rw [target]
    omega
  | call address =>
    have := address_le h (.inr (.inl rfl))
    rw [target]
    omega
  | jumpOffset address =>
    have := address_le h (.inr (.inr rfl))
    have := (m.register offsetRegister).isLt
    rw [target]
    omega
  | skipByte x value => exact .inr (Nat.add_le_add_left (skipLength_le _) _)
  | skipNotByte x value => exact .inr (Nat.add_le_add_left (skipLength_le _) _)
  | skipEqual x y => exact .inr (Nat.add_le_add_left (skipLength_le _) _)
  | skipNotEqual x y => exact .inr (Nat.add_le_add_left (skipLength_le _) _)
  | skipKey x => exact .inr (Nat.add_le_add_left (skipLength_le _) _)
  | skipNoKey x => exact .inr (Nat.add_le_add_left (skipLength_le _) _)
  | waitKey x =>
    rw [target]
    split <;> omega
  | _ => exact .inr (Nat.add_le_add_left (by decide) _)

namespace Machine

/-! ## The invariant -/

/-- The bounds that a machine keeps within. -/
structure InBounds (m : Machine) : Prop where
  stack : m.stack.Tidy
  pc_le : m.pc.toNat ≤ 0x10FE
  /-- No pixel is more than one.  This holds of any display whatever, by the type of its pixels:
  they are truth values, and requests are not what bounds them. -/
  pixel_le : ∀ c, (m.display.lit c).toNat ≤ 1

variable {m m' : Machine}

/-- Only the stack and the program counter have to be kept within bounds: those of the display
are those of its pixels' type. -/
theorem inBounds_of (hstack : m.stack.Tidy) (hpc : m.pc.toNat ≤ 0x10FE) : m.InBounds :=
  ⟨hstack, hpc, fun _ => Bool.toNat_le _⟩

theorem InBounds.of_keeps (h : m.InBounds) (hkeeps : m'.stack = m.stack ∧ m'.pc = m.pc) :
    m'.InBounds :=
  inBounds_of (hkeeps.1 ▸ h.stack) (hkeeps.2 ▸ h.pc_le)

theorem inBounds_powerOn (key : RandomKey) (mode : Mode) : (powerOn key mode).InBounds :=
  inBounds_of CallStack.tidy_empty (by simp only [powerOn]; decide)

/-- Within bounds no target is cut off, not even that of a cycle that fails. -/
theorem InBounds.target_lt (h : m.InBounds) {w : Opcode} {i : Instruction}
    (hi : Instruction.decode? w = some i) : i.target m < 0x10000 := by
  have := h.pc_le
  rcases Instruction.target_le hi h.stack.top_le with ht | ht <;> omega

/-! ## Cycles -/

/-- **One cycle** that succeeds stays within bounds. -/
theorem inBounds_of_step (h : m.InBounds) (hstep : m.step.result = .ok m') : m'.InBounds := by
  have hstack : m'.stack.Tidy := by
    rcases stack_of_step hstep with heq | ⟨hroom, hfetch, hpush⟩ | ⟨hpos, hpop, -⟩
    · exact heq ▸ h.stack
    · exact hpush ▸ CallStack.tidy_push h.stack hroom (by omega)
    · exact hpop ▸ CallStack.tidy_pop h.stack hpos
  refine inBounds_of hstack ?_
  obtain ⟨hfetch, ⟨i, hi, -, rfl⟩ | ⟨-, rfl⟩⟩ := step_ok_iff.1 hstep
  · have hpc : (i.perform m).tick.pc.toNat = i.target m :=
      Instruction.toNat_pc_perform (h.target_lt hi)
    rw [hpc]
    rcases Instruction.target_le hi h.stack.top_le with ht | ht <;> omega
  · exact h.pc_le

/-- **Many cycles.** -/
theorem inBounds_of_steps {n : Nat} (h : m.InBounds) (hsteps : m.steps n = .ok m') :
    m'.InBounds := by
  induction n generalizing m with
  | zero =>
    rw [steps_zero, Except.ok.injEq] at hsteps
    exact hsteps ▸ h
  | succ n ih =>
    obtain ⟨m₁, hfirst, hrest⟩ := steps_succ_eq_ok_iff.1 hsteps
    exact ih (inBounds_of_step h hfirst) hrest

end Machine

namespace Session

/-! ## Requests -/

/-- **One request**, granted or refused. -/
theorem inBounds_perform {s : Session} {a : Action} (h : s.machine.InBounds)
    (ha : ∀ opcode, a ≠ .execute opcode) : (s.perform a).session.machine.InBounds := by
  rcases machine_perform (s := s) ha with heq | hattend | ⟨n, m, hsteps, hm⟩ | hreset
  · exact heq ▸ h
  · exact h.of_keeps (Machine.keeps_of_attend hattend)
  · have hend := Machine.inBounds_of_steps h hsteps
    rcases hm with hm | hm
    · exact hm ▸ hend
    · exact hm ▸ hend.of_keeps ⟨rfl, rfl⟩
  · exact hreset ▸ Machine.inBounds_powerOn _ _

/-- The machine of a session that has just been started. -/
theorem inBounds_start {seed frameLength : Int} {mode : Mode} {s : Session}
    (h : Session.start seed mode frameLength = .ok s) : s.machine.InBounds := by
  obtain ⟨key, -, rfl⟩ := opened_of_start h
  exact Machine.inBounds_powerOn key mode

/-- **A whole run.**  After any requests but `execute`, and in between the cycles of
the next frame, the machine is within its bounds, and no instruction makes a
program counter that sixteen bits do not hold.  The induction is on the
requests. -/
theorem inBounds_performAll {seed frameLength : Int} {mode : Mode} {s : Session}
    {actions : List Action} (hstart : Session.start seed mode frameLength = .ok s)
    (hactions : ∀ a ∈ actions, ∀ opcode, a ≠ .execute opcode) :
    (s.performAll actions).machine.InBounds ∧
      ∀ n m, (s.performAll actions).machine.steps n = .ok m →
        m.InBounds ∧ ∀ w i, Instruction.decode? w = some i →
          i.target m < 0x10000 ∧ (i.perform m).pc.toNat = i.target m := by
  have hrun : (s.performAll actions).machine.InBounds := by
    have hs := inBounds_start hstart
    clear hstart
    induction actions generalizing s with
    | nil => exact hs
    | cons a rest ih =>
      rw [performAll_cons]
      refine ih (fun b hb => hactions b (List.mem_cons_of_mem a hb)) ?_
      exact inBounds_perform hs (hactions a List.mem_cons_self)
  refine ⟨hrun, fun n m hsteps => ?_⟩
  have hm := Machine.inBounds_of_steps hrun hsteps
  refine ⟨hm, fun w i hi => ?_⟩
  have hlt := hm.target_lt hi
  exact ⟨hlt, Instruction.toNat_pc_perform hlt⟩

/-- A session that has just been started. -/
def farSession : Session :=
  { machine := .powerOn ⟨0, 0⟩ .canonical, key := ⟨0, 0⟩, frameLength := 8 }

/-- Load a program that writes a call into the last two cells of memory and makes
it, to a subroutine that jumps as far as a jump can lead.  The second frame fails
there. -/
def farRequests : List Action :=
  [.load [0x60, 0x22, 0x61, 0x0A, 0xAF, 0xFE, 0xF1, 0x55, 0x1F, 0xFE, 0x60, 0xFF, 0xBF, 0xFF],
    .frame, .frame]

/-- The bounds are reached: the highest address is stacked, and the program counter
is as far as it gets. -/
theorem inBounds_performAll_far :
    Session.start 0 .canonical 8 = .ok farSession ∧
      (farSession.performAll farRequests).machine.InBounds ∧
      (farSession.performAll farRequests).machine.pc = 0x10FE ∧
      (farSession.performAll farRequests).machine.stack.toList = [0x0FFE] := by
  have hstart : Session.start 0 .canonical 8 = .ok farSession := rfl
  have hactions : ∀ a ∈ farRequests, ∀ opcode, a ≠ .execute opcode := by simp [farRequests]
  obtain ⟨hbounds, -⟩ := inBounds_performAll hstart hactions
  exact ⟨hstart, hbounds, by decide +kernel⟩

end Session

end ChipEight
