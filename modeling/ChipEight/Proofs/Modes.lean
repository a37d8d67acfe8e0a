import ChipEight.Proofs.Locality
import ChipEight.Proofs.Trace

/-!
# Machines that differ in their mode

The mode says which way `SHR` shifts, and nothing else looks at it.  So two machines
that differ in nothing but the mode go the same way, cycle by cycle, until one of them
comes upon a `SHR`; and behind it they differ in the register shifted as well.

What is proved here:

* **arithmetic** — `apply_mode`: the value and the flag of every other operation, and
  `flag_apply_shr`, the flag of `SHR` itself, are the same in both modes;
* **one cycle** — `step_setMode` for any other opcode, and `step_setMode_of_shr`;
* **many cycles** — `cycles_setMode`, and `responses_setMode` for what a host is told;
* **the whole** — `mode_matters_to_shr_only`.
-/

namespace ChipEight

open Operation (ofOpcode?)

/-! ## Arithmetic -/

namespace Arithmetic

/-- Every operation but one gives the same in all modes. -/
theorem apply_mode {op : Arithmetic} (h : op ≠ .shr) (mode mode' : Mode) (a b : Int32) :
    op.apply mode a b = op.apply mode' a b := by
  cases op with
  | shr => exact absurd rfl h
  | _ => rfl

/-- Either way the flag of a shift to the right is the bit that falls out. -/
theorem flag_apply_shr (mode mode' : Mode) (a b : Int32) :
    (Arithmetic.shr.apply mode a b).flag = (Arithmetic.shr.apply mode' a b).flag := by
  cases mode <;> cases mode' <;> rfl

end Arithmetic

namespace Machine

/-- The machine in another mode. -/
def setMode (m : Machine) (mode : Mode) : Machine := { m with mode := mode }

theorem setRegister_setRegister (m : Machine) (x : Register) (a b : Byte) :
    (m.setRegister x a).setRegister x b = m.setRegister x b := by
  simp [setRegister]

theorem setRegister_setMode (m : Machine) (mode : Mode) (x : Register) (a : Byte) :
    (m.setMode mode).setRegister x a = (m.setRegister x a).setMode mode := rfl

theorem compute_setMode (m : Machine) (mode : Mode) {op : Arithmetic} (h : op ≠ .shr)
    (x y : Register) : (m.setMode mode).compute op x y = (m.compute op x y).setMode mode := by
  have happly := Arithmetic.apply_mode h mode m.mode (m.operand x) (m.operand y)
  have hmode : op.apply (m.setMode mode).mode ((m.setMode mode).operand x)
      ((m.setMode mode).operand y) = op.apply m.mode (m.operand x) (m.operand y) := happly
  simp only [compute, hmode]
  cases (op.apply m.mode (m.operand x) (m.operand y)).flag <;> rfl

/-- In two modes a shift to the right writes the same flag, and perhaps different values
into `Vx` after it. -/
theorem compute_setMode_shr (m : Machine) (mode : Mode) (x y : Register) :
    ∃ value, (m.setMode mode).compute .shr x y
      = ((m.compute .shr x y).setMode mode).setRegister x value := by
  have hflag := Arithmetic.flag_apply_shr mode m.mode (m.operand x) (m.operand y)
  refine ⟨toByte (Arithmetic.shr.apply mode (m.operand x) (m.operand y)).value, ?_⟩
  have hmode : Arithmetic.shr.apply (m.setMode mode).mode ((m.setMode mode).operand x)
      ((m.setMode mode).operand y) = Arithmetic.shr.apply mode (m.operand x) (m.operand y) := rfl
  simp only [compute, hmode, hflag]
  cases (Arithmetic.shr.apply m.mode (m.operand x) (m.operand y)).flag with
  | none => rw [← setRegister_setMode, setRegister_setRegister]
  | some flag =>
    rw [← setRegister_setMode, setRegister_setRegister]
    rfl

end Machine

/-! ## Instructions and opcodes -/

namespace Instruction

/-- No check looks at the mode. -/
theorem failure?_setMode (i : Instruction) (m : Machine) (mode : Mode) :
    i.failure? (m.setMode mode) = i.failure? m := by
  cases i <;> rfl

/-- **Instructions.**  Every instruction but a shift to the right does the same in all
modes. -/
theorem perform_setMode {i : Instruction} (h : i.operation ≠ .arithmetic .shr) (m : Machine)
    (mode : Mode) : i.perform (m.setMode mode) = (i.perform m).setMode mode := by
  cases i with
  | arithmetic op x y =>
    have hop : op ≠ .shr := fun heq => h (congrArg Operation.arithmetic heq)
    exact congrArg (Machine.advance · 2) (m.compute_setMode mode hop x y)
  | waitKey x =>
    have hkeypad : (m.setMode mode).keypad.lowest? = m.keypad.lowest? := rfl
    rw [perform, perform, hkeypad]
    cases m.keypad.lowest? <;> rfl
  | _ => rfl

end Instruction

namespace Machine

variable {m : Machine} {w : Opcode}

/-- **Opcodes.**  The same notices and the same failed check, too. -/
theorem execute_setMode (h : ofOpcode? w ≠ some (.arithmetic .shr)) (m : Machine) (mode : Mode) :
    (m.setMode mode).execute w = (m.execute w).update (·.setMode mode) := by
  refine execute_update (f := (·.setMode mode)) rfl fun i hi => ⟨i.failure?_setMode m mode, ?_⟩
  have hop : i.operation ≠ .arithmetic .shr := by
    intro heq
    rw [← Instruction.map_operation_decode?, hi, Option.map_some, heq] at h
    exact h rfl
  exact Instruction.perform_setMode hop m mode

theorem step_setMode (h : ofOpcode? m.opcode ≠ some (.arithmetic .shr)) (mode : Mode) :
    (m.setMode mode).step = m.step.update (·.setMode mode) := by
  have hopcode : (m.setMode mode).opcode = m.opcode := rfl
  rw [step, hopcode, execute_setMode h, step]
  rfl

/-- No cycle changes the mode. -/
theorem mode_of_step {m' : Machine} (h : m.step.result = .ok m') : m'.mode = m.mode := by
  obtain ⟨-, ⟨i, -, -, rfl⟩ | ⟨-, rfl⟩⟩ := step_ok_iff.1 h
  · exact Instruction.same_perform m (p := .mode) rfl
  · rfl

/-- **A shift to the right** succeeds in both modes, and the machines afterwards differ
in `Vx` and in the mode at most. -/
theorem step_setMode_of_shr (hfetch : m.fetch = .ok w) (hw : ofOpcode? w = some (.arithmetic .shr))
    (mode : Mode) :
    ∃ m' value, m.step.result = .ok m' ∧
      (m.setMode mode).step.result = .ok ((m'.setMode mode).setRegister (Opcode.x w) value) ∧
      m.step.notices = [] ∧ (m.setMode mode).step.notices = [] := by
  obtain ⟨hpc, rfl⟩ := fetch_eq_ok_iff.1 hfetch
  have hi : Instruction.decode? m.opcode
      = some (.arithmetic .shr (Opcode.x m.opcode) (Opcode.y m.opcode)) := by
    rw [Instruction.decode?, hw]
    rfl
  have hi' : Instruction.decode? (m.setMode mode).opcode
      = some (.arithmetic .shr (Opcode.x m.opcode) (Opcode.y m.opcode)) := hi
  obtain ⟨value, hvalue⟩ := m.compute_setMode_shr mode (Opcode.x m.opcode) (Opcode.y m.opcode)
  refine ⟨_, value, step_ok_iff.2 ⟨hpc, .inl ⟨_, hi, rfl, rfl⟩⟩,
    step_ok_iff.2 ⟨hpc, .inl ⟨_, hi', rfl, ?_⟩⟩, ?_, ?_⟩
  · exact (congrArg (fun m => (Machine.advance m 2).tick) hvalue).symm
  · simp [step, execute, hi]
  · simp [step, execute, hi']

end Machine

/-! ## Many cycles -/

/-- What was executed, with the machine afterwards in another mode. -/
def Execution.setMode (e : Execution) (mode : Mode) : Execution :=
  { e with result := e.result.map (·.setMode mode) }

namespace Machine

variable {m : Machine} {n : Nat}

theorem result_step_setMode (h : ofOpcode? m.opcode ≠ some (.arithmetic .shr)) (mode : Mode) :
    (m.setMode mode).step.result = m.step.result.map (·.setMode mode) := by
  rw [step_setMode h, Outcome.result_update]

theorem cycle_setMode (h : ofOpcode? m.opcode ≠ some (.arithmetic .shr)) (mode : Mode) :
    (m.setMode mode).cycle = m.cycle.setMode mode := by
  rw [cycle, result_step_setMode h, step_setMode h]
  rfl

/-- **Cycle by cycle.**  As long as no shift to the right is executed, the same opcodes
are executed in both modes, with the same notices and the same faults, on machines that
differ in the mode only.  The induction is on the cycles, and the twins of its hypothesis
are the machines that the first cycle makes. -/
theorem cycles_setMode (h : ∀ w ∈ m.opcodes n, ofOpcode? w ≠ some (.arithmetic .shr))
    (mode : Mode) : (m.setMode mode).cycles n = (m.cycles n).map (·.setMode mode) := by
  induction n generalizing m with
  | zero => rfl
  | succ n ih =>
    have hfirst : ofOpcode? m.opcode ≠ some (.arithmetic .shr) :=
      h _ (opcode_mem_opcodes (Nat.succ_pos n) (steps_zero m))
    have htwin := result_step_setMode hfirst mode
    cases hstep : m.step.result with
    | ok m₁ =>
      rw [hstep] at htwin
      rw [opcodes_succ_of_ok hstep] at h
      rw [cycles_succ_of_ok htwin, cycles_succ_of_ok hstep, List.map_cons,
        ih fun w hw => h w (List.mem_cons_of_mem _ hw), cycle_setMode hfirst]
    | error f =>
      rw [hstep] at htwin
      rw [cycles_succ_of_error htwin, cycles_succ_of_error hstep, cycle_setMode hfirst]
      rfl

/-- No cycle of a run changes the mode. -/
theorem mode_of_mem_cycles {e : Execution} {m' : Machine} (he : e ∈ m.cycles n)
    (h : e.result = .ok m') : m'.mode = m.mode := by
  induction n generalizing m with
  | zero => simp at he
  | succ n ih =>
    cases hstep : m.step.result with
    | ok m₁ =>
      rw [cycles_succ_of_ok hstep] at he
      rcases List.mem_cons.1 he with rfl | he
      · exact mode_of_step h
      · rw [ih he, mode_of_step hstep]
    | error f =>
      rw [cycles_succ_of_error hstep, List.mem_singleton] at he
      subst he
      exact mode_of_step h

end Machine

namespace Session

/-- The session with its machine in another mode. -/
def setMode (s : Session) (mode : Mode) : Session := { s with machine := s.machine.setMode mode }

end Session

/-- The same response from a session in another mode. -/
def Response.setMode (r : Response) (mode : Mode) : Response :=
  { r with session := r.session.setMode mode }

namespace Session

theorem step_setMode {s : Session} (h : ofOpcode? s.machine.opcode ≠ some (.arithmetic .shr))
    (mode : Mode) : (s.setMode mode).step = s.step.setMode mode := by
  have hmachine : (s.setMode mode).machine.step = s.machine.step.update (·.setMode mode) :=
    Machine.step_setMode h mode
  rw [step, step, conclude, conclude, hmachine, Outcome.result_update]
  cases s.machine.step.result <;> rfl

/-- **What a host is told.**  Requests for single cycles, those behind a fault included,
give the same replies, refusals and records in both modes. -/
theorem responses_setMode {s : Session} {n : Nat}
    (h : ∀ w ∈ s.machine.opcodes n, ofOpcode? w ≠ some (.arithmetic .shr)) (mode : Mode) :
    (s.setMode mode).responses (List.replicate n .step)
      = (s.responses (List.replicate n .step)).map (·.setMode mode) := by
  induction n generalizing s with
  | zero => rfl
  | succ n ih =>
    have hfirst : ofOpcode? s.machine.opcode ≠ some (.arithmetic .shr) :=
      h _ (Machine.opcode_mem_opcodes (Nat.succ_pos n) (Machine.steps_zero _))
    have hrest : ∀ w ∈ s.step.session.machine.opcodes n,
        ofOpcode? w ≠ some (.arithmetic .shr) := by
      intro w hw
      cases hstep : s.machine.step.result with
      | ok m₁ =>
        rw [(step_of_ok hstep).1] at hw
        rw [Machine.opcodes_succ_of_ok hstep] at h
        refine h w (List.mem_cons_of_mem _ ?_)
        rwa [← m₁.opcodes_setRedraw false]
      | error f =>
        rw [(step_of_error hstep).1] at hw
        exact h w (Machine.mem_opcodes_succ hw)
    rw [List.replicate_succ, responses_cons, responses_cons, List.map_cons, perform, perform,
      step_setMode hfirst, ← ih hrest]
    rfl

end Session

/-- **The mode matters to `SHR` only.**  Take two machines, or two sessions, that differ
in nothing but the mode.  As long as the first executes no shift to the right, the second
executes the same opcodes, cycle by cycle, with the same notices and the same faults, the
machines between the cycles differ in nothing but the mode, which both keep, and the host
of the one is told what the host of the other is.  A cycle that does shift to the right
succeeds on both, and leaves machines that differ in `Vx` and the mode at most, so that
they agree on `VF` unless this is `Vx`. -/
theorem mode_matters_to_shr_only (mode : Mode) :
    (∀ (m : Machine) (n : Nat),
      (∀ w ∈ m.opcodes n, ofOpcode? w ≠ some (.arithmetic .shr)) →
        (m.setMode mode).cycles n = (m.cycles n).map (·.setMode mode) ∧
          ∀ e ∈ m.cycles n, ∀ m', e.result = .ok m' → m'.mode = m.mode) ∧
      (∀ (s : Session) (n : Nat),
        (∀ w ∈ s.machine.opcodes n, ofOpcode? w ≠ some (.arithmetic .shr)) →
          (s.setMode mode).responses (List.replicate n .step)
            = (s.responses (List.replicate n .step)).map (·.setMode mode)) ∧
      ∀ (m : Machine) (w : Opcode), m.fetch = .ok w → ofOpcode? w = some (.arithmetic .shr) →
        ∃ m' value, m.step.result = .ok m' ∧
          (m.setMode mode).step.result
            = .ok ((m'.setMode mode).setRegister (Opcode.x w) value) ∧
          m.step.notices = (m.setMode mode).step.notices ∧
          (Opcode.x w ≠ flagRegister →
            ((m'.setMode mode).setRegister (Opcode.x w) value).register flagRegister
              = m'.register flagRegister) := by
  refine ⟨fun m n h => ⟨Machine.cycles_setMode h mode, ?_⟩,
    fun s n h => Session.responses_setMode h mode, fun m w hfetch hw => ?_⟩
  · exact fun e he m' hm' => Machine.mode_of_mem_cycles he hm'
  · obtain ⟨m', value, hok, htwin, hnone, hnone'⟩ := Machine.step_setMode_of_shr hfetch hw mode
    refine ⟨m', value, hok, htwin, hnone.trans hnone'.symm, fun hx => ?_⟩
    rw [Machine.register_setRegister, if_neg (Ne.symm hx)]
    rfl

/-- Writes a return over the opcode behind it, and comes upon that with an empty stack. -/
def selfModifying : Session :=
  .ready ⟨0, 0⟩ 1 [0xA2, 0x08, 0x60, 0x00, 0x61, 0xEE, 0xF1, 0x55, 0x00, 0x00]

/-- Shifts a five to the right. -/
def shiftingFive : Machine :=
  { (Session.ready ⟨0, 0⟩ 1 [0x81, 0x06]).machine with registers := Vector.replicate 16 5 }

/-- In both modes the program changes itself in the same way and fails at the same
place; a shift is where the modes part, in the register shifted and not in the flag. -/
theorem mode_matters_to_shr_only_selfModifying :
    (selfModifying.setMode .transcribed).responses (List.replicate 5 .step)
        = (selfModifying.responses (List.replicate 5 .step)).map (·.setMode .transcribed) ∧
      selfModifying.machine.opcodes 5 = [0xA208, 0x6000, 0x61EE, 0xF155, 0x00EE] ∧
      ∃ m' value, shiftingFive.step.result = .ok m' ∧
        (shiftingFive.setMode .transcribed).step.result
          = .ok ((m'.setMode .transcribed).setRegister (Opcode.x 0x8106) value) ∧
        ((m'.setMode .transcribed).setRegister (Opcode.x 0x8106) value).register flagRegister
          = m'.register flagRegister ∧
        m'.register (Opcode.x 0x8106) = 2 ∧ value = 10 := by
  obtain ⟨-, hsession, hshift⟩ := mode_matters_to_shr_only .transcribed
  have hopcodes : selfModifying.machine.opcodes 5 = [0xA208, 0x6000, 0x61EE, 0xF155, 0x00EE] := by
    decide +kernel
  have hspared : (selfModifying.machine.opcodes 5).all fun w =>
      ofOpcode? w != some (.arithmetic .shr) := by
    rw [hopcodes]
    decide +kernel
  refine ⟨hsession selfModifying 5 fun w hw => ?_, hopcodes, ?_⟩
  · simpa using List.all_eq_true.1 hspared w hw
  · have hfetch : shiftingFive.fetch = .ok 0x8106 :=
      Machine.fetch_eq_ok_iff.2 ⟨by decide +kernel, by decide +kernel⟩
    obtain ⟨m', value, hok, htwin, -, hflag⟩ := hshift _ _ hfetch (by decide +kernel)
    refine ⟨m', value, hok, htwin, hflag (by decide), ?_, ?_⟩
    · rw [← (Outcome.result_eq_ok_iff.1 hok).2]
      decide +kernel
    · have hregister := congrArg (Machine.register · (Opcode.x 0x8106))
        (Outcome.result_eq_ok_iff.1 htwin).2
      simp only [Machine.register_setRegister, if_true] at hregister
      rw [← hregister]
      decide +kernel

end ChipEight
