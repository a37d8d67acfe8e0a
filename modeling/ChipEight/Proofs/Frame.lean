import ChipEight.Proofs.Effects
import ChipEight.Proofs.Requests

/-!
# Frames and single cycles

A frame makes its cycles in one go and takes the redraw flag back once, at the
end; a host that asks for single cycles has it taken back after each.  So the two
pass through different machines, which differ in the redraw flag only.

What is proved here:

* **the flag is written and never read** — `perform_setRedraw`: an instruction
  does the same whatever the flag says, and the instructions that paint
  (`Instruction.paints`) are the ones that set it;
* **simulation** — `step_setRedraw` for a cycle and `run_setRedraw` for many:
  machines that agree up to the flag stay so, fail alike and give the same
  notices;
* **agreement** — `frame_eq_cycles`: a frame ends where the single cycles end,
  and asks for a repaint when one of them does.
-/

namespace ChipEight

/-! ## The redraw flag apart -/

namespace Machine

/-- The machine with another redraw flag. -/
def setRedraw (m : Machine) (b : Bool) : Machine := { m with redraw := b }

@[simp] theorem redraw_setRedraw (m : Machine) (b : Bool) : (m.setRedraw b).redraw = b := rfl

@[simp] theorem setRedraw_setRedraw (m : Machine) (b c : Bool) :
    (m.setRedraw b).setRedraw c = m.setRedraw c := rfl

@[simp] theorem setRedraw_redraw (m : Machine) : m.setRedraw m.redraw = m := rfl

theorem compute_setRedraw (m : Machine) (b : Bool) (op : Arithmetic) (x y : Register) :
    (m.setRedraw b).compute op x y = (m.compute op x y).setRedraw b := by
  rw [compute_congr m (m.setRedraw b) rfl rfl, compute_eq m]
  rfl

end Machine

namespace Instruction

/-- Whether an instruction paints on the display. -/
def paints : Instruction → Bool
  | .clear => true
  | .draw _ _ _ => true
  | _ => false

/-- An instruction does the same whatever the redraw flag says, and sets it when
it paints. -/
theorem perform_setRedraw (i : Instruction) (m : Machine) (b : Bool) :
    i.perform (m.setRedraw b) = (i.perform m).setRedraw (b || i.paints) := by
  cases i with
  | arithmetic op x y =>
    have h := congrArg (Machine.advance · 2) (m.compute_setRedraw b op x y)
    cases b <;> exact h
  | waitKey x =>
    have hkeypad : (m.setRedraw b).keypad.lowest? = m.keypad.lowest? := rfl
    rw [perform, perform, hkeypad]
    cases m.keypad.lowest? <;> cases b <;> rfl
  | _ => cases b <;> rfl

theorem failure?_setRedraw (i : Instruction) (m : Machine) (b : Bool) :
    i.failure? (m.setRedraw b) = i.failure? m := by
  cases i <;> rfl

end Instruction

namespace Machine

/-! ## Simulation up to the flag -/

/-- Whether the next cycle paints on the display. -/
def paints (m : Machine) : Bool := (Instruction.decode? m.opcode).any Instruction.paints

/-- Whether one of the next `n` cycles paints on the display. -/
def paintsWithin : Nat → Machine → Bool
  | 0, _ => false
  | n + 1, m => m.paints || paintsWithin n m.step.machine

theorem execute_setRedraw (m : Machine) (b : Bool) :
    (m.setRedraw b).execute m.opcode =
      { m.execute m.opcode with machine := m.executed.setRedraw (b || m.paints) } := by
  cases h : Instruction.decode? m.opcode with
  | none => simp [execute, paints, h, executed_of_unknown h, setRedraw]
  | some i =>
    simp [execute, paints, h, executed_of_decode h, i.perform_setRedraw, i.failure?_setRedraw]

/-- **One cycle up to the flag.**  The same checks fail, the same notices are
given, and the machines afterwards differ in the flag only. -/
theorem step_setRedraw (m : Machine) (b : Bool) :
    (m.setRedraw b).step =
      { m.step with machine := m.step.machine.setRedraw (b || m.paints) } := by
  have h : (m.setRedraw b).opcode = m.opcode := rfl
  rw [step, h, execute_setRedraw]
  rfl

/-- **Many cycles up to the flag.** -/
theorem run_setRedraw (m : Machine) (b : Bool) (n : Nat) :
    (m.setRedraw b).run n =
      { m.run n with machine := (m.run n).machine.setRedraw (b || m.paintsWithin n) } := by
  induction n generalizing m b with
  | zero => simp [run, paintsWithin]
  | succ n ih =>
    simp only [run, step_setRedraw, Outcome.andThen, ih, paintsWithin, Bool.or_assoc]

/-- The flag after many cycles: it was up before, or one of them painted. -/
theorem redraw_of_steps {m m' : Machine} {n : Nat} (h : m.steps n = .ok m') :
    m'.redraw = (m.redraw || m.paintsWithin n) := by
  obtain ⟨-, hm⟩ := Outcome.result_eq_ok_iff.1 (result_run_eq_ok_iff.2 h)
  have hrun := congrArg (fun o => o.machine.redraw) (m.run_setRedraw m.redraw n)
  rw [setRedraw_redraw] at hrun
  rw [← hm]
  exact hrun

/-- Cycles that succeed also succeed once the host has painted. -/
theorem steps_acknowledge {m m' : Machine} {n : Nat} (h : m.steps n = .ok m') :
    m.acknowledge.steps n = .ok (m'.setRedraw (m.paintsWithin n)) := by
  obtain ⟨hnil, hm⟩ := Outcome.result_eq_ok_iff.1 (result_run_eq_ok_iff.2 h)
  refine result_run_eq_ok_iff.1 (Outcome.result_eq_ok_iff.2 ?_)
  rw [show m.acknowledge = m.setRedraw false from rfl, run_setRedraw, Bool.false_or, hm]
  exact ⟨hnil, rfl⟩

end Machine

/-! ## Frames -/

namespace Session

/-- A response to a cycle that was granted. -/
def Granted (r : Response) : Prop := ∃ b, r.outcome = .ok (.repaint b)

/-- A response that asks the host to paint. -/
def AsksRepaint (r : Response) : Prop := r.outcome = .ok (.repaint true)

/-- Single cycles, at least one: where they lead, and what the host is told.  The
induction is on their number, and the first cycle hands the others a machine
that differs from the loop's in the redraw flag. -/
theorem cycles_of_steps {n : Nat} {s : Session} {m' : Machine}
    (h : s.machine.steps (n + 1) = .ok m') :
    s.performAll (List.replicate (n + 1) .step) = { s with machine := m'.acknowledge } ∧
      (∀ r ∈ s.responses (List.replicate (n + 1) .step), Granted r) ∧
      (m'.redraw = true ↔ ∃ r ∈ s.responses (List.replicate (n + 1) .step), AsksRepaint r) := by
  induction n generalizing s m' with
  | zero =>
    rw [Nat.zero_add, Machine.steps_one] at h
    obtain ⟨hs, ho⟩ := step_of_ok h
    simp [perform, Granted, AsksRepaint, hs, ho]
  | succ n ih =>
    obtain ⟨m₁, hstep, hrest⟩ := Machine.steps_succ_eq_ok_iff.1 h
    obtain ⟨hs, ho⟩ := step_of_ok hstep
    have hmachine : s.step.session.machine = m₁.acknowledge := by rw [hs]
    obtain ⟨hall, hgranted, hrepaint⟩ :=
      ih (hmachine ▸ Machine.steps_acknowledge hrest)
    have hflag := Machine.redraw_of_steps hrest
    rw [List.replicate_succ, performAll_cons, responses_cons, perform]
    refine ⟨?_, ?_, ?_⟩
    · rw [hall, hs]
      rfl
    · intro r hr
      rcases List.mem_cons.1 hr with rfl | hr
      · exact ⟨_, ho⟩
      · exact hgranted r hr
    · simp only [List.mem_cons, exists_eq_or_imp, ← hrepaint, hflag, Bool.or_eq_true]
      simp [AsksRepaint, ho]

/-- **Frames and single cycles agree.**  The loop of `n` cycles succeeds exactly
when `n` single cycles do, and then gives the same machine.  A frame whose cycles
all succeed leaves the session that as many requests for one cycle leave, every
one of which is granted, and it asks for a repaint exactly when one of them
does. -/
theorem frame_eq_cycles :
    (∀ (m m' : Machine) (n : Nat), (m.run n).result = .ok m' ↔ m.steps n = .ok m') ∧
      ∀ (s : Session) (m' : Machine), 1 ≤ s.frameLength →
        s.machine.steps s.frameLength = .ok m' →
        let cycles := List.replicate s.frameLength Action.step
        s.frame.session = s.performAll cycles ∧
          (∀ r ∈ s.responses cycles, Granted r) ∧
          Granted s.frame ∧
          (AsksRepaint s.frame ↔ ∃ r ∈ s.responses cycles, AsksRepaint r) := by
  refine ⟨fun m m' n => Machine.result_run_eq_ok_iff, fun s m' hpos hsteps => ?_⟩
  obtain ⟨hframe, hreply⟩ := frame_of_ok (Machine.result_run_eq_ok_iff.2 hsteps)
  obtain ⟨n, hn⟩ := Nat.exists_eq_add_of_le' hpos
  rw [hn] at hsteps ⊢
  obtain ⟨hall, hgranted, hrepaint⟩ := cycles_of_steps hsteps
  refine ⟨hframe.trans hall.symm, hgranted, ⟨_, hreply⟩, ?_⟩
  rw [← hrepaint, AsksRepaint, hreply]
  simp

/-- Sets a register, clears the display, and jumps to where it stands. -/
def clearOnce : Session := .ready ⟨0, 0⟩ 3 [0x60, 0x01, 0x00, 0xE0, 0x12, 0x04]

/-- Only the second of three cycles clears the display, and both hosts learn of it:
the frame asks for a repaint although the last cycle does not. -/
theorem frame_eq_cycles_clearOnce :
    clearOnce.frame.session = clearOnce.performAll [.step, .step, .step] ∧
      AsksRepaint clearOnce.frame ∧
      ∃ r ∈ clearOnce.responses [.step, .step, .step], AsksRepaint r := by
  have hrun : (clearOnce.machine.run 3).result = .ok (clearOnce.machine.run 3).machine :=
    Outcome.result_eq_ok_iff.2 ⟨by decide +kernel, rfl⟩
  obtain ⟨hsession, -, -, hiff⟩ :=
    frame_eq_cycles.2 clearOnce _ (Nat.succ_pos 2) ((frame_eq_cycles.1 _ _ 3).1 hrun)
  have hflag : (clearOnce.machine.run 3).machine.redraw = true := by decide +kernel
  have hreply := (frame_of_ok (s := clearOnce) hrun).2
  have hframe : AsksRepaint clearOnce.frame := by
    rw [AsksRepaint, hreply, hflag]
  exact ⟨hsession, hframe, hiff.1 hframe⟩

end Session

end ChipEight
