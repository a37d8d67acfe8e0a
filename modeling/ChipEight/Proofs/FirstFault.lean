import ChipEight.Proofs.Frame
import ChipEight.Proofs.Messages
import ChipEight.Proofs.Reported

/-!
# The first fault and the fault reported

A host that asks for single cycles learns of the first fault that comes up, and
its machine stays as the cycles before left it.  A run or a frame is carried past
its first failing cycle, on what that cycle made of the machine, and the checks
of the later cycles report as well.

What is proved here:

* **one cycle** — `reported?_step`: of the two checks of a cycle the first to fail
  is reported;
* **single cycles** — `cycles_of_fault`: the cycles before the first fault are
  granted, the next is refused with that fault, and the session keeps what the
  granted ones did;
* **many cycles in one go** — `frame_fault`: the session stays as it was, and the
  fault reported is the first one exactly when that prevails over what the later
  cycles report (`Failure.Prevails`).  It need not: `frame_hides_fault`.
-/

namespace ChipEight

open Failure (Overtakes Prevails reported? kept)

/-- The fault of an outcome is that of the failure reported. -/
theorem Outcome.result_eq_error_iff {o : Outcome} {f : Fault} :
    o.result = .error f ↔ ∃ g, reported? o.failures = some g ∧ g.fault = f := by
  rw [result]
  cases reported? o.failures <;> simp

namespace Machine

/-- An opcode whose check fails. -/
theorem execute_of_failure {m : Machine} {w : Opcode} {i : Instruction} {g : Failure}
    (hi : Instruction.decode? w = some i) (hcheck : i.failure? m = some g) :
    (m.execute w).result = .error g.fault := by
  simp [Outcome.result_eq_error_iff, execute, hi, hcheck]

/-! ## One cycle -/

/-- The first check of a cycle to fail ranks before the other. -/
theorem rank_le_of_failures_step {m : Machine} {g h : Failure} {rest : List Failure}
    (hg : m.step.failures = g :: rest) (hh : h ∈ m.step.failures) :
    g.check.rank ≤ h.check.rank := by
  have hexecute : ∃ o : Option Failure, (m.execute m.opcode).failures = o.toList := by
    rw [execute]
    cases Instruction.decode? m.opcode with
    | none => exact ⟨none, rfl⟩
    | some i => exact ⟨i.failure? m, rfl⟩
  obtain ⟨o, ho⟩ := hexecute
  rw [failures_step, ho] at hg hh
  cases hfetch : m.fetchFault? with
  | some f =>
    rw [hfetch] at hg
    cases hg
    exact Check.rank_fetch_le _
  | none =>
    rw [hfetch] at hg hh
    cases o with
    | none => cases hg
    | some e =>
      cases hg
      obtain rfl := List.mem_singleton.1 hh
      exact Nat.le_refl _

/-- **One cycle reports its first failure.** -/
theorem reported?_step (m : Machine) : reported? m.step.failures = m.step.failures.head? := by
  cases hfs : m.step.failures with
  | nil => rfl
  | cons g rest =>
    rw [List.head?_cons, Failure.reported?_eq_some_iff]
    refine ⟨Failure.head_mem_kept g rest, fun h hh => ?_⟩
    refine rank_le_of_failures_step hfs ?_
    rw [hfs]
    exact Failure.mem_of_mem_kept hh

/-- A fetch that fails is what its cycle reports, whatever was executed after it. -/
theorem result_step_of_fetchFault {m : Machine} {f : Fault} (h : m.fetchFault? = some f) :
    m.step.result = .error f := by
  rw [Outcome.result_eq_error_iff, reported?_step, failures_step, h]
  exact ⟨_, rfl, rfl⟩

/-- A cycle that fails does so with the fault of its first failure. -/
theorem failures_of_step_error {m : Machine} {f : Fault} (h : m.step.result = .error f) :
    ∃ first rest, m.step.failures = first :: rest ∧ first.fault = f := by
  obtain ⟨first, hfirst, hfault⟩ := Outcome.result_eq_error_iff.1 h
  rw [reported?_step, List.head?_eq_some_iff] at hfirst
  obtain ⟨rest, hrest⟩ := hfirst
  exact ⟨first, rest, hrest, hfault⟩

/-! ## Many cycles -/

/-- The failures of a run: those of the first failing cycle, and those of the
cycles carried out on what it left. -/
theorem failures_run_of_steps {m m₁ : Machine} {j : Nat} (h : m.steps j = .ok m₁) (k : Nat) :
    (m.run (j + (k + 1))).failures = m₁.step.failures ++ (m₁.step.machine.run k).failures := by
  rw [run_add_of_ok h, run, Outcome.failures_andThen]

/-- Only a later cycle overtakes the first failure of a run. -/
theorem mem_later_of_overtakes {m₁ : Machine} {first h : Failure} {rest later : List Failure}
    (hfirst : m₁.step.failures = first :: rest)
    (hover : Overtakes (m₁.step.failures ++ later) h first) : h ∈ later := by
  obtain ⟨⟨before, after, hfs, -⟩, hlt⟩ := hover
  have hmem : h ∈ m₁.step.failures ++ later := by
    rw [hfs]
    exact List.mem_append_right _ List.mem_cons_self
  rcases List.mem_append.1 hmem with hh | hh
  · exact absurd hlt (Nat.not_lt.2 (rank_le_of_failures_step hfirst hh))
  · exact hh

end Machine

namespace Session

/-! ## What a host learns -/

/-- A response that refuses because of a fault and leaves the session alone. -/
def RefusesWith (s : Session) (f : Fault) (r : Response) : Prop :=
  r.session = s ∧ r.outcome = .error (.fault f)

/-- **Single cycles.**  Those before the first fault are granted; the one after
them is refused with that fault and leaves the session as the others left it, on
the machine that they made up to its redraw flag. -/
theorem cycles_of_fault {s : Session} {j : Nat} {m : Machine} {f : Fault}
    (hm : s.machine.steps j = .ok m) (hf : m.step.result = .error f) :
    let before := s.performAll (List.replicate j .step)
    (∀ r ∈ s.responses (List.replicate j .step), Granted r) ∧
      (∃ b, before = { s with machine := m.setRedraw b }) ∧
      before.RefusesWith f before.step := by
  have hbefore : (∀ r ∈ s.responses (List.replicate j .step), Granted r) ∧
      ∃ b, s.performAll (List.replicate j .step) = { s with machine := m.setRedraw b } := by
    cases j with
    | zero =>
      rw [Machine.steps_zero, Except.ok.injEq] at hm
      subst hm
      exact ⟨by simp, _, rfl⟩
    | succ j =>
      obtain ⟨hall, hgranted, -⟩ := cycles_of_steps hm
      exact ⟨hgranted, false, hall⟩
  obtain ⟨hgranted, b, hb⟩ := hbefore
  have hstep : (m.setRedraw b).step.result = .error f := by
    obtain ⟨g, hg, hfault⟩ := Outcome.result_eq_error_iff.1 hf
    rw [Machine.step_setRedraw, Outcome.result_eq_error_iff]
    exact ⟨g, hg, hfault⟩
  refine ⟨hgranted, ⟨b, hb⟩, ?_⟩
  rw [hb]
  exact step_of_error hstep

/-- **Many cycles in one go.**  A run or a frame with a failing cycle in it leaves
the session as it was and reports one fault.  Its kind and its text are those of
the first fault exactly when that one prevails over what the later cycles report,
and nothing else can come before it.  Single cycles report the first fault in any
case. -/
theorem frame_fault {s : Session} {j n : Nat} {m : Machine} {f : Fault} (hj : j < n)
    (hm : s.machine.steps j = .ok m) (hf : m.step.result = .error f) :
    (∃ (first : Failure) (reported : Fault),
      (s.machine.run n).failures.head? = some first ∧ first.fault = f ∧
      (s.machine.run n).result = .error reported ∧
      s.RefusesWith reported (s.run n) ∧
      (s.frameLength = n → s.RefusesWith reported s.frame) ∧
      (reported.kind = f.kind ∧ reported.message = f.message ↔
        Prevails (s.machine.run n).failures first) ∧
      ∀ g, Overtakes (s.machine.run n).failures g first →
        g ∈ (m.step.machine.run (n - j - 1)).failures) ∧
      let before := s.performAll (List.replicate j .step)
      (∀ r ∈ s.responses (List.replicate j .step), Granted r) ∧
        (∃ b, before = { s with machine := m.setRedraw b }) ∧
        before.RefusesWith f before.step := by
  refine ⟨?_, cycles_of_fault hm hf⟩
  obtain ⟨k, rfl⟩ : ∃ k, n = j + (k + 1) := ⟨n - j - 1, by omega⟩
  obtain ⟨first, rest, hfirst, rfl⟩ := Machine.failures_of_step_error hf
  have hrun := Machine.failures_run_of_steps hm k
  rw [show j + (k + 1) - j - 1 = k by omega]
  obtain ⟨g, hg⟩ : ∃ g, reported? (s.machine.run (j + (k + 1))).failures = some g := by
    refine Option.ne_none_iff_exists'.1 fun hnone => ?_
    rw [Failure.reported?_eq_none_iff, hrun, hfirst] at hnone
    cases hnone
  have hresult : (s.machine.run (j + (k + 1))).result = .error g.fault :=
    Outcome.result_eq_error_iff.2 ⟨g, hg, rfl⟩
  refine ⟨first, g.fault, ?_, rfl, hresult, run_of_error hresult, ?_, ?_, ?_⟩
  · rw [hrun, hfirst]
    rfl
  · intro hn
    exact frame_of_error (hn ▸ hresult)
  · rw [hrun, hfirst, List.cons_append] at hg ⊢
    rw [← Failure.fault_reported?_cons_eq_iff hg]
    refine ⟨fun h => Fault.message_injective h.2, fun h => ?_⟩
    rw [h]
    exact ⟨rfl, rfl⟩
  · intro h hover
    rw [hrun] at hover
    exact Machine.mem_later_of_overtakes hfirst hover

/-- Sets `I` to the last cell, draws fifteen rows from there, and returns. -/
def drawPastEnd : Session := .ready ⟨0, 0⟩ 5 [0xAF, 0xFF, 0xD0, 0x0F, 0x00, 0xEE]

/-- **A frame may hide the first fault.**  The sprite is the first to fail, and this
is what single cycles report; the frame goes on to the return, whose check ranks
before that of the sprite. -/
theorem frame_hides_fault :
    ∃ m first, drawPastEnd.machine.steps 1 = .ok m ∧
      m.step.result = .error (.outOfRange 15 4095) ∧
      (drawPastEnd.machine.run 5).failures.head? = some first ∧
      ¬ Prevails (drawPastEnd.machine.run 5).failures first ∧
      drawPastEnd.RefusesWith .stackUnderflow drawPastEnd.frame ∧
      (drawPastEnd.perform .step).session.RefusesWith (.outOfRange 15 4095)
        (drawPastEnd.perform .step).session.step := by
  have hfirst : drawPastEnd.machine.steps 1 = .ok drawPastEnd.machine.step.machine := by
    rw [Machine.steps_one, Outcome.result_eq_ok_iff]
    exact ⟨by decide +kernel, rfl⟩
  have hsecond : drawPastEnd.machine.step.machine.step.result = .error (.outOfRange 15 4095) :=
    Outcome.result_eq_error_iff.2 ⟨⟨.draw, _⟩, by decide +kernel, rfl⟩
  obtain ⟨⟨first, reported, hhead, -, hresult, -, hframe, hiff, -⟩, -, -, hcycle⟩ :=
    frame_fault (n := 5) (by decide) hfirst hsecond
  have hrun : (drawPastEnd.machine.run 5).result = .error .stackUnderflow :=
    Outcome.result_eq_error_iff.2 ⟨⟨.ret, _⟩, by decide +kernel, rfl⟩
  obtain rfl : reported = .stackUnderflow := by
    rw [hresult, Except.error.injEq] at hrun
    exact hrun
  refine ⟨_, first, hfirst, hsecond, hhead, fun hprevails => ?_, hframe rfl, hcycle⟩
  have hkind := (hiff.2 hprevails).1
  cases hkind

end Session

end ChipEight
