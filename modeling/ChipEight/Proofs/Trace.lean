import ChipEight.Proofs.FirstFault

/-!
# What a run executes

The opcodes that are executed in a run, one after the other: where each of them stood,
the notices it gave and what became of the machine.

* `Machine.cycles` — single cycles up to the first that fails, and `Machine.carried`,
  the cycles of a run, which goes on behind a cycle that fails; the two agree on
  cycles that all succeed (`carried_of_ok`);
* `Machine.opcodes` — the opcodes alone, which do not hang on the redraw flag
  (`opcodes_setRedraw`);
* `Session.executions` — what is executed for a request, and `Session.trace`, for many.
-/

namespace ChipEight

/-! ## Opcodes executed -/

/-- An opcode that was executed. -/
structure Execution where
  /-- The program counter, which the opcode stood at or was given for. -/
  address : Word
  opcode : Opcode
  notices : List Notice
  /-- The machine afterwards, or the fault that was reported. -/
  result : Except Fault Machine

namespace Machine

/-- One opcode, applied without a cycle. -/
def execution (m : Machine) (w : Opcode) : Execution where
  address := m.pc
  opcode := w
  notices := (m.execute w).notices
  result := (m.execute w).result

/-- The opcode of one cycle. -/
def cycle (m : Machine) : Execution where
  address := m.pc
  opcode := m.opcode
  notices := m.step.notices
  result := m.step.result

/-- What `n` cycles execute that are made one at a time, up to the first that fails. -/
def cycles : Nat → Machine → List Execution
  | 0, _ => []
  | n + 1, m =>
    m.cycle :: match m.step.result with
      | .ok next => cycles n next
      | .error _ => []

/-- What `n` cycles execute that are made in one go: a cycle that fails is followed by
the next. -/
def carried : Nat → Machine → List Execution
  | 0, _ => []
  | n + 1, m => m.cycle :: carried n m.step.machine

/-- The opcodes that `n` cycles execute, made one at a time. -/
def opcodes (m : Machine) (n : Nat) : List Opcode := (m.cycles n).map Execution.opcode

variable {m m₁ : Machine} {n j : Nat} {f : Fault}

@[simp] theorem cycles_zero (m : Machine) : m.cycles 0 = [] := rfl

theorem cycles_succ_of_ok (h : m.step.result = .ok m₁) (n : Nat) :
    m.cycles (n + 1) = m.cycle :: m₁.cycles n := by
  rw [cycles, h]

theorem cycles_succ_of_error (h : m.step.result = .error f) (n : Nat) :
    m.cycles (n + 1) = [m.cycle] := by
  rw [cycles, h]

@[simp] theorem carried_zero (m : Machine) : m.carried 0 = [] := rfl

theorem carried_succ (m : Machine) (n : Nat) :
    m.carried (n + 1) = m.cycle :: m.step.machine.carried n := rfl

@[simp] theorem opcodes_zero (m : Machine) : m.opcodes 0 = [] := rfl

theorem opcodes_succ_of_ok (h : m.step.result = .ok m₁) (n : Nat) :
    m.opcodes (n + 1) = m.opcode :: m₁.opcodes n := by
  rw [opcodes, cycles_succ_of_ok h]
  rfl

theorem opcodes_succ_of_error (h : m.step.result = .error f) (n : Nat) :
    m.opcodes (n + 1) = [m.opcode] := by
  rw [opcodes, cycles_succ_of_error h]
  rfl

/-- The opcodes of cycles that came before are among those of more cycles. -/
theorem mem_opcodes_succ {w : Opcode} (h : w ∈ m.opcodes n) : w ∈ m.opcodes (n + 1) := by
  induction n generalizing m with
  | zero => simp at h
  | succ n ih =>
    cases hstep : m.step.result with
    | ok m₁ =>
      rw [opcodes_succ_of_ok hstep] at h ⊢
      exact (List.mem_cons.1 h).elim (fun heq => heq ▸ List.mem_cons_self)
        fun hrest => List.mem_cons_of_mem _ (ih hrest)
    | error f => rwa [opcodes_succ_of_error hstep] at h ⊢

/-- The opcode of any cycle on the way is among those executed. -/
theorem opcode_mem_opcodes (hj : j < n) (h : m.steps j = .ok m₁) : m₁.opcode ∈ m.opcodes n := by
  induction n generalizing m j with
  | zero => omega
  | succ n ih =>
    cases j with
    | zero =>
      rw [steps_zero, Except.ok.injEq] at h
      subst h
      cases hstep : m.step.result with
      | ok m₂ => rw [opcodes_succ_of_ok hstep]; exact List.mem_cons_self
      | error f => rw [opcodes_succ_of_error hstep]; exact List.mem_cons_self
    | succ j =>
      obtain ⟨m₂, hstep, hrest⟩ := steps_succ_eq_ok_iff.1 h
      rw [opcodes_succ_of_ok hstep]
      exact List.mem_cons_of_mem _ (ih (Nat.lt_of_succ_lt_succ hj) hrest)

/-- Cycles that all succeed execute one opcode each. -/
theorem length_opcodes (h : m.steps n = .ok m₁) : (m.opcodes n).length = n := by
  induction n generalizing m with
  | zero => rfl
  | succ n ih =>
    obtain ⟨m₂, hstep, hrest⟩ := steps_succ_eq_ok_iff.1 h
    rw [opcodes_succ_of_ok hstep, List.length_cons, ih hrest]

/-- Cycles that succeeded may be followed by more. -/
theorem opcodes_add (h : m.steps j = .ok m₁) (n : Nat) :
    m.opcodes (j + n) = m.opcodes j ++ m₁.opcodes n := by
  induction j generalizing m with
  | zero =>
    rw [steps_zero, Except.ok.injEq] at h
    rw [h, Nat.zero_add, opcodes_zero, List.nil_append]
  | succ j ih =>
    obtain ⟨m₂, hstep, hrest⟩ := steps_succ_eq_ok_iff.1 h
    rw [Nat.succ_add, opcodes_succ_of_ok hstep, ih hrest, opcodes_succ_of_ok hstep,
      List.cons_append]

/-- What is executed behind the first cycles. -/
theorem drop_opcodes (h : m.steps j = .ok m₁) (n : Nat) :
    (m.opcodes (j + n)).drop j = m₁.opcodes n := by
  rw [opcodes_add h, List.drop_left' (length_opcodes h)]

/-! ## Runs in one go -/

/-- Up to the first cycle that fails, a run executes what single cycles execute, and
behind it whatever the failing cycle leads to. -/
theorem carried_add (h : m.steps j = .ok m₁) (n : Nat) :
    m.carried (j + n) = m.cycles j ++ m₁.carried n := by
  induction j generalizing m with
  | zero =>
    rw [steps_zero, Except.ok.injEq] at h
    rw [h, Nat.zero_add, cycles_zero, List.nil_append]
  | succ j ih =>
    obtain ⟨m₂, hstep, hrest⟩ := steps_succ_eq_ok_iff.1 h
    obtain ⟨-, hm⟩ := Outcome.result_eq_ok_iff.1 hstep
    rw [Nat.succ_add, carried_succ, hm, ih hrest, cycles_succ_of_ok hstep, List.cons_append]

/-- Cycles that all succeed are the same, made one at a time or in one go. -/
theorem carried_of_ok (h : m.steps n = .ok m₁) : m.carried n = m.cycles n := by
  simpa using carried_add h 0

/-! ## The redraw flag apart -/

theorem opcode_setRedraw (m : Machine) (b : Bool) : (m.setRedraw b).opcode = m.opcode := rfl

theorem result_step_setRedraw (m : Machine) (b : Bool) :
    (m.setRedraw b).step.result = m.step.result.map (·.setRedraw (b || m.paints)) := by
  rw [step_setRedraw, Outcome.result, Outcome.result]
  cases Failure.reported? m.step.failures <;> rfl

/-- The opcodes do not hang on the redraw flag. -/
theorem opcodes_setRedraw (m : Machine) (b : Bool) (n : Nat) :
    (m.setRedraw b).opcodes n = m.opcodes n := by
  induction n generalizing m b with
  | zero => rfl
  | succ n ih =>
    have hstep := m.result_step_setRedraw b
    cases h : m.step.result with
    | ok m₁ =>
      rw [h] at hstep
      rw [opcodes_succ_of_ok hstep, opcodes_succ_of_ok h, ih, opcode_setRedraw]
    | error f =>
      rw [h] at hstep
      rw [opcodes_succ_of_error hstep, opcodes_succ_of_error h, opcode_setRedraw]

end Machine

/-! ## Requests -/

namespace Session

/-- The opcodes that a request has the machine execute, up to the first that fails. -/
def executions (s : Session) : Action → List Execution
  | .step => s.machine.cycles 1
  | .frame => s.machine.cycles s.frameLength
  | .run n => s.machine.cycles n
  | .execute opcode => [s.machine.execution (BitVec.ofInt 16 opcode)]
  | _ => []

/-- What a list of requests has the machine execute. -/
def trace (s : Session) : List Action → List Execution
  | [] => []
  | a :: rest => s.executions a ++ (s.perform a).session.trace rest

variable {s : Session} {a : Action} {n : Nat}

theorem executions_of_cycles (h : s.cycleCount? a = some n) :
    s.executions a = s.machine.cycles n := by
  cases a with
  | step => cases h; rfl
  | frame => cases h; rfl
  | run n => cases h; rfl
  | _ => cases h

theorem executions_of_quiet (hcycles : s.cycleCount? a = none)
    (hexecute : ∀ opcode, a ≠ .execute opcode) : s.executions a = [] := by
  cases a with
  | step => cases hcycles
  | frame => cases hcycles
  | run n => cases hcycles
  | execute opcode => exact absurd rfl (hexecute opcode)
  | _ => rfl

end Session

end ChipEight
