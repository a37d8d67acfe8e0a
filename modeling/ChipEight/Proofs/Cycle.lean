import ChipEight.Machine.Run

/-!
# Cycles made one at a time

`Machine.run` makes all of its cycles, whatever their checks say.  A host that
asks for one cycle after another stops at the first that fails, and this is
`Machine.steps`.

What is proved here:

* **one cycle** — `step_ok_iff`: a cycle that succeeds has fetched from inside
  memory and either performed an instruction whose check passed or met an opcode
  without one, and the timers ticked;
* **many cycles** — `run_add` and `steps_add` (a run is cut anywhere),
  `result_run_eq_ok_iff` (the loop succeeds exactly when every cycle does, and
  then ends on the same machine) and `steps_eq_error_iff` (otherwise some cycle
  is the first to fail).
-/

namespace ChipEight

/-! ## Outcomes in a row -/

namespace Outcome

theorem andThen_assoc (o : Outcome) (f g : Machine → Outcome) :
    (o.andThen f).andThen g = o.andThen fun m => (f m).andThen g := by
  simp [andThen, List.append_assoc]

@[simp] theorem machine_andThen (o : Outcome) (f : Machine → Outcome) :
    (o.andThen f).machine = (f o.machine).machine := rfl

@[simp] theorem failures_andThen (o : Outcome) (f : Machine → Outcome) :
    (o.andThen f).failures = o.failures ++ (f o.machine).failures := rfl

/-- Outcomes in a row give a machine exactly when both of them do. -/
theorem result_andThen_eq_ok_iff {o : Outcome} {f : Machine → Outcome} {m : Machine} :
    (o.andThen f).result = .ok m ↔ ∃ m₁, o.result = .ok m₁ ∧ (f m₁).result = .ok m := by
  simp only [result_eq_ok_iff, machine_andThen, failures_andThen, List.append_eq_nil_iff]
  constructor
  · rintro ⟨⟨ho, hf⟩, hm⟩
    exact ⟨o.machine, ⟨ho, rfl⟩, hf, hm⟩
  · rintro ⟨m₁, ⟨ho, rfl⟩, hf, hm⟩
    exact ⟨⟨ho, hf⟩, hm⟩

end Outcome

namespace Machine

/-! ## One cycle -/

/-- What the opcode at the program counter makes of the machine, before the
timers tick. -/
def executed (m : Machine) : Machine := (m.execute m.opcode).machine

theorem executed_of_decode {m : Machine} {i : Instruction}
    (h : Instruction.decode? m.opcode = some i) : m.executed = i.perform m := by
  simp [executed, execute, h]

theorem executed_of_unknown {m : Machine} (h : Instruction.decode? m.opcode = none) :
    m.executed = m := by
  simp [executed, execute, h]

@[simp] theorem machine_step (m : Machine) : m.step.machine = m.executed.tick := rfl

theorem failures_step (m : Machine) :
    m.step.failures = (m.fetchFault?.map (Failure.mk .fetch)).toList
      ++ (m.execute m.opcode).failures := rfl

theorem fetchFault?_eq_none_iff {m : Machine} : m.fetchFault? = none ↔ m.pc.toNat + 2 ≤ 4096 :=
  Memory.rangeFault?_eq_none_iff

theorem fetch_eq_ok_iff {m : Machine} {w : Opcode} :
    m.fetch = .ok w ↔ m.pc.toNat + 2 ≤ 4096 ∧ m.opcode = w := by
  rw [fetch, ← fetchFault?_eq_none_iff]
  cases m.fetchFault? <;> simp

/-- **A cycle that succeeds.**  Its opcode lies inside memory; it performed an
instruction whose check passed, or left the machine as it was because the opcode
has none; and the timers ticked. -/
theorem step_ok_iff {m m' : Machine} :
    m.step.result = .ok m' ↔ m.pc.toNat + 2 ≤ 4096 ∧
      ((∃ i, Instruction.decode? m.opcode = some i ∧ i.failure? m = none
          ∧ m' = (i.perform m).tick) ∨
        Instruction.decode? m.opcode = none ∧ m' = m.tick) := by
  rw [Outcome.result_eq_ok_iff, failures_step, List.append_eq_nil_iff, machine_step,
    Option.toList_eq_nil_iff, Option.map_eq_none_iff, fetchFault?_eq_none_iff, and_assoc]
  refine and_congr_right fun _ => ?_
  cases h : Instruction.decode? m.opcode with
  | none => simp [execute, h, executed_of_unknown h, eq_comm (a := m.tick)]
  | some i => simp [execute, h, executed_of_decode h, eq_comm (a := (i.perform m).tick)]

/-- A cycle that succeeds does what its instruction does. -/
theorem eq_of_step_of_decode {m m' : Machine} {i : Instruction} (h : m.step.result = .ok m')
    (hi : Instruction.decode? m.opcode = some i) : m' = (i.perform m).tick := by
  rw [← (Outcome.result_eq_ok_iff.1 h).2, machine_step, executed_of_decode hi]

/-! ## Many cycles -/

/-- `n` cycles one after another, up to the first that fails. -/
def steps : Nat → Machine → Except Fault Machine
  | 0, m => .ok m
  | n + 1, m => do
    let next ← m.step.result
    steps n next

@[simp] theorem steps_zero (m : Machine) : m.steps 0 = .ok m := rfl

theorem steps_succ_of_ok {m m₁ : Machine} (h : m.step.result = .ok m₁) (n : Nat) :
    m.steps (n + 1) = m₁.steps n := by
  rw [steps, h]
  rfl

theorem steps_succ_of_error {m : Machine} {f : Fault} (h : m.step.result = .error f) (n : Nat) :
    m.steps (n + 1) = .error f := by
  rw [steps, h]
  rfl

theorem steps_one (m : Machine) : m.steps 1 = m.step.result := by
  cases h : m.step.result with
  | ok m₁ => rw [steps_succ_of_ok h, steps_zero]
  | error f => rw [steps_succ_of_error h]

theorem steps_succ_eq_ok_iff {m m' : Machine} {n : Nat} :
    m.steps (n + 1) = .ok m' ↔ ∃ m₁, m.step.result = .ok m₁ ∧ m₁.steps n = .ok m' := by
  cases h : m.step.result with
  | ok m₁ => simp [steps_succ_of_ok h]
  | error f => simp [steps_succ_of_error h]

/-- Cycles that succeeded may be followed by more. -/
theorem steps_add {m m₁ : Machine} {j : Nat} (h : m.steps j = .ok m₁) (n : Nat) :
    m.steps (j + n) = m₁.steps n := by
  induction j generalizing m with
  | zero =>
    rw [steps_zero, Except.ok.injEq] at h
    rw [Nat.zero_add, h]
  | succ j ih =>
    obtain ⟨m₂, hstep, hrest⟩ := steps_succ_eq_ok_iff.1 h
    rw [Nat.succ_add, steps_succ_of_ok hstep, ih hrest]

/-- Many cycles fail exactly when one of them is the first to do so. -/
theorem steps_eq_error_iff {m : Machine} {n : Nat} {f : Fault} :
    m.steps n = .error f ↔ ∃ j m₁, j < n ∧ m.steps j = .ok m₁ ∧ m₁.step.result = .error f := by
  constructor
  · intro h
    induction n generalizing m with
    | zero => cases h
    | succ n ih =>
      cases hstep : m.step.result with
      | error g =>
        rw [steps_succ_of_error hstep, Except.error.injEq] at h
        exact ⟨0, m, Nat.succ_pos n, rfl, h ▸ hstep⟩
      | ok m₂ =>
        rw [steps_succ_of_ok hstep] at h
        obtain ⟨j, m₁, hj, hok, hfault⟩ := ih h
        exact ⟨j + 1, m₁, Nat.succ_lt_succ hj, (steps_succ_of_ok hstep j).trans hok, hfault⟩
  · rintro ⟨j, m₁, hj, hok, hfault⟩
    obtain ⟨k, rfl⟩ := Nat.exists_eq_add_of_lt hj
    rw [Nat.add_assoc, steps_add hok, steps_succ_of_error hfault]

/-- A run of one cycle is that cycle. -/
theorem run_one (m : Machine) : m.run 1 = m.step := by
  rw [run, Outcome.andThen]
  simp only [run, List.append_nil]

/-- A run is cut anywhere. -/
theorem run_add (m : Machine) (a b : Nat) : m.run (a + b) = (m.run a).andThen (run b) := by
  induction a generalizing m with
  | zero => simp [run, Outcome.andThen]
  | succ a ih =>
    rw [Nat.succ_add, run, run, Outcome.andThen_assoc]
    congr 1
    funext m₁
    exact ih m₁

/-- **The loop and single cycles agree on success.**  A run gives a machine
exactly when every one of its cycles succeeds, and it is the same machine. -/
theorem result_run_eq_ok_iff {m m' : Machine} {n : Nat} :
    (m.run n).result = .ok m' ↔ m.steps n = .ok m' := by
  induction n generalizing m with
  | zero => simp [run, Outcome.result_eq_ok_iff]
  | succ n ih =>
    rw [run, Outcome.result_andThen_eq_ok_iff, steps_succ_eq_ok_iff]
    exact exists_congr fun m₁ => and_congr_right fun _ => ih

theorem steps_of_failures_eq_nil {m : Machine} {n : Nat} (h : (m.run n).failures = []) :
    m.steps n = .ok (m.run n).machine :=
  result_run_eq_ok_iff.1 (Outcome.result_eq_ok_iff.2 ⟨h, rfl⟩)

/-- Cycles that succeeded leave no failures behind, and the run goes on where
they ended. -/
theorem run_add_of_ok {m m₁ : Machine} {j : Nat} (h : m.steps j = .ok m₁) (n : Nat) :
    (m.run (j + n)).failures = (m₁.run n).failures := by
  obtain ⟨hnil, hm⟩ := Outcome.result_eq_ok_iff.1 (result_run_eq_ok_iff.2 h)
  rw [run_add, Outcome.failures_andThen, hnil, hm, List.nil_append]

end Machine

end ChipEight
