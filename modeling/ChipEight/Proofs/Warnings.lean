import ChipEight.Proofs.Trace
import Mathlib.Data.List.Basic

/-!
# Warnings and what was executed

Every opcode without an instruction that is executed gives a line on the console, which
names it and where it stood.  A check that fails does not stop a run, so that the lines
of a request tell of everything that was carried out, the cycles behind the first fault
included; and a fetch past the end of memory hands on an opcode like any other.

What is proved here:

* **lines** — `records_execute` for one opcode and `records_run` for many cycles;
* **the failing cycle** — `of_record_of_error`: it gives a line only if its fetch is what
  failed, and the opcode named is then not one that stands in memory;
* **requests** — `warnings_of_carried`: the lines are those of the opcodes carried out, in
  order; these are the opcodes of the cycles when all succeed, and otherwise the lines of
  the cycles before the first fault come first.
-/

namespace ChipEight

/-! ## Lines -/

/-- The line about an opcode that was executed, if it has no instruction. -/
def Execution.record? (e : Execution) : Option Record :=
  match Instruction.decode? e.opcode with
  | some _ => none
  | none => some (Notice.record ⟨e.opcode, e.address⟩)

/-- The lines about opcodes executed one after another. -/
def Execution.records (es : List Execution) : List Record := es.filterMap Execution.record?

namespace Execution

variable {e : Execution} {r : Record}

theorem record?_eq_some_iff : e.record? = some r ↔
    Instruction.decode? e.opcode = none ∧ r = Notice.record ⟨e.opcode, e.address⟩ := by
  rw [record?]
  cases Instruction.decode? e.opcode <;> simp [eq_comm]

theorem records_append (es fs : List Execution) :
    records (es ++ fs) = records es ++ records fs := List.filterMap_append

theorem records_cons (e : Execution) (es : List Execution) :
    records (e :: es) = e.record?.toList ++ records es := by
  rw [records, records, List.filterMap_eq_flatMap_toList, List.flatMap_cons,
    ← List.filterMap_eq_flatMap_toList]

end Execution

namespace Machine

open Execution (records)

variable {m : Machine} {f : Fault} {n : Nat}

/-- **One opcode.** -/
theorem records_execute (m : Machine) (w : Opcode) :
    (m.execute w).notices.map Notice.record = (m.execution w).record?.toList := by
  rw [execute, Execution.record?, execution]
  cases Instruction.decode? w <;> rfl

/-- **One cycle.** -/
theorem records_step (m : Machine) :
    m.step.notices.map Notice.record = m.cycle.record?.toList := m.records_execute m.opcode

/-- **Many cycles in one go**, by induction on their number. -/
theorem records_run (m : Machine) (n : Nat) :
    (m.run n).notices.map Notice.record = records (m.carried n) := by
  induction n generalizing m with
  | zero => rfl
  | succ n ih =>
    rw [carried_succ, Execution.records_cons, ← ih, ← records_step, ← List.map_append]
    rfl

/-! ## Opcodes and cycles that fail -/

/-- An opcode without an instruction has no check that could fail. -/
theorem failures_of_record {w : Opcode} {r : Record} (h : (m.execution w).record? = some r) :
    (m.execute w).failures = [] := by
  have hnone : Instruction.decode? w = none := (Execution.record?_eq_some_iff.1 h).1
  rw [execute, hnone]

/-- An opcode that is refused gives no line. -/
theorem record?_of_error {w : Opcode} (h : (m.execute w).result = .error f) :
    (m.execution w).record? = none := by
  rw [Option.eq_none_iff_forall_ne_some]
  intro r hr
  have hok := Outcome.result_eq_ok_iff.2 ⟨failures_of_record hr, rfl⟩
  rw [hok] at h
  cases h

/-- The opcode of a fetch past the end of memory is the last cell, filled up with zeros. -/
theorem opcode_of_fetchFault (h : m.fetchFault? = some f) :
    m.opcode = m.memory.cell 4095 ++ (0 : Byte) := by
  obtain ⟨hpast, -⟩ := Memory.rangeFault?_eq_some_iff.1 h
  have hzero : m.memory.cell (m.pc.toNat + 1) = 0 := by
    rw [Memory.cell, Vector.getElem?_eq_none (by omega)]
    rfl
  rw [opcode, hzero, Nat.min_eq_right (by omega)]

/-- A failing cycle that gives a line could not fetch its opcode. -/
theorem of_record_of_error {r : Record} (h : m.step.result = .error f)
    (hr : m.cycle.record? = some r) :
    f = .outOfRange 2 m.pc.toNat ∧ m.opcode = m.memory.cell 4095 ++ (0 : Byte) := by
  have hfailures : (m.execute m.opcode).failures = [] := failures_of_record hr
  cases hfetch : m.fetchFault? with
  | none =>
    have hok : m.step.result = .ok m.step.machine := by
      rw [Outcome.result_eq_ok_iff, failures_step, hfetch, hfailures]
      exact ⟨rfl, rfl⟩
    rw [hok] at h
    cases h
  | some g =>
    have hg := result_step_of_fetchFault hfetch
    rw [h, Except.error.injEq] at hg
    exact ⟨hg.trans (Memory.rangeFault?_eq_some_iff.1 hfetch).2, opcode_of_fetchFault hfetch⟩

/-- In a run that fails some cycle is the first to do so. -/
theorem first_of_error (h : (m.run n).result = .error f) :
    ∃ j k m₁ g, n = j + (k + 1) ∧ m.steps j = .ok m₁ ∧ m₁.step.result = .error g := by
  cases hsteps : m.steps n with
  | ok m' =>
    rw [result_run_eq_ok_iff.2 hsteps] at h
    cases h
  | error g =>
    obtain ⟨j, m₁, hlt, hj, hg⟩ := steps_eq_error_iff.1 hsteps
    obtain ⟨k, hk⟩ := Nat.exists_eq_add_of_lt hlt
    exact ⟨j, k, m₁, g, hk, hj, hg⟩

end Machine

/-! ## Requests -/

namespace Session

open Execution (records)

variable {s : Session}

/-- A console at the level of warnings or below shows them all. -/
theorem warnings_of_admits (h : s.console.admits .warning = true) (notices : List Notice) :
    s.warnings notices = notices.map Notice.record := by
  rw [Session.warnings, shown, List.filter_eq_self]
  intro r hr
  obtain ⟨notice, -, rfl⟩ := List.mem_map.1 hr
  exact h

/-- **A single opcode** gives its line; one that is refused gives none. -/
theorem records_of_opcode (hlevel : s.console.admits .warning = true) (opcode : Int) :
    let w := BitVec.ofInt 16 opcode
    (s.execute opcode).records = (s.machine.execution w).record?.toList ∧
      ∀ reason, (s.execute opcode).outcome = .error reason → (s.execute opcode).records = [] := by
  intro w
  have hrecords : (s.execute opcode).records = (s.machine.execution w).record?.toList := by
    rw [← Machine.records_execute]
    exact warnings_of_admits hlevel _
  refine ⟨hrecords, fun reason hrefused => ?_⟩
  cases hresult : (s.machine.execute w).result with
  | ok m =>
    rw [(execute_of_ok hresult).2] at hrefused
    cases hrefused
  | error f =>
    rw [hrecords, Machine.record?_of_error hresult]
    rfl

/-- **Cycles** give the lines of everything that was carried out. -/
theorem records_of_cycles {a : Action} {n : Nat} (hlevel : s.console.admits .warning = true)
    (hcount : s.cycleCount? a = some n) :
    (s.perform a).records = records (s.machine.carried n) := by
  obtain ⟨hrecords, -⟩ := perform_of_cycles hcount
  rw [hrecords, warnings_of_admits hlevel, Machine.records_run]

/-- **The lines of a request** are those of the opcodes it carried out, in order.  Of cycles
that are all granted these are the opcodes of single cycles.  If one of them fails, the
lines of the cycles before the first that does come first, and then whatever that one has
to say, if its fetch is what failed, and what is carried out behind it. -/
theorem warnings_of_carried (hlevel : s.console.admits .warning = true) :
    (∀ opcode : Int,
      let w := BitVec.ofInt 16 opcode
      (s.execute opcode).records = (s.machine.execution w).record?.toList ∧
        ∀ reason, (s.execute opcode).outcome = .error reason →
          (s.execute opcode).records = []) ∧
      ∀ a n, s.cycleCount? a = some n →
        (s.perform a).records = records (s.machine.carried n) ∧
          (∀ reply, (s.perform a).outcome = .ok reply →
            s.machine.carried n = s.machine.cycles n) ∧
          ∀ reason, (s.perform a).outcome = .error reason →
            ∃ j k m f, n = j + (k + 1) ∧ s.machine.steps j = .ok m ∧ m.step.result = .error f ∧
              (s.perform a).records = records (s.machine.cycles j) ++
                (m.cycle.record?.toList ++ records (m.step.machine.carried k)) ∧
              ∀ r, m.cycle.record? = some r →
                f = .outOfRange 2 m.pc.toNat ∧ m.opcode = m.memory.cell 4095 ++ (0 : Byte) := by
  refine ⟨records_of_opcode hlevel, fun a n hcount => ?_⟩
  have hrecords := records_of_cycles hlevel hcount
  obtain ⟨-, ⟨m, m', reply, hsteps, -, -, houtcome⟩ | ⟨f, hresult, -, houtcome⟩⟩ :=
    perform_of_cycles hcount
  · refine ⟨hrecords, fun _ _ => Machine.carried_of_ok hsteps, fun reason hrefused => ?_⟩
    rw [houtcome] at hrefused
    cases hrefused
  · refine ⟨hrecords, fun reply hreply => ?_, fun reason _ => ?_⟩
    · rw [houtcome] at hreply
      cases hreply
    · obtain ⟨j, k, m, g, hk, hj, hg⟩ := Machine.first_of_error hresult
      refine ⟨j, k, m, g, hk, hj, hg, ?_, fun r hr => Machine.of_record_of_error hg hr⟩
      rw [hrecords, hk, Machine.carried_add hj, Execution.records_append,
        Machine.carried_succ, Execution.records_cons]

/-- Writes `0xF0` into the last cell and jumps there. -/
def overrun : Session :=
  .ready ⟨0, 0⟩ 1 [0x60, 0xF0, 0xAF, 0xFF, 0xF0, 0x55, 0x60, 0xFF, 0xBF, 0x00]

/-- **A cycle that fails may warn.**  No opcode fits into the last cell, and the cycle
there is refused, but not without a line about the opcode that it made up.  A run of two
cycles goes on to the next, which does the same. -/
theorem warnings_of_carried_overrun :
    let s := overrun.performAll (List.replicate 5 .step)
    s.RefusesWith (.outOfRange 2 4095) s.step ∧
      s.step.records = [⟨.warning, "Unknown opcode 0xF000 at 0xFFF"⟩] ∧
      (s.run 2).records = List.replicate 2 ⟨.warning, "Unknown opcode 0xF000 at 0xFFF"⟩ := by
  intro s
  have hlevel : s.console.admits .warning = true := by decide +kernel
  obtain ⟨hfetch, hone, htwo⟩ : s.machine.fetchFault? = some (.outOfRange 2 4095) ∧
      records (s.machine.carried 1) = [⟨.warning, "Unknown opcode 0xF000 at 0xFFF"⟩] ∧
      records (s.machine.carried 2)
        = List.replicate 2 ⟨.warning, "Unknown opcode 0xF000 at 0xFFF"⟩ := by
    decide +kernel
  obtain ⟨-, hcycles⟩ := warnings_of_carried hlevel
  obtain ⟨hstep, -⟩ := hcycles .step 1 rfl
  obtain ⟨hrun, -⟩ := hcycles (.run 2) 2 rfl
  exact ⟨step_of_error (Machine.result_step_of_fetchFault hfetch), hstep.trans hone,
    hrun.trans htwo⟩

end Session

end ChipEight
