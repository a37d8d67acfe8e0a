import ChipEight.Machine.Execute

/-!
# Cycles

A cycle fetches the opcode at the program counter, executes it and ticks the
timers.  `Machine.run` makes a number of cycles in one go.  It always makes all
of them: a cycle whose fetch or whose instruction fails is followed by the next,
and what they have to say reaches the host as notices.
-/

namespace ChipEight

namespace Machine

/-- The opcode at the program counter, high byte first.  Past the end of memory
its high byte is the last cell, and its low byte is zero. -/
def opcode (m : Machine) : Opcode :=
  m.memory.cell (min m.pc.toNat 4095) ++ m.memory.cell (m.pc.toNat + 1)

/-- What is wrong with a fetch. -/
def fetchFault? (m : Machine) : Option Fault := Memory.rangeFault? m.pc.toNat 2

/-- The opcode at the program counter, if all of it lies in memory. -/
def fetch (m : Machine) : Except Fault Opcode :=
  match m.fetchFault? with
  | none => .ok m.opcode
  | some fault => .error fault

/-- One cycle. -/
def step (m : Machine) : Outcome :=
  let executed := m.execute m.opcode
  { executed with
    machine := executed.machine.tick
    failures := (m.fetchFault?.map (Failure.mk .fetch)).toList ++ executed.failures }

/-- `n` cycles. -/
def run : Nat → Machine → Outcome
  | 0, m => { machine := m }
  | n + 1, m => m.step.andThen (run n)

end Machine

end ChipEight
