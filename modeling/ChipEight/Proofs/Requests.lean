import ChipEight.Host.Session
import ChipEight.Proofs.Cycle

/-!
# Requests of a host, one after another

`Session.performAll` keeps only the session that a list of requests ends with;
`Session.responses` keeps everything that the host is told on the way.

* `Machine.Attend` — a request that makes no cycle, on the machine alone, and
  `Machine.eq_of_attend`, all that it may change;
* `conclude_of_ok`, `conclude_of_error` — a request that runs the machine is
  granted when no check failed, and refused with the session as it was
  otherwise;
* `step_of_ok`, `frame_of_ok`, `run_of_ok`, `execute_of_ok` and their `_of_error`
  partners — the same for each of the requests that run the machine;
* `perform_of_cycles` and `machine_perform_of_quiet` — one inversion for all requests
  that make cycles and one for those that execute nothing, and `machine_perform` of
  the two.
-/

namespace ChipEight

namespace Machine

/-! ## Requests that make no cycle -/

/-- A request on the keypad, the memory, the redraw flag or the timers, granted. -/
inductive Attend : Machine → Machine → Prop where
  | setKey {m m' : Machine} (key : Int) (pressed : Bool) (h : m.setKey key pressed = .ok m') :
    Attend m m'
  | setKeys {m m' : Machine} (buffer : KeyBuffer) (h : m.setKeys buffer = .ok m') : Attend m m'
  | load {m m' : Machine} (program : List Byte) (h : m.load program = .ok m') : Attend m m'
  | acknowledge (m : Machine) : Attend m m.acknowledge
  | tick (m : Machine) : Attend m m.tick

variable {m m' : Machine}

/-- A key that is latched changes the keypad only. -/
theorem eq_of_setKey {key : Int} {pressed : Bool} (h : m.setKey key pressed = .ok m') :
    ∃ keypad, m' = { m with keypad := keypad } := by
  rw [setKey] at h
  split at h <;> cases h
  exact ⟨_, rfl⟩

theorem eq_of_setKeys {buffer : KeyBuffer} (h : m.setKeys buffer = .ok m') :
    ∃ keypad, m' = { m with keypad := keypad } := by
  rw [setKeys] at h
  split at h <;> cases h
  exact ⟨_, rfl⟩

/-- A program that is loaded changes memory only. -/
theorem eq_of_load {program : List Byte} (h : m.load program = .ok m') :
    ∃ memory, m' = { m with memory := memory } := by
  rw [load] at h
  split at h <;> cases h
  exact ⟨_, rfl⟩

/-- **What a request without a cycle may change.** -/
theorem eq_of_attend (h : Attend m m') :
    ∃ memory keypad delay sound redraw,
      m' = { m with
        memory := memory, keypad := keypad, delayTimer := delay, soundTimer := sound,
        redraw := redraw } := by
  cases h with
  | setKey key pressed h =>
    obtain ⟨keypad, rfl⟩ := eq_of_setKey h
    exact ⟨_, _, _, _, _, rfl⟩
  | setKeys buffer h =>
    obtain ⟨keypad, rfl⟩ := eq_of_setKeys h
    exact ⟨_, _, _, _, _, rfl⟩
  | load program h =>
    obtain ⟨memory, rfl⟩ := eq_of_load h
    exact ⟨_, _, _, _, _, rfl⟩
  | acknowledge => exact ⟨_, _, _, _, _, rfl⟩
  | tick => exact ⟨_, _, _, _, _, rfl⟩

/-- Such a request does not touch the call stack or the program counter. -/
theorem keeps_of_attend (h : Attend m m') : m'.stack = m.stack ∧ m'.pc = m.pc := by
  obtain ⟨_, _, _, _, _, rfl⟩ := eq_of_attend h
  exact ⟨rfl, rfl⟩

end Machine

namespace Session

variable {s : Session} {o : Outcome} {m : Machine} {f : Fault}

/-- A session with a machine that has just been switched on. -/
def opened (key : RandomKey) (mode : Mode) (frameLength : Nat) : Session where
  machine := .powerOn key mode
  key := key
  frameLength := frameLength

/-- This is what a session starts as. -/
theorem opened_of_start {seed frameLength : Int} {mode : Mode}
    (h : Session.start seed mode frameLength = .ok s) :
    ∃ key, RandomKey.ofSeed? seed = some key ∧ s = opened key mode frameLength.toNat := by
  rw [Session.start] at h
  split at h
  · cases h
  · split at h
    · rename_i key hkey
      rw [Except.ok.injEq] at h
      exact ⟨key, hkey, h.symm⟩
    · cases h

/-- A session with a fresh machine that has nothing but a program in its memory. -/
def ready (key : RandomKey) (frameLength : Nat) (program : List Byte) : Session where
  machine :=
    { Machine.powerOn key .canonical with
      memory := Memory.write (Vector.replicate 4096 0) programStart program }
  key := key
  frameLength := frameLength

/-! ## Lists of requests -/

/-- The responses to requests made one after another, the refused ones
included. -/
def responses (s : Session) : List Action → List Response
  | [] => []
  | a :: rest => s.perform a :: (s.perform a).session.responses rest

@[simp] theorem responses_nil (s : Session) : s.responses [] = [] := rfl

@[simp] theorem responses_cons (s : Session) (a : Action) (rest : List Action) :
    s.responses (a :: rest) = s.perform a :: (s.perform a).session.responses rest := rfl

@[simp] theorem performAll_nil (s : Session) : s.performAll [] = s := rfl

@[simp] theorem performAll_cons (s : Session) (a : Action) (rest : List Action) :
    s.performAll (a :: rest) = (s.perform a).session.performAll rest := rfl

/-! ## Requests that run the machine -/

theorem conclude_of_ok (h : o.result = .ok m) (granted : Machine → Response) :
    s.conclude o granted = { granted m with records := s.warnings o.notices } := by
  simp [conclude, h]

theorem conclude_of_error (h : o.result = .error f) (granted : Machine → Response) :
    s.conclude o granted = { s.refuse (.fault f) with records := s.warnings o.notices } := by
  simp [conclude, h]

/-- A cycle that succeeds hands back the redraw flag and clears it. -/
theorem step_of_ok (h : s.machine.step.result = .ok m) :
    s.step.session = { s with machine := m.acknowledge } ∧
      s.step.outcome = .ok (.repaint m.redraw) := by
  rw [step, conclude_of_ok h]
  exact ⟨rfl, rfl⟩

/-- A cycle that fails leaves no trace in the session. -/
theorem step_of_error (h : s.machine.step.result = .error f) :
    s.step.session = s ∧ s.step.outcome = .error (.fault f) := by
  rw [step, conclude_of_error h]
  exact ⟨rfl, rfl⟩

theorem frame_of_ok (h : (s.machine.run s.frameLength).result = .ok m) :
    s.frame.session = { s with machine := m.acknowledge } ∧
      s.frame.outcome = .ok (.repaint m.redraw) := by
  rw [frame, conclude_of_ok h]
  exact ⟨rfl, rfl⟩

theorem frame_of_error (h : (s.machine.run s.frameLength).result = .error f) :
    s.frame.session = s ∧ s.frame.outcome = .error (.fault f) := by
  rw [frame, conclude_of_error h]
  exact ⟨rfl, rfl⟩

theorem run_of_ok {n : Nat} (h : (s.machine.run n).result = .ok m) :
    (s.run n).session = { s with machine := m } ∧ (s.run n).outcome = .ok .done := by
  rw [run, conclude_of_ok h]
  exact ⟨rfl, rfl⟩

theorem run_of_error {n : Nat} (h : (s.machine.run n).result = .error f) :
    (s.run n).session = s ∧ (s.run n).outcome = .error (.fault f) := by
  rw [run, conclude_of_error h]
  exact ⟨rfl, rfl⟩

theorem execute_of_ok {opcode : Int}
    (h : (s.machine.execute (BitVec.ofInt 16 opcode)).result = .ok m) :
    (s.execute opcode).session = { s with machine := m } ∧
      (s.execute opcode).outcome = .ok .done := by
  rw [execute, conclude_of_ok h]
  exact ⟨rfl, rfl⟩

theorem execute_of_error {opcode : Int}
    (h : (s.machine.execute (BitVec.ofInt 16 opcode)).result = .error f) :
    (s.execute opcode).session = s ∧ (s.execute opcode).outcome = .error (.fault f) := by
  rw [execute, conclude_of_error h]
  exact ⟨rfl, rfl⟩

/-- The number of cycles that a request makes in one go, if it makes any. -/
def cycleCount? (s : Session) : Action → Option Nat
  | .step => some 1
  | .frame => some s.frameLength
  | .run n => some n
  | _ => none

/-- **A request for cycles** shows the notices of all of them.  It is granted when they
all succeed, and the machine is then the one they end on, perhaps with the redraw flag
taken back; otherwise it is refused and leaves the session as it was. -/
theorem perform_of_cycles {s : Session} {a : Action} {n : Nat} (h : s.cycleCount? a = some n) :
    (s.perform a).records = s.warnings (s.machine.run n).notices ∧
      ((∃ m m' reply, s.machine.steps n = .ok m ∧ (m' = m ∨ m' = m.acknowledge) ∧
          (s.perform a).session = { s with machine := m' } ∧ (s.perform a).outcome = .ok reply) ∨
        ∃ f, (s.machine.run n).result = .error f ∧
          (s.perform a).session = s ∧ (s.perform a).outcome = .error (.fault f)) := by
  -- each of the three requests is `conclude`, applied to the run of its cycles
  obtain ⟨granted, hperform, hgranted⟩ : ∃ granted : Machine → Response,
      s.perform a = s.conclude (s.machine.run n) granted ∧
        ∀ m, ∃ m' reply, (m' = m ∨ m' = m.acknowledge) ∧
          (granted m).session = { s with machine := m' } ∧ (granted m).outcome = .ok reply := by
    cases a with
    | step =>
      cases h
      rw [Machine.run_one]
      exact ⟨_, rfl, fun m => ⟨_, _, .inr rfl, rfl, rfl⟩⟩
    | frame => cases h; exact ⟨_, rfl, fun m => ⟨_, _, .inr rfl, rfl, rfl⟩⟩
    | run n => cases h; exact ⟨_, rfl, fun m => ⟨_, _, .inl rfl, rfl, rfl⟩⟩
    | _ => cases h
  rw [hperform]
  cases hresult : (s.machine.run n).result with
  | ok m =>
    obtain ⟨m', reply, hm', hsession, houtcome⟩ := hgranted m
    rw [conclude_of_ok hresult]
    have hsteps := Machine.result_run_eq_ok_iff.1 hresult
    exact ⟨rfl, .inl ⟨m, m', reply, hsteps, hm', hsession, houtcome⟩⟩
  | error f =>
    rw [conclude_of_error hresult]
    exact ⟨rfl, .inr ⟨f, rfl, rfl, rfl⟩⟩

/-! ## What a request makes of the machine -/

/-- A request that is granted or refused by a function on the machine. -/
theorem machine_update (s : Session) (r : Except Refusal Machine) :
    (s.update r).session.machine = s.machine ∨ r = .ok (s.update r).session.machine := by
  cases r with
  | ok m => exact .inr rfl
  | error reason => exact .inl rfl

/-- A file that could be read is loaded like any program. -/
theorem session_loadFile (s : Session) (name : String) (program : List Byte) :
    (s.loadFile name (.ok program)).session = (s.load program).session := by
  rw [loadFile, load]
  cases s.machine.load program <;> rfl

/-- A request changes nothing of a session but the machine and the console. -/
theorem session_perform (s : Session) (a : Action) :
    ∃ m console, (s.perform a).session = { s with machine := m, console := console } := by
  have hsame : ∃ m console, s = { s with machine := m, console := console } :=
    ⟨s.machine, s.console, rfl⟩
  have hconclude (o : Outcome) (granted : Machine → Response)
      (hgranted : ∀ m, ∃ m', (granted m).session = { s with machine := m' }) :
      ∃ m console,
        (s.conclude o granted).session = { s with machine := m, console := console } := by
    cases hresult : o.result with
    | ok m =>
      obtain ⟨m', hm'⟩ := hgranted m
      rw [conclude_of_ok hresult]
      exact ⟨m', s.console, hm'⟩
    | error f =>
      rw [conclude_of_error hresult]
      exact hsame
  have hupdate (r : Except Refusal Machine) :
      ∃ m console, (s.update r).session = { s with machine := m, console := console } := by
    cases r with
    | ok m => exact ⟨m, s.console, rfl⟩
    | error reason => exact hsame
  cases a with
  | step => exact hconclude _ _ fun m => ⟨_, rfl⟩
  | frame => exact hconclude _ _ fun m => ⟨_, rfl⟩
  | run n => exact hconclude _ _ fun m => ⟨m, rfl⟩
  | execute opcode => exact hconclude _ _ fun m => ⟨m, rfl⟩
  | tick => exact ⟨_, s.console, rfl⟩
  | acknowledge => exact ⟨_, s.console, rfl⟩
  | reset => exact ⟨_, s.console, rfl⟩
  | load program => exact hupdate (s.machine.load program)
  | loadFile name contents =>
    cases contents with
    | error e => exact hsame
    | ok program =>
      rw [perform, session_loadFile]
      exact hupdate (s.machine.load program)
  | setKey key pressed => exact hupdate (s.machine.setKey key pressed)
  | setKeys buffer => exact hupdate (s.machine.setKeys buffer)
  | setLevel name =>
    rw [perform, setLevel]
    cases s.console.setLevel name with
    | ok console => exact ⟨s.machine, console, rfl⟩
    | error e => exact hsame

/-- **A request that executes nothing** leaves the machine as it was, does to it what
`Attend` lists, or switches it off and on. -/
theorem machine_perform_of_quiet {s : Session} {a : Action} (hcycles : s.cycleCount? a = none)
    (ha : ∀ opcode, a ≠ .execute opcode) :
    let m' := (s.perform a).session.machine
    m' = s.machine ∨ Machine.Attend s.machine m' ∨
      (a = .reset ∧ m' = .powerOn s.key s.machine.mode) := by
  cases a with
  | step => cases hcycles
  | frame => cases hcycles
  | run n => cases hcycles
  | execute opcode => exact absurd rfl (ha opcode)
  | tick => exact .inr (.inl (.tick _))
  | acknowledge => exact .inr (.inl (.acknowledge _))
  | reset => exact .inr (.inr ⟨rfl, rfl⟩)
  | load program => exact (s.machine_update _).imp_right fun h => .inl (.load program h)
  | loadFile name contents =>
    cases contents with
    | error e => exact .inl rfl
    | ok program =>
      rw [perform, session_loadFile]
      exact (s.machine_update _).imp_right fun h => .inl (.load program h)
  | setKey key pressed =>
    exact (s.machine_update _).imp_right fun h => .inl (.setKey key pressed h)
  | setKeys buffer => exact (s.machine_update _).imp_right fun h => .inl (.setKeys buffer h)
  | setLevel name =>
    rw [perform, setLevel]
    cases s.console.setLevel name with
    | ok console => exact .inl rfl
    | error e => exact .inl rfl

/-- **Any request but `execute`** leaves the machine as it was, or does to it what
`Attend` lists, or makes cycles that all succeed, perhaps taking back the redraw
flag after them, or switches the machine off and on. -/
theorem machine_perform {s : Session} {a : Action} (ha : ∀ opcode, a ≠ .execute opcode) :
    let m' := (s.perform a).session.machine
    m' = s.machine ∨ Machine.Attend s.machine m' ∨
      (∃ n m, s.machine.steps n = .ok m ∧ (m' = m ∨ m' = m.acknowledge)) ∨
      m' = .powerOn s.key s.machine.mode := by
  cases hcount : s.cycleCount? a with
  | some n =>
    obtain ⟨-, ⟨m, m', -, hsteps, hm', hsession, -⟩ | ⟨-, -, hsession, -⟩⟩ :=
      perform_of_cycles hcount
    · exact .inr (.inr (.inl ⟨n, m, hsteps, by rwa [hsession]⟩))
    · exact .inl (congrArg machine hsession)
  | none =>
    rcases machine_perform_of_quiet hcount ha with heq | hattend | ⟨-, hreset⟩
    · exact .inl heq
    · exact .inr (.inl hattend)
    · exact .inr (.inr (.inr hreset))

end Session

end ChipEight
