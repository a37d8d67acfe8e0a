import ChipEight.Proofs.Changes
import ChipEight.Proofs.Trace
import Mathlib.Data.List.Basic
import Mathlib.Logic.Function.Iterate

/-!
# The stream of random bytes

Only `RND` draws from the random stream, and it draws exactly once, whatever its operands
are.  So the key of a machine counts the draws since it was switched on, and the bytes
come in an order that neither the program nor the host has a part in.

What is proved here:

* **draws in a row** — `Drawn`: the draws between two keys take the bytes of the stream
  of the first, one after the other, and `Drawn.append`;
* **one opcode** — `drawn_of_perform`: an instruction draws once or not at all;
* **many cycles** — `drawn_of_steps`;
* **requests** — `drawn_perform`: a request that is refused draws nothing, and a reset
  goes back to the start of the stream;
* **the whole run** — `random_stream`.
-/

namespace ChipEight

/-! ## The stream of a key -/

namespace RandomKey

/-- Byte `j` of the stream that starts with a key. -/
def streamByte (key : RandomKey) (j : Nat) : Byte := (next^[j] key).byte

/-- The key of the seeds with a remainder modulo `2 ^ 32`. -/
def ofResidue (r : Int) : RandomKey := ⟨0, UInt32.ofNat r.toNat⟩

/-- A seed in the signed 64-bit range counts modulo `2 ^ 32` only. -/
theorem ofSeed?_eq {seed : Int} (hlow : -0x8000000000000000 ≤ seed)
    (hhigh : seed < 0x8000000000000000) : ofSeed? seed = some (ofResidue (seed % 0x100000000)) := by
  rw [ofSeed?, if_pos ⟨hlow, hhigh⟩]
  rfl

end RandomKey

/-! ## Draws -/

/-- A random byte that a program drew. -/
structure Draw where
  /-- The register that it went to. -/
  register : Register
  /-- The bits of it that were kept. -/
  mask : Byte
  /-- What the register held when the opcode was executed. -/
  stored : Byte
  deriving DecidableEq, Repr

/-- The draw of an opcode that succeeded, if it is a draw. -/
def Execution.draw? (e : Execution) : Option Draw :=
  match Instruction.decode? e.opcode, e.result with
  | some (.random x mask), .ok m => some ⟨x, mask, m.register x⟩
  | _, _ => none

/-- The draws lead from one key to another: each takes the next byte of the stream that
starts with the first key. -/
structure Drawn (key : RandomKey) (draws : List Draw) (key' : RandomKey) : Prop where
  key_eq : key' = RandomKey.next^[draws.length] key
  stored_eq : ∀ j d, draws[j]? = some d → d.stored = key.streamByte j &&& d.mask

namespace Drawn

variable {key key₁ key₂ : RandomKey} {ds es : List Draw}

theorem nil (key : RandomKey) : Drawn key [] key := by
  refine ⟨rfl, fun j d h => ?_⟩
  simp at h

theorem single {d : Draw} (h : d.stored = key.byte &&& d.mask) : Drawn key [d] key.next := by
  refine ⟨rfl, fun j e he => ?_⟩
  cases j with
  | zero =>
    obtain rfl : d = e := by simpa using he
    exact h
  | succ j => simp at he

/-- Draws after draws go on in the same stream. -/
theorem append (hds : Drawn key ds key₁) (hes : Drawn key₁ es key₂) :
    Drawn key (ds ++ es) key₂ := by
  refine ⟨?_, fun j d h => ?_⟩
  · rw [hes.key_eq, hds.key_eq, ← Function.iterate_add_apply, List.length_append, Nat.add_comm]
  · by_cases hj : j < ds.length
    · rw [List.getElem?_append_left hj] at h
      exact hds.stored_eq j d h
    · have hle : ds.length ≤ j := Nat.le_of_not_lt hj
      rw [List.getElem?_append_right hle] at h
      rw [hes.stored_eq _ d h, RandomKey.streamByte, hds.key_eq, ← Function.iterate_add_apply,
        Nat.sub_add_cancel hle]
      rfl

end Drawn

/-! ## Opcodes and cycles -/

namespace Execution

variable {e : Execution}

theorem draw?_of_unknown (h : Instruction.decode? e.opcode = none) : e.draw? = none := by
  rw [draw?, h]

/-- **One instruction** that succeeds draws once, if it is `RND`, and otherwise leaves the
key alone.  The machine `m'` may have been ticked since. -/
theorem drawn_of_perform {m m' : Machine} {i : Instruction}
    (hi : Instruction.decode? e.opcode = some i) (hresult : e.result = .ok m')
    (hregister : ∀ r, m'.register r = (i.perform m).register r)
    (hrandom : m'.random = (i.perform m).random) :
    Drawn m.random e.draw?.toList m'.random := by
  cases i with
  | random x mask =>
    have hdraw : e.draw? = some ⟨x, mask, m'.register x⟩ := by
      rw [draw?, hi, hresult]
    have hkey : m'.random = m.random.next := hrandom
    have hstored : m'.register x = m.random.byte &&& mask := by
      rw [hregister]
      exact (m.register_setRegister x _ x).trans (if_pos rfl)
    rw [hdraw, hkey]
    exact .single hstored
  | _ =>
    have hdraw : e.draw? = none := by
      rw [draw?, hi]
    rw [hdraw, hrandom, Instruction.same_perform m (p := .random) rfl]
    exact .nil _

end Execution

namespace Machine

variable {m m' : Machine} {n : Nat}

/-- **One opcode** that succeeds. -/
theorem drawn_of_execute {w : Opcode} (h : (m.execute w).result = .ok m') :
    Drawn m.random (m.execution w).draw?.toList m'.random := by
  have hresult : (m.execution w).result = .ok m' := h
  rcases execute_ok_iff.1 h with ⟨op, hop, -, rfl⟩ | ⟨hnone, rfl⟩
  · have hi : Instruction.decode? w = some (op.withOperands w) := by
      rw [Instruction.decode?, hop]
      rfl
    exact Execution.drawn_of_perform (e := m.execution w) hi hresult (fun _ => rfl) rfl
  · have hi : Instruction.decode? (m'.execution w).opcode = none := by
      simp [execution, Instruction.decode?, hnone]
    rw [Execution.draw?_of_unknown hi]
    exact .nil _

/-- **One cycle** that succeeds. -/
theorem drawn_of_step (h : m.step.result = .ok m') :
    Drawn m.random m.cycle.draw?.toList m'.random := by
  have hresult : m.cycle.result = .ok m' := h
  obtain ⟨-, ⟨i, hi, -, rfl⟩ | ⟨hnone, rfl⟩⟩ := step_ok_iff.1 h
  · exact Execution.drawn_of_perform (e := m.cycle) hi hresult (fun _ => rfl) rfl
  · rw [Execution.draw?_of_unknown (e := m.cycle) hnone]
    exact .nil _

/-- **Many cycles.**  The induction is on their number, and the draws of the first come
in front of the others. -/
theorem drawn_of_steps (h : m.steps n = .ok m') :
    Drawn m.random ((m.cycles n).filterMap Execution.draw?) m'.random := by
  induction n generalizing m with
  | zero =>
    rw [steps_zero, Except.ok.injEq] at h
    exact h ▸ .nil _
  | succ n ih =>
    obtain ⟨m₁, hstep, hrest⟩ := steps_succ_eq_ok_iff.1 h
    have hcons : (m.cycles (n + 1)).filterMap Execution.draw?
        = m.cycle.draw?.toList ++ (m₁.cycles n).filterMap Execution.draw? := by
      rw [cycles_succ_of_ok hstep, List.filterMap_eq_flatMap_toList, List.flatMap_cons,
        ← List.filterMap_eq_flatMap_toList]
    rw [hcons]
    exact (drawn_of_step hstep).append (ih hrest)

end Machine

/-! ## Requests -/

namespace Session

variable {s : Session} {a : Action} {before : List Draw}

/-- The draws of a request; one that is refused has none. -/
def draws (s : Session) (a : Action) : List Draw :=
  if (s.perform a).outcome.isOk then (s.executions a).filterMap Execution.draw? else []

/-- The draws since the last reset, once a request is made. -/
def drawsAfter (s : Session) (before : List Draw) : Action → List Draw
  | .reset => []
  | a => before ++ s.draws a

/-- The draws since the last reset after a list of requests, given those before it. -/
def drawsSince (s : Session) (before : List Draw) : List Action → List Draw
  | [] => before
  | a :: rest => (s.perform a).session.drawsSince (s.drawsAfter before a) rest

/-- No request changes the key that a reset goes back to. -/
theorem key_perform (s : Session) (a : Action) : (s.perform a).session.key = s.key := by
  obtain ⟨m, console, hsession⟩ := s.session_perform a
  rw [hsession]

theorem drawsAfter_of_ne (h : a ≠ .reset) : s.drawsAfter before a = before ++ s.draws a := by
  cases a with
  | reset => exact absurd rfl h
  | _ => rfl

theorem draws_of_ok {reply : Reply} (h : (s.perform a).outcome = .ok reply) :
    s.draws a = (s.executions a).filterMap Execution.draw? := by
  rw [draws, h]
  rfl

theorem draws_of_error {reason : Refusal} (h : (s.perform a).outcome = .error reason) :
    s.draws a = [] := by
  rw [draws, h]
  rfl

/-- A request without draws that leaves the key alone. -/
theorem drawn_of_none (hdraws : s.draws a = [])
    (hrandom : (s.perform a).session.machine.random = s.machine.random) :
    Drawn s.machine.random (s.draws a) (s.perform a).session.machine.random := by
  rw [hdraws, hrandom]
  exact .nil _

theorem drawn_of_cycles {n : Nat} (h : s.cycleCount? a = some n) :
    Drawn s.machine.random (s.draws a) (s.perform a).session.machine.random := by
  obtain ⟨-, ⟨m, m', reply, hsteps, hm', hsession, houtcome⟩ | ⟨f, -, hsession, houtcome⟩⟩ :=
    perform_of_cycles h
  · have hrandom : m'.random = m.random := by
      rcases hm' with rfl | rfl <;> rfl
    rw [draws_of_ok houtcome, executions_of_cycles h, hsession]
    exact hrandom ▸ Machine.drawn_of_steps hsteps
  · exact drawn_of_none (draws_of_error houtcome) (by rw [hsession])

theorem drawn_of_opcode (s : Session) (opcode : Int) :
    Drawn s.machine.random (s.draws (.execute opcode))
      (s.execute opcode).session.machine.random := by
  cases hresult : (s.machine.execute (BitVec.ofInt 16 opcode)).result with
  | ok m =>
    obtain ⟨hsession, houtcome⟩ := execute_of_ok hresult
    have hgranted : (s.perform (.execute opcode)).outcome = .ok .done := houtcome
    have hdraws : s.draws (.execute opcode)
        = (s.machine.execution (BitVec.ofInt 16 opcode)).draw?.toList := by
      rw [draws_of_ok hgranted, executions, List.filterMap_eq_flatMap_toList,
        List.flatMap_singleton]
    rw [hdraws, hsession]
    exact Machine.drawn_of_execute hresult
  | error f =>
    obtain ⟨hsession, houtcome⟩ := execute_of_error hresult
    exact drawn_of_none (a := .execute opcode) (draws_of_error houtcome) (by rw [perform, hsession])

/-- The draws of a request that is not a reset lead from the key before it to the key
after it. -/
theorem drawn_draws (h : a ≠ .reset) :
    Drawn s.machine.random (s.draws a) (s.perform a).session.machine.random := by
  cases hcount : s.cycleCount? a with
  | some n => exact drawn_of_cycles hcount
  | none =>
    by_cases hexecute : ∃ opcode, a = .execute opcode
    · obtain ⟨opcode, rfl⟩ := hexecute
      exact s.drawn_of_opcode opcode
    · have hnot : ∀ opcode, a ≠ .execute opcode := fun opcode heq => hexecute ⟨opcode, heq⟩
      refine drawn_of_none (by simp [draws, executions_of_quiet hcount hnot]) ?_
      rcases machine_perform_of_quiet hcount hnot with heq | hattend | ⟨hreset, -⟩
      · rw [heq]
      · obtain ⟨_, _, _, _, _, hkept⟩ := Machine.eq_of_attend hattend
        rw [hkept]
      · exact absurd hreset h

/-- **One request.** -/
theorem drawn_perform (h : Drawn s.key before s.machine.random) (a : Action) :
    Drawn (s.perform a).session.key (s.drawsAfter before a)
      (s.perform a).session.machine.random := by
  rw [key_perform]
  by_cases ha : a = .reset
  · subst ha
    exact .nil _
  · rw [drawsAfter_of_ne ha]
    exact h.append (drawn_draws ha)

/-- **Many requests.** -/
theorem drawn_performAll (h : Drawn s.key before s.machine.random) (actions : List Action) :
    Drawn s.key (s.drawsSince before actions) (s.performAll actions).machine.random := by
  induction actions generalizing s before with
  | nil => exact h
  | cons a rest ih =>
    rw [performAll_cons, drawsSince, ← key_perform s a]
    exact ih (drawn_perform h a)

/-- **The random stream** hangs on the seed and on the number of draws alone.  For every
seed in the signed 64-bit range the machine of a new session has, after any requests, the
key of the seed, replaced by its successor once for every draw since the last reset; and
draw `j` of these stored byte `j` of the stream of the seed's remainder modulo `2 ^ 32`,
masked. -/
theorem random_stream (seed frameLength : Int) (mode : Mode)
    (hlow : -0x8000000000000000 ≤ seed) (hhigh : seed < 0x8000000000000000)
    (hframe : 1 ≤ frameLength) :
    ∃ s, Session.start seed mode frameLength = .ok s ∧ ∀ actions,
      let key := RandomKey.ofResidue (seed % 0x100000000)
      let draws := s.drawsSince [] actions
      (s.performAll actions).machine.random = RandomKey.next^[draws.length] key ∧
        ∀ j d, draws[j]? = some d → d.stored = key.streamByte j &&& d.mask := by
  let key := RandomKey.ofResidue (seed % 0x100000000)
  have hstart : Session.start seed mode frameLength
      = .ok (opened key mode frameLength.toNat) := by
    rw [Session.start, if_neg (by omega), RandomKey.ofSeed?_eq hlow hhigh]
    rfl
  refine ⟨_, hstart, fun actions => ?_⟩
  have hdrawn := drawn_performAll (s := opened key mode frameLength.toNat) (.nil key) actions
  exact ⟨hdrawn.key_eq, hdrawn.stored_eq⟩

/-- Two cycles that draw. -/
def drawInCycles : List Action := [.load [0xC0, 0xFF, 0xC1, 0xFF], .step, .step]

/-- A draw that a reset takes back, another that a frame takes back because of the return
behind it, and then two among keys and ticks.  The first of these keeps no bit. -/
def drawElsewhere : List Action :=
  [.execute 0xC7FF, .reset, .load [0xC3, 0xFF, 0x00, 0xEE], .frame, .setKey 5 true,
    .execute 0xC400, .tick, .execute 0xC5FF]

/-- Seeds apart by `2 ^ 32` give the same stream to programs that have nothing in common:
the second byte is that of the first program, although of the byte before nothing was
kept. -/
theorem random_stream_congruent :
    ∃ s s', Session.start (-1) .canonical 1 = .ok s ∧
      Session.start 0xFFFFFFFF .transcribed 2 = .ok s' ∧
      (s.drawsSince [] drawInCycles).map Draw.stored = [0x6A, 0xE5] ∧
      (s'.drawsSince [] drawElsewhere).map Draw.stored = [0x00, 0xE5] ∧
      (s.performAll drawInCycles).machine.random
        = (s'.performAll drawElsewhere).machine.random := by
  obtain ⟨s, hs, hstream⟩ := random_stream (-1) 1 .canonical (by decide) (by decide) (by decide)
  obtain ⟨s', hs', hstream'⟩ :=
    random_stream 0xFFFFFFFF 2 .transcribed (by decide) (by decide) (by decide)
  have hstored : (s.drawsSince [] drawInCycles).map Draw.stored = [0x6A, 0xE5] := by
    obtain ⟨key, hkey, rfl⟩ := opened_of_start hs
    cases hkey
    decide +kernel
  have hstored' : (s'.drawsSince [] drawElsewhere).map Draw.stored = [0x00, 0xE5] := by
    obtain ⟨key, hkey, rfl⟩ := opened_of_start hs'
    cases hkey
    decide +kernel
  refine ⟨s, s', hs, hs', hstored, hstored', ?_⟩
  have hlength := congrArg List.length hstored
  have hlength' := congrArg List.length hstored'
  rw [List.length_map] at hlength hlength'
  rw [(hstream drawInCycles).1, (hstream' drawElsewhere).1, hlength, hlength']
  rfl

end Session

end ChipEight
