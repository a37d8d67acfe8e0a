import ChipEight.Proofs.Changes
import ChipEight.Proofs.Decoding
import ChipEight.Proofs.Trace
import Mathlib.Logic.Function.Iterate

/-!
# Timers

Both timers count down once in every cycle, after its opcode, and stop at zero.  Of all the
opcodes only `Fx15` sets the delay timer and only `Fx18` the sound timer, so what a timer holds
after a run is told by the last time it was set.  The two are alike, and `Timer` stands for
either.

What is proved here:

* **ticks** — `toNat_countDown`: a difference of numbers, which stops at zero;
* **one cycle** — `timer_of_step_set` and `timer_of_step_unset`: an opcode that is executed
  comes before the tick of its cycle;
* **many cycles** — `timer_of_unset`, from there `timer_of_set`, and `timer_iterate_tick` for
  ticks without cycles;
* **the whole** — `timers_count_cycles`.
-/

namespace ChipEight

/-! ## The two timers -/

/-- One of the timers. -/
inductive Timer where
  | delay
  | sound
  deriving DecidableEq, Repr

/-- What a timer holds. -/
def Machine.timer (m : Machine) : Timer → Byte
  | .delay => m.delayTimer
  | .sound => m.soundTimer

namespace Timer

/-- The opcode that sets a timer to `Vx`. -/
def setter (x : Register) : Timer → Opcode
  | .delay => Opcode.ofDigits 0xF x 1 5
  | .sound => Opcode.ofDigits 0xF x 1 8

/-- The instruction that sets a timer to `Vx`. -/
def setting (x : Register) : Timer → Instruction
  | .delay => .setDelay x
  | .sound => .setSound x

variable {t : Timer} {w : Opcode} {x : Register}

theorem decode?_setter (t : Timer) (x : Register) :
    Instruction.decode? (t.setter x) = some (t.setting x) := by
  cases t with
  | delay =>
    exact Instruction.decode?_endingWith .setDelay rfl (by decide) rfl (fun _ => rfl) x
  | sound =>
    exact Instruction.decode?_endingWith .setSound rfl (by decide) rfl (fun _ => rfl) x

/-- No other opcodes set a timer. -/
theorem eq_setter_of_decode? (h : Instruction.decode? w = some (t.setting x)) :
    w = t.setter (Opcode.x w) := by
  cases t with
  | delay =>
    exact Instruction.eq_ofDigits_of_decode? .setDelay rfl (by decide) rfl h rfl
  | sound =>
    exact Instruction.eq_ofDigits_of_decode? .setSound rfl (by decide) rfl h rfl

theorem timer_perform_setting (t : Timer) (m : Machine) (x : Register) :
    ((t.setting x).perform m).timer t = m.register x := by
  cases t <;> rfl

/-- An instruction that does not set a timer leaves it as it is. -/
theorem timer_perform {i : Instruction} (h : ∀ x, i ≠ t.setting x) (m : Machine) :
    (i.perform m).timer t = m.timer t := by
  cases t with
  | delay =>
    refine i.same_perform m (p := .delayTimer) ?_
    cases i with
    | setDelay x => exact absurd rfl (h x)
    | _ => rfl
  | sound =>
    refine i.same_perform m (p := .soundTimer) ?_
    cases i with
    | setSound x => exact absurd rfl (h x)
    | _ => rfl

end Timer

namespace Machine

variable {m m' m₁ : Machine} {t : Timer} {x : Register} {n j : Nat}

/-! ## Ticks -/

/-- Counting down takes one away, and nothing from zero. -/
theorem toNat_countDown (b : Byte) : (countDown b).toNat = b.toNat - 1 := by
  rw [countDown]
  split
  · next hzero => rw [hzero]; rfl
  · next hne =>
    have hpos : b.toNat ≠ 0 := fun h => hne (BitVec.eq_of_toNat_eq h)
    have hle : (1 : Byte) ≤ b := BitVec.le_def.2 (Nat.one_le_iff_ne_zero.2 hpos)
    rw [BitVec.toNat_sub_of_le hle]
    rfl

theorem timer_tick (m : Machine) (t : Timer) : m.tick.timer t = countDown (m.timer t) := by
  cases t <;> rfl

theorem timer_iterate_tick (m : Machine) (t : Timer) (n : Nat) :
    ((tick^[n] m).timer t).toNat = (m.timer t).toNat - n := by
  induction n with
  | zero => rfl
  | succ n ih =>
    rw [Function.iterate_succ_apply', timer_tick, toNat_countDown, ih]
    omega

/-! ## One cycle -/

theorem timer_of_step_set (h : m.step.result = .ok m') (hset : m.opcode = t.setter x) :
    m'.timer t = countDown (m.register x) := by
  have hdecode : Instruction.decode? m.opcode = some (t.setting x) := by
    rw [hset, t.decode?_setter]
  rw [eq_of_step_of_decode h hdecode, timer_tick, t.timer_perform_setting]

theorem timer_of_step_unset (h : m.step.result = .ok m') (hunset : ∀ x, m.opcode ≠ t.setter x) :
    m'.timer t = countDown (m.timer t) := by
  obtain ⟨-, ⟨i, hi, -, rfl⟩ | ⟨-, rfl⟩⟩ := step_ok_iff.1 h
  · have hother : ∀ x, i ≠ t.setting x := by
      rintro x rfl
      exact hunset _ (Timer.eq_setter_of_decode? hi)
    rw [timer_tick, Timer.timer_perform hother]
  · exact m.timer_tick t

/-- A register that takes the delay timer gets what it held before the tick. -/
theorem register_of_step_getDelay (h : m.step.result = .ok m')
    (hget : m.opcode = Opcode.ofDigits 0xF x 0 7) : m'.register x = m.delayTimer := by
  have hdecode : Instruction.decode? m.opcode = some (.getDelay x) := by
    rw [hget]
    exact Instruction.decode?_endingWith .getDelay rfl (by decide) rfl (fun _ => rfl) x
  rw [eq_of_step_of_decode h hdecode]
  exact (m.register_setRegister x _ x).trans (if_pos rfl)

/-! ## Many cycles -/

/-- **Cycles that do not set a timer** take one each from it, until it is zero. -/
theorem timer_of_unset (h : m.steps n = .ok m') (hunset : ∀ x, t.setter x ∉ m.opcodes n) :
    (m'.timer t).toNat = (m.timer t).toNat - n := by
  induction n generalizing m with
  | zero =>
    rw [steps_zero, Except.ok.injEq] at h
    rw [h, Nat.sub_zero]
  | succ n ih =>
    obtain ⟨m₁, hstep, hrest⟩ := steps_succ_eq_ok_iff.1 h
    simp only [opcodes_succ_of_ok hstep, List.mem_cons, not_or] at hunset
    have hfirst := timer_of_step_unset hstep fun x => Ne.symm (hunset x).1
    rw [ih hrest fun x => (hunset x).2, hfirst, toNat_countDown]
    omega

/-- **The last cycle that sets a timer** has `j` cycles before it; its own tick and those of
the cycles behind it are taken from what it set. -/
theorem timer_of_set (h : m.steps n = .ok m') (hj : j < n) (hbefore : m.steps j = .ok m₁)
    (hset : m₁.opcode = t.setter x) (hlast : ∀ x, t.setter x ∉ (m.opcodes n).drop (j + 1)) :
    (m'.timer t).toNat = (m₁.register x).toNat - (n - j) := by
  obtain ⟨d, rfl⟩ : ∃ d, n = j + 1 + d := Nat.exists_eq_add_of_le hj
  rw [Nat.add_assoc, steps_add hbefore, Nat.add_comm, steps_succ_eq_ok_iff] at h
  obtain ⟨m₂, hstep, hrest⟩ := h
  have hthrough : m.steps (j + 1) = .ok m₂ := by
    rw [steps_add hbefore, steps_one, hstep]
  rw [drop_opcodes hthrough] at hlast
  rw [timer_of_unset hrest hlast, timer_of_step_set hstep hset, toNat_countDown]
  omega

/-! ## The whole -/

/-- **Timers count cycles and stop at zero**, as differences of natural numbers do.  Over `n`
cycles that succeed, whatever they execute, a timer that is not set loses `n`; one that is set
to `Vx` in cycle `k`, and in none behind it, ends as what `Vx` held then less the ticks of that
cycle and of those behind it.  A register that takes the delay timer in a cycle gets what it
held before the tick of the cycle, and ticks alone take one each from both timers. -/
theorem timers_count_cycles :
    (∀ (t : Timer) (m m' : Machine) (n : Nat), m.steps n = .ok m' →
      ((∀ x, t.setter x ∉ m.opcodes n) → (m'.timer t).toNat = (m.timer t).toNat - n) ∧
        ∀ k x m₁, 1 ≤ k → k ≤ n → m.steps (k - 1) = .ok m₁ → m₁.opcode = t.setter x →
          (∀ y, t.setter y ∉ (m.opcodes n).drop k) →
            (m'.timer t).toNat = (m₁.register x).toNat - (n - k + 1)) ∧
      (∀ (m m' : Machine) (x : Register), m.step.result = .ok m' →
        m.opcode = Opcode.ofDigits 0xF x 0 7 → m'.register x = m.delayTimer) ∧
      ∀ (t : Timer) (m : Machine) (n : Nat),
        ((tick^[n] m).timer t).toNat = (m.timer t).toNat - n := by
  refine ⟨fun t m m' n h => ⟨timer_of_unset h, ?_⟩, fun m m' x => register_of_step_getDelay,
    fun t m n => m.timer_iterate_tick t n⟩
  intro k x m₁ hpos hle hbefore hset hlast
  obtain ⟨j, rfl⟩ : ∃ j, k = j + 1 := Nat.exists_eq_add_of_le' hpos
  rw [timer_of_set h hle hbefore hset hlast]
  omega

/-- A program that sets the delay timer to `5`, reads it and waits for a key, on a machine
whose sound timer is at `2`. -/
def waiting : Machine :=
  { (Session.ready ⟨0, 0⟩ 1 [0x60, 0x05, 0xF0, 0x15, 0xF1, 0x07, 0xF2, 0x0A]).machine with
    soundTimer := 2 }

/-- The delay timer counts on while the machine waits: it was set in the second of five
cycles, and the third read it one lower.  The sound timer has stopped. -/
theorem timers_count_cycles_waiting :
    ∃ m₁ m₂ m', waiting.steps 2 = .ok m₁ ∧ m₁.step.result = .ok m₂ ∧ m₂.register 1 = 4 ∧
      waiting.steps 5 = .ok m' ∧ m'.delayTimer.toNat = 1 ∧ m'.soundTimer.toNat = 0 := by
  obtain ⟨hnone₁, hnone₂, hnone₅, hread, hget, hregister, hset, hlast, hstart, hunset⟩ :
      (waiting.run 1).failures = [] ∧ (waiting.run 2).failures = [] ∧
        (waiting.run 5).failures = [] ∧ (waiting.run 2).machine.step.failures = [] ∧
        (waiting.run 2).machine.opcode = Opcode.ofDigits 0xF 1 0 7 ∧
        (waiting.run 2).machine.delayTimer = 4 ∧
        (waiting.run 1).machine.opcode = Timer.delay.setter 0 ∧
        (∀ y, Timer.delay.setter y ∉ (waiting.opcodes 5).drop 2) ∧
        (waiting.run 1).machine.register 0 = 5 ∧
        ∀ x, Timer.sound.setter x ∉ waiting.opcodes 5 := by
    decide +kernel
  have hsteps := steps_of_failures_eq_nil hnone₅
  have hbefore := steps_of_failures_eq_nil hnone₁
  have hstep : (waiting.run 2).machine.step.result = .ok (waiting.run 2).machine.step.machine :=
    Outcome.result_eq_ok_iff.2 ⟨hread, rfl⟩
  refine ⟨_, _, _, steps_of_failures_eq_nil hnone₂, hstep, ?_, hsteps, ?_, ?_⟩
  · exact (timers_count_cycles.2.1 _ _ 1 hstep hget).trans hregister
  · have hdelay := (timers_count_cycles.1 .delay _ _ 5 hsteps).2 2 0 _ (by decide) (by decide)
      hbefore hset hlast
    rw [hstart] at hdelay
    exact hdelay
  · exact (timers_count_cycles.1 .sound _ _ 5 hsteps).1 hunset

end Machine

end ChipEight
