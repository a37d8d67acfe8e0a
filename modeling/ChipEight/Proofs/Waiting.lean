import ChipEight.Proofs.KeyEvents
import ChipEight.Proofs.Timers
import ChipEight.Proofs.Warnings
import Mathlib.Data.Finset.Max

/-!
# Waiting

Under two circumstances the program counter stays where it is: a wait for a key while none is down,
and an opcode that has no instruction.  However many cycles pass there, only the timers see them.
A wait ends in the cycle after some key went down, with the lowest of the keys that are down then.

What is proved here:

* **idling** — `step_of_idles`: a cycle that changes nothing but the timers, `run_of_idles` for
  any number of them, and `records_of_idles` for what the host is told;
* **waking** — `lowest?_holding`: the least of the keys that are down, and
  `result_step_of_presses` for the cycle that ends a wait;
* **the whole** — `waiting_is_stable`.
-/

namespace ChipEight

/-! ## The lowest key -/

namespace Keypad

variable {keys : Keypad} {k : Fin 16}

theorem lowest?_of_forall_lt (hk : keys.down k = true) (hlower : ∀ j < k, keys.down j = false) :
    keys.lowest? = some k := by
  show (List.finRange 16).find? keys.down = some k
  rw [List.find?_eq_some_iff_getElem]
  refine ⟨hk, k.val, by simp, by simp, fun j hj => ?_⟩
  simpa using hlower ⟨j, hj.trans k.isLt⟩ hj

/-- The keypad with the keys of a set down, and no other key. -/
def holding (K : Finset (Fin 16)) : Keypad := Vector.ofFn fun k => decide (k ∈ K)

theorem down_holding (K : Finset (Fin 16)) (k : Fin 16) : (holding K).down k = decide (k ∈ K) :=
  down_ofFn _ k

theorem lowest?_holding {K : Finset (Fin 16)} (hK : K.Nonempty) :
    (holding K).lowest? = some (K.min' hK) := by
  refine lowest?_of_forall_lt ?_ fun j hj => ?_
  · rw [down_holding, decide_eq_true (K.min'_mem hK)]
  · rw [down_holding, decide_eq_false]
    exact fun hmem => absurd hj (not_lt.2 (K.min'_le j hmem))

end Keypad

namespace KeyEvent

/-- Events that leave exactly the keys of a set down, on a keypad with no key down. -/
def Presses (K : Finset (Fin 16)) (events : List KeyEvent) : Prop :=
  ∀ k, last? events k = some true ↔ k ∈ K

variable {K : Finset (Fin 16)} {values : Fin 16 → KeyValue}

/-- The keys of a set, pressed one by one in any order. -/
theorem presses_oneByOne {order : List (Fin 16)} (horder : ∀ k, k ∈ order ↔ k ∈ K)
    (hvalues : ∀ k ∈ K, (values k).pressed = true) : Presses K (oneByOne values order) := by
  intro k
  rw [last?_oneByOne]
  by_cases hk : k ∈ K
  · simp [(horder k).2 hk, hk, hvalues k hk]
  · simp [mt (horder k).1 hk, hk]

/-- The keys of a set, pressed all at once. -/
theorem presses_flat (hvalues : ∀ k, (values k).pressed = true ↔ k ∈ K) :
    Presses K [.all (.flat values)] := by
  intro k
  rw [← List.nil_append [_], last?_append_singleton, value?_flat, ← hvalues]
  simp

/-- On a keypad with no key down. -/
theorem getD_last?_of_presses {events : List KeyEvent} (h : Presses K events) (k : Fin 16) :
    (last? events k).getD false = decide (k ∈ K) := by
  rw [Bool.eq_iff_iff, decide_eq_true_iff, ← h k]
  cases last? events k <;> simp

end KeyEvent

namespace Machine

variable {m : Machine} {x : Register} {ns : List Notice} {n : Nat}

/-! ## Idling -/

/-- The machine with `n` taken from either timer, and zero left where there is less. -/
def countedDown (m : Machine) (n : Nat) : Machine :=
  { m with
    delayTimer := BitVec.ofNat 8 (m.delayTimer.toNat - n)
    soundTimer := BitVec.ofNat 8 (m.soundTimer.toNat - n) }

@[simp] theorem countedDown_zero (m : Machine) : m.countedDown 0 = m := by
  simp [countedDown]

theorem tick_countedDown (m : Machine) (n : Nat) :
    (m.countedDown n).tick = m.countedDown (n + 1) := by
  have htimer (b : Byte) :
      countDown (BitVec.ofNat 8 (b.toNat - n)) = BitVec.ofNat 8 (b.toNat - (n + 1)) := by
    have := b.isLt
    apply BitVec.eq_of_toNat_eq
    rw [toNat_countDown, BitVec.toNat_ofNat, BitVec.toNat_ofNat, Nat.mod_eq_of_lt (by omega),
      Nat.mod_eq_of_lt (by omega)]
    omega
  simp only [tick, countedDown, htimer]

/-- The program counter stands on a wait for a key, and no key is down. -/
def AwaitsKey (m : Machine) (x : Register) : Prop :=
  m.opcode = Opcode.ofDigits 0xF x 0 0xA ∧ m.keypad = .released

/-- The program counter stands on an opcode that no entry of the table accepts. -/
def Unmatched (m : Machine) : Prop := ∀ e ∈ Entry.table, e.accepts m.opcode = false

/-- The next cycle changes nothing but the timers, and has these notices for the host. -/
inductive Idles (m : Machine) : List Notice → Prop where
  | awaiting {x : Register} (h : m.AwaitsKey x) : Idles m []
  | unmatched (h : m.Unmatched) : Idles m [⟨m.opcode, m.pc⟩]

theorem decode?_waitKey {w : Opcode} (h : w = Opcode.ofDigits 0xF x 0 0xA) :
    Instruction.decode? w = some (.waitKey x) := by
  rw [h]
  exact Instruction.decode?_endingWith .waitKey rfl (by decide) rfl (fun _ => rfl) x

theorem execute_of_idles (h : m.Idles ns) :
    m.execute m.opcode = { machine := m, notices := ns } := by
  cases h with
  | @awaiting x h =>
    have hnone : m.keypad.lowest? = none := Keypad.lowest?_eq_none_iff.2 h.2
    rw [execute, decode?_waitKey h.1]
    simp only [Instruction.perform, hnone]
    rfl
  | unmatched h =>
    have hnone : Instruction.decode? m.opcode = none := by
      rw [Instruction.decode?, Option.map_eq_none_iff, Operation.ofOpcode?_eq_none_iff,
        Operation.position_eq_iff]
      exact fun op hop => h _ (List.mem_map_of_mem hop)
    rw [execute, hnone]

/-- **One cycle** of idling. -/
theorem step_of_idles (hpc : m.pc.toNat ≤ 4094) (h : m.Idles ns) :
    m.step = { machine := m.tick, notices := ns } := by
  have hfetch : m.fetchFault? = none := fetchFault?_eq_none_iff.2 (by omega)
  rw [step, execute_of_idles h, hfetch]
  rfl

/-- Idling hangs on the opcode and on the keypad, and the notices on the program counter. -/
theorem Idles.congr {m' : Machine} (h : m.Idles ns) (hopcode : m'.opcode = m.opcode)
    (hpc : m'.pc = m.pc) (hkeypad : m'.keypad = m.keypad) : m'.Idles ns := by
  cases h with
  | awaiting h => exact .awaiting ⟨hopcode.trans h.1, hkeypad.trans h.2⟩
  | unmatched h =>
    rw [← hopcode, ← hpc]
    exact .unmatched fun e he => hopcode ▸ h e he

/-- **Any number of cycles** of idling.  The induction cuts off the last cycle, which starts from
what the others made of the timers. -/
theorem run_of_idles (hpc : m.pc.toNat ≤ 4094) (h : m.Idles ns) (n : Nat) :
    m.run n = { machine := m.countedDown n, notices := (List.replicate n ns).flatten } := by
  induction n with
  | zero => rw [countedDown_zero]; rfl
  | succ n ih =>
    have hidles : (m.countedDown n).Idles ns := h.congr rfl rfl rfl
    have hlast : (m.countedDown n).run 1 = { machine := m.countedDown (n + 1), notices := ns } := by
      rw [run_one, step_of_idles (m := m.countedDown n) hpc hidles, tick_countedDown]
    rw [run_add, ih, Outcome.andThen, hlast, List.replicate_succ', List.flatten_append,
      List.flatten_singleton]
    rfl

theorem steps_of_idles (hpc : m.pc.toNat ≤ 4094) (h : m.Idles ns) (n : Nat) :
    m.steps n = .ok (m.countedDown n) := by
  have hrun := run_of_idles hpc h n
  rw [steps_of_failures_eq_nil (by rw [hrun]), hrun]

/-! ## Waking -/

theorem heedAll_of_presses (h : m.keypad = .released) {K : Finset (Fin 16)}
    {events : List KeyEvent} (hevents : KeyEvent.Presses K events) :
    m.heedAll events = m.latchAll (.holding K) := by
  have hkeypad : (m.heedAll events).keypad = .holding K := by
    refine Keypad.ext_down fun k => ?_
    rw [down_heedAll, h, Keypad.down_released, KeyEvent.getD_last?_of_presses hevents,
      Keypad.down_holding]
  rw [heedAll_eq, hkeypad]

/-- The machine when a wait has ended: the number of a key is in `Vx`, and the program counter
stands behind the wait. -/
def woken (m : Machine) (x : Register) (key : Fin 16) : Machine :=
  (m.setRegister x (BitVec.ofNat 8 key.val)).advance 2

theorem register_woken (m : Machine) (x : Register) (key : Fin 16) (r : Register) :
    (m.woken x key).register r = if r = x then BitVec.ofNat 8 key.val else m.register r :=
  m.register_setRegister x _ r

/-- The number of a key fits into a register. -/
theorem toNat_register_woken (m : Machine) (x : Register) (key : Fin 16) :
    ((m.woken x key).register x).toNat = key.val := by
  have hbyte : key.val < 2 ^ 8 := key.isLt.trans (by decide)
  rw [register_woken, if_pos rfl, BitVec.toNat_ofNat, Nat.mod_eq_of_lt hbyte]

theorem toNat_pc_woken (hpc : m.pc.toNat ≤ 4094) (x : Register) (key : Fin 16) :
    (m.woken x key).pc.toNat = m.pc.toNat + 2 := by
  have hmoved : (m.woken x key).pc = m.pc + 2 := rfl
  have htwo : (2 : Word).toNat = 2 := rfl
  rw [hmoved, BitVec.toNat_add, htwo, Nat.mod_eq_of_lt (by omega)]

/-- **The cycle that ends a wait.** -/
theorem result_step_of_lowest? (hpc : m.pc.toNat ≤ 4094)
    (hopcode : m.opcode = Opcode.ofDigits 0xF x 0 0xA) {key : Fin 16}
    (hkey : m.keypad.lowest? = some key) : m.step.result = .ok (m.tick.woken x key) := by
  rw [step_ok_iff]
  refine ⟨by omega, .inl ⟨.waitKey x, decode?_waitKey hopcode, rfl, ?_⟩⟩
  rw [Instruction.perform, hkey]
  rfl

/-- It gets the least of the keys that were pressed. -/
theorem result_step_of_presses (hpc : m.pc.toNat ≤ 4094) (h : m.AwaitsKey x)
    {K : Finset (Fin 16)} (hK : K.Nonempty) {events : List KeyEvent}
    (hevents : KeyEvent.Presses K events) :
    (m.heedAll events).step.result = .ok ((m.tick.latchAll (.holding K)).woken x (K.min' hK)) := by
  have hwake (keys : Keypad) (hkeys : keys.lowest? = some (K.min' hK)) :
      (m.latchAll keys).step.result = .ok ((m.tick.latchAll keys).woken x (K.min' hK)) :=
    result_step_of_lowest? (m := m.latchAll keys) hpc h.1 hkeys
  rw [heedAll_of_presses h.2 hevents, hwake _ (Keypad.lowest?_holding hK)]

end Machine

namespace Session

variable {s : Session} {ns : List Notice}

/-- What the host is told of while the machine idles, cycle by cycle. -/
theorem records_of_idles (hpc : s.machine.pc.toNat ≤ 4094) (h : s.machine.Idles ns) (n : Nat) :
    (s.responses (List.replicate n .step)).map Response.records
      = List.replicate n (s.warnings ns) := by
  induction n generalizing s with
  | zero => rfl
  | succ n ih =>
    have hstep := Machine.step_of_idles hpc h
    have hok : s.machine.step.result = .ok s.machine.tick := by
      rw [hstep, Outcome.result_eq_ok_iff]
      exact ⟨rfl, rfl⟩
    have hsession : s.step.session = { s with machine := s.machine.tick.acknowledge } :=
      (step_of_ok hok).1
    have hrecords : s.step.records = s.warnings ns := by
      rw [step, conclude, hstep]
    have hrest := ih (s := { s with machine := s.machine.tick.acknowledge }) hpc
      (h.congr rfl rfl rfl)
    rw [List.replicate_succ, responses_cons, List.map_cons, perform, hrecords, hsession, hrest]
    rfl

open KeyEvent (Presses oneByOne)

/-- **Waiting is stable, and wakes with the lowest key.**  On a wait for a key while none is down,
and on an opcode without an instruction, any number `n` of cycles takes `n` from either timer, or
what there is, and changes nothing else.  A wait says nothing to the host, and an opcode without
an instruction gives the same warning in each of the cycles.  Once the host has pressed some keys,
one by one in any order or all at once, the next cycle of the wait puts the least of them into
`Vx` and moves on to the next opcode. -/
theorem waiting_is_stable (s : Session) (hpc : s.machine.pc.toNat ≤ 4094) :
    let m := s.machine
    (∀ x, m.AwaitsKey x → ∀ n,
      m.steps n = .ok (m.countedDown n) ∧ (m.run n).notices = [] ∧
        (s.responses (List.replicate n .step)).map Response.records = List.replicate n [] ∧
        ∀ (K : Finset (Fin 16)) (hK : K.Nonempty) (events : List KeyEvent), Presses K events →
          let woken := ((m.countedDown (n + 1)).latchAll (.holding K)).woken x (K.min' hK)
          ((m.countedDown n).heedAll events).step.result = .ok woken ∧
            (woken.register x).toNat = (K.min' hK).val ∧
            (∀ r, r ≠ x → woken.register r = m.register r) ∧
            woken.pc.toNat = m.pc.toNat + 2) ∧
      (m.Unmatched → ∀ n,
        m.steps n = .ok (m.countedDown n) ∧
          (m.run n).notices = List.replicate n ⟨m.opcode, m.pc⟩ ∧
          (s.console.admits .warning = true →
            (s.responses (List.replicate n .step)).map Response.records
              = List.replicate n [Notice.record ⟨m.opcode, m.pc⟩])) ∧
      (∀ (K : Finset (Fin 16)) (values : Fin 16 → KeyValue) (order : List (Fin 16)),
        (∀ k, k ∈ order ↔ k ∈ K) → (∀ k ∈ K, (values k).pressed = true) →
          Presses K (oneByOne values order)) ∧
      ∀ (K : Finset (Fin 16)) (values : Fin 16 → KeyValue),
        (∀ k, (values k).pressed = true ↔ k ∈ K) → Presses K [.all (.flat values)] := by
  intro m
  refine ⟨fun x h n => ?_, fun h n => ?_,
    fun K values order horder hvalues => KeyEvent.presses_oneByOne horder hvalues,
    fun K values hvalues => KeyEvent.presses_flat hvalues⟩
  · have hidles : m.Idles [] := .awaiting h
    refine ⟨Machine.steps_of_idles hpc hidles n, ?_, records_of_idles hpc hidles n,
      fun K hK events hevents => ?_⟩
    · rw [Machine.run_of_idles hpc hidles]
      simp
    have hregisters (keys : Keypad) (key : Fin 16) {r : Register} (hr : r ≠ x) :
        (((m.countedDown (n + 1)).latchAll keys).woken x key).register r = m.register r :=
      (Machine.register_woken _ x key r).trans (if_neg hr)
    have hmoved (keys : Keypad) (key : Fin 16) :
        (((m.countedDown (n + 1)).latchAll keys).woken x key).pc.toNat = m.pc.toNat + 2 :=
      Machine.toNat_pc_woken (m := (m.countedDown (n + 1)).latchAll keys) hpc x key
    refine ⟨?_, Machine.toNat_register_woken _ x _, fun r hr => hregisters _ _ hr, hmoved _ _⟩
    rw [← Machine.tick_countedDown]
    exact Machine.result_step_of_presses (m := m.countedDown n) hpc h hK hevents
  · have hidles : m.Idles [⟨m.opcode, m.pc⟩] := .unmatched h
    refine ⟨Machine.steps_of_idles hpc hidles n, ?_, fun hlevel => ?_⟩
    · rw [Machine.run_of_idles hpc hidles]
      simp
    · rw [records_of_idles hpc hidles, warnings_of_admits hlevel]
      rfl

/-- Waits for a key to put into `V3`, with both timers running. -/
def awaitingKey : Session where
  machine :=
    { (ready ⟨0, 0⟩ 1 [0xF3, 0x0A]).machine with delayTimer := 2, soundTimer := 60 }
  key := ⟨0, 0⟩
  frameLength := 1

/-- Stands on an opcode without an instruction. -/
def stuck : Session := ready ⟨0, 0⟩ 1 [0xFF, 0xFF]

/-- After three cycles of waiting the ninth key and then the fourth are pressed, and it is the
fourth that is stored; and three cycles on an opcode without an instruction give three equal
warnings. -/
theorem waiting_is_stable_two_keys :
    let m := awaitingKey.machine
    let events := oneByOne (fun _ => .int 1) [9, 4]
    m.steps 3 = .ok (m.countedDown 3) ∧
      (m.countedDown 3).delayTimer = 0 ∧ (m.countedDown 3).soundTimer = 57 ∧
      (∃ m', ((m.countedDown 3).heedAll events).step.result = .ok m' ∧
        (m'.register 3).toNat = 4 ∧ m'.pc.toNat = 0x202) ∧
      (stuck.responses (List.replicate 3 .step)).map Response.records
        = List.replicate 3 [⟨.warning, "Unknown opcode 0xFFFF at 0x200"⟩] := by
  intro m events
  have hawaits : m.AwaitsKey 3 := ⟨by decide +kernel, by decide +kernel⟩
  have hunmatched : ∀ e ∈ Entry.table, e.accepts stuck.machine.opcode = false := by
    decide +kernel
  obtain ⟨hwait, -, hpress, -⟩ := waiting_is_stable awaitingKey (by decide +kernel)
  obtain ⟨-, hunknown, -⟩ := waiting_is_stable stuck (by decide +kernel)
  obtain ⟨hsteps, -, -, hwake⟩ := hwait 3 hawaits 3
  have hpresses : Presses {4, 9} events := hpress {4, 9} _ [9, 4] (by decide) fun _ _ => rfl
  obtain ⟨hstep, hregister, -, hpc⟩ := hwake {4, 9} (by simp) events hpresses
  refine ⟨hsteps, by decide +kernel, by decide +kernel,
    ⟨_, hstep, hregister.trans (by decide), hpc.trans (by decide +kernel)⟩, ?_⟩
  · exact ((hunknown hunmatched 3).2.2 (by decide)).trans (by decide +kernel)

end Session

end ChipEight
