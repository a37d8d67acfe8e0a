import ChipEight.Proofs.Decoding
import ChipEight.Proofs.KeyEvents
import ChipEight.Proofs.Locality
import Mathlib.Logic.Function.Iterate

/-!
# Key events between cycles

Three instructions look at the keypad, and none changes it.  A cycle that executes another one
comes to the same whether a key event goes before it or behind it, so that a host may latch its
keys at any moment between such cycles.

What is proved here:

* **one cycle** — `result_step_heed`: a cycle that does not look at the keys commutes with every
  key event;
* **interleavings** — `KeyedSystem.after_of_spares`: whatever takes cycles and key events
  in turn, and has this law, ends alike for all interleavings of the same events with the same
  number of cycles;
* **the whole** — `interleavings_agree`, for machines and for sessions.
-/

namespace ChipEight

/-! ## Opcodes that look at the keys -/

/-- The opcodes `Ex9E`, `ExA1` and `Fx0A`. -/
def Opcode.ReadsKeys (w : Opcode) : Prop :=
  ∃ x : Register, w = ofDigits 0xE x 9 0xE ∨ w = ofDigits 0xE x 0xA 1 ∨ w = ofDigits 0xF x 0 0xA

instance (w : Opcode) : Decidable w.ReadsKeys :=
  inferInstanceAs (Decidable (∃ _ : Register, _ ∨ _ ∨ _))

namespace Instruction

/-- Whether an instruction looks at the keypad. -/
def readsKeys : Instruction → Bool
  | .skipKey _ => true
  | .skipNoKey _ => true
  | .waitKey _ => true
  | _ => false

theorem readsKeys_of_decode? {w : Opcode} {i : Instruction} (hi : decode? w = some i)
    (h : i.readsKeys = true) : w.ReadsKeys := by
  refine ⟨Opcode.x w, ?_⟩
  cases i with
  | skipKey x => exact .inl (eq_ofDigits_of_decode? .skipKey rfl (by decide) rfl hi rfl)
  | skipNoKey x =>
    exact .inr (.inl (eq_ofDigits_of_decode? .skipNoKey rfl (by decide) rfl hi rfl))
  | waitKey x => exact .inr (.inr (eq_ofDigits_of_decode? .waitKey rfl (by decide) rfl hi rfl))
  | _ => cases h

/-! ## One cycle -/

/-- No check looks at the keypad, not even those of the instructions that do. -/
theorem failure?_latchAll (i : Instruction) (m : Machine) (keys : Keypad) :
    i.failure? (m.latchAll keys) = i.failure? m := by
  cases i <;> rfl

theorem perform_latchAll {i : Instruction} (h : i.readsKeys = false) (m : Machine)
    (keys : Keypad) : i.perform (m.latchAll keys) = (i.perform m).latchAll keys := by
  cases i with
  | arithmetic op x y =>
    have hcompute : (m.latchAll keys).compute op x y = (m.compute op x y).latchAll keys := by
      rw [Machine.compute_congr m (m.latchAll keys) rfl rfl, Machine.compute_eq m]
      rfl
    exact congrArg (Machine.advance · 2) hcompute
  | skipKey x => cases h
  | skipNoKey x => cases h
  | waitKey x => cases h
  | _ => rfl

end Instruction

namespace Machine

variable {m m' : Machine} {e : KeyEvent}

/-- The next cycle executes an opcode that looks at the keys. -/
def ReadsKeys (m : Machine) : Prop := ∃ w, m.fetch = .ok w ∧ w.ReadsKeys

theorem readsKeys_iff : m.ReadsKeys ↔ m.pc.toNat + 2 ≤ 4096 ∧ m.opcode.ReadsKeys := by
  simp only [ReadsKeys, fetch_eq_ok_iff]
  constructor
  · rintro ⟨w, ⟨hpc, rfl⟩, hreads⟩
    exact ⟨hpc, hreads⟩
  · rintro ⟨hpc, hreads⟩
    exact ⟨_, ⟨hpc, rfl⟩, hreads⟩

instance (m : Machine) : Decidable m.ReadsKeys := decidable_of_iff _ readsKeys_iff.symm

theorem execute_latchAll {w : Opcode} (h : ¬ w.ReadsKeys) (m : Machine) (keys : Keypad) :
    (m.latchAll keys).execute w = (m.execute w).update (·.latchAll keys) := by
  refine execute_update (f := (·.latchAll keys)) rfl
    fun i hi => ⟨i.failure?_latchAll m keys, ?_⟩
  have hreads : i.readsKeys = false := by
    rw [Bool.eq_false_iff]
    exact fun hreads => h (Instruction.readsKeys_of_decode? hi hreads)
  exact Instruction.perform_latchAll hreads m keys

theorem result_step_latchAll (h : ¬ m.ReadsKeys) (keys : Keypad) :
    (m.latchAll keys).step.result = m.step.result.map (·.latchAll keys) :=
  result_step_update (f := (·.latchAll keys)) rfl (fun _ => rfl) fun w hfetch =>
    ⟨(fetch_eq_ok_iff.1 hfetch).2, execute_latchAll (fun hreads => h ⟨w, hfetch, hreads⟩) m keys⟩

/-- No cycle changes the keypad, whether it fails or not. -/
theorem keypad_step (m : Machine) : m.step.machine.keypad = m.keypad := by
  rw [machine_step]
  show m.executed.keypad = m.keypad
  cases hi : Instruction.decode? m.opcode with
  | none => rw [executed_of_unknown hi]
  | some i =>
    rw [executed_of_decode hi]
    exact i.same_perform m (p := .keypad) rfl

theorem keypad_run (m : Machine) (n : Nat) : (m.run n).machine.keypad = m.keypad := by
  induction n generalizing m with
  | zero => rfl
  | succ n ih =>
    rw [run, Outcome.machine_andThen, ih, keypad_step]

/-- **One cycle** that does not look at the keys may come before or behind a key event. -/
theorem result_step_heed (h : ¬ m.ReadsKeys) (e : KeyEvent) :
    (m.heed e).step.result = m.step.result.map (·.heed e) := by
  rw [heed_eq, result_step_latchAll h]
  cases hstep : m.step.result with
  | error f => rfl
  | ok m' =>
    have hkeypad : m'.keypad = m.keypad := by
      rw [← (Outcome.result_eq_ok_iff.1 hstep).2, keypad_step]
    rw [Except.map, Except.map, heed_eq, hkeypad]

theorem readsKeys_latchAll (m : Machine) (keys : Keypad) :
    (m.latchAll keys).ReadsKeys ↔ m.ReadsKeys := Iff.rfl

theorem readsKeys_heed : (m.heed e).ReadsKeys ↔ m.ReadsKeys := by
  rw [heed_eq, readsKeys_latchAll]

end Machine

/-! ## Interleavings -/

/-- What a host does between other things: a cycle, or a key event. -/
inductive Turn where
  | cycle
  | key (e : KeyEvent)

/-- The events, in their order, with `n` cycles between them. -/
inductive Interleaving : List KeyEvent → Nat → List Turn → Prop where
  | nil : Interleaving [] 0 []
  | cycle {events : List KeyEvent} {n : Nat} {turns : List Turn}
    (h : Interleaving events n turns) : Interleaving events (n + 1) (.cycle :: turns)
  | key {events : List KeyEvent} {n : Nat} {turns : List Turn} (e : KeyEvent)
    (h : Interleaving events n turns) : Interleaving (e :: events) n (.key e :: turns)

/-- What takes cycles and key events in turn, and in which states a cycle looks at the keys. -/
structure KeyedSystem (σ : Type) where
  take : Turn → σ → σ
  Reads : σ → Prop
  reads_key (e : KeyEvent) (s : σ) : Reads (take (.key e) s) ↔ Reads s
  /-- A cycle that does not look at the keys may come before or behind a key event. -/
  cycle_key (e : KeyEvent) (s : σ) :
    ¬ Reads s → take .cycle (take (.key e) s) = take (.key e) (take .cycle s)

namespace KeyedSystem

variable {σ : Type} (S : KeyedSystem σ)

/-- The state after a list of turns. -/
def after (turns : List Turn) (s : σ) : σ := turns.foldl (fun s t => S.take t s) s

/-- None of the cycles among the turns looks at the keys. -/
def Spares : List Turn → σ → Prop
  | [], _ => True
  | .cycle :: rest, s => ¬ S.Reads s ∧ Spares rest (S.take .cycle s)
  | .key e :: rest, s => Spares rest (S.take (.key e) s)

variable {s : σ} {n : Nat} {events : List KeyEvent} {turns turns' : List Turn}

/-- A key event before cycles that do not look at the keys may as well come behind them. -/
theorem iterate_cycle_key (e : KeyEvent) (h : ∀ j < n, ¬ S.Reads ((S.take .cycle)^[j] s)) :
    (S.take .cycle)^[n] (S.take (.key e) s) = S.take (.key e) ((S.take .cycle)^[n] s) := by
  induction n with
  | zero => rfl
  | succ n ih =>
    rw [Function.iterate_succ_apply', ih fun j hj => h j (Nat.lt_succ_of_lt hj),
      S.cycle_key e _ (h n (Nat.lt_succ_self n)), ← Function.iterate_succ_apply' (S.take .cycle)]

/-- Whether cycles look at the keys does not hang on a key event before them. -/
theorem forall_not_reads_key (e : KeyEvent) :
    (∀ j < n, ¬ S.Reads ((S.take .cycle)^[j] (S.take (.key e) s))) ↔
      ∀ j < n, ¬ S.Reads ((S.take .cycle)^[j] s) := by
  induction n with
  | zero => simp
  | succ n ih =>
    rw [Nat.forall_lt_succ_right, Nat.forall_lt_succ_right, ih]
    refine and_congr_right fun h => ?_
    rw [S.iterate_cycle_key e h, S.reads_key]

/-- **The cycles of an interleaving** look at the keys exactly when the cycles alone do. -/
theorem spares_iff (h : Interleaving events n turns) :
    S.Spares turns s ↔ ∀ j < n, ¬ S.Reads ((S.take .cycle)^[j] s) := by
  induction h generalizing s with
  | nil => simp [Spares]
  | cycle h ih =>
    rw [Spares, ih, Nat.forall_lt_succ_left]
    rfl
  | key e h ih => rw [Spares, ih, S.forall_not_reads_key]

/-- **Every interleaving** comes to the cycles first, if these do not look at the keys, and then
the events. -/
theorem after_of_interleaving (h : Interleaving events n turns)
    (hspares : ∀ j < n, ¬ S.Reads ((S.take .cycle)^[j] s)) :
    S.after turns s = S.after (events.map .key) ((S.take .cycle)^[n] s) := by
  induction h generalizing s with
  | nil => rfl
  | cycle h ih =>
    rw [Nat.forall_lt_succ_left] at hspares
    exact ih hspares.2
  | key e h ih =>
    have hrest := ih ((S.forall_not_reads_key e).2 hspares)
    rw [S.iterate_cycle_key e hspares] at hrest
    exact hrest

/-- All interleavings end alike, if the cycles of one of them do not look at the keys. -/
theorem after_of_spares (h : Interleaving events n turns) (hspares : S.Spares turns s)
    (h' : Interleaving events n turns') :
    S.after turns' s = S.after (events.map .key) ((S.take .cycle)^[n] s) :=
  S.after_of_interleaving h' ((S.spares_iff h).1 hspares)

/-! ## Machines and sessions -/

/-- A machine by itself: a cycle that fails ends everything. -/
def machines : KeyedSystem (Except Fault Machine) where
  take
    | .cycle, r => r.bind fun m => m.step.result
    | .key e, r => r.map fun m => m.heed e
  Reads r := ∃ m, r = .ok m ∧ m.ReadsKeys
  reads_key e r := by
    cases r with
    | error f => simp [Except.map]
    | ok m => simp [Except.map, Machine.readsKeys_heed]
  cycle_key e r h := by
    cases r with
    | error f => rfl
    | ok m => exact Machine.result_step_heed (fun hreads => h ⟨m, rfl, hreads⟩) e

end KeyedSystem

/-- The request for a turn. -/
def Turn.action : Turn → Action
  | .cycle => .step
  | .key e => e.action

theorem Machine.acknowledge_heed (m : Machine) (e : KeyEvent) :
    (m.heed e).acknowledge = m.acknowledge.heed e := by
  rw [heed_eq, heed_eq]
  rfl

/-- A refused cycle leaves the session with the event, and one that is granted takes the redraw
flag back, which has nothing to do with keys. -/
theorem Session.step_key {s : Session} (h : ¬ s.machine.ReadsKeys) (e : KeyEvent) :
    (s.perform e.action).session.step.session = (s.step.session.perform e.action).session := by
  let heeding : Session := { s with machine := s.machine.heed e }
  have hheed : heeding.machine.step.result = s.machine.step.result.map fun m => m.heed e :=
    Machine.result_step_heed h e
  have hsession : (s.perform e.action).session = heeding := s.session_perform_action e
  rw [hsession, session_perform_action]
  cases hstep : s.machine.step.result with
  | error f =>
    rw [hstep] at hheed
    rw [(step_of_error hheed).1, (step_of_error hstep).1]
  | ok m =>
    rw [hstep] at hheed
    rw [(step_of_ok hheed).1, (step_of_ok hstep).1, m.acknowledge_heed]

namespace KeyedSystem

/-- A machine in the hands of a host, who goes on behind a cycle that was refused. -/
def sessions : KeyedSystem Session where
  take turn s := (s.perform turn.action).session
  Reads s := s.machine.ReadsKeys
  reads_key e s := by
    rw [Turn.action, s.session_perform_action]
    exact Machine.readsKeys_heed
  cycle_key e s h := Session.step_key h e

theorem iterate_machines (n : Nat) (m : Machine) :
    (machines.take .cycle)^[n] (.ok m) = m.steps n := by
  induction n generalizing m with
  | zero => rfl
  | succ n ih =>
    rw [Function.iterate_succ_apply, Machine.steps]
    show (machines.take .cycle)^[n] m.step.result = m.step.result.bind (Machine.steps n)
    cases m.step.result with
    | ok m₁ => exact ih m₁
    | error f => exact Function.iterate_fixed rfl n

theorem after_machines (events : List KeyEvent) (r : Except Fault Machine) :
    machines.after (events.map .key) r = r.map fun m => m.heedAll events := by
  induction events generalizing r with
  | nil => cases r <;> rfl
  | cons e rest ih =>
    show machines.after (rest.map .key) (r.map fun m => m.heed e) = _
    rw [ih]
    cases r <;> rfl

theorem after_sessions (turns : List Turn) (s : Session) :
    sessions.after turns s = s.performAll (turns.map Turn.action) := by
  rw [after, Session.performAll, List.foldl_map]
  rfl

theorem iterate_sessions (n : Nat) (s : Session) :
    (sessions.take .cycle)^[n] s = s.performAll (List.replicate n .step) := by
  induction n generalizing s with
  | zero => rfl
  | succ n ih =>
    rw [Function.iterate_succ_apply, ih]
    rfl

end KeyedSystem

open KeyedSystem (machines sessions)

/-- **Key events commute with cycles that do not look at the keys.**  Such a cycle gives the same
before and behind a key event, the same fault included.  If in one interleaving of key events and
cycles no cycle looks at the keys, then every interleaving of them ends as if all cycles came
first, for a machine by itself and for a host who goes on behind refused cycles.  And no cycle
changes the keypad, not even one that fails. -/
theorem interleavings_agree :
    (∀ (m : Machine) (e : KeyEvent), ¬ m.ReadsKeys →
      (m.heed e).step.result = m.step.result.map fun m' => m'.heed e) ∧
      (∀ (m : Machine) (events : List KeyEvent) (n : Nat) (turns turns' : List Turn),
        Interleaving events n turns → Interleaving events n turns' →
        machines.Spares turns (.ok m) →
          machines.after turns' (.ok m) = (m.steps n).map fun m' => m'.heedAll events) ∧
      (∀ (s : Session) (events : List KeyEvent) (n : Nat) (turns turns' : List Turn),
        Interleaving events n turns → Interleaving events n turns' → sessions.Spares turns s →
          s.performAll (turns'.map Turn.action)
            = (s.performAll (List.replicate n .step)).performAll
                (events.map KeyEvent.action)) ∧
      ∀ (m : Machine) (n : Nat), (m.run n).machine.keypad = m.keypad := by
  refine ⟨fun m e h => Machine.result_step_heed h e,
    fun m events n turns turns' h h' hspares => ?_,
    fun s events n turns turns' h h' hspares => ?_, Machine.keypad_run⟩
  · rw [machines.after_of_spares h hspares h', KeyedSystem.iterate_machines,
      KeyedSystem.after_machines]
  · rw [← KeyedSystem.after_sessions, sessions.after_of_spares h hspares h',
      KeyedSystem.iterate_sessions, KeyedSystem.after_sessions, List.map_map]
    rfl

/-- Two key events around the cycles of a program that sets `V0` and then returns although it was
not called: the second cycle is refused, and the keys are latched all the same. -/
theorem interleavings_agree_refused :
    let s : Session := .ready ⟨0, 0⟩ 1 [0x60, 0x05, 0x00, 0xEE]
    let e : KeyEvent := .one 3 (.bool true)
    let e' : KeyEvent := .all (.flat fun k => .int k.val)
    (s.machine.heed e).step.result = s.machine.step.result.map (fun m => m.heed e) ∧
      machines.after [.key e, .cycle] (.ok s.machine)
        = (s.machine.steps 1).map (fun m => m.heedAll [e]) ∧
      s.performAll ([.key e, .key e', .cycle, .cycle].map Turn.action)
        = (s.performAll (List.replicate 2 .step)).performAll ([e, e'].map KeyEvent.action) ∧
      (s.performAll (List.replicate 2 .step)).machine.register 0 = 5 ∧
      ∃ f, (s.performAll [.step]).machine.step.result = .error f := by
  intro s e e'
  obtain ⟨hstep, hmachine, hsession, -⟩ := interleavings_agree
  have hfirst : ¬ s.machine.ReadsKeys := by decide +kernel
  have hsecond : ¬ ((s.perform .step).session.perform e.action).session.machine.ReadsKeys := by
    decide +kernel
  refine ⟨hstep _ _ hfirst, ?_, ?_, by decide +kernel, .stackUnderflow, ?_⟩
  · refine hmachine s.machine [e] 1 [.cycle, .key e] _ (.cycle (.key e .nil))
      (.key e (.cycle .nil)) ⟨?_, trivial⟩
    rintro ⟨m, hm, hreads⟩
    rw [← Except.ok.inj hm] at hreads
    exact hfirst hreads
  · have hspares : sessions.Spares [.cycle, .key e, .cycle, .key e'] s :=
      ⟨hfirst, hsecond, trivial⟩
    exact hsession s _ 2 _ _ (.cycle (.key e (.cycle (.key e' .nil))))
      (.key e (.key e' (.cycle (.cycle .nil)))) hspares
  · exact Outcome.result_eq_error_iff.2 ⟨⟨.ret, _⟩, by decide +kernel, rfl⟩

end ChipEight
