import ChipEight.Proofs.Changes
import ChipEight.Proofs.Trace

/-!
# Hosts that keep a copy of the display

A host that paints whenever it is told to, and copies the display each time it paints or
takes the redraw flag back, is never behind without the machine knowing: as long as the
flag is down, its copy is what the display shows.

What is proved here:

* **announcement** — `Announced`: a machine with the flag down shows what it showed
  before; every instruction announces what it paints (`announced_perform`), and so do
  cycles, in any number, and the requests of a host;
* **one request** — `inSync_perform`: a copy that is as good as the flag says stays so,
  whether the request is granted or refused, and after a cycle or a frame that is granted
  it is what the display shows (`inSync_conclude`);
* **counting** — `countP_responses`: single cycles ask for a repaint as often as they
  paint;
* **the whole run** — `no_repaint_missed`.
-/

namespace ChipEight

/-! ## Announcement -/

/-- What a machine shows, on the way from one to another, is announced: with the flag
down afterwards, it was down before and the display is the same. -/
def Machine.Announced (m m' : Machine) : Prop :=
  m'.redraw = false → m.redraw = false ∧ m'.display = m.display

namespace Machine

variable {m m₁ m' : Machine} {w : Opcode} {n : Nat}

theorem Announced.refl (m : Machine) : m.Announced m := fun h => ⟨h, rfl⟩

theorem Announced.trans (h : m.Announced m₁) (h' : m₁.Announced m') : m.Announced m' := by
  intro hdown
  obtain ⟨hdown₁, hdisplay₁⟩ := h' hdown
  obtain ⟨hdown₀, hdisplay₀⟩ := h hdown₁
  exact ⟨hdown₀, hdisplay₁.trans hdisplay₀⟩

/-- The timers are not shown. -/
theorem Announced.tick (h : m.Announced m') : m.Announced m'.tick := h

/-- **One instruction.**  The ones that may change the display are the ones that paint,
and these set the flag. -/
theorem announced_perform (m : Machine) (i : Instruction) : m.Announced (i.perform m) := by
  intro hdown
  rw [i.redraw_perform, Bool.or_eq_false_iff] at hdown
  obtain ⟨hflag, hpaints⟩ := hdown
  have hchange : Part.display.changedBy i.operation = false := by
    cases i with
    | clear => cases hpaints
    | draw x y height => cases hpaints
    | _ => rfl
  exact ⟨hflag, Instruction.same_perform m (p := .display) hchange⟩

/-- **One opcode** that succeeds. -/
theorem announced_of_execute (h : (m.execute w).result = .ok m') : m.Announced m' := by
  rcases execute_ok_iff.1 h with ⟨op, -, -, rfl⟩ | ⟨-, rfl⟩
  · exact m.announced_perform _
  · exact .refl _

/-- **One cycle** that succeeds. -/
theorem announced_of_step (h : m.step.result = .ok m') : m.Announced m' := by
  obtain ⟨-, ⟨i, -, -, rfl⟩ | ⟨-, rfl⟩⟩ := step_ok_iff.1 h
  · exact (m.announced_perform i).tick
  · exact (Announced.refl m).tick

/-- **Many cycles**, by induction on their number. -/
theorem announced_of_steps (h : m.steps n = .ok m') : m.Announced m' := by
  induction n generalizing m with
  | zero =>
    rw [steps_zero, Except.ok.injEq] at h
    exact h ▸ .refl _
  | succ n ih =>
    obtain ⟨m₁, hstep, hrest⟩ := steps_succ_eq_ok_iff.1 h
    exact (announced_of_step hstep).trans (ih hrest)

theorem announced_of_run (h : (m.run n).result = .ok m') : m.Announced m' :=
  announced_of_steps (result_run_eq_ok_iff.1 h)

end Machine

/-! ## The copy -/

/-- Whether a response tells the host to paint. -/
def Response.repaints (r : Response) : Bool :=
  match r.outcome with
  | .ok (.repaint needed) => needed
  | _ => false

namespace Session

/-- Whether the host copies the display after a request: it was told to paint, or it
takes the flag back of its own accord. -/
def recopies (s : Session) : Action → Bool
  | .step => s.step.repaints
  | .frame => s.frame.repaints
  | .acknowledge => true
  | _ => false

/-- The copy after a request, given the one before. -/
def copyAfter (s : Session) (copy : List (List Bool)) (a : Action) : List (List Bool) :=
  if s.recopies a then (s.perform a).session.machine.display.rows else copy

/-- The copy after a list of requests. -/
def watch (s : Session) (copy : List (List Bool)) : List Action → List (List Bool)
  | [] => copy
  | a :: rest => (s.perform a).session.watch (s.copyAfter copy a) rest

theorem watch_append (s : Session) (copy : List (List Bool)) (before after : List Action) :
    s.watch copy (before ++ after)
      = (s.performAll before).watch (s.watch copy before) after := by
  induction before generalizing s copy with
  | nil => rfl
  | cons a rest ih => exact ih _ _

end Session

/-- The copy is what the display shows, unless the flag says otherwise. -/
def Machine.InSync (m : Machine) (copy : List (List Bool)) : Prop :=
  m.redraw = false → copy = m.display.rows

theorem Machine.InSync.of_announced {m m' : Machine} {copy : List (List Bool)}
    (h : m.InSync copy) (ha : m.Announced m') : m'.InSync copy := by
  intro hdown
  obtain ⟨hflag, hdisplay⟩ := ha hdown
  rw [h hflag, hdisplay]

namespace Session

variable {s : Session} {a : Action} {copy : List (List Bool)} {o : Outcome}

/-- A request that hands the flag back.  If it is granted, the flag is down afterwards,
and the copy, made again if the flag was up, is what the display shows. -/
theorem inSync_conclude (h : s.machine.InSync copy)
    (ho : ∀ m, o.result = .ok m → s.machine.Announced m) :
    let r := s.conclude o s.repainting
    let copy' := if r.repaints then r.session.machine.display.rows else copy
    r.session.machine.InSync copy' ∧
      (Granted r → r.session.machine.redraw = false ∧ copy' = r.session.machine.display.rows) := by
  intro r copy'
  cases hresult : o.result with
  | error f =>
    have hr : r = { s.refuse (.fault f) with records := s.warnings o.notices } :=
      conclude_of_error hresult _
    have hcopy : copy' = copy := by
      simp only [copy', hr]
      rfl
    rw [hcopy, hr]
    refine ⟨h, fun ⟨b, hb⟩ => ?_⟩
    cases hb
  | ok m =>
    have hr : r = { s.repainting m with records := s.warnings o.notices } :=
      conclude_of_ok hresult _
    have hshown : copy' = m.display.rows := by
      simp only [copy', hr]
      cases hflag : m.redraw with
      | false =>
        have hcopy : copy = m.display.rows := h.of_announced (ho m hresult) hflag
        simpa [Response.repaints, repainting, hflag] using hcopy
      | true => simp [Response.repaints, repainting, hflag, Machine.acknowledge]
    rw [hshown, hr]
    exact ⟨fun _ => rfl, fun _ => ⟨rfl, rfl⟩⟩

/-- A request that leaves the flag as it is, granted or refused. -/
theorem inSync_update {r : Except Refusal Machine} (h : s.machine.InSync copy)
    (hr : ∀ m, r = .ok m → s.machine.Announced m) :
    (s.update r).session.machine.InSync copy := by
  rcases s.machine_update r with hsame | hgranted
  · rwa [hsame]
  · exact h.of_announced (hr _ hgranted)

/-- The same for one that runs the machine. -/
theorem inSync_conclude_update (h : s.machine.InSync copy)
    (ho : ∀ m, o.result = .ok m → s.machine.Announced m) :
    (s.conclude o fun m => s.update (.ok m)).session.machine.InSync copy := by
  cases hresult : o.result with
  | error f =>
    rw [conclude_of_error hresult]
    exact h
  | ok m =>
    rw [conclude_of_ok hresult]
    exact h.of_announced (ho m hresult)

/-- **One request** but a reset. -/
theorem inSync_perform (h : s.machine.InSync copy) (ha : a ≠ .reset) :
    (s.perform a).session.machine.InSync (s.copyAfter copy a) := by
  have hload (program : List Byte) : (s.load program).session.machine.InSync copy := by
    refine inSync_update h fun m hm => ?_
    obtain ⟨memory, rfl⟩ := Machine.eq_of_load hm
    exact .refl s.machine
  cases a with
  | step => exact (inSync_conclude h fun _ => Machine.announced_of_step).1
  | frame => exact (inSync_conclude h fun _ => Machine.announced_of_run).1
  | run n => exact inSync_conclude_update h fun _ => Machine.announced_of_run
  | execute opcode => exact inSync_conclude_update h fun _ => Machine.announced_of_execute
  | tick => exact h.of_announced (Machine.Announced.refl s.machine).tick
  | acknowledge => exact fun _ => rfl
  | reset => exact absurd rfl ha
  | load program => exact hload program
  | loadFile name contents =>
    cases contents with
    | error e => exact h
    | ok program =>
      rw [perform, session_loadFile]
      exact hload program
  | setKey key pressed =>
    refine inSync_update h fun m hm => ?_
    obtain ⟨keypad, rfl⟩ := Machine.eq_of_setKey hm
    exact .refl s.machine
  | setKeys buffer =>
    refine inSync_update h fun m hm => ?_
    obtain ⟨keypad, rfl⟩ := Machine.eq_of_setKeys hm
    exact .refl s.machine
  | setLevel name =>
    rw [perform, setLevel]
    cases s.console.setLevel name <;> exact h

/-- **A cycle or a frame that is granted.** -/
theorem shown_of_granted (h : s.machine.InSync copy) (ha : a = .step ∨ a = .frame)
    (hgranted : Granted (s.perform a)) :
    (s.perform a).session.machine.redraw = false ∧
      s.copyAfter copy a = (s.perform a).session.machine.display.rows := by
  rcases ha with rfl | rfl
  · exact (inSync_conclude h fun _ => Machine.announced_of_step).2 hgranted
  · exact (inSync_conclude h fun _ => Machine.announced_of_run).2 hgranted

/-- **Many requests**, by induction on the list. -/
theorem inSync_performAll {actions : List Action} (h : s.machine.InSync copy)
    (hreset : ∀ a ∈ actions, a ≠ .reset) :
    (s.performAll actions).machine.InSync (s.watch copy actions) := by
  induction actions generalizing s copy with
  | nil => exact h
  | cons a rest ih =>
    rw [performAll_cons, watch]
    exact ih (inSync_perform h (hreset a List.mem_cons_self))
      fun b hb => hreset b (List.mem_cons_of_mem a hb)

end Session

/-! ## Counting -/

/-- Whether an opcode that was executed paints on the display. -/
def Execution.paints (e : Execution) : Bool :=
  (Instruction.decode? e.opcode).any Instruction.paints

namespace Session

variable {s : Session} {n : Nat}

theorem granted_step {m : Machine} (h : s.machine.step.result = .ok m) :
    Granted (s.perform .step) := ⟨_, (step_of_ok h).2⟩

/-- Only a cycle that succeeds is granted. -/
theorem result_of_granted_step (h : Granted s.step) : ∃ m, s.machine.step.result = .ok m := by
  cases hresult : s.machine.step.result with
  | ok m => exact ⟨m, rfl⟩
  | error f =>
    obtain ⟨b, hb⟩ := h
    rw [(step_of_error hresult).2] at hb
    cases hb

/-- **Single cycles** ask for a repaint as often as they paint.  The induction is on their
number; each of them finds the flag down and leaves it so. -/
theorem countP_responses (hflag : s.machine.redraw = false)
    (hgranted : ∀ r ∈ s.responses (List.replicate n .step), Granted r) :
    (s.responses (List.replicate n .step)).countP Response.repaints
      = (s.trace (List.replicate n .step)).countP Execution.paints := by
  induction n generalizing s with
  | zero => rfl
  | succ n ih =>
    rw [List.replicate_succ, responses_cons] at hgranted
    obtain ⟨m, hm⟩ := result_of_granted_step (hgranted _ List.mem_cons_self)
    obtain ⟨hsession, hreply⟩ := step_of_ok hm
    have hdown : s.step.session.machine.redraw = false := by
      rw [hsession]
      rfl
    have hrest := ih hdown fun r hr => hgranted r (List.mem_cons_of_mem _ hr)
    have hpaints : s.step.repaints = s.machine.cycle.paints := by
      have hredraw : m.redraw = (s.machine.redraw || s.machine.paintsWithin 1) :=
        Machine.redraw_of_steps (s.machine.steps_one.trans hm)
      rw [Response.repaints, hreply, hredraw, hflag]
      exact Bool.or_false _
    have hexecuted : s.executions .step = [s.machine.cycle] := Machine.cycles_succ_of_ok hm 0
    rw [List.replicate_succ, responses_cons, trace, perform, hexecuted, List.singleton_append,
      List.countP_cons, List.countP_cons, hrest, hpaints]

/-- **No repaint is missed.**  A host starts with a blank copy of the display, and makes
any requests but a reset.  Whenever the flag is down, the copy is what the display shows,
and so it is, with the flag down, after every cycle and every frame that is granted.  And
single cycles that find the flag down and are all granted ask for a repaint once for
every opcode among them that paints. -/
theorem no_repaint_missed :
    (∀ {seed frameLength : Int} {mode : Mode} {s : Session} {actions : List Action},
      Session.start seed mode frameLength = .ok s → (∀ a ∈ actions, a ≠ .reset) →
        let blank := Display.blank.rows
        let before := s.performAll actions
        (before.machine.redraw = false →
          s.watch blank actions = before.machine.display.rows) ∧
        ∀ a, a = .step ∨ a = .frame → Granted (before.perform a) →
          let after := s.performAll (actions ++ [a])
          after.machine.redraw = false ∧
            s.watch blank (actions ++ [a]) = after.machine.display.rows) ∧
      ∀ (s : Session) (n : Nat), s.machine.redraw = false →
        (∀ r ∈ s.responses (List.replicate n .step), Granted r) →
        (s.responses (List.replicate n .step)).countP Response.repaints
          = (s.trace (List.replicate n .step)).countP Execution.paints := by
  refine ⟨?_, fun s n hflag hgranted => countP_responses hflag hgranted⟩
  intro seed frameLength mode s actions hstart hreset blank before
  have hblank : s.machine.InSync blank := by
    obtain ⟨key, -, rfl⟩ := opened_of_start hstart
    exact fun _ => rfl
  have hbefore : before.machine.InSync (s.watch blank actions) := inSync_performAll hblank hreset
  refine ⟨hbefore, fun a ha hgranted => ?_⟩
  intro after
  have hafter : after = (before.perform a).session := by
    simp only [after, before, performAll, List.foldl_append]
    rfl
  rw [hafter, watch_append]
  exact shown_of_granted hbefore ha hgranted

/-- Two opcodes a frame. -/
def framesOfTwo : Session := .opened ⟨0, 0⟩ .canonical 2

/-- Draw the first opcode without handing back the flag, fail a frame at the return behind
it, and jump past that, to where a register is set. -/
def leavePending : List Action :=
  [.load [0xA2, 0x00, 0xD0, 0x01, 0x00, 0xEE, 0x60, 0x07, 0x00, 0xE0, 0x61, 0x01, 0xD0, 0x01],
    .run 2, .frame, .setKey 3 true, .execute 0x1206]

/-- The frame that fails does not lose the flag, and until the next cycle the host is
behind.  That cycle paints nothing and yet asks for a repaint; of the three after it, two
do. -/
theorem no_repaint_missed_pending :
    Session.start 0 .canonical 2 = .ok framesOfTwo ∧
      framesOfTwo.watch Display.blank.rows leavePending
        ≠ (framesOfTwo.performAll leavePending).machine.display.rows ∧
      let after := framesOfTwo.performAll (leavePending ++ [.step])
      after.machine.redraw = false ∧
        framesOfTwo.watch Display.blank.rows (leavePending ++ [.step])
          = after.machine.display.rows ∧
        (after.responses (List.replicate 3 .step)).countP Response.repaints = 2 := by
  have hstart : Session.start 0 .canonical 2 = .ok framesOfTwo := rfl
  have hreset : ∀ a ∈ leavePending, a ≠ .reset := by simp [leavePending]
  have hnone : (framesOfTwo.performAll leavePending).machine.step.failures = [] := by
    decide +kernel
  have hgranted := granted_step (Outcome.result_eq_ok_iff.2 ⟨hnone, rfl⟩)
  obtain ⟨hdown, hcopy⟩ := (no_repaint_missed.1 hstart hreset).2 .step (.inl rfl) hgranted
  refine ⟨hstart, by decide +kernel, hdown, hcopy, ?_⟩
  generalize hafter : framesOfTwo.performAll (leavePending ++ [.step]) = after at hdown ⊢
  obtain ⟨hnil, hpaints⟩ : (after.machine.run (2 + 1)).failures = [] ∧
      (after.trace (List.replicate 3 .step)).countP Execution.paints = 2 := by
    rw [← hafter]
    decide +kernel
  obtain ⟨-, hall, -⟩ :=
    cycles_of_steps (Machine.steps_of_failures_eq_nil hnil)
  rw [no_repaint_missed.2 _ 3 hdown hall, hpaints]

end Session

end ChipEight
