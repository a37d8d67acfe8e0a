import ChipEight.Proofs.Requests
import ChipEight.Proofs.ReturnStack
import Mathlib.Logic.Relation

/-!
# Subroutines return to their callers

A call stacks its own address and a return goes on behind the address it finds,
so a subroutine comes back to the instruction after the call, whatever it does in
between: call others or itself, write over its own code, or run into opcodes
without an instruction.

What is proved here:

* **hosts** — `stack_attended`: a host that presses keys, loads programs, paints or
  ticks the timers between two cycles does not touch the stack;
* **the invariant** — `Inside`: below what the subroutine has stacked lie the
  addresses that were there at the call and the address of the call;
  `inside_of_step` keeps it and `leave_of_step` is the way out;
* **the whole run** — `returns_to_caller`.
-/

namespace ChipEight

namespace Machine

/-! ## Hosts between two cycles -/

/-- Any number of requests that make no cycle; those that are refused change
nothing. -/
def Attended : Machine → Machine → Prop := Relation.ReflTransGen Attend

theorem stack_attended {m m' : Machine} (h : Attended m m') : m'.stack = m.stack := by
  induction h with
  | refl => rfl
  | tail _ hlast ih => rw [(keeps_of_attend hlast).1, ih]

/-! ## Inside a subroutine -/

/-- On the stack lie `callers`, the address `site` of the call, and what the
subroutine has stacked since. -/
def Inside (callers : List Word) (site : Word) (s : CallStack) : Prop :=
  ∃ own : List Word, (callers ++ site :: own).length ≤ 16 ∧ s = .ofList (callers ++ site :: own)

variable {m m' : Machine} {callers : List Word} {site : Word}

/-- A call stacks its own address. -/
theorem enter_of_step {address : Word} (hcall : Instruction.decode? m.opcode = some (.call address))
    (h : m.step.result = .ok m') :
    m.stack.depth < 16 ∧ m.pc.toNat + 2 ≤ 4096 ∧ m'.stack = m.stack.push m.pc := by
  obtain ⟨hfetch, ⟨i, hi, hcheck, rfl⟩ | ⟨hnone, -⟩⟩ := step_ok_iff.1 h
  · obtain rfl : .call address = i := Option.some.inj (hcall.symm.trans hi)
    have hroom := Instruction.failure?_call_eq_none_iff.1 hcheck
    exact ⟨hroom, hfetch, Instruction.stack_perform_call m address⟩
  · rw [hcall] at hnone
    cases hnone

/-- The invariant is kept as long as the stack is higher than at the call. -/
theorem inside_of_step (hin : Inside callers site m.stack) (h : m.step.result = .ok m')
    (hdepth : (callers.length : Int) + 1 ≤ m'.stack.depth) : Inside callers site m'.stack := by
  obtain ⟨own, hlen, hstack⟩ := hin
  rcases stack_of_step h with heq | ⟨hroom, -, hpush⟩ | ⟨-, hpop, -⟩
  · exact ⟨own, hlen, heq.trans hstack⟩
  · rw [hstack, CallStack.depth_ofList] at hroom
    have hlt : (callers ++ site :: own).length < 16 := by omega
    refine ⟨own ++ [m.pc], ?_, ?_⟩
    · rw [← List.cons_append, ← List.append_assoc, List.length_append]
      exact hlt
    · rw [hpush, hstack, CallStack.push_ofList hlt, List.append_assoc, List.cons_append]
  · rcases List.eq_nil_or_concat own with rfl | ⟨own, a, rfl⟩
    · -- the address of the call itself would be taken off
      rw [hpop, hstack, CallStack.pop, CallStack.depth_ofList, List.length_append] at hdepth
      simp only [List.length_singleton] at hdepth
      omega
    · rw [List.concat_eq_append, ← List.cons_append, ← List.append_assoc] at hlen hstack
      have hlt : (callers ++ site :: own).length < 16 := by
        rw [List.length_append] at hlen
        exact hlen
      exact ⟨own, Nat.le_of_lt hlt, by rw [hpop, hstack, CallStack.pop_ofList hlt]⟩

/-- The cycle that brings the stack back to its height at the call is the return
to the caller. -/
theorem leave_of_step (hin : Inside callers site m.stack) (h : m.step.result = .ok m')
    (hdepth : m'.stack.depth = callers.length) :
    m'.stack = .ofList callers ∧ m'.pc = site + 2 := by
  obtain ⟨own, hlen, hstack⟩ := hin
  have hheight : m.stack.depth = callers.length + (own.length + 1) := by
    rw [hstack, CallStack.depth_ofList, List.length_append, List.length_cons]
    omega
  rcases stack_of_step h with heq | ⟨-, -, hpush⟩ | ⟨-, hpop, hpc⟩
  · rw [heq] at hdepth
    omega
  · rw [hpush, CallStack.push] at hdepth
    simp only at hdepth
    omega
  · have hown : own.length = 0 := by
      rw [hpop, CallStack.pop] at hdepth
      simp only at hdepth
      omega
    rw [List.length_eq_zero_iff] at hown
    subst hown
    have hlt : callers.length < 16 := by
      rw [List.length_append] at hlen
      exact hlen
    rw [hstack] at hpop hpc
    exact ⟨by rw [hpop, CallStack.pop_ofList hlt], by rw [hpc, CallStack.top_ofList hlt]⟩

/-! ## The whole run -/

/-- **Subroutines return to their callers.**  The machine `s 0` makes a call; every
further cycle succeeds, with a host doing what it likes before it; the stack stays
higher than at the call until the machine `s (k + 1)`.  Then this one stands behind
the call, on the stack that was there at the call.  The induction is on the
cycles, and carries `Inside`. -/
theorem returns_to_caller {s : Nat → Machine} {k : Nat} {address : Word}
    (hclean : (s 0).stack.Clean)
    (hcall : Instruction.decode? (s 0).opcode = some (.call address))
    (henter : (s 0).step.result = .ok (s 1))
    (hsteps : ∀ i, 1 ≤ i → i ≤ k → ∃ m, Attended (s i) m ∧ m.step.result = .ok (s (i + 1)))
    (hinside : ∀ i, 1 ≤ i → i ≤ k → (s 0).stack.depth + 1 ≤ (s i).stack.depth)
    (hback : (s (k + 1)).stack.depth = (s 0).stack.depth) :
    (s (k + 1)).pc.toNat = (s 0).pc.toNat + 2 ∧ (s (k + 1)).stack = (s 0).stack := by
  obtain ⟨hroom, hfetch, hpush⟩ := enter_of_step hcall henter
  have hfirst : (s 1).stack.depth = (s 0).stack.depth + 1 := by rw [hpush, CallStack.push]
  have hk : 1 ≤ k := by
    rcases Nat.eq_zero_or_pos k with rfl | hpos
    · rw [Nat.zero_add] at hback
      omega
    · exact hpos
  obtain ⟨m, hm, hlast⟩ := hsteps k hk (Nat.le_refl k)
  have hheight : (s 0).stack.depth + 1 ≤ m.stack.depth := by
    rw [stack_attended hm]
    exact hinside k hk (Nat.le_refl k)
  -- only a return takes an address off, and it needs one that is there
  have hnonneg : 0 ≤ (s 0).stack.depth := by
    rcases stack_of_step hlast with heq | ⟨-, -, hgrow⟩ | ⟨hpos, hpop, -⟩
    · rw [heq] at hback
      omega
    · rw [hgrow, CallStack.push] at hback
      simp only at hback
      omega
    · rw [hpop, CallStack.pop] at hback
      simp only at hback
      omega
  have hsound : (s 0).stack.Sound := ⟨hnonneg, Int.le_of_lt hroom⟩
  obtain ⟨callers, hcallers⟩ : ∃ callers, (s 0).stack = .ofList callers :=
    ⟨_, (CallStack.ofList_toList hsound hclean).symm⟩
  rw [hcallers, CallStack.depth_ofList] at hroom hinside hback
  have hlen : callers.length < 16 := by omega
  have hin : ∀ i, i + 1 ≤ k → Inside callers (s 0).pc (s (i + 1)).stack := by
    intro i
    induction i with
    | zero =>
      intro _
      refine ⟨[], ?_, ?_⟩
      · rw [List.length_append]
        exact hlen
      · rw [hpush, hcallers, CallStack.push_ofList hlen]
    | succ i ih =>
      intro hle
      obtain ⟨m, hm, hstep⟩ := hsteps (i + 1) (Nat.le_add_left 1 i) (Nat.le_of_succ_le hle)
      have hprev := ih (Nat.le_of_succ_le hle)
      rw [← stack_attended hm] at hprev
      exact inside_of_step hprev hstep (hinside (i + 2) (by omega) hle)
  have hfinal : Inside callers (s 0).pc (s k).stack := by
    obtain ⟨i, rfl⟩ := Nat.exists_eq_add_of_le' hk
    exact hin i (Nat.le_refl _)
  rw [← stack_attended hm] at hfinal
  obtain ⟨hstack, hpc⟩ := leave_of_step hfinal hlast hback
  have hword : (s 0).pc.toNat + 2 < 2 ^ 16 := by omega
  refine ⟨?_, hstack.trans hcallers.symm⟩
  rw [hpc, BitVec.toNat_add]
  exact Nat.mod_eq_of_lt hword

/-- A subroutine that calls another one. -/
def nestedCalls : Machine :=
  (Session.ready ⟨0, 0⟩ 1
    [0x22, 0x06, 0x12, 0x02, 0x00, 0x00, 0x22, 0x0A, 0x00, 0xEE, 0x61, 0x05, 0x00, 0xEE]).machine

/-- A host that paints and ticks the timers before the third cycle. -/
def nestedHost (i : Nat) (m : Machine) : Machine := if i = 2 then m.acknowledge.tick else m

/-- The machines of the run. -/
def nestedRun : Nat → Machine
  | 0 => nestedCalls
  | i + 1 => (nestedHost i (nestedRun i)).step.machine

theorem returns_to_caller_nested :
    (nestedRun 5).pc = 0x202 ∧ (nestedRun 5).stack = .empty := by
  obtain ⟨hfailures, hinside, hcall, hback⟩ :
      (∀ i ≤ 4, (nestedHost i (nestedRun i)).step.failures = []) ∧
        (∀ i ≤ 4, 1 ≤ i → (nestedRun 0).stack.depth + 1 ≤ (nestedRun i).stack.depth) ∧
        Instruction.decode? (nestedRun 0).opcode = some (.call 0x206) ∧
        (nestedRun 5).stack.depth = (nestedRun 0).stack.depth := by
    decide +kernel
  have hsteps (i : Nat) (hi : i ≤ 4) :
      (nestedHost i (nestedRun i)).step.result = .ok (nestedRun (i + 1)) :=
    Outcome.result_eq_ok_iff.2 ⟨hfailures i hi, rfl⟩
  have hhost (i : Nat) : Attended (nestedRun i) (nestedHost i (nestedRun i)) := by
    rw [nestedHost]
    split
    · exact .tail (.single (.acknowledge _)) (.tick _)
    · exact .refl
  have hclean : (nestedRun 0).stack.Clean := by decide +kernel
  obtain ⟨hpc, hstack⟩ := returns_to_caller (s := nestedRun) (k := 4) hclean hcall
    (hsteps 0 (by decide)) (fun i _ hi => ⟨_, hhost i, hsteps i hi⟩)
    (fun i hpos hi => hinside i hi hpos) hback
  have hstart : (nestedRun 0).pc.toNat = 0x200 := rfl
  rw [hstart] at hpc
  exact ⟨BitVec.eq_of_toNat_eq hpc, hstack⟩

end Machine

end ChipEight
