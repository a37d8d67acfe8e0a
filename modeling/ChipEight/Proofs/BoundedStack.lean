import ChipEight.Proofs.ReturnStack
import Mathlib.Data.List.Induction

/-!
# The call stack is a bounded list

To a program that pushes and pops, the call stack is a list of at most sixteen addresses.  The
cells and the depth are one way to write such a list down, and the only one that pushing and
popping lead to: whatever came before, refused requests included, the cells past the depth are
zero.

What is proved here:

* **one request** — `respond_ofList`: a stack that stands for a list answers what the list
  answers, and stands for the list afterwards;
* **many requests** — `afterAll_empty`: the stack stands for the addresses pushed and not yet
  popped;
* **the whole** — `refines_bounded_list`.
-/

namespace ChipEight

/-- A request to a call stack. -/
inductive StackRequest where
  /-- Put an address on the stack. -/
  | push (address : Word)
  /-- Take the newest address off. -/
  | pop
  deriving DecidableEq, Repr

/-! ## Bounded lists -/

namespace BoundedList

/-- What a list of at most sixteen addresses, the oldest first, gives for a request: the address
taken off, if it is asked for one, and the list afterwards, or why it refuses. -/
def respond (l : List Word) : StackRequest → Except Fault (Option Word × List Word)
  | .push a => if l.length < 16 then .ok (none, l ++ [a]) else .error (.stackOverflow 16)
  | .pop =>
    match l.getLast? with
    | some a => .ok (some a, l.dropLast)
    | none => .error .stackUnderflow

/-- The list after a request; one that is refused leaves it alone. -/
def after (l : List Word) (r : StackRequest) : List Word :=
  match respond l r with
  | .ok (_, l') => l'
  | .error _ => l

/-- The addresses that were pushed and not yet popped, the oldest first. -/
def pending (requests : List StackRequest) : List Word := requests.foldl after []

variable {l : List Word} {a : Word}

theorem respond_push_of_lt (h : l.length < 16) (a : Word) :
    respond l (.push a) = .ok (none, l ++ [a]) := if_pos h

theorem respond_push_of_le (h : 16 ≤ l.length) (a : Word) :
    respond l (.push a) = .error (.stackOverflow 16) := if_neg (Nat.not_lt.2 h)

@[simp] theorem respond_pop_nil : respond [] .pop = .error .stackUnderflow := rfl

@[simp] theorem respond_pop_append (l : List Word) (a : Word) :
    respond (l ++ [a]) .pop = .ok (some a, l) := by
  simp [respond]

/-- No request makes the list longer than sixteen. -/
theorem length_after_le (h : l.length ≤ 16) (r : StackRequest) : (after l r).length ≤ 16 := by
  cases r with
  | push a =>
    by_cases hlt : l.length < 16
    · rw [after, respond_push_of_lt hlt]
      simp only [List.length_append, List.length_singleton]
      omega
    · rw [after, respond_push_of_le (Nat.not_lt.1 hlt)]
      exact h
  | pop =>
    rcases List.eq_nil_or_concat l with rfl | ⟨l', a, rfl⟩
    · exact h
    · rw [List.concat_eq_append] at h ⊢
      have hafter : after (l' ++ [a]) .pop = l' := by rw [after, respond_pop_append]
      rw [hafter]
      rw [List.length_append] at h
      exact Nat.le_of_succ_le h

theorem pending_append (requests : List StackRequest) (r : StackRequest) :
    pending (requests ++ [r]) = after (pending requests) r := by
  rw [pending, List.foldl_append]
  rfl

theorem length_pending_le (requests : List StackRequest) : (pending requests).length ≤ 16 := by
  induction requests using List.reverseRecOn with
  | nil => exact Nat.zero_le 16
  | append_singleton requests r ih =>
    rw [pending_append]
    exact length_after_le ih r

end BoundedList

namespace CallStack

/-! ## Requests to a stack -/

/-- What a stack gives for a request: the address taken off, if it is asked for one, and the
stack afterwards, or why it refuses. -/
def respond (s : CallStack) : StackRequest → Except Fault (Option Word × CallStack)
  | .push a => (s.tryPush a).map fun s' => (none, s')
  | .pop => s.tryPop.map fun (a, s') => (some a, s')

/-- The stack after a request; one that is refused leaves it alone. -/
def after (s : CallStack) (r : StackRequest) : CallStack :=
  match s.respond r with
  | .ok (_, s') => s'
  | .error _ => s

/-- The stack after requests made one after another, the refused ones included. -/
def afterAll (s : CallStack) (requests : List StackRequest) : CallStack := requests.foldl after s

variable {s s' : CallStack} {l : List Word} {a : Word} {f : Fault}

theorem respond_push_eq_error_iff : s.respond (.push a) = .error f ↔ s.tryPush a = .error f := by
  rw [respond]
  cases s.tryPush a <;> simp [Except.map]

theorem respond_pop_eq_ok_iff : s.respond .pop = .ok (some a, s') ↔ s.tryPop = .ok (a, s') := by
  rw [respond]
  cases s.tryPop <;> simp [Except.map, Prod.ext_iff]

theorem afterAll_append (s : CallStack) (requests : List StackRequest) (r : StackRequest) :
    s.afterAll (requests ++ [r]) = (s.afterAll requests).after r := by
  rw [afterAll, List.foldl_append]
  rfl

/-! ## One request -/

theorem tryPush_ofList_of_lt (h : l.length < 16) (a : Word) :
    (ofList l).tryPush a = .ok (ofList (l ++ [a])) := by
  have hroom : (ofList l).pushFault? = none := by
    rw [pushFault?, depth_ofList, if_pos (by omega)]
  rw [tryPush, hroom, ← push_ofList h]

theorem tryPush_ofList_of_full (h : l.length = 16) (a : Word) :
    (ofList l).tryPush a = .error (.stackOverflow 16) := by
  rw [tryPush_eq_error_iff, depth_ofList, h]
  exact ⟨Int.le_refl _, rfl⟩

theorem tryPop_ofList_nil : (ofList []).tryPop = .error .stackUnderflow :=
  tryPop_eq_error_iff.2 ⟨Int.le_refl _, rfl⟩

theorem tryPop_ofList_append (h : l.length < 16) (a : Word) :
    (ofList (l ++ [a])).tryPop = .ok (a, ofList l) := by
  have hfull : (ofList (l ++ [a])).popFault? = none := by
    rw [popFault?, depth_ofList, List.length_append, if_pos (by simp)]
  rw [tryPop, hfull, ← pop_ofList h, top_ofList h]

/-- **One request.**  A stack that stands for a list gives what the list gives, and stands for
the list afterwards. -/
theorem respond_ofList (h : l.length ≤ 16) (r : StackRequest) :
    (ofList l).respond r = (BoundedList.respond l r).map fun (a, l') => (a, ofList l') := by
  cases r with
  | push a =>
    rcases Nat.lt_or_eq_of_le h with hlt | hfull
    · rw [respond, tryPush_ofList_of_lt hlt, BoundedList.respond_push_of_lt hlt]
      rfl
    · rw [respond, tryPush_ofList_of_full hfull,
        BoundedList.respond_push_of_le (Nat.le_of_eq hfull.symm)]
      rfl
  | pop =>
    rcases List.eq_nil_or_concat l with rfl | ⟨l', a, rfl⟩
    · rw [respond, tryPop_ofList_nil, BoundedList.respond_pop_nil]
      rfl
    · rw [List.concat_eq_append] at h ⊢
      have hlt : l'.length < 16 := by
        rw [List.length_append] at h
        exact h
      rw [respond, tryPop_ofList_append hlt, BoundedList.respond_pop_append]
      rfl

theorem after_ofList (h : l.length ≤ 16) (r : StackRequest) :
    (ofList l).after r = ofList (BoundedList.after l r) := by
  rw [after, respond_ofList h, BoundedList.after]
  cases BoundedList.respond l r <;> rfl

/-! ## Many requests -/

/-- **Many requests**, by induction on them from the last. -/
theorem afterAll_empty (requests : List StackRequest) :
    empty.afterAll requests = ofList (BoundedList.pending requests) := by
  induction requests using List.reverseRecOn with
  | nil => exact (ofList_toList sound_empty (by decide)).symm
  | append_singleton requests r ih =>
    rw [afterAll_append, ih, after_ofList (BoundedList.length_pending_le requests),
      BoundedList.pending_append]

/-! ## The whole -/

/-- A stack stands for a list of addresses: its depth is the length of the list, and its cells
are the addresses, the oldest first, and then zeros. -/
structure Represents (s : CallStack) (l : List Word) : Prop where
  length_le : l.length ≤ 16
  depth : s.depth = l.length
  cell (i : Fin 16) : s.cells[i] = if h : i.val < l.length then l[i.val] else 0

theorem represents_ofList (h : l.length ≤ 16) : Represents (ofList l) l where
  length_le := h
  depth := rfl
  cell i := by
    have hcell : (ofList l).cells[i] = l.getD i.val 0 := Vector.getElem_ofFn i.isLt
    rw [hcell, List.getD_eq_getElem?_getD]
    by_cases hlt : i.val < l.length <;> simp [hlt]

open BoundedList (pending)

/-- **The call stack is a bounded list.**  After any pushes and pops, made on the empty stack and
some of them perhaps refused, the stack stands for the addresses pushed and not yet popped.  A
push is refused exactly when there are sixteen of them and a pop exactly when there are none;
what is refused leaves the stack alone; and a pop that is granted gives the newest of them. -/
theorem refines_bounded_list (requests : List StackRequest) :
    let s := empty.afterAll requests
    let l := pending requests
    Represents s l ∧
      (∀ a f, s.tryPush a = .error f ↔ l.length = 16 ∧ f = .stackOverflow 16) ∧
      (∀ f, s.tryPop = .error f ↔ l = [] ∧ f = .stackUnderflow) ∧
      (∀ r f, s.respond r = .error f → empty.afterAll (requests ++ [r]) = s) ∧
      ∀ a s', s.tryPop = .ok (a, s') ↔
        l.getLast? = some a ∧ s' = empty.afterAll (requests ++ [.pop]) := by
  intro s l
  have hlen : l.length ≤ 16 := BoundedList.length_pending_le requests
  have hs : s = ofList l := afterAll_empty requests
  refine ⟨hs ▸ represents_ofList hlen, fun a f => ?_, fun f => ?_, fun r f hrefused => ?_,
    fun a s' => ?_⟩
  · rw [hs, tryPush_eq_error_iff, depth_ofList]
    constructor
    · rintro ⟨hfull, rfl⟩
      have heq : l.length = 16 := by omega
      exact ⟨heq, by rw [heq]; rfl⟩
    · rintro ⟨heq, rfl⟩
      exact ⟨by omega, by rw [heq]; rfl⟩
  · rw [hs, tryPop_eq_error_iff, depth_ofList, ← List.length_eq_zero_iff]
    exact and_congr_left fun _ => by omega
  · rw [afterAll_append, after, hrefused]
  · have hpop := respond_ofList hlen .pop
    rw [afterAll_append, ← respond_pop_eq_ok_iff, after, show empty.afterAll requests = s from rfl,
      hs, hpop]
    rcases List.eq_nil_or_concat l with hnil | ⟨l', b, hl'⟩
    · rw [hnil]
      simp [Except.map]
    · rw [hl', List.concat_eq_append, BoundedList.respond_pop_append]
      simp [Except.map, eq_comm]

/-- A stack filled with sixteen addresses. -/
def filling : List StackRequest := (List.range 16).map fun i => .push (BitVec.ofNat 16 (0x200 + i))

/-- The seventeenth address is refused and leaves no trace, and the sixteenth is the next that
comes off. -/
theorem refines_bounded_list_overflow :
    empty.afterAll (filling ++ [.push 0xFFFF]) = empty.afterAll filling ∧
      (empty.afterAll (filling ++ [.push 0xFFFF])).tryPop
        = .ok (0x20F, empty.afterAll (filling ++ [.push 0xFFFF] ++ [.pop])) := by
  have hfull : (pending filling).length = 16 := by decide
  have hnewest : (pending (filling ++ [.push 0xFFFF])).getLast? = some 0x20F := by decide
  obtain ⟨-, hpush, -, hrefused, -⟩ := refines_bounded_list filling
  obtain ⟨-, -, -, -, hpop⟩ := refines_bounded_list (filling ++ [.push 0xFFFF])
  have herror := respond_push_eq_error_iff.2 ((hpush 0xFFFF _).2 ⟨hfull, rfl⟩)
  exact ⟨hrefused _ _ herror, (hpop _ _).2 ⟨hnewest, rfl⟩⟩

end CallStack

end ChipEight
