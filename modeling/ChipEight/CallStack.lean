import ChipEight.Fault

/-!
# The call stack

Sixteen cells of return addresses and a depth, which counts those in use.  The
view of a stack is `CallStack.toList`, the addresses from the oldest to the
newest.  Popping clears the vacated cell, so that the cells past the depth stay
zero.

A stack is `Sound` while its depth counts cells.  `CallStack.push` and
`CallStack.pop` go on past either end, and leave a stack there that no host gets
to see; `CallStack.tryPush` and `CallStack.tryPop` refuse instead.  `toList_push`
and `toList_pop` say what the operations do to the view, and
`tryPush_eq_error_iff` and `tryPop_eq_error_iff` when they refuse.
-/

namespace ChipEight

/-- Return addresses for subroutine calls. -/
structure CallStack where
  /-- The cells, the oldest address first. -/
  cells : Vector Word 16
  /-- How many cells are in use. -/
  depth : Int
  deriving DecidableEq, Repr

namespace CallStack

/-- The stack with no address on it. -/
def empty : CallStack where
  cells := Vector.replicate 16 0
  depth := 0

/-- The depth of a sound stack counts cells. -/
def Sound (s : CallStack) : Prop := 0 ≤ s.depth ∧ s.depth ≤ 16

instance (s : CallStack) : Decidable s.Sound := inferInstanceAs (Decidable (_ ∧ _))

theorem sound_empty : empty.Sound := by decide

/-- The addresses on the stack, the oldest first. -/
def toList (s : CallStack) : List Word := s.cells.toList.take s.depth.toNat

/-! ## Cells -/

/-- The place of a cell.  Negative numbers count from the end. -/
def place (i : Int) : Int := if i < 0 then i + 16 else i

/-- The cell with a number, or the cell next to it at either end. -/
def cell (s : CallStack) (i : Int) : Word := s.cells[min (place i).toNat 15]

/-- Change the cell with a number, if there is one. -/
def setCell (s : CallStack) (i : Int) (value : Word) : CallStack :=
  if h : 0 ≤ place i ∧ place i < 16 then
    { s with cells := s.cells.set (place i).toNat value }
  else s

/-! ## Pushing and popping -/

/-- Put an address on the stack. -/
def push (s : CallStack) (address : Word) : CallStack :=
  { s.setCell s.depth address with depth := s.depth + 1 }

/-- The newest address. -/
def top (s : CallStack) : Word := s.cell (s.depth - 1)

/-- Take the newest address off the stack and clear its cell. -/
def pop (s : CallStack) : CallStack :=
  { s.setCell (s.depth - 1) 0 with depth := s.depth - 1 }

/-- What is wrong with pushing an address. -/
def pushFault? (s : CallStack) : Option Fault :=
  if s.depth < 16 then none else some (.stackOverflow s.depth)

/-- What is wrong with popping an address. -/
def popFault? (s : CallStack) : Option Fault :=
  if 0 < s.depth then none else some .stackUnderflow

/-- Put an address on the stack, unless it is full. -/
def tryPush (s : CallStack) (address : Word) : Except Fault CallStack :=
  match s.pushFault? with
  | none => .ok (s.push address)
  | some fault => .error fault

/-- Take the newest address off the stack, unless it is empty. -/
def tryPop (s : CallStack) : Except Fault (Word × CallStack) :=
  match s.popFault? with
  | none => .ok (s.top, s.pop)
  | some fault => .error fault

/-! ## The stack as a list -/

@[simp] theorem length_toList {s : CallStack} (h : s.Sound) : s.toList.length = s.depth.toNat := by
  have := h.2
  simp only [toList, List.length_take, Vector.length_toList]
  omega

@[simp] theorem toList_empty : empty.toList = [] := rfl

/-- Below the end a cell is found under its own number. -/
theorem cell_natCast (s : CallStack) {d : Nat} (h : d < 16) : s.cell d = s.cells[d] := by
  have hp : place d = d := by unfold place; omega
  have hd : min d 15 = d := by omega
  simp [cell, hp, hd]

theorem setCell_natCast (s : CallStack) {d : Nat} (h : d < 16) (a : Word) :
    s.setCell d a = { s with cells := s.cells.set d a } := by
  have hp : place d = d := by unfold place; omega
  have hd : (0 : Int) ≤ d ∧ (d : Int) < 16 := by omega
  simp [setCell, hp, hd]

/-- Pushing adds an address at the end. -/
theorem toList_push {s : CallStack} (a : Word) (h₀ : 0 ≤ s.depth) (h : s.depth < 16) :
    (s.push a).toList = s.toList ++ [a] := by
  obtain ⟨d, hs⟩ := Int.eq_ofNat_of_zero_le h₀
  have hd : d < 16 := by omega
  have hlen : (s.cells.toList.take d).length = d := by simp; omega
  have hpush : (s.push a).toList = (s.cells.toList.set d a).take (d + 1) := by
    rw [toList, push, hs, setCell_natCast s hd]
    simp [Vector.toList_set]
  rw [hpush, toList, hs, Int.toNat_natCast, List.take_set, List.take_add_one,
    List.getElem?_eq_getElem (by simpa using hd), Option.toList_some]
  rw [List.set_append_right _ _ (by omega), hlen, Nat.sub_self, List.set_cons_zero]

/-- Popping takes the address at the end. -/
theorem toList_pop {s : CallStack} (h₀ : 0 < s.depth) (h : s.depth ≤ 16) :
    s.toList = s.pop.toList ++ [s.top] := by
  obtain ⟨d, hs⟩ := Int.eq_ofNat_of_zero_le (a := s.depth - 1) (by omega)
  have hd : d < 16 := by omega
  have hs' : s.depth.toNat = d + 1 := by omega
  have hpop : s.pop.toList = s.cells.toList.take d := by
    rw [toList, pop, hs, setCell_natCast s hd]
    simp [Vector.toList_set, List.take_set_of_le]
  have htop : s.top = s.cells[d] := by rw [top, hs, cell_natCast s hd]
  rw [hpop, htop, toList, hs', List.take_add_one, List.getElem?_eq_getElem (by simpa using hd),
    Option.toList_some, Vector.getElem_toList]

/-! ## Refusals -/

theorem pushFault?_eq_some_iff {s : CallStack} {f : Fault} :
    s.pushFault? = some f ↔ 16 ≤ s.depth ∧ f = .stackOverflow s.depth := by
  unfold pushFault?
  grind

theorem popFault?_eq_some_iff {s : CallStack} {f : Fault} :
    s.popFault? = some f ↔ s.depth ≤ 0 ∧ f = .stackUnderflow := by
  unfold popFault?
  grind

/-- Only a full stack refuses an address. -/
theorem tryPush_eq_error_iff {s : CallStack} {a : Word} {f : Fault} :
    s.tryPush a = .error f ↔ 16 ≤ s.depth ∧ f = .stackOverflow s.depth := by
  unfold tryPush pushFault?
  grind

/-- Only an empty stack has no address to give. -/
theorem tryPop_eq_error_iff {s : CallStack} {f : Fault} :
    s.tryPop = .error f ↔ s.depth ≤ 0 ∧ f = .stackUnderflow := by
  unfold tryPop popFault?
  grind

/-- A stack that takes an address stays sound. -/
theorem sound_push {s : CallStack} (a : Word) (hs : s.Sound) (h : s.depth < 16) :
    (s.push a).Sound := by
  simp only [Sound, push] at *
  omega

/-- A stack that gives an address stays sound. -/
theorem sound_pop {s : CallStack} (hs : s.Sound) (h : 0 < s.depth) : s.pop.Sound := by
  simp only [Sound, pop] at *
  omega

end CallStack

end ChipEight
