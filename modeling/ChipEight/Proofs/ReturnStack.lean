import ChipEight.Proofs.Cycle
import ChipEight.Proofs.Effects

/-!
# The call stack as a list of addresses

A stack that counts its cells and keeps zeros past them is nothing but the list
of its addresses: `CallStack.ofList` builds it, and `ofList_toList` takes every
such stack back to itself.

What is proved here:

* **pushing and popping** — `push_ofList`, `top_ofList` and `pop_ofList`: the
  last place of the list is the only one that changes;
* **cycles** — `stack_of_step`: a cycle that succeeds leaves the stack alone,
  stacks the address that it was fetched from, or goes back behind the newest
  address and takes it off.
-/

namespace ChipEight

namespace CallStack

/-! ## Cells -/

theorem cell_setCell {s : CallStack} {d i : Nat} (a : Word) (hd : d < 16) (hi : i < 16) :
    (s.setCell d a).cell i = if d = i then a else s.cell i := by
  rw [setCell_natCast s hd, cell_natCast _ hi, cell_natCast s hi]
  exact Vector.getElem_set hd hi

/-- The cells past those in use are zero. -/
def Clean (s : CallStack) : Prop := ∀ i : Nat, i < 16 → s.depth ≤ i → s.cell i = 0

instance (s : CallStack) : Decidable s.Clean :=
  inferInstanceAs (Decidable (∀ i : Nat, i < 16 → s.depth ≤ i → s.cell i = 0))

theorem clean_push {s : CallStack} (a : Word) (hc : s.Clean) (h₀ : 0 ≤ s.depth)
    (h : s.depth < 16) : (s.push a).Clean := by
  obtain ⟨d, hs⟩ := Int.eq_ofNat_of_zero_le h₀
  intro i hi hle
  have hlt : d < i := by
    rw [push, hs] at hle
    simp only at hle
    omega
  have hcell : (s.push a).cell i = (s.setCell d a).cell i := by
    rw [push, hs]
    rfl
  rw [hcell, cell_setCell a (by omega) hi, if_neg (Nat.ne_of_lt hlt)]
  exact hc i hi (by omega)

theorem clean_pop {s : CallStack} (hc : s.Clean) (h₀ : 0 < s.depth) (h : s.depth ≤ 16) :
    s.pop.Clean := by
  obtain ⟨d, hs⟩ := Int.eq_ofNat_of_zero_le (a := s.depth - 1) (by omega)
  intro i hi hle
  have hge : d ≤ i := by
    rw [pop, hs] at hle
    simp only at hle
    omega
  have hcell : s.pop.cell i = (s.setCell d 0).cell i := by
    rw [pop, hs]
    rfl
  rw [hcell, cell_setCell 0 (by omega) hi]
  by_cases heq : d = i
  · rw [if_pos heq]
  · rw [if_neg heq]
    exact hc i hi (by omega)

/-- The addresses on a stack are the cells in use. -/
theorem forall_mem_toList_iff {s : CallStack} (hs : s.Sound) {p : Word → Prop} :
    (∀ a ∈ s.toList, p a) ↔ ∀ i : Nat, (i : Int) < s.depth → p (s.cell i) := by
  have hlen := length_toList hs
  have hle := hs.2
  have hget (i : Nat) (h : i < s.toList.length) : s.toList[i] = s.cell i := by
    rw [cell_natCast s (by omega)]
    simp [toList]
  rw [List.forall_mem_iff_forall_getElem]
  constructor
  · intro h i hi
    rw [← hget i (by omega)]
    exact h i (by omega)
  · intro h i hi
    rw [hget i hi]
    exact h i (by omega)

/-! ## Stacks and lists -/

/-- The stack with these addresses, the oldest first. -/
def ofList (l : List Word) : CallStack where
  cells := Vector.ofFn fun i : Fin 16 => l.getD i.val 0
  depth := l.length

@[simp] theorem depth_ofList (l : List Word) : (ofList l).depth = l.length := rfl

theorem cell_ofList (l : List Word) {i : Nat} (hi : i < 16) : (ofList l).cell i = l.getD i 0 := by
  rw [cell_natCast _ hi]
  exact Vector.getElem_ofFn hi

theorem sound_ofList {l : List Word} (h : l.length ≤ 16) : (ofList l).Sound := by
  simp only [Sound, depth_ofList]
  omega

theorem clean_ofList (l : List Word) : (ofList l).Clean := by
  intro i hi hle
  rw [depth_ofList, Int.ofNat_le] at hle
  rw [cell_ofList l hi, List.getD_eq_getElem?_getD, List.getElem?_eq_none hle]
  rfl

/-- **A clean stack is the list of its addresses.** -/
theorem ofList_toList {s : CallStack} (hs : s.Sound) (hc : s.Clean) : ofList s.toList = s := by
  have hdepth : (s.toList.length : Int) = s.depth := by
    rw [length_toList hs, Int.toNat_of_nonneg hs.1]
  have hcells : (ofList s.toList).cells = s.cells := by
    refine Vector.ext fun i hi => ?_
    rw [← cell_natCast _ hi, ← cell_natCast s hi, cell_ofList _ hi, List.getD_eq_getElem?_getD,
      toList, List.getElem?_take, Vector.getElem?_toList]
    by_cases hlt : i < s.depth.toNat
    · rw [if_pos hlt, Vector.getElem?_eq_getElem hi, cell_natCast s hi]
      rfl
    · rw [if_neg hlt, hc i hi (by omega)]
      rfl
  calc ofList s.toList
      = ⟨(ofList s.toList).cells, s.toList.length⟩ := rfl
    _ = s := by rw [hcells, hdepth]

theorem toList_ofList {l : List Word} (h : l.length ≤ 16) : (ofList l).toList = l := by
  refine List.ext_getElem? fun i => ?_
  rw [toList, List.getElem?_take, Vector.getElem?_toList]
  by_cases hlt : i < l.length
  · simp [ofList, hlt, Nat.lt_of_lt_of_le hlt h]
  · simp [ofList, hlt]

/-! ## Pushing and popping -/

theorem push_ofList {l : List Word} (h : l.length < 16) (a : Word) :
    (ofList l).push a = ofList (l ++ [a]) := by
  have hsound := sound_ofList (Nat.le_of_lt h)
  have hdepth : (ofList l).depth < 16 := by
    rw [depth_ofList]
    omega
  rw [← ofList_toList (sound_push a hsound hdepth)
      (clean_push a (clean_ofList l) hsound.1 hdepth),
    toList_push a hsound.1 hdepth, toList_ofList (Nat.le_of_lt h)]

/-- Popping takes the list apart at its last place. -/
theorem split_ofList {l : List Word} {a : Word} (h : l.length < 16) :
    (ofList (l ++ [a])).pop.toList = l ∧ (ofList (l ++ [a])).top = a := by
  have hlen : (l ++ [a]).length ≤ 16 := List.length_append ▸ h
  have hdepth : (ofList (l ++ [a])).depth = l.length + 1 := by simp
  have hsplit := toList_pop (s := ofList (l ++ [a])) (by omega) (by omega)
  rw [toList_ofList hlen] at hsplit
  have hone : [a].length = [(ofList (l ++ [a])).top].length := by
    rw [List.length_singleton, List.length_singleton]
  obtain ⟨hpop, htop⟩ := List.append_inj' hsplit hone
  exact ⟨hpop.symm, (List.singleton_inj.1 htop).symm⟩

theorem top_ofList {l : List Word} {a : Word} (h : l.length < 16) :
    (ofList (l ++ [a])).top = a := (split_ofList h).2

theorem pop_ofList {l : List Word} {a : Word} (h : l.length < 16) :
    (ofList (l ++ [a])).pop = ofList l := by
  have hdepth : (ofList (l ++ [a])).depth = l.length + 1 := by simp
  have hsound : (ofList (l ++ [a])).Sound := sound_ofList (List.length_append ▸ h)
  rw [← ofList_toList (sound_pop hsound (by omega))
      (clean_pop (clean_ofList _) (by omega) (by omega)), (split_ofList h).1]

end CallStack

/-! ## Cycles -/

namespace Machine

/-- **The stack in one cycle.** -/
theorem stack_of_step {m m' : Machine} (h : m.step.result = .ok m') :
    m'.stack = m.stack ∨
      (m.stack.depth < 16 ∧ m.pc.toNat + 2 ≤ 4096 ∧ m'.stack = m.stack.push m.pc) ∨
      (0 < m.stack.depth ∧ m'.stack = m.stack.pop ∧ m'.pc = m.stack.top + 2) := by
  obtain ⟨hfetch, ⟨i, -, hcheck, rfl⟩ | ⟨-, rfl⟩⟩ := step_ok_iff.1 h
  · by_cases hkeeps : i.keepsStack = true
    · exact .inl (Instruction.stack_perform_of_keeps hkeeps)
    · cases i with
      | call address =>
        have hroom := Instruction.failure?_call_eq_none_iff.1 hcheck
        exact .inr (.inl ⟨hroom, hfetch, Instruction.stack_perform_call m address⟩)
      | ret =>
        have hpos := Instruction.failure?_ret_eq_none_iff.1 hcheck
        exact .inr (.inr ⟨hpos, Instruction.stack_perform_ret m, rfl⟩)
      | _ => exact absurd rfl hkeeps
  · exact .inl rfl

end Machine

end ChipEight
