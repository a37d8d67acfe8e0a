import ChipEight.Fault

/-!
# Failed checks

The machine checks its accesses, but it does not stop at a check that fails: the
cycles that a host asked for are carried to their end, and the host then drops
what they did and learns of one failure.

The nine checks report over five channels.  A channel keeps the first failure
that reaches it, and of the failures kept the one whose check ranks first is
reported.  So a failure may be hidden by a later one.

* `Check.all` — the checks in the order of their rank;
* `Failure.kept` — the failures that their channels keep;
* `Failure.reported?` — the failure that the host learns of;
  `reported?_eq_none_iff` says that there is one as soon as any check failed.
-/

namespace ChipEight

/-- The checks of the machine: that of a fetch, and those of the instructions. -/
inductive Check where
  | fetch
  | ret
  | call
  | draw
  | skipKey
  | skipNoKey
  | decimal
  | store
  | restore
  deriving DecidableEq, Repr

/-- Where failed checks are reported. -/
inductive Channel where
  | stackUnderflow
  | stackOverflow
  /-- The rows of a sprite lie outside memory. -/
  | spriteRange
  | keyNumber
  /-- Any other access outside memory. -/
  | range
  deriving DecidableEq, Repr

namespace Check

/-- The checks, those that rank first in front. -/
def all : List Check :=
  [.fetch, .ret, .call, .draw, .skipKey, .skipNoKey, .decimal, .store, .restore]

@[simp] theorem mem_all (c : Check) : c ∈ all := by cases c <;> decide

/-- The channel over which a check reports. -/
def channel : Check → Channel
  | .fetch => .range
  | .ret => .stackUnderflow
  | .call => .stackOverflow
  | .draw => .spriteRange
  | .skipKey => .keyNumber
  | .skipNoKey => .keyNumber
  | .decimal => .range
  | .store => .range
  | .restore => .range

end Check

/-- A check that failed, and what it found. -/
structure Failure where
  check : Check
  fault : Fault
  deriving DecidableEq, Repr

namespace Failure

/-- The failures that their channels keep: the first on each of them. -/
def kept : List Failure → List Failure
  | [] => []
  | f :: fs => f :: (kept fs).filter fun g => g.check.channel != f.check.channel

/-- The failure that is reported: of those kept, the one whose check ranks
first. -/
def reported? (failures : List Failure) : Option Failure :=
  Check.all.findSome? fun c => (kept failures).find? (·.check == c)

/-! ## What is reported -/

/-- Only failures that happened are kept. -/
theorem mem_of_mem_kept {f : Failure} {fs : List Failure} (h : f ∈ kept fs) : f ∈ fs := by
  induction fs with
  | nil => exact h
  | cons g gs ih =>
    rw [kept, List.mem_cons] at h
    rcases h with rfl | h
    · exact List.mem_cons_self
    · exact List.mem_cons_of_mem _ (ih (List.mem_filter.1 h).1)

@[simp] theorem reported?_nil : reported? [] = none := rfl

/-- Something is reported as soon as any check failed. -/
@[simp] theorem reported?_eq_none_iff {fs : List Failure} : reported? fs = none ↔ fs = [] := by
  cases fs with
  | nil => simp
  | cons f fs =>
    simp only [reported?, List.findSome?_eq_none_iff, List.find?_eq_none, reduceCtorEq, iff_false]
    intro h
    exact h f.check (Check.mem_all _) f (by simp [kept]) (by simp)

/-- A failure that stays alone is reported. -/
@[simp] theorem reported?_singleton (f : Failure) : reported? [f] = some f := by
  obtain ⟨c, fault⟩ := f
  cases c <;> rfl

end Failure

end ChipEight
