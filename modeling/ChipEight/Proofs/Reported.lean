import ChipEight.Failure

/-!
# Which failure is reported

`Failure.reported?` searches the checks in the order of their rank among the
failures that the channels keep.

* `mem_kept_iff` — a channel keeps the first failure that reaches it, so that the
  kept failures are told apart by their channels (`kept_unique`);
* `reported?_eq_some_iff` — the one reported is the kept one of least rank;
* `Overtakes` — how a later failure comes before the first one, and
  `reported?_cons_eq_head_iff`, `fault_reported?_cons_eq_iff`, which say exactly
  when the first failure, or at least its fault (`Prevails`), is reported.
-/

namespace ChipEight

/-! ## The rank of a check -/

namespace Check

/-- The place of a check in the order of reports. -/
def rank (c : Check) : Nat := all.idxOf c

theorem rank_inj {c d : Check} (h : c.rank = d.rank) : c = d := by
  cases c <;> cases d <;> first | rfl | exact absurd h (by decide)

/-- The check of a fetch ranks before all others. -/
theorem rank_fetch_le (c : Check) : fetch.rank ≤ c.rank := Nat.zero_le _

/-- Checks that are searched before one that is found have a smaller rank. -/
theorem rank_le_of_mem {before after : List Check} {c d : Check}
    (h : all = before ++ c :: after) (hd : d ∉ before) : c.rank ≤ d.rank := by
  rw [rank, rank, h, List.idxOf_append, List.idxOf_append, if_neg hd]
  refine Nat.le_trans ?_ (Nat.le_add_left _ _)
  by_cases hc : c ∈ before
  · rw [if_pos hc]
    exact Nat.le_of_lt (List.idxOf_lt_length_iff.2 hc)
  · exact Nat.le_of_eq (by rw [if_neg hc, List.idxOf_cons_self, Nat.zero_add])

end Check

namespace Failure

/-! ## Kept failures -/

/-- A channel keeps the first failure that reaches it. -/
theorem mem_kept_iff {g : Failure} {fs : List Failure} :
    g ∈ kept fs ↔ ∃ before after, fs = before ++ g :: after ∧
      ∀ f ∈ before, f.check.channel ≠ g.check.channel := by
  induction fs with
  | nil => simp [kept]
  | cons f fs ih =>
    rw [kept, List.mem_cons, List.mem_filter, ih, bne_iff_ne]
    constructor
    · rintro (rfl | ⟨⟨before, after, rfl, hbefore⟩, hne⟩)
      · exact ⟨[], fs, rfl, by simp⟩
      · refine ⟨f :: before, after, rfl, fun h hh => ?_⟩
        rcases List.mem_cons.1 hh with rfl | hh
        · exact Ne.symm hne
        · exact hbefore h hh
    · rintro ⟨before, after, hfs, hbefore⟩
      cases before with
      | nil =>
        rw [List.nil_append, List.cons.injEq] at hfs
        exact .inl hfs.1.symm
      | cons b before =>
        rw [List.cons_append, List.cons.injEq] at hfs
        obtain ⟨rfl, rfl⟩ := hfs
        exact .inr ⟨⟨before, after, rfl, fun h hh => hbefore h (List.mem_cons_of_mem _ hh)⟩,
          Ne.symm (hbefore f List.mem_cons_self)⟩

theorem head_mem_kept (f : Failure) (fs : List Failure) : f ∈ kept (f :: fs) := by
  rw [kept]
  exact List.mem_cons_self

/-- Of the kept failures at most one came over each channel. -/
theorem kept_unique {f g : Failure} {fs : List Failure} (hf : f ∈ kept fs) (hg : g ∈ kept fs)
    (h : f.check = g.check) : f = g := by
  induction fs with
  | nil => cases hf
  | cons e fs ih =>
    rw [kept, List.mem_cons, List.mem_filter, bne_iff_ne] at hf hg
    rcases hf with rfl | ⟨hf, hfe⟩ <;> rcases hg with rfl | ⟨hg, hge⟩
    · rfl
    · exact absurd (congrArg Check.channel h.symm) hge
    · exact absurd (congrArg Check.channel h) hfe
    · exact ih hf hg

/-! ## The failure reported -/

/-- **What is reported** is the kept failure whose check ranks first. -/
theorem reported?_eq_some_iff {g : Failure} {fs : List Failure} :
    reported? fs = some g ↔ g ∈ kept fs ∧ ∀ f ∈ kept fs, g.check.rank ≤ f.check.rank := by
  have least {g : Failure} (h : reported? fs = some g) :
      g ∈ kept fs ∧ ∀ f ∈ kept fs, g.check.rank ≤ f.check.rank := by
    obtain ⟨before, c, after, hall, hfound, hbefore⟩ := List.findSome?_eq_some_iff.1 h
    have hc : g.check = c := by simpa using List.find?_some hfound
    refine ⟨List.mem_of_find?_eq_some hfound, fun f hf => ?_⟩
    rw [hc]
    refine Check.rank_le_of_mem hall fun hmem => ?_
    exact List.find?_eq_none.1 (hbefore f.check hmem) f hf (by simp)
  refine ⟨least, fun ⟨hg, hleast⟩ => ?_⟩
  cases h : reported? fs with
  | none =>
    rw [reported?_eq_none_iff.1 h] at hg
    cases hg
  | some e =>
    obtain ⟨he, heast⟩ := least h
    have hrank := Nat.le_antisymm (heast g hg) (hleast e he)
    rw [kept_unique he hg (Check.rank_inj hrank)]

/-- Among the failures `fs`, a failure `g` overtakes `f`: it is the first over its
channel, and its check ranks before that of `f`. -/
def Overtakes (fs : List Failure) (g f : Failure) : Prop :=
  (∃ before after, fs = before ++ g :: after ∧
    ∀ e ∈ before, e.check.channel ≠ g.check.channel) ∧ g.check.rank < f.check.rank

theorem overtakes_iff {fs : List Failure} {g f : Failure} :
    Overtakes fs g f ↔ g ∈ kept fs ∧ g.check.rank < f.check.rank :=
  and_congr_left fun _ => mem_kept_iff.symm

/-- The first failure is reported exactly when none overtakes it. -/
theorem reported?_cons_eq_head_iff {f : Failure} {fs : List Failure} :
    reported? (f :: fs) = some f ↔ ∀ g, ¬ Overtakes (f :: fs) g f := by
  simp only [reported?_eq_some_iff, overtakes_iff]
  refine ⟨fun ⟨_, hleast⟩ g ⟨hg, hlt⟩ => ?_, fun h => ⟨head_mem_kept f fs, fun g hg => ?_⟩⟩
  · exact absurd hlt (Nat.not_lt.2 (hleast g hg))
  · exact Nat.not_lt.1 fun hlt => h g ⟨hg, hlt⟩

/-- Among the failures `fs`, the fault of `f` prevails: every failure that overtakes
`f` is itself outranked, or matched, by one that found the same as `f`. -/
def Prevails (fs : List Failure) (f : Failure) : Prop :=
  ∀ g, Overtakes fs g f →
    ∃ k, Overtakes fs k f ∧ k.check.rank ≤ g.check.rank ∧ k.fault = f.fault

/-- The failure that is reported has the fault of the first one exactly when that
fault prevails. -/
theorem fault_reported?_cons_eq_iff {f g : Failure} {fs : List Failure}
    (hg : reported? (f :: fs) = some g) : g.fault = f.fault ↔ Prevails (f :: fs) f := by
  obtain ⟨hmem, hleast⟩ := reported?_eq_some_iff.1 hg
  simp only [Prevails, overtakes_iff]
  constructor
  · rintro hfault h ⟨hh, hlt⟩
    exact ⟨g, ⟨hmem, Nat.lt_of_le_of_lt (hleast h hh) hlt⟩, hleast h hh, hfault⟩
  · intro hall
    rcases Nat.lt_or_ge g.check.rank f.check.rank with hlt | hge
    · -- the one reported overtakes, so what outranks it can only be itself
      obtain ⟨k, ⟨hk, -⟩, hle, hfault⟩ := hall g ⟨hmem, hlt⟩
      have hrank := Nat.le_antisymm hle (hleast k hk)
      rw [← hfault, kept_unique hk hmem (Check.rank_inj hrank)]
    · have hrank := Nat.le_antisymm (hleast f (head_mem_kept f fs)) hge
      rw [kept_unique hmem (head_mem_kept f fs) (Check.rank_inj hrank)]

end Failure

end ChipEight
