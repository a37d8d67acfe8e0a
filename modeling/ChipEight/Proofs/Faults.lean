import ChipEight.Proofs.FirstFault

/-!
# Exactly the specified faults

A failed check reaches the host as a text, and the kind of the fault is read off
the beginning of that text.  So an exact account of what is raised has two halves:
which checks fail, and what their texts are taken for.

What is proved here:

* **texts** — `beginning_unique`: no text has two of the known beginnings, so the
  order of the table does not matter (`ofMessageBy_perm`) and every fault is taken
  for its own kind (`ofMessage_message`);
* **opcodes** — `Specified` lists the conditions under which an opcode fails, and
  `raised?_execute_iff` says that these are all;
* **cycles** — `raised?_step_iff`: a cycle fails in the fetch, and otherwise as
  its opcode does;
* **the whole contract** — `raises_exactly_specified`.
-/

namespace ChipEight

open Operation (ofOpcode?)

/-! ## Texts and kinds -/

/-- In lists with the same items, a search for an item that is alone in what it is
searched for finds the same. -/
theorem find?_perm {α : Type} {p : α → Bool} {l l' : List α} (hperm : l.Perm l')
    (hunique : ∀ a ∈ l, ∀ b ∈ l, p a = true → p b = true → a = b) : l.find? p = l'.find? p := by
  cases h : l.find? p with
  | none =>
    rw [eq_comm, List.find?_eq_none]
    intro a ha
    exact List.find?_eq_none.1 h a (hperm.mem_iff.2 ha)
  | some a =>
    have ha : a ∈ l := List.mem_of_find?_eq_some h
    have hsome : (l'.find? p).isSome = true :=
      List.find?_isSome.2 ⟨a, hperm.mem_iff.1 ha, List.find?_some h⟩
    obtain ⟨b, hb⟩ := Option.isSome_iff_exists.1 hsome
    have hmem : b ∈ l := hperm.mem_iff.2 (List.mem_of_find?_eq_some hb)
    rw [hb, hunique a ha b hmem (List.find?_some h) (List.find?_some hb)]

namespace FaultKind

/-- Whether a text has this beginning. -/
def begins (text : String) (b : String × FaultKind) : Bool := b.1.toList.isPrefixOf text.toList

theorem begins_iff {text : String} {b : String × FaultKind} :
    begins text b = true ↔ b.1.toList <+: text.toList := List.isPrefixOf_iff_prefix

/-- The kind of a report by a table of beginnings. -/
def ofMessageBy (table : List (String × FaultKind)) (text : String) : FaultKind :=
  ((table.find? (begins text)).map Prod.snd).getD .other

theorem ofMessage_eq (text : String) : ofMessage text = ofMessageBy beginnings text := by
  unfold ofMessage ofMessageBy begins
  cases beginnings.find? fun b => b.1.toList.isPrefixOf text.toList <;> rfl

/-- No text has two of the beginnings: of two that it had, one would begin with the
other. -/
theorem beginning_unique {text : String} {b b' : String × FaultKind} (hb : b ∈ beginnings)
    (hb' : b' ∈ beginnings) (h : begins text b = true) (h' : begins text b' = true) : b = b' := by
  have htable : ∀ b ∈ beginnings, ∀ b' ∈ beginnings, b.1.toList <+: b'.1.toList → b = b' := by
    decide +kernel
  rcases List.prefix_or_prefix_of_prefix (begins_iff.1 h) (begins_iff.1 h') with hle | hle
  · exact htable b hb b' hb' hle
  · exact (htable b' hb' b hb hle).symm

/-- The order of the table does not matter. -/
theorem ofMessageBy_perm {table : List (String × FaultKind)} (h : table.Perm beginnings)
    (text : String) : ofMessageBy table text = ofMessage text := by
  have hfind : beginnings.find? (begins text) = table.find? (begins text) :=
    find?_perm h.symm fun b hb b' hb' => beginning_unique hb hb'
  rw [ofMessage_eq, ofMessageBy, ofMessageBy, hfind]

theorem ofMessage_of_begins {text : String} {b : String × FaultKind} (hb : b ∈ beginnings)
    (h : begins text b = true) : ofMessage text = b.2 := by
  obtain ⟨b', hb'⟩ := Option.isSome_iff_exists.1 (List.find?_isSome.2 ⟨b, hb, h⟩)
  have hsame : b' = b :=
    beginning_unique (List.mem_of_find?_eq_some hb') hb (List.find?_some hb') h
  rw [ofMessage_eq, ofMessageBy, hb', hsame]
  rfl

theorem ofMessage_of_not_begins {text : String} (h : ∀ b ∈ beginnings, begins text b = false) :
    ofMessage text = .other := by
  have hnone : beginnings.find? (begins text) = none := by
    rw [List.find?_eq_none]
    intro b hb
    simp [h b hb]
  rw [ofMessage_eq, ofMessageBy, hnone]
  rfl

/-- Every fault is taken for its own kind. -/
theorem ofMessage_message (f : Fault) : ofMessage f.message = f.kind := by
  have hbegins : ∃ b ∈ beginnings, b.2 = f.kind ∧ b.1.toList <+: f.description.toList := by
    cases f with
    | stackOverflow depth =>
      refine ⟨("stack overflow", _), by simp [beginnings], rfl, ?_⟩
      rw [Fault.toList_description_stackOverflow]
      exact List.IsPrefix.trans (by decide) (List.prefix_append _ _)
    | stackUnderflow => exact ⟨("stack underflow", _), by simp [beginnings], rfl, by decide⟩
    | outOfRange length start =>
      refine ⟨("memory access out of range", _), by simp [beginnings], rfl, ?_⟩
      rw [Fault.toList_description_outOfRange]
      exact List.IsPrefix.trans (by decide) (List.prefix_append _ _)
    | noSuchKey x key =>
      refine ⟨("key index out of range", _), by simp [beginnings], rfl, ?_⟩
      rw [Fault.toList_description_noSuchKey]
      exact List.IsPrefix.trans (by decide) (List.prefix_append _ _)
  obtain ⟨b, hb, hkind, hbegin⟩ := hbegins
  rw [← hkind]
  refine ofMessage_of_begins hb (begins_iff.2 (hbegin.trans ?_))
  rw [Fault.message, String.toList_append]
  exact List.prefix_append _ _

end FaultKind

/-! ## What is raised -/

/-- What a host catches because of a fault. -/
def Fault.raised (f : Fault) : Raised := ⟨f.kind, f.message⟩

/-- What a host catches after an outcome, if a check failed. -/
def Outcome.raised? (o : Outcome) : Option Raised :=
  match o.result with
  | .ok _ => Raised.ofMessage? none
  | .error f => Raised.ofMessage? (some f.message)

/-- The host catches a fault for what it is. -/
theorem Outcome.raised?_of_error {o : Outcome} {f : Fault} (h : o.result = .error f) :
    o.raised? = some f.raised := by
  rw [raised?, h]
  show Raised.ofMessage? (some f.message) = some f.raised
  rw [Raised.ofMessage?, Option.map_some, FaultKind.ofMessage_message, Fault.raised]

/-- Of the failures the host catches the one reported. -/
theorem Outcome.raised?_eq (o : Outcome) :
    o.raised? = (Failure.reported? o.failures).map fun g => g.fault.raised := by
  cases h : Failure.reported? o.failures with
  | none =>
    rw [raised?, result, h]
    rfl
  | some g => exact raised?_of_error (result_eq_error_iff.2 ⟨g, h, rfl⟩)

/-- Nothing is raised exactly when there is a machine. -/
theorem Outcome.raised?_eq_none_iff {o : Outcome} : o.raised? = none ↔ ∃ m, o.result = .ok m := by
  rw [raised?]
  cases o.result <;> simp [Raised.ofMessage?]

namespace Raised

/-- An access to `length` bytes at `start` that leaves memory. -/
def outOfRange (length start : Nat) : Raised where
  kind := .memoryAccess
  message := s!"memory access out of range: {length} bytes at {start} (`check` failed)"

/-- A test of the key in `Vx`, which holds no key's number. -/
def noSuchKey (x key : Nat) : Raised where
  kind := .memoryAccess
  message := s!"key index out of range: V{x} holds {key} (`check` failed)"

/-- A call too many. -/
def stackOverflow : Raised where
  kind := .stackOverflow
  message := "stack overflow: 16 return addresses already stacked (`check` failed)"

/-- A return too many. -/
def stackUnderflow : Raised where
  kind := .stackUnderflow
  message := "stack underflow: return with an empty stack (`check` failed)"

end Raised

theorem Fault.raised_outOfRange (length start : Nat) :
    (outOfRange length start).raised = .outOfRange length start := rfl

theorem Fault.raised_noSuchKey (x : Register) (key : Byte) :
    (noSuchKey x key).raised = .noSuchKey x.val key.toNat := rfl

theorem Fault.raised_stackOverflow : (stackOverflow 16).raised = .stackOverflow := by
  decide +kernel

theorem Fault.raised_stackUnderflow : stackUnderflow.raised = .stackUnderflow := by
  decide +kernel

/-! ## Opcodes -/

/-- The conditions under which the opcode `w` fails, and what is raised then. -/
inductive Specified (m : Machine) (w : Opcode) : Raised → Prop
  | call (hop : ofOpcode? w = some .call) (hfull : m.stack.depth = 16) :
      Specified m w .stackOverflow
  | ret (hop : ofOpcode? w = some .ret) (hempty : m.stack.depth = 0) :
      Specified m w .stackUnderflow
  | draw (hop : ofOpcode? w = some .draw) (hend : 4096 < m.index.toNat + (Opcode.n w).val) :
      Specified m w (.outOfRange (Opcode.n w).val m.index.toNat)
  | decimal (hop : ofOpcode? w = some .decimal) (hend : 4096 < m.index.toNat + 3) :
      Specified m w (.outOfRange 3 m.index.toNat)
  | transfer (hop : ofOpcode? w = some .store ∨ ofOpcode? w = some .restore)
      (hend : 4096 < m.index.toNat + (Opcode.x w).val + 1) :
      Specified m w (.outOfRange ((Opcode.x w).val + 1) m.index.toNat)
  | key (hop : ofOpcode? w = some .skipKey ∨ ofOpcode? w = some .skipNoKey)
      (hkey : 15 < (m.register (Opcode.x w)).toNat) :
      Specified m w (.noSuchKey (Opcode.x w).val (m.register (Opcode.x w)).toNat)

theorem Machine.keyFault?_eq_some_iff {m : Machine} {x : Register} {f : Fault} :
    m.keyFault? x = some f ↔ 15 < (m.register x).toNat ∧ f = .noSuchKey x (m.register x) := by
  unfold keyFault? keyNumber
  split
  · simp; omega
  · simp [eq_comm]; omega

/-- A check, failed with something that the host catches as `r`. -/
def Failure.Raises (failed : Option Failure) (r : Raised) : Prop :=
  ∃ g, failed = some g ∧ g.fault.raised = r

open Failure (Raises)

theorem raises_map_iff {c : Check} {fault : Option Fault} {r : Raised} :
    Raises (fault.map (Failure.mk c)) r ↔ ∃ f, fault = some f ∧ f.raised = r := by
  cases fault <;> simp [Raises]

section

variable {m : Machine} {c : Check} {r : Raised}

theorem raises_push_iff (hs : m.stack.Sound) :
    Raises (m.stack.pushFault?.map (Failure.mk c)) r ↔
      m.stack.depth = 16 ∧ r = .stackOverflow := by
  simp only [raises_map_iff, CallStack.pushFault?_eq_some_iff]
  constructor
  · rintro ⟨f, ⟨hfull, rfl⟩, rfl⟩
    have hdepth : m.stack.depth = 16 := Int.le_antisymm hs.2 hfull
    exact ⟨hdepth, by rw [hdepth, Fault.raised_stackOverflow]⟩
  · rintro ⟨hdepth, rfl⟩
    exact ⟨_, ⟨Int.le_of_eq hdepth.symm, rfl⟩, by rw [hdepth, Fault.raised_stackOverflow]⟩

theorem raises_pop_iff (hs : m.stack.Sound) :
    Raises (m.stack.popFault?.map (Failure.mk c)) r ↔
      m.stack.depth = 0 ∧ r = .stackUnderflow := by
  simp only [raises_map_iff, CallStack.popFault?_eq_some_iff]
  constructor
  · rintro ⟨f, ⟨hempty, rfl⟩, rfl⟩
    exact ⟨Int.le_antisymm hempty hs.1, Fault.raised_stackUnderflow⟩
  · rintro ⟨hdepth, rfl⟩
    exact ⟨_, ⟨Int.le_of_eq hdepth, rfl⟩, Fault.raised_stackUnderflow⟩

theorem raises_range_iff {start length : Nat} :
    Raises ((Memory.rangeFault? start length).map (Failure.mk c)) r ↔
      4096 < start + length ∧ r = .outOfRange length start := by
  simp only [raises_map_iff, Memory.rangeFault?_eq_some_iff]
  constructor
  · rintro ⟨f, ⟨hend, rfl⟩, rfl⟩
    exact ⟨hend, Fault.raised_outOfRange _ _⟩
  · rintro ⟨hend, rfl⟩
    exact ⟨_, ⟨hend, rfl⟩, Fault.raised_outOfRange _ _⟩

theorem raises_key_iff {x : Register} :
    Raises ((m.keyFault? x).map (Failure.mk c)) r ↔
      15 < (m.register x).toNat ∧ r = .noSuchKey x.val (m.register x).toNat := by
  simp only [raises_map_iff, Machine.keyFault?_eq_some_iff]
  constructor
  · rintro ⟨f, ⟨hkey, rfl⟩, rfl⟩
    exact ⟨hkey, Fault.raised_noSuchKey _ _⟩
  · rintro ⟨hkey, rfl⟩
    exact ⟨_, ⟨hkey, rfl⟩, Fault.raised_noSuchKey _ _⟩

end

/-- What is raised for an opcode is raised by the check of its operation. -/
theorem raised?_execute_eq_some_iff {m : Machine} {w : Opcode} {r : Raised} :
    (m.execute w).raised? = some r ↔
      ∃ op, ofOpcode? w = some op ∧ Raises ((op.withOperands w).failure? m) r := by
  rw [Outcome.raised?_eq, Machine.execute, Instruction.decode?]
  cases ofOpcode? w with
  | none => simp
  | some op =>
    simp only [Option.map_some, Option.some.injEq, exists_eq_left', Raises]
    cases (op.withOperands w).failure? m with
    | none => simp
    | some g => simp

/-- **Opcodes.**  On a sound stack an opcode raises exactly what is specified. -/
theorem raised?_execute_iff {m : Machine} (hs : m.stack.Sound) {w : Opcode} {r : Raised} :
    (m.execute w).raised? = some r ↔ Specified m w r := by
  rw [raised?_execute_eq_some_iff]
  constructor
  · rintro ⟨op, hop, h⟩
    cases op with
    | call =>
      obtain ⟨hfull, rfl⟩ := (raises_push_iff hs).1 h
      exact .call hop hfull
    | ret =>
      obtain ⟨hempty, rfl⟩ := (raises_pop_iff hs).1 h
      exact .ret hop hempty
    | draw =>
      obtain ⟨hend, rfl⟩ := raises_range_iff.1 h
      exact .draw hop hend
    | decimal =>
      obtain ⟨hend, rfl⟩ := raises_range_iff.1 h
      exact .decimal hop hend
    | store =>
      obtain ⟨hend, rfl⟩ := raises_range_iff.1 h
      exact .transfer (.inl hop) hend
    | restore =>
      obtain ⟨hend, rfl⟩ := raises_range_iff.1 h
      exact .transfer (.inr hop) hend
    | skipKey =>
      obtain ⟨hkey, rfl⟩ := raises_key_iff.1 h
      exact .key (.inl hop) hkey
    | skipNoKey =>
      obtain ⟨hkey, rfl⟩ := raises_key_iff.1 h
      exact .key (.inr hop) hkey
    | _ =>
      -- the other operations have no check
      obtain ⟨g, hg, -⟩ := h
      cases hg
  · intro h
    cases h with
    | call hop hfull => exact ⟨.call, hop, (raises_push_iff hs).2 ⟨hfull, rfl⟩⟩
    | ret hop hempty => exact ⟨.ret, hop, (raises_pop_iff hs).2 ⟨hempty, rfl⟩⟩
    | draw hop hend => exact ⟨.draw, hop, raises_range_iff.2 ⟨hend, rfl⟩⟩
    | decimal hop hend => exact ⟨.decimal, hop, raises_range_iff.2 ⟨hend, rfl⟩⟩
    | transfer hop hend =>
      rcases hop with hop | hop
      · exact ⟨.store, hop, raises_range_iff.2 ⟨hend, rfl⟩⟩
      · exact ⟨.restore, hop, raises_range_iff.2 ⟨hend, rfl⟩⟩
    | key hop hkey =>
      rcases hop with hop | hop
      · exact ⟨.skipKey, hop, raises_key_iff.2 ⟨hkey, rfl⟩⟩
      · exact ⟨.skipNoKey, hop, raises_key_iff.2 ⟨hkey, rfl⟩⟩

/-! ## Cycles -/

/-- **Cycles.**  A fetch outside memory comes before anything that the instruction
would do; otherwise a cycle raises what its opcode does. -/
theorem raised?_step_iff {m : Machine} {r : Raised} :
    m.step.raised? = some r ↔
      (4096 < m.pc.toNat + 2 ∧ r = .outOfRange 2 m.pc.toNat) ∨
        ∃ w, m.fetch = .ok w ∧ (m.execute w).raised? = some r := by
  rw [Machine.fetch]
  cases hfetch : m.fetchFault? with
  | none =>
    have hinside : m.pc.toNat + 2 ≤ 4096 := Machine.fetchFault?_eq_none_iff.1 hfetch
    have hsame : m.step.raised? = (m.execute m.opcode).raised? := by
      rw [Outcome.raised?_eq, Outcome.raised?_eq, Machine.failures_step, hfetch]
      rfl
    rw [hsame]
    constructor
    · intro h
      exact .inr ⟨_, rfl, h⟩
    · rintro (⟨hend, -⟩ | ⟨w, hw, h⟩)
      · omega
      · cases hw
        exact h
  | some f =>
    obtain ⟨hend, rfl⟩ := Memory.rangeFault?_eq_some_iff.1 hfetch
    have hfirst : m.step.raised? = some (.outOfRange 2 m.pc.toNat) := by
      rw [Outcome.raised?_eq, Machine.reported?_step, Machine.failures_step, hfetch]
      rfl
    rw [hfirst, Option.some.injEq]
    constructor
    · rintro rfl
      exact .inl ⟨hend, rfl⟩
    · rintro (⟨-, rfl⟩ | ⟨w, hw, -⟩)
      · rfl
      · cases hw

/-! ## The whole contract -/

/-- **Exactly the specified faults.**  On a sound stack an opcode raises what is
specified for it, with the numbers of the case in the text, and nothing else; a
cycle raises that the fetch left memory, or else what the opcode fetched raises.  A
text that begins with a line of the table gets the kind of that line, which is the
only one and would be found in any order of the table; any other text gets the kind
`other`; and the text itself is kept. -/
theorem raises_exactly_specified :
    (∀ m : Machine, m.stack.Sound →
      (∀ w r, (m.execute w).raised? = some r ↔ Specified m w r) ∧
        ∀ r, m.step.raised? = some r ↔
          (4096 < m.pc.toNat + 2 ∧ r = .outOfRange 2 m.pc.toNat) ∨
            ∃ w, m.fetch = .ok w ∧ (m.execute w).raised? = some r) ∧
      (∀ o : Outcome, o.raised? = none ↔ ∃ m, o.result = .ok m) ∧
      ∀ text : String,
        (∀ b ∈ FaultKind.beginnings, b.1.toList <+: text.toList →
          Raised.ofMessage? (some text) = some ⟨b.2, text⟩ ∧
            ∀ b' ∈ FaultKind.beginnings, b'.1.toList <+: text.toList → b' = b) ∧
          ((∀ b ∈ FaultKind.beginnings, ¬ b.1.toList <+: text.toList) →
            Raised.ofMessage? (some text) = some ⟨.other, text⟩) ∧
          ∀ table : List (String × FaultKind), table.Perm FaultKind.beginnings →
            Raised.ofMessage? (some text) = some ⟨.ofMessageBy table text, text⟩ := by
  have hraise (text : String) (kind : FaultKind) (h : FaultKind.ofMessage text = kind) :
      Raised.ofMessage? (some text) = some ⟨kind, text⟩ := by
    rw [← h, Raised.ofMessage?, Option.map_some]
  simp only [← FaultKind.begins_iff]
  refine ⟨fun m hs => ⟨fun w r => raised?_execute_iff hs, fun r => raised?_step_iff⟩,
    fun o => Outcome.raised?_eq_none_iff, fun text => ⟨fun b hb h => ⟨?_, ?_⟩, fun h => ?_, ?_⟩⟩
  · exact hraise _ _ (FaultKind.ofMessage_of_begins hb h)
  · intro b' hb' h'
    exact FaultKind.beginning_unique hb' hb h' h
  · refine hraise _ _ (FaultKind.ofMessage_of_not_begins fun b hb => ?_)
    exact Bool.eq_false_iff.2 (h b hb)
  · intro table htable
    exact hraise _ _ (FaultKind.ofMessageBy_perm htable text).symm

/-- A machine that has just been switched on, with another index register. -/
def pointing (index : Word) : Machine := { Machine.powerOn ⟨0, 0⟩ .canonical with index := index }

/-- A sprite without rows may stand right behind the last cell, and no further. -/
theorem raises_exactly_specified_at_end :
    ((pointing 4096).execute 0xD120).raised? = none ∧
      ((pointing 4097).execute 0xD120).raised? =
        some ⟨.memoryAccess, "memory access out of range: 0 bytes at 4097 (`check` failed)"⟩ := by
  have hop : ofOpcode? 0xD120 = some .draw := by decide
  constructor
  · rw [Option.eq_none_iff_forall_ne_some]
    intro r h
    cases ((raises_exactly_specified.1 (pointing 4096) CallStack.sound_empty).1 0xD120 r).1 h with
    | draw _ hend => exact absurd hend (by decide)
    | call hcall => cases hop.symm.trans hcall
    | ret hret => cases hop.symm.trans hret
    | decimal hdecimal => cases hop.symm.trans hdecimal
    | transfer htransfer => rcases htransfer with hother | hother <;> cases hop.symm.trans hother
    | key hkey => rcases hkey with hother | hother <;> cases hop.symm.trans hother
  · exact ((raises_exactly_specified.1 (pointing 4097) CallStack.sound_empty).1 0xD120 _).2
      (.draw hop (by decide))

end ChipEight
