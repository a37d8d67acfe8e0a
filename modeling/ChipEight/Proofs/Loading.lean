import ChipEight.Proofs.Requests

/-!
# Programs in memory

A program is copied to the start of program memory as a whole or not at all, and
is read back as it was given.

What is proved here:

* **cells** — `read_write` and `cell_write_of_inside`: a run of cells that was written is
  read back, and `cell_write_of_outside`: no other cell changes; `read_add`: a run of cells is cut
  anywhere;
* **ranges** — `readMemory_eq_ok_iff` and `readMemory_eq_error_iff`: which runs of
  cells a host may read, for addresses and lengths of any size and sign, and
  `readMemory_add`;
* **loading** — `Machine.Loaded`, what a machine is after a program was copied into
  another; `load_of_fits` and `load_of_too_large`: which programs are copied;
* **requests** — `load_round_trips`: the same for a program given by a host and for one
  that is read from a file.
-/

namespace ChipEight

/-! ## Runs of cells -/

namespace Memory

variable {start : Nat} {bytes : List Byte}

/-- Cells before and behind a run that is written stay as they are. -/
theorem cell_write_of_outside (m : Memory) {i : Nat}
    (h : i < start ∨ start + bytes.length ≤ i) : (m.write start bytes).cell i = m.cell i := by
  rw [cell_write]
  by_cases hstart : start ≤ i
  · have hpast : bytes[i - start]? = none := List.getElem?_eq_none (by omega)
    simp [hpast]
  · simp [hstart]

/-- A byte that is written inside memory stands in its cell. -/
theorem cell_write_of_inside (m : Memory) {i : Nat} {b : Byte} (hb : bytes[i]? = some b)
    (h : start + i < 4096) : (m.write start bytes).cell (start + i) = b := by
  rw [cell_write, if_pos ⟨Nat.le_add_right start i, h⟩, Nat.add_sub_cancel_left, hb,
    Option.getD_some]

/-- What was written is read back, if all of it lies in memory. -/
theorem read_write (m : Memory) (h : start + bytes.length ≤ 4096) :
    (m.write start bytes).read start bytes.length = bytes := by
  apply List.ext_getElem
  · simp
  · intro i _ hi
    have hinside : start ≤ start + i ∧ start + i < 4096 := by omega
    simp [read, cell_write, hinside, hi]

/-- A run of cells is cut anywhere. -/
theorem read_add (m : Memory) (start a b : Nat) :
    m.read start (a + b) = m.read start a ++ m.read (start + a) b := by
  simp [read, List.range_add, Function.comp_def, Nat.add_assoc]

end Memory

namespace Machine

variable {m m' : Machine} {bytes program : List Byte} {a l l₁ l₂ : Int} {reason : Refusal}

/-! ## Ranges -/

/-- A host may read any run of cells that lies in memory. -/
theorem readMemory_eq_ok_iff :
    m.readMemory a l = .ok bytes ↔
      (0 ≤ a ∧ 0 ≤ l ∧ a + l ≤ 4096) ∧ m.memory.read a.toNat l.toNat = bytes := by
  rw [readMemory]
  split
  · simp only [reduceCtorEq, false_iff]
    omega
  · simp only [Except.ok.injEq, iff_and_self]
    omega

/-- Any other run is refused, and the refusal names it. -/
theorem readMemory_eq_error_iff :
    m.readMemory a l = .error reason ↔
      (a < 0 ∨ l < 0 ∨ 4096 < a + l) ∧ reason = .outOfMemory l a := by
  rw [readMemory]
  split
  case isTrue h => simp [h, eq_comm (a := reason)]
  case isFalse h => simp [h]

theorem length_of_readMemory (h : m.readMemory a l = .ok bytes) : (bytes.length : Int) = l := by
  obtain ⟨⟨-, hl, -⟩, rfl⟩ := readMemory_eq_ok_iff.1 h
  rw [Memory.length_read]
  omega

/-- A run that can be read can be read in two parts. -/
theorem readMemory_add (h₁ : 0 ≤ l₁) (h₂ : 0 ≤ l₂) (h : m.readMemory a (l₁ + l₂) = .ok bytes) :
    ∃ first rest, m.readMemory a l₁ = .ok first ∧ m.readMemory (a + l₁) l₂ = .ok rest ∧
      bytes = first ++ rest := by
  obtain ⟨⟨ha, -, hend⟩, hbytes⟩ := readMemory_eq_ok_iff.1 h
  refine ⟨_, _, readMemory_eq_ok_iff.2 ⟨⟨ha, h₁, by omega⟩, rfl⟩,
    readMemory_eq_ok_iff.2 ⟨⟨by omega, h₂, by omega⟩, rfl⟩, ?_⟩
  rw [← hbytes, Int.toNat_add h₁ h₂, Memory.read_add, Int.toNat_add ha h₁]

/-! ## Loading -/

/-- The first machine after a program was copied into its memory: the program is read back
from where programs start, and nothing else has changed. -/
structure Loaded (m : Machine) (program : List Byte) (m' : Machine) : Prop where
  read_back : m'.readMemory programStart program.length = .ok program
  outside (i : Nat) :
    i < programStart ∨ programStart + program.length ≤ i → m'.memory.cell i = m.memory.cell i
  others : m' = { m with memory := m'.memory }

/-- **Loading.**  A program that fits is copied as a whole. -/
theorem load_of_fits (h : program.length ≤ 3584) :
    ∃ m', m.load program = .ok m' ∧ m.Loaded program m' := by
  refine ⟨_, if_pos h, ?_, ?_, rfl⟩
  · refine readMemory_eq_ok_iff.2 ⟨?_, ?_⟩
    · simp only [programStart]
      omega
    · refine Memory.read_write m.memory ?_
      simp only [programStart]
      omega
  · intro i hi
    exact m.memory.cell_write_of_outside hi

/-- A program that does not fit is refused, and the refusal tells its size. -/
theorem load_of_too_large (h : 3584 < program.length) :
    m.load program = .error (.programTooLarge program.length) :=
  if_neg (Nat.not_le_of_lt h)

end Machine

/-! ## Lines about loading -/

namespace Record

/-- A file is about to be read. -/
def loading (name : String) : Record := ⟨.info, s!"Loading {name}..."⟩

/-- A file of `size` bytes was read. -/
def fileRead (size : Nat) (name : String) : Record := ⟨.debug, s!"Read {size} bytes from {name}"⟩

/-- The program of a file was copied into memory. -/
def programLoaded : Record := ⟨.info, "Program loaded!"⟩

/-- The first letter tells the three apart. -/
theorem loading_ne_programLoaded (name : String) : loading name ≠ programLoaded := by
  intro h
  have hlist := congrArg (fun r : Record => r.message.toList.head?) h
  rw [loading, programLoaded, show s!"Loading {name}..." = "Loading " ++ name ++ "..." from rfl,
    String.toList_append, String.toList_append] at hlist
  cases hlist

theorem fileRead_ne_programLoaded (size : Nat) (name : String) :
    fileRead size name ≠ programLoaded := by
  intro h
  cases congrArg Record.level h

end Record

/-! ## Requests -/

namespace Session

variable {s : Session} {name : String} {program : List Byte} {m : Machine} {e : FileError}
  {reason : Refusal}

/-- A response that grants a request and leaves machine `m`. -/
def Leaves (s : Session) (m : Machine) (r : Response) : Prop :=
  r.session = { s with machine := m } ∧ r.outcome = .ok .done

/-- A response that refuses a request, leaves the session alone and does not say that
anything was loaded. -/
def Declines (s : Session) (reason : Refusal) (r : Response) : Prop :=
  r.session = s ∧ r.outcome = .error reason ∧ Record.programLoaded ∉ r.records

/-! What a request for a file gives, in the three cases that there are. -/

theorem loadFile_of_error :
    s.loadFile name (.error e)
      = { s.refuse (.file e) with records := s.shown [.loading name] } := rfl

theorem loadFile_of_ok (h : s.machine.load program = .ok m) :
    s.loadFile name (.ok program)
      = { s.update (.ok m) with
          records := s.shown [.loading name, .fileRead program.length name, .programLoaded] } := by
  rw [loadFile, h]
  rfl

theorem loadFile_of_refused (h : s.machine.load program = .error reason) :
    s.loadFile name (.ok program)
      = { s.refuse reason with
          records := s.shown [.loading name, .fileRead program.length name] } := by
  rw [loadFile, h]
  rfl

/-- **A program that fits**, from a host or from a file. -/
theorem leaves_of_load (h : s.machine.load program = .ok m) :
    s.Leaves m (s.load program) ∧ s.Leaves m (s.loadFile name (.ok program)) := by
  rw [load, h, loadFile_of_ok h]
  exact ⟨⟨rfl, rfl⟩, rfl, rfl⟩

/-- **A program that is refused**, from a host or from a file. -/
theorem declines_of_load (h : s.machine.load program = .error reason) :
    s.Declines reason (s.load program) ∧ s.Declines reason (s.loadFile name (.ok program)) := by
  rw [load, h, loadFile_of_refused h]
  refine ⟨⟨rfl, rfl, List.not_mem_nil⟩, rfl, rfl, fun hmem => ?_⟩
  have hlines := (List.mem_filter.1 hmem).1
  simp only [List.mem_cons, List.not_mem_nil, or_false] at hlines
  rcases hlines with hline | hline
  · exact Record.loading_ne_programLoaded name hline.symm
  · exact Record.fileRead_ne_programLoaded program.length name hline.symm

/-- **A file that cannot be opened.** -/
theorem declines_of_unreadable : s.Declines (.file e) (s.loadFile name (.error e)) := by
  rw [loadFile_of_error]
  refine ⟨rfl, rfl, fun hmem => ?_⟩
  have hline := List.mem_singleton.1 (List.mem_filter.1 hmem).1
  exact Record.loading_ne_programLoaded name hline.symm

/-- **Programs are loaded whole or not at all, and read back as given.**  A program that
fits is copied, whether a host gives it or a file does: it is read back from where
programs start, no other cell changes, and neither does anything else.  One that does not
fit is refused as a bad memory access, and a file that cannot be opened with what is wrong
with it; nothing changes then, and nothing is said to be loaded.  A host may read exactly
the runs of cells that lie in memory, whole or in two parts. -/
theorem load_round_trips :
    (∀ (s : Session) (name : String) (program : List Byte),
      (program.length ≤ 3584 →
        ∃ m, s.machine.load program = .ok m ∧ s.machine.Loaded program m ∧
          s.Leaves m (s.load program) ∧ s.Leaves m (s.loadFile name (.ok program))) ∧
      (3584 < program.length →
        let reason := Refusal.programTooLarge program.length
        reason.kind? = some .memoryAccess ∧ s.machine.load program = .error reason ∧
          s.Declines reason (s.load program) ∧
          s.Declines reason (s.loadFile name (.ok program))) ∧
      ∀ e, s.Declines (.file e) (s.loadFile name (.error e))) ∧
      ∀ (m : Machine) (a : Int),
        (∀ l, let reason := Refusal.outOfMemory l a
          reason.kind? = some .memoryAccess ∧
            (m.readMemory a l = .error reason ↔ a < 0 ∨ l < 0 ∨ 4096 < a + l)) ∧
          (∀ l, ¬ (a < 0 ∨ l < 0 ∨ 4096 < a + l) →
            ∃ bytes, m.readMemory a l = .ok bytes ∧ (bytes.length : Int) = l) ∧
          ∀ l₁ l₂ bytes, 0 ≤ l₁ → 0 ≤ l₂ → m.readMemory a (l₁ + l₂) = .ok bytes →
            ∃ first rest, m.readMemory a l₁ = .ok first ∧
              m.readMemory (a + l₁) l₂ = .ok rest ∧ bytes = first ++ rest := by
  refine ⟨fun s name program => ⟨?_, ?_, fun e => declines_of_unreadable⟩,
    fun m a => ⟨?_, ?_, ?_⟩⟩
  · intro hfits
    obtain ⟨m, hm, hloaded⟩ := Machine.load_of_fits (m := s.machine) hfits
    exact ⟨m, hm, hloaded, leaves_of_load hm⟩
  · intro hlarge reason
    have hrefused : s.machine.load program = .error reason := Machine.load_of_too_large hlarge
    exact ⟨rfl, hrefused, declines_of_load hrefused⟩
  · intro l reason
    refine ⟨rfl, fun hrefused => (Machine.readMemory_eq_error_iff.1 hrefused).1, fun hrange => ?_⟩
    exact Machine.readMemory_eq_error_iff.2 ⟨hrange, rfl⟩
  · intro l hrange
    have hread : m.readMemory a l = .ok (m.memory.read a.toNat l.toNat) :=
      Machine.readMemory_eq_ok_iff.2 ⟨by omega, rfl⟩
    exact ⟨_, hread, Machine.length_of_readMemory hread⟩
  · intro l₁ l₂ bytes h₁ h₂ hread
    exact Machine.readMemory_add h₁ h₂ hread

/-- A program that fills all of program memory. -/
def fullProgram : List Byte := List.replicate 3584 0xFF

/-- The largest program takes the place of a small one and is read back in two parts, the
last cell apart; with one byte more it is refused. -/
theorem load_round_trips_full :
    let s : Session := .ready ⟨0, 0⟩ 1 [0x12, 0x00]
    (∃ m, s.Leaves m (s.load fullProgram) ∧ m.readMemory 0x200 3584 = .ok fullProgram ∧
        (∀ i < 0x200, m.memory.cell i = s.machine.memory.cell i) ∧
        ∃ first last, m.readMemory 0x200 3583 = .ok first ∧ m.readMemory 0xFFF 1 = .ok last ∧
          fullProgram = first ++ last) ∧
      s.Declines (.programTooLarge 3585) (s.loadFile "full" (.ok (0xFF :: fullProgram))) := by
  intro s
  have hlength : fullProgram.length = 3584 := List.length_replicate
  obtain ⟨hload, hread⟩ := load_round_trips
  obtain ⟨hfits, -, -⟩ := hload s "full" fullProgram
  obtain ⟨m, -, hloaded, hleaves, -⟩ := hfits (Nat.le_of_eq hlength)
  have hback : m.readMemory 0x200 3584 = .ok fullProgram := by
    have hback := hloaded.read_back
    rwa [hlength] at hback
  obtain ⟨-, -, hparts⟩ := hread m 0x200
  obtain ⟨-, htoo, -⟩ := hload s "full" (0xFF :: fullProgram)
  have hmore : (0xFF :: fullProgram).length = 3585 := by rw [List.length_cons, hlength]
  obtain ⟨-, -, -, hdeclines⟩ := htoo (by omega)
  rw [hmore] at hdeclines
  exact ⟨⟨m, hleaves, hback, fun i hi => hloaded.outside i (.inl hi),
    hparts 3583 1 fullProgram (by decide) (by decide) hback⟩, hdeclines⟩

end Session

end ChipEight
