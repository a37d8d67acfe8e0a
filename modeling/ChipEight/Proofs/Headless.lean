import ChipEight.CommandLine.Runner
import ChipEight.Host.Folder
import ChipEight.Proofs.Dumps
import ChipEight.Proofs.Loading
import ChipEight.Proofs.RandomStream
import ChipEight.Proofs.Repaint
import ChipEight.Proofs.Warnings

/-!
# Runs without a window

The runner loads a program and makes one cycle after another, up to the first that fails.
It has the redraw flag taken back after each of them, so that the machine in its hands is
the one that the cycles lead to but for the flag.

What is proved here:

* **cycles** — `drive_of_steps`: cycles that succeed, how often they ask for a repaint and
  what they print, by induction on their number, and `drive_succ_of_error` for the first
  that fails;
* **files** — `run_of_unreadable`, `run_of_too_large` and `run_of_loaded`: the ways that a
  program file may take;
* **reports** — `run_of_steps` and `run_of_fault`: what is printed of a run whose program
  is in memory, and `dumps_eq`: the dumps behind it;
* **verbose consoles** — `shown_opening`: at the two lowest levels nothing but the size of
  the file may be left out;
* **the whole run** — `run_iterates_step`.
-/

namespace ChipEight

/-! ## Lines about a run -/

namespace Record

/-- All cycles were made. -/
def summary (cycles : Int) (redraws : Nat) (pc : Word) : Record where
  level := .info
  message := s!"Ran {cycles} cycles, {redraws} redraws, "
    ++ ("PC=0x" ++ String.ofList (Text.Hex.padded 3 pc.toNat))

/-- A cycle failed. -/
def machineFault (pc : Word) (message : String) : Record where
  level := .error
  message := "Machine fault at " ++ ("PC=0x" ++ String.ofList (Text.Hex.padded 3 pc.toNat))
    ++ ": " ++ message

/-- The program file could not be read. -/
def unreadable (name : String) (e : FileError) : Record :=
  ⟨.error, "Could not read " ++ name ++ ": " ++ e.message⟩

/-- The program file holds too many bytes. -/
def tooLarge (size : Nat) : Record :=
  ⟨.error, s!"Program of {size} bytes does not fit in 3584 bytes of program memory"⟩

end Record

namespace CommandLine

/-- What is said last when a program file is refused. -/
def lastWords (name : String) : Refusal → List Record
  | .file .nulInName => []
  | .file e => [.unreadable name e]
  | reason => [⟨.error, reason.message⟩]

/-- How a run ends when its program file is refused. -/
def Ending.ofRefusal : Refusal → Ending
  | .file .nulInName => .refused (.file .nulInName)
  | _ => .exit 1

end CommandLine

/-! ## One cycle -/

/-- A program that is loaded does not raise the flag. -/
theorem Machine.eq_acknowledge_of_load {m m' : Machine} {program : List Byte}
    (h : m.load program = .ok m') (hflag : m.redraw = false) : m' = m'.acknowledge := by
  obtain ⟨memory, rfl⟩ := eq_of_load h
  rw [acknowledge, hflag]

namespace Session

variable {s : Session} {m m' : Machine} {f : Fault}

theorem shown_append (s : Session) (rs ts : List Record) :
    s.shown (rs ++ ts) = s.shown rs ++ s.shown ts := List.filter_append _ _

/-- **A cycle that succeeds**, on a machine whose flag was taken back.  It asks for a
repaint if it paints. -/
theorem step_of_acknowledged (hs : s.machine = m.acknowledge) (h : m.step.result = .ok m') :
    s.step = { session := { s with machine := m'.acknowledge }
               records := s.shown m.cycle.record?.toList
               outcome := .ok (.repaint m.paints) } := by
  have hstep := m.step_setRedraw false
  have hresult := m.result_step_setRedraw false
  rw [h, Bool.false_or] at hresult
  rw [step, show s.machine = m.setRedraw false from hs, conclude_of_ok hresult, hstep, warnings,
    Machine.records_step]
  rfl

/-- **A cycle that fails** leaves the session alone. -/
theorem step_of_acknowledged_error (hs : s.machine = m.acknowledge)
    (h : m.step.result = .error f) :
    s.step = { session := s
               records := s.shown m.cycle.record?.toList
               outcome := .error (.fault f) } := by
  have hstep := m.step_setRedraw false
  have hresult := m.result_step_setRedraw false
  rw [h] at hresult
  rw [step, show s.machine = m.setRedraw false from hs, conclude_of_error hresult, hstep,
    warnings, Machine.records_step]
  rfl

end Session

/-- A line about an opcode is a warning. -/
theorem Execution.level_of_record? {e : Execution} {r : Record} (h : e.record? = some r) :
    r.level = .warning := by
  obtain ⟨-, rfl⟩ := record?_eq_some_iff.1 h
  rfl

namespace CommandLine

variable {p : Progress} {s : Session} {m m₀ m₁ m' : Machine} {f : Fault} {n j : Nat}

/-! ## Cycles -/

/-- A run that goes on with `n` cycles from `m`, all of which succeed and lead to `m'`. -/
def Progress.after (p : Progress) (n : Nat) (m m' : Machine) : Progress where
  session := { p.session with machine := m'.acknowledge }
  redraws := p.redraws + (m.cycles n).countP Execution.paints
  records := p.records ++ p.session.shown (Execution.records (m.cycles n))

/-- Lines that are added twice. -/
theorem append_append (records : Array Record) (lines more : List Record) :
    records ++ lines ++ more = records ++ (lines ++ more) :=
  Array.ext' (by simp)

/-- Two stretches of cycles in a row are one. -/
theorem Progress.after_after (h : m.step.result = .ok m₁) (p : Progress) (n : Nat)
    (m' : Machine) : (p.after 1 m m₁).after n m₁ m' = p.after (n + 1) m m' := by
  have hcycles : m.cycles (n + 1) = m.cycles 1 ++ m₁.cycles n := by
    rw [Machine.cycles_succ_of_ok h, Machine.cycles_succ_of_ok h]
    rfl
  have hshown (rs : List Record) : (p.after 1 m m₁).session.shown rs = p.session.shown rs := rfl
  rw [after, hshown]
  simp only [after, hcycles, List.countP_append, Execution.records_append, Session.shown_append,
    Nat.add_assoc, append_append]

/-- **One cycle** that succeeds. -/
theorem drive_succ_of_ok (hp : p.session.machine = m.acknowledge) (h : m.step.result = .ok m')
    (n : Nat) : drive (n + 1) p = drive n (p.after 1 m m') := by
  have hone : m.cycles 1 = [m.cycle] := Machine.cycles_succ_of_ok h 0
  have hrecords : Execution.records [m.cycle] = m.cycle.record?.toList := by
    rw [Execution.records_cons]
    exact List.append_nil _
  have hredraws : [m.cycle].countP Execution.paints = repaints (.repaint m.paints) := by
    rw [List.countP_singleton, show m.cycle.paints = m.paints from rfl]
    cases m.paints <;> rfl
  rw [drive, Session.step_of_acknowledged hp h, Progress.after, hone, hrecords, hredraws]

/-- **One cycle** that fails is the last. -/
theorem drive_succ_of_error (hp : p.session.machine = m.acknowledge)
    (h : m.step.result = .error f) (n : Nat) :
    drive (n + 1) p =
      ({ p with records := p.records ++ p.session.shown m.cycle.record?.toList },
        some (.fault f)) := by
  rw [drive, Session.step_of_acknowledged_error hp h]

/-- **Many cycles** that succeed, whatever comes behind them.  The induction is on their
number. -/
theorem drive_of_steps (hp : p.session.machine = m.acknowledge) (h : m.steps j = .ok m')
    (n : Nat) : drive (j + n) p = drive n (p.after j m m') := by
  induction j generalizing p m with
  | zero =>
    rw [Machine.steps_zero, Except.ok.injEq] at h
    subst h
    have hsame : p.after 0 m m = p := by
      rw [Progress.after, ← hp]
      simp [Execution.records, Session.shown]
    rw [hsame, Nat.zero_add]
  | succ j ih =>
    obtain ⟨m₁, hstep, hrest⟩ := Machine.steps_succ_eq_ok_iff.1 h
    rw [Nat.succ_add, drive_succ_of_ok hp hstep, ih rfl hrest, Progress.after_after hstep]

/-! ## Reports -/

/-- The dumps asked for, the display first.  It is shown in boxes, and memory in lines of sixteen
cells. -/
theorem dumps_eq (settings : Settings) (m : Machine) :
    dumps settings m =
      (if settings.dumpDisplay then [.text (m.display.dump ['■'] ['□'])] else []) ++
        (if settings.dumpMemory then [.text (m.memory.dump 16)] else []) := rfl

theorem log_append (rs ts : List Record) : log (rs ++ ts) = log rs ++ log ts := List.map_append

section Reports

variable {settings : Settings} {cycles : Int} {lines : List Record}

/-- **A run whose cycles all succeed.** -/
theorem conclude_of_steps (hs : s.machine = m.acknowledge) (h : m.steps cycles.toNat = .ok m') :
    conclude settings cycles (log (s.shown lines)) (drive cycles.toNat { session := s }) =
      { items := log (s.shown (lines ++ (Execution.records (m.cycles cycles.toNat) ++
          [.summary cycles ((m.cycles cycles.toNat).countP Execution.paints) m'.pc])))
          ++ dumps settings m'
        ending := .exit 0 } := by
  have hp : ({ session := s } : Progress).session.machine = m.acknowledge := hs
  have hdrive := drive_of_steps hp h 0
  have hdumps : dumps settings m'.acknowledge = dumps settings m' := rfl
  rw [Nat.add_zero] at hdrive
  simp only [hdrive, drive, conclude, Progress.after, Array.toList_appendList, List.nil_append,
    Nat.zero_add, hdumps, Session.shown_append, log_append, List.append_assoc]
  rfl

/-- **A run with a cycle that fails.** -/
theorem conclude_of_fault (hs : s.machine = m.acknowledge) (hj : j < cycles.toNat)
    (h : m.steps j = .ok m') (hf : m'.step.result = .error f) :
    conclude settings cycles (log (s.shown lines)) (drive cycles.toNat { session := s }) =
      { items := log (s.shown (lines ++ (Execution.records (m.cycles j) ++
          (m'.cycle.record?.toList ++ [.machineFault m'.pc f.message]))))
        ending := .exit 2 } := by
  have hp : ({ session := s } : Progress).session.machine = m.acknowledge := hs
  obtain ⟨n, hn⟩ := Nat.exists_eq_add_of_lt hj
  have hdrive := drive_of_steps hp h (n + 1)
  rw [← Nat.add_assoc, ← hn, drive_succ_of_error rfl hf] at hdrive
  simp only [hdrive, conclude, Progress.after, Array.toList_appendList, List.nil_append,
    Session.shown_append, log_append, List.append_assoc]
  rfl

end Reports

/-! ## Files -/

namespace Settings

variable {settings : Settings} {read : String → Except FileError (List Byte)}
  {program : List Byte} {e : FileError} {cycles seed : Int} {level : Level} {key : RandomKey}

/-- The mode that the settings ask for. -/
def mode (settings : Settings) : Mode :=
  if settings.transcribed then .transcribed else .canonical

/-- The session of a run before its program is loaded. -/
def opened (settings : Settings) (key : RandomKey) (level : Level) : Session :=
  { Session.opened key settings.mode 1 with console := { threshold := level } }

theorem session_eq (hlevel : settings.level = some level) (hseed : settings.seed = some seed)
    (hkey : RandomKey.ofSeed? seed = some key) :
    settings.session = .ok (settings.opened key level) := by
  rw [session, hlevel, hseed]
  simp only [Session.start, hkey]
  rfl

/-- **A program file that is refused** ends the run, and the last thing said is why. -/
theorem run_of_refused {lines : List Record} {reason : Refusal}
    (hsession : settings.session = .ok s)
    (hrecords : (s.loadFile settings.program (read settings.program)).records = s.shown lines)
    (hrefused : (s.loadFile settings.program (read settings.program)).outcome = .error reason) :
    settings.run read =
      { items := log (s.shown (lines ++ lastWords settings.program reason))
        ending := .ofRefusal reason } := by
  rw [run, hsession, s.shown_append, log_append]
  simp only [hrecords, hrefused]
  cases reason with
  | file e =>
    cases e with
    | nulInName => exact congrArg (Report.mk · _) (List.append_nil _).symm
    | _ => rfl
  | _ => rfl

/-- A file that cannot be read. -/
theorem run_of_unreadable (hsession : settings.session = .ok s)
    (hread : read settings.program = .error e) (he : e ≠ .nulInName) :
    settings.run read =
      { items := log (s.shown [.loading settings.program, .unreadable settings.program e])
        ending := .exit 1 } := by
  have hload : s.loadFile settings.program (.error e) = _ := Session.loadFile_of_error
  rw [← hread] at hload
  have hrun := run_of_refused hsession (congrArg Response.records hload)
    (congrArg Response.outcome hload)
  cases e with
  | nulInName => exact absurd rfl he
  | _ => exact hrun

/-- A file that holds too many bytes. -/
theorem run_of_too_large (hsession : settings.session = .ok s)
    (hread : read settings.program = .ok program) (hlarge : 3584 < program.length) :
    settings.run read =
      { items := log (s.shown (.loading settings.program ::
          .fileRead program.length settings.program :: [.tooLarge program.length]))
        ending := .exit 1 } := by
  have hload : s.loadFile settings.program (.ok program) = _ :=
    Session.loadFile_of_refused (Machine.load_of_too_large hlarge)
  rw [← hread] at hload
  exact run_of_refused hsession (congrArg Response.records hload)
    (congrArg Response.outcome hload)

/-- A file that holds a program is followed by the cycles. -/
theorem run_of_loaded (hsession : settings.session = .ok s)
    (hread : read settings.program = .ok program) (hload : s.machine.load program = .ok m)
    (hcycles : settings.cycles = some cycles) :
    settings.run read =
      conclude settings cycles
        (log (s.shown [.loading settings.program, .fileRead program.length settings.program,
          .programLoaded]))
        (drive cycles.toNat { session := { s with machine := m } }) := by
  rw [run, hsession, hread]
  simp only [Session.loadFile_of_ok hload, Session.update, runLoaded, hcycles]

/-- **A run whose cycles all succeed.** -/
theorem run_of_steps (hsession : settings.session = .ok s)
    (hread : read settings.program = .ok program) (hload : s.machine.load program = .ok m)
    (hflag : s.machine.redraw = false) (hcycles : settings.cycles = some cycles)
    (hsteps : m.steps cycles.toNat = .ok m') :
    settings.run read =
      { items := log (s.shown (.loading settings.program ::
          .fileRead program.length settings.program :: .programLoaded ::
          (Execution.records (m.cycles cycles.toNat) ++
            [.summary cycles ((m.cycles cycles.toNat).countP Execution.paints) m'.pc])))
          ++ dumps settings m'
        ending := .exit 0 } := by
  have hs : ({ s with machine := m } : Session).machine = m.acknowledge :=
    Machine.eq_acknowledge_of_load hload hflag
  rw [run_of_loaded hsession hread hload hcycles]
  exact conclude_of_steps hs hsteps

/-- **A run with a cycle that fails.** -/
theorem run_of_fault (hsession : settings.session = .ok s)
    (hread : read settings.program = .ok program) (hload : s.machine.load program = .ok m)
    (hflag : s.machine.redraw = false) (hcycles : settings.cycles = some cycles)
    (hj : j < cycles.toNat) (hsteps : m.steps j = .ok m') (hf : m'.step.result = .error f) :
    settings.run read =
      { items := log (s.shown (.loading settings.program ::
          .fileRead program.length settings.program :: .programLoaded ::
          (Execution.records (m.cycles j) ++
            (m'.cycle.record?.toList ++ [.machineFault m'.pc f.message]))))
        ending := .exit 2 } := by
  have hs : ({ s with machine := m } : Session).machine = m.acknowledge :=
    Machine.eq_acknowledge_of_load hload hflag
  rw [run_of_loaded hsession hread hload hcycles]
  exact conclude_of_fault hs hj hsteps hf

/-! ## Verbose consoles -/

/-- The lines before a program is in memory.  The size of the file is told at the lowest
level only. -/
def openingLines (level : Level) (name : String) (size : Nat) : List Record :=
  .loading name :: if level = .debug then [.fileRead size name] else []

/-- Lines of all levels but the lowest are shown. -/
theorem shown_of_verbose {lines : List Record} (h : level = .info ∨ level = .debug)
    (hlines : ∀ r ∈ lines, r.level ≠ .debug) :
    (settings.opened key level).shown lines = lines := by
  refine List.filter_eq_self.2 fun r hr => ?_
  have hother := hlines r hr
  cases hrank : r.level with
  | debug => exact absurd hrank hother
  | _ => obtain rfl | rfl := h <;> rfl

/-- What is shown of a run, the opening lines in front. -/
theorem shown_opening {lines : List Record} (h : level = .info ∨ level = .debug)
    (hlines : ∀ r ∈ lines, r.level ≠ .debug) (name : String) (size : Nat) :
    (settings.opened key level).shown (.loading name :: .fileRead size name :: lines)
      = openingLines level name size ++ lines := by
  have hopening : (settings.opened key level).shown [.loading name, .fileRead size name]
      = openingLines level name size := by
    obtain rfl | rfl := h <;> rfl
  have happend := (settings.opened key level).shown_append
    [.loading name, .fileRead size name] lines
  rwa [hopening, shown_of_verbose h hlines] at happend

/-- The lines of a program in memory are of other levels, if its last ones are. -/
theorem level_of_run {es : List Execution} {last : List Record}
    (hlast : ∀ r ∈ last, r.level ≠ .debug) :
    ∀ r ∈ Record.programLoaded :: (Execution.records es ++ last), r.level ≠ .debug := by
  refine List.forall_mem_cons.2 ⟨by decide, List.forall_mem_append.2 ⟨fun r hr => ?_, hlast⟩⟩
  obtain ⟨e, -, he⟩ := List.mem_filterMap.1 hr
  rw [Execution.level_of_record? he]
  decide

end Settings

/-! ## The whole run -/

open Settings (openingLines) in
/-- **A run is the iteration of single cycles.**  A run with a number of cycles, a seed
that makes a key and a console at one of the two lowest levels ends in one of four ways.
If the program file cannot be read, or holds more than fits, that is the last thing said.
Otherwise let `m₀` be the machine just switched on, with the program in memory.  If it
makes all its cycles, at least none, then the warnings about them are followed by a line
with their number, how many of them paint and the program counter they end on, and by the
dumps that were asked for, of the machine they end on: first its display in boxes, then its
memory in lines of sixteen cells.  If one of them is the first to fail, the warnings up to
it are followed by a line with the program counter it started from and what was wrong. -/
theorem run_iterates_step {read : String → Except FileError (List Byte)} {arguments : List String}
    {settings : Settings} {cycles seed : Int} {level : Level}
    (hnul : ∀ name, read name = .error .nulInName → '\x00' ∈ name.toList)
    (harguments : Settings.ofArguments arguments = .ok settings)
    (hname : '\x00' ∉ settings.program.toList) (hcycles : settings.cycles = some cycles)
    (hseed : settings.seed = some seed) (hlow : -0x8000000000000000 ≤ seed)
    (hhigh : seed < 0x8000000000000000) (hlevel : settings.level = some level)
    (hverbose : level = .info ∨ level = .debug) :
    let report := run read arguments
    let name := settings.program
    let k := (max cycles 0).toNat
    (∀ e, read name = .error e →
      report =
        { items := [.record (.loading name), .record (.unreadable name e)], ending := .exit 1 }) ∧
      ∀ program, read name = .ok program →
        let opening := openingLines level name program.length
        (3584 < program.length →
          report =
            { items := List.map .record (opening ++ [.tooLarge program.length])
              ending := .exit 1 }) ∧
          (program.length ≤ 3584 →
            ∃ key m₀, RandomKey.ofSeed? seed = some key ∧
              (Machine.powerOn key settings.mode).load program = .ok m₀ ∧
              (Machine.powerOn key settings.mode).Loaded program m₀ ∧
              (∀ m, m₀.steps k = .ok m →
                let redraws := (m₀.cycles k).countP Execution.paints
                report =
                  { items := List.map .record (opening ++ .programLoaded ::
                        (Execution.records (m₀.cycles k) ++ [.summary cycles redraws m.pc]))
                      ++ (if settings.dumpDisplay then [.text (m.display.dump ['■'] ['□'])] else [])
                      ++ (if settings.dumpMemory then [.text (m.memory.dump 16)] else [])
                    ending := .exit 0 }) ∧
              ∀ j m f, j < k → m₀.steps j = .ok m → m.step.result = .error f →
                report =
                  { items := List.map .record (opening ++ .programLoaded ::
                      (Execution.records (m₀.cycles j)
                        ++ (m.cycle.record?.toList ++ [.machineFault m.pc f.message])))
                    ending := .exit 2 }) := by
  intro report name k
  have hk : k = cycles.toNat := by omega
  have hkey := RandomKey.ofSeed?_eq hlow hhigh
  have hsession := Settings.session_eq hlevel hseed hkey
  have hreport : report = settings.run read := by
    simp only [report, run, harguments]
  refine ⟨fun e he => ?_, fun program hprogram => ⟨fun hlarge => ?_, fun hfits => ?_⟩⟩
  · have hother : e ≠ .nulInName := fun heq => hname (hnul name (heq ▸ he))
    rw [hreport, Settings.run_of_unreadable hsession he hother,
      Settings.shown_of_verbose hverbose (by simp [Record.loading, Record.unreadable])]
    rfl
  · rw [hreport, Settings.run_of_too_large hsession hprogram hlarge,
      Settings.shown_opening hverbose (by simp [Record.tooLarge]), log]
  · obtain ⟨m₀, hload, hloaded⟩ :=
      Machine.load_of_fits (m := (settings.opened _ level).machine) hfits
    refine ⟨_, m₀, hkey, hload, hloaded, fun m hsteps => ?_, fun j m f hj hsteps hf => ?_⟩
    · have hlast : ∀ r ∈ [Record.summary cycles ((m₀.cycles k).countP Execution.paints) m.pc],
          r.level ≠ .debug := by
        simp [Record.summary]
      rw [hk] at hsteps hlast ⊢
      rw [hreport, Settings.run_of_steps hsession hprogram hload rfl hcycles hsteps,
        Settings.shown_opening hverbose (Settings.level_of_run hlast), dumps_eq,
        ← List.append_assoc, log]
    · have hlast : ∀ r ∈ m.cycle.record?.toList ++ [Record.machineFault m.pc f.message],
          r.level ≠ .debug := by
        refine List.forall_mem_append.2 ⟨fun r hr => ?_, by simp [Record.machineFault]⟩
        rw [Execution.level_of_record? (Option.mem_toList.1 hr)]
        decide
      rw [hk] at hj
      rw [hreport, Settings.run_of_fault hsession hprogram hload rfl hcycles hj hsteps hf,
        Settings.shown_opening hverbose (Settings.level_of_run hlast), log]

/-- A folder says that a name holds a NUL character only if it does. -/
theorem nul_of_read (folder : Folder) (name : String)
    (h : folder.read name = .error .nulInName) : '\x00' ∈ name.toList := by
  rw [Folder.read] at h
  split at h
  case isTrue hnul => simpa using hnul
  case isFalse hnul =>
    split at h
    · cases h
    · split at h <;> cases h

/-- A folder with one program in it. -/
def folderOf (program : List Byte) : Folder := { files := [("rom.ch8", program)] }

theorem read_folderOf (program : List Byte) :
    (folderOf program).read "rom.ch8" = .ok program := by
  simp [Folder.read, folderOf]

/-- The machine just switched on, with the seed zero and a program in memory. -/
def fresh (program : List Byte) : Machine :=
  { Machine.powerOn ⟨0, 0⟩ .canonical with
    memory := (Machine.powerOn ⟨0, 0⟩ .canonical).memory.write programStart program }

theorem eq_fresh {program : List Byte} {key : RandomKey} {m : Machine}
    (hkey : RandomKey.ofSeed? 0 = some key) (hfits : program.length ≤ 3584)
    (hload : (Machine.powerOn key .canonical).load program = .ok m) : m = fresh program := by
  obtain rfl : (⟨0, 0⟩ : RandomKey) = key := Option.some.inj hkey
  have hfresh : (Machine.powerOn ⟨0, 0⟩ .canonical).load program = .ok (fresh program) :=
    if_pos hfits
  exact Except.ok.inj (hload.symm.trans hfresh)

/-- Clears the display and stays at an opcode without an instruction. -/
def clearAndStay : List Byte := [0x00, 0xE0, 0x80, 0x0F]

/-- Clears the display and returns to nowhere. -/
def clearAndReturn : List Byte := [0x00, 0xE0, 0x00, 0xEE]

/-- Draws the first row of the digit zero. -/
def drawZero : List Byte := [0xF0, 0x29, 0xD0, 0x01]

/-- Two cycles of one program, of which the first paints and the second warns; two of another,
of which the second fails; and two of a third, of which the second draws, with both dumps. -/
theorem run_iterates_step_clear :
    run (folderOf clearAndStay).read ["rom.ch8", "--cycles", "2"] =
        { items := [.record ⟨.info, "Loading rom.ch8..."⟩, .record ⟨.info, "Program loaded!"⟩,
            .record ⟨.warning, "Unknown opcode 0x800F at 0x202"⟩,
            .record ⟨.info, "Ran 2 cycles, 1 redraws, PC=0x202"⟩]
          ending := .exit 0 } ∧
      run (folderOf clearAndReturn).read
          ["--log-level", "DEBUG", "--cycles", "9", "--dump-display", "rom.ch8"] =
        { items := [.record ⟨.info, "Loading rom.ch8..."⟩,
            .record ⟨.debug, "Read 4 bytes from rom.ch8"⟩, .record ⟨.info, "Program loaded!"⟩,
            .record ⟨.error, "Machine fault at PC=0x202: "
              ++ "stack underflow: return with an empty stack (`check` failed)"⟩]
          ending := .exit 2 } ∧
      ∃ display memory,
        run (folderOf drawZero).read
            ["--dump-memory", "rom.ch8", "--cycles", "2", "--dump-display"] =
          { items := [.record ⟨.info, "Loading rom.ch8..."⟩, .record ⟨.info, "Program loaded!"⟩,
              .record ⟨.info, "Ran 2 cycles, 1 redraws, PC=0x204"⟩, .text display, .text memory]
            ending := .exit 0 } ∧
          (display.splitOn '\n')[0]? = some ("■■■■".toList ++ List.replicate 60 '□') ∧
          (memory.splitOn '\n')[32]?
            = some "F0 29 D0 01 00 00 00 00 00 00 00 00 00 00 00 00".toList := by
  have hname : '\x00' ∉ "rom.ch8".toList := by decide
  refine ⟨?_, ?_, ?_⟩
  · have harguments : Settings.ofArguments ["rom.ch8", "--cycles", "2"]
        = .ok { program := "rom.ch8", cycles := some 2 } := rfl
    obtain ⟨-, hfile⟩ := run_iterates_step (nul_of_read _) harguments hname rfl rfl
      (by decide) (by decide) rfl (.inl rfl)
    obtain ⟨-, hfits⟩ := hfile clearAndStay (read_folderOf _)
    obtain ⟨key, m₀, hkey, hload, -, hok, -⟩ := hfits (by decide)
    obtain rfl := eq_fresh hkey (by decide) hload
    obtain ⟨hnone, hpc, hpaints, hrecords⟩ : ((fresh clearAndStay).run 2).failures = [] ∧
        ((fresh clearAndStay).run 2).machine.pc = 0x202 ∧
        ((fresh clearAndStay).cycles 2).countP Execution.paints = 1 ∧
        Execution.records ((fresh clearAndStay).cycles 2)
          = [⟨.warning, "Unknown opcode 0x800F at 0x202"⟩] := by
      decide +kernel
    have hsummary : Record.summary 2 1 0x202 = ⟨.info, "Ran 2 cycles, 1 redraws, PC=0x202"⟩ := by
      decide +kernel
    have hreport := hok _ (Machine.steps_of_failures_eq_nil hnone)
    simp only [show (max (2 : Int) 0).toNat = 2 from rfl, hpc, hpaints, hrecords, hsummary]
      at hreport
    exact hreport
  · have harguments :
        Settings.ofArguments ["--log-level", "DEBUG", "--cycles", "9", "--dump-display", "rom.ch8"]
          = .ok { program := "rom.ch8", cycles := some 9, dumpDisplay := true,
                  level := some .debug } := rfl
    obtain ⟨-, hfile⟩ := run_iterates_step (nul_of_read _) harguments hname rfl rfl
      (by decide) (by decide) rfl (.inr rfl)
    obtain ⟨-, hfits⟩ := hfile clearAndReturn (read_folderOf _)
    obtain ⟨key, m₀, hkey, hload, -, -, hfault⟩ := hfits (by decide)
    obtain rfl := eq_fresh hkey (by decide) hload
    obtain ⟨hnone, hpc, hreported, hbefore, hsilent⟩ :
        ((fresh clearAndReturn).run 1).failures = [] ∧
        ((fresh clearAndReturn).run 1).machine.pc = 0x202 ∧
        Failure.reported? ((fresh clearAndReturn).run 1).machine.step.failures
          = some ⟨.ret, .stackUnderflow⟩ ∧
        Execution.records ((fresh clearAndReturn).cycles 1) = [] ∧
        ((fresh clearAndReturn).run 1).machine.cycle.record? = none := by
      decide +kernel
    have hf : ((fresh clearAndReturn).run 1).machine.step.result = .error .stackUnderflow :=
      Outcome.result_eq_error_iff.2 ⟨_, hreported, rfl⟩
    have hmessage : Record.machineFault 0x202 Fault.stackUnderflow.message
        = ⟨.error, "Machine fault at PC=0x202: "
            ++ "stack underflow: return with an empty stack (`check` failed)"⟩ := by
      decide +kernel
    have hreport := hfault 1 _ _ (by decide) (Machine.steps_of_failures_eq_nil hnone) hf
    simp only [hpc, hbefore, hsilent, hmessage, Option.toList_none] at hreport
    exact hreport
  · have harguments :
        Settings.ofArguments ["--dump-memory", "rom.ch8", "--cycles", "2", "--dump-display"]
          = .ok { program := "rom.ch8", cycles := some 2, dumpDisplay := true,
                  dumpMemory := true } := rfl
    obtain ⟨-, hfile⟩ := run_iterates_step (nul_of_read _) harguments hname rfl rfl
      (by decide) (by decide) rfl (.inl rfl)
    obtain ⟨-, hfits⟩ := hfile drawZero (read_folderOf _)
    obtain ⟨key, m₀, hkey, hload, -, hok, -⟩ := hfits (by decide)
    obtain rfl := eq_fresh hkey (by decide) hload
    obtain ⟨hnone, hpc, hpaints, hrecords⟩ : ((fresh drawZero).run 2).failures = [] ∧
        ((fresh drawZero).run 2).machine.pc = 0x204 ∧
        ((fresh drawZero).cycles 2).countP Execution.paints = 1 ∧
        Execution.records ((fresh drawZero).cycles 2) = [] := by
      decide +kernel
    have hsummary : Record.summary 2 1 0x204 = ⟨.info, "Ran 2 cycles, 1 redraws, PC=0x204"⟩ := by
      decide +kernel
    have hreport := hok _ (Machine.steps_of_failures_eq_nil hnone)
    simp only [show (max (2 : Int) 0).toNat = 2 from rfl, hpc, hpaints, hrecords, hsummary]
      at hreport
    refine ⟨_, _, hreport, ?_, ?_⟩
    · rw [Display.splitOn_dump (by decide) (by decide)]
      decide +kernel
    · rw [Memory.getElem?_splitOn_dump (by decide) _ (by decide)]
      decide +kernel

end CommandLine

end ChipEight
