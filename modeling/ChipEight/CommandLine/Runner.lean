import ChipEight.CommandLine.Arguments
import ChipEight.Host.Session

/-!
# The headless runner

Runs a program for a number of cycles without a window, and prints the display
and the memory afterwards if asked to.

* `drive` — cycles one after another, up to the first refusal;
* `run` — the whole run for a command line: everything that it prints, and how
  it ends.
-/

namespace ChipEight.CommandLine

/-! ## Reports -/

/-- One thing that the runner prints. -/
inductive Item where
  /-- A record of the log. -/
  | record (record : Record)
  /-- A text, followed by a line break. -/
  | text (text : List Char)
  deriving DecidableEq, Repr

/-- How a run ends. -/
inductive Ending where
  | exit (code : Nat)
  /-- The command line was wrong. -/
  | usage (error : UsageError)
  /-- Help was asked for. -/
  | help
  /-- The value of a setting was dropped, but it is needed. -/
  | valueless (switch : Switch)
  /-- A refusal that the runner has no report for. -/
  | refused (reason : Refusal)
  deriving DecidableEq, Repr

/-- The report about a setting without a value. -/
def valuelessMessage (s : Switch) : String := "no value for " ++ s.title

/-- Everything that a run prints, and how it ends. -/
structure Report where
  items : List Item := []
  ending : Ending
  deriving DecidableEq, Repr

/-! ## Cycles -/

/-- A run after some of its cycles. -/
structure Progress where
  session : Session
  /-- How many cycles asked for a repaint. -/
  redraws : Nat := 0
  /-- The records shown so far. -/
  records : Array Record := #[]

/-- The number of repaints that a reply asks for. -/
def repaints : Reply → Nat
  | .repaint true => 1
  | _ => 0

/-- `n` cycles one after another.  A refusal ends the run and leaves the session
as the cycles before did. -/
def drive : Nat → Progress → Progress × Option Refusal
  | 0, p => (p, none)
  | n + 1, p =>
    let response := p.session.step
    match response.outcome with
    | .error reason => ({ p with records := p.records ++ response.records }, some reason)
    | .ok reply =>
      drive n
        { session := response.session
          redraws := p.redraws + repaints reply
          records := p.records ++ response.records }

/-! ## Runs -/

/-- Records as items. -/
def log (records : List Record) : List Item := records.map .record

/-- A record as items, if the console of the session shows it. -/
def Item.ofRecord (s : Session) (level : Level) (message : String) : List Item :=
  log (s.shown [⟨level, message⟩])

/-- The dumps that the settings ask for. -/
def dumps (settings : Settings) (m : Machine) : List Item :=
  (if settings.dumpDisplay then [.text (m.display.dump Display.onGlyph Display.offGlyph)] else [])
    ++ (if settings.dumpMemory then [.text (m.memory.dump 16)] else [])

/-- The address in a report. -/
def addressText (pc : Word) : String := "PC=0x" ++ String.ofList (Text.Hex.padded 3 pc.toNat)

/-- The report of `cycles` cycles. -/
def conclude (settings : Settings) (cycles : Int) (items : List Item) :
    Progress × Option Refusal → Report
  | (p, some reason) =>
    { items := items ++ log p.records.toList
        ++ Item.ofRecord p.session .error
          ("Machine fault at " ++ addressText p.session.machine.pc ++ ": " ++ reason.message)
      ending := .exit 2 }
  | (p, none) =>
    { items := items ++ log p.records.toList
        ++ Item.ofRecord p.session .info
          (s!"Ran {cycles} cycles, {p.redraws} redraws, " ++ addressText p.session.machine.pc)
        ++ dumps settings p.session.machine
      ending := .exit 0 }

/-- The session that the settings ask for. -/
def Settings.session (settings : Settings) : Except Ending Session :=
  match settings.level, settings.seed with
  | none, _ => .error (.valueless .logLevel)
  | _, none => .error (.valueless .seed)
  | some level, some seed =>
    let mode := if settings.transcribed then Mode.transcribed else Mode.canonical
    match Session.start seed mode 1 with
    | .error reason => .error (.refused reason)
    | .ok s => .ok { s with console := { s.console with threshold := level } }

/-- The run of a program that was loaded, after `items` were printed. -/
def Settings.runLoaded (settings : Settings) (items : List Item) (s : Session) : Report :=
  match settings.cycles with
  | some cycles => conclude settings cycles items (drive cycles.toNat { session := s })
  | none => { items := items, ending := .valueless .cycles }

/-- A run with these settings, where `read` gives the contents of files. -/
def Settings.run (settings : Settings) (read : String → Except FileError (List Byte)) : Report :=
  match settings.session with
  | .error ending => { ending := ending }
  | .ok s =>
    let loaded := s.loadFile settings.program (read settings.program)
    let items := log loaded.records
    match loaded.outcome with
    | .ok _ => settings.runLoaded items loaded.session
    | .error (.file .nulInName) => { items := items, ending := .refused (.file .nulInName) }
    | .error (.file e) =>
      { items := items
          ++ Item.ofRecord s .error ("Could not read " ++ settings.program ++ ": " ++ e.message)
        ending := .exit 1 }
    | .error reason =>
      { items := items ++ Item.ofRecord s .error reason.message, ending := .exit 1 }

/-- The run for a command line. -/
def run (read : String → Except FileError (List Byte)) (arguments : List String) : Report :=
  match Settings.ofArguments arguments with
  | .error (.usage e) => { ending := .usage e }
  | .error .help => { ending := .help }
  | .ok settings => settings.run read

/-! ## Text -/

/-- The text of an item on a console. -/
def Item.render (c : Console) (now : Float) : Item → String
  | .record r => c.line now (Console.bracket r.level) r.message
  | .text t => String.ofList (t ++ ['\n'])

/-- Everything that a run prints, as one text. -/
def Report.text (r : Report) (c : Console) (now : Float) : String :=
  String.join (r.items.map (Item.render c now))

end ChipEight.CommandLine
