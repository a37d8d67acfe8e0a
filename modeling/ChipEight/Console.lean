import ChipEight.Text.FixedPoint
import ChipEight.Text.Uppercase

/-!
# The console

A levelled log.  A console has a threshold, and shows the records whose level
is at least the threshold, each on a line with the seconds since the console was
opened.

* `Level` — the five levels, ordered by `Level.rank`;
* `Console.setLevel` — change the threshold, by name in any case;
* `Console.write` and `Console.log` — show a record, its level given as a value
  or by its exact name.
-/

namespace ChipEight

/-! ## Levels -/

/-- How much a record matters. -/
inductive Level where
  | debug
  | info
  | warning
  | error
  | critical
  deriving DecidableEq, Repr

namespace Level

/-- The levels, the least important first. -/
def all : List Level := [.debug, .info, .warning, .error, .critical]

/-- The name of a level. -/
def name : Level → String
  | .debug => "DEBUG"
  | .info => "INFO"
  | .warning => "WARNING"
  | .error => "ERROR"
  | .critical => "CRITICAL"

/-- The place of a level among the five. -/
def rank : Level → Nat
  | .debug => 0
  | .info => 1
  | .warning => 2
  | .error => 3
  | .critical => 4

/-- The level with exactly this name. -/
def ofName? (name : String) : Option Level := all.find? (·.name == name)

/-- Every level is found under its name. -/
@[simp] theorem ofName?_name (l : Level) : ofName? l.name = some l := by
  cases l <;> rfl

/-- The escape sequence that switches to the colour of a level.  The highest
level has none. -/
def colour? : Level → Option String
  | .debug => some "\x1b[36m"
  | .info => some "\x1b[32m"
  | .warning => some "\x1b[33m"
  | .error => some "\x1b[31m"
  | .critical => none

end Level

/-- A message and how much it matters. -/
structure Record where
  level : Level
  message : String
  deriving DecidableEq, Repr

/-! ## Consoles -/

/-- Why a console refused a request. -/
inductive ConsoleError where
  /-- No level has this name, which is shown in capitals. -/
  | unknownLevel (name : String)
  /-- A record was logged under something that is not a level's exact name. -/
  | notALevel (name : String)
  /-- A level without a colour was to be shown in colour. -/
  | colourless (level : Level)
  deriving DecidableEq, Repr

/-- What was wrong, in words. -/
def ConsoleError.message : ConsoleError → String
  | .unknownLevel name =>
    s!"Unknown log level '{name}'. Available: ['DEBUG', 'INFO', 'WARNING', 'ERROR', 'CRITICAL']"
  | .notALevel _ => "tuple.index(x): x not in tuple"
  | .colourless level => "'" ++ level.name ++ "'"

/-- A place where records are shown. -/
structure Console where
  /-- The name in front of every message. -/
  name : String := "chipjax"
  /-- Whether levels are shown in colour. -/
  coloured : Bool := false
  /-- The time when the console was opened, in seconds. -/
  opened : Float := 0
  /-- The least level that is shown. -/
  threshold : Level := .info

namespace Console

/-- Elapsed seconds have two places and fill at least eight characters. -/
def elapsedFormat : Text.FixedPoint.Format where
  width := 8
  places := 2

/-- Switches back to the colour before. -/
def resetColour : String := "\x1b[0m"

/-- The level of a record, right-aligned in brackets. -/
def bracket (level : Level) : String :=
  "[" ++ String.ofList (level.name.toList.leftpad 8 ' ') ++ "]"

/-- The level of a record as the console shows it. -/
def badge (c : Console) (level : Level) : Except ConsoleError String :=
  if c.coloured then
    match level.colour? with
    | some colour => .ok (colour ++ bracket level ++ resetColour)
    | none => .error (.colourless level)
  else
    .ok (bracket level)

/-- Whether the console shows records of a level. -/
def admits (c : Console) (level : Level) : Bool := c.threshold.rank ≤ level.rank

/-- The line of a record, with the given badge. -/
def line (c : Console) (now : Float) (badge message : String) : String :=
  "[" ++ elapsedFormat.text (now - c.opened) ++ "s]" ++ badge ++ "[" ++ c.name ++ "] " ++ message
    ++ "\n"

/-- What the console shows of a record: its line, or nothing below the
threshold. -/
def write (c : Console) (now : Float) (record : Record) : Except ConsoleError String :=
  if c.admits record.level then do
    let badge ← c.badge record.level
    return c.line now badge record.message
  else
    .ok ""

/-- Show a message under a level given by its exact name. -/
def log (c : Console) (now : Float) (level message : String) : Except ConsoleError String :=
  match Level.ofName? level with
  | some level => c.write now ⟨level, message⟩
  | none => .error (.notALevel level)

/-- Change the threshold.  The name may be in any case. -/
def setLevel (c : Console) (name : String) : Except ConsoleError Console :=
  let capitals := Text.Uppercase.map name
  match Level.ofName? capitals with
  | some level => .ok { c with threshold := level }
  | none => .error (.unknownLevel capitals)

/-- A console opened now, with the threshold given by name. -/
def start (name level : String) (coloured : Bool) (now : Float) : Except ConsoleError Console :=
  { name := name, coloured := coloured, opened := now : Console }.setLevel level

end Console

end ChipEight
