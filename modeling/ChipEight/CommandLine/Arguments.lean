import ChipEight.Console
import ChipEight.Text.Numeral
import ChipEight.Text.Quoted

/-!
# Arguments of the runner

The command line of the headless runner: the name of a program file, and
switches in front of it or behind it.

* A long switch may be shortened to any beginning that no other switch shares.
* A value follows its switch as the next argument, or after an equals sign.  The
  value `--` is dropped, and leaves the setting without a value until the switch
  comes again.
* After the argument `--` everything is an operand.
* A negative number, and an argument with a space in it, is an operand if it is
  no switch.

`Token.ofArguments` sorts the arguments, and `Settings.ofArguments` reads the
settings from them.  Of a repeated switch the last one counts.
-/

namespace ChipEight.CommandLine

/-! ## Switches -/

/-- The switches of the runner. -/
inductive Switch where
  | help
  | cycles
  | seed
  | transcribed
  | dumpDisplay
  | dumpMemory
  | logLevel
  | noProgress
  deriving DecidableEq, Repr

namespace Switch

/-- The spellings of the switches, in the order in which they are offered. -/
def spellings : List (String × Switch) :=
  [("-h", .help), ("--help", .help), ("--cycles", .cycles), ("--seed", .seed),
    ("--transcribed", .transcribed), ("--dump-display", .dumpDisplay),
    ("--dump-memory", .dumpMemory), ("--log-level", .logLevel), ("--no-progress", .noProgress)]

/-- The switch with exactly this spelling. -/
def ofSpelling? (s : String) : Option Switch := (spellings.find? (·.1 == s)).map (·.2)

/-- How reports name a switch: all its spellings. -/
def title (s : Switch) : String :=
  "/".intercalate ((spellings.filter (·.2 == s)).map (·.1))

/-- Whether a value belongs to the switch. -/
def takesValue : Switch → Bool
  | .cycles | .seed | .logLevel => true
  | _ => false

end Switch

/-! ## Errors -/

/-- What is wrong with a command line. -/
inductive UsageError where
  /-- A shortened switch that fits several. -/
  | ambiguous (written : String) (candidates : List String)
  /-- A value for a switch that takes none. -/
  | needlessValue (switch : Switch) (value : String)
  /-- No value for a switch that takes one. -/
  | missingValue (switch : Switch)
  | notAnInteger (switch : Switch) (value : String)
  | notALevel (switch : Switch) (value : String)
  /-- The program file is not named. -/
  | missingProgram
  | unrecognized (arguments : List String)
  deriving DecidableEq, Repr

namespace UsageError

/-- A report about one switch. -/
def about (s : Switch) (text : String) : String := "argument " ++ s.title ++ ": " ++ text

/-- What was wrong, in words. -/
def message : UsageError → String
  | .ambiguous written candidates =>
    s!"ambiguous option: {written} could match " ++ ", ".intercalate candidates
  | .needlessValue s value => about s ("ignored explicit argument " ++ Text.Quoted.quote value)
  | .missingValue s => about s "expected one argument"
  | .notAnInteger s value => about s ("invalid int value: " ++ Text.Quoted.quote value)
  | .notALevel s value =>
    about s ("invalid choice: " ++ Text.Quoted.quote value ++ " (choose from "
      ++ ", ".intercalate (Level.all.map fun l => Text.Quoted.quote l.name) ++ ")")
  | .missingProgram => "the following arguments are required: rom"
  | .unrecognized arguments => "unrecognized arguments: " ++ " ".intercalate arguments

/-- The line that reports a wrong command line. -/
def report (e : UsageError) : String := "chipjax: error: " ++ e.message

end UsageError

/-! ## Sorting the arguments -/

/-- An argument and what it is taken for. -/
inductive Token where
  | operand (text : String)
  /-- The argument `--`. -/
  | separator
  /-- A switch, with the value written into the same argument. -/
  | switch (switch : Switch) (value : Option String)
  /-- The short help switch with letters behind it. -/
  | cluster (letters : List Char)
  /-- An argument that looks like a switch and is none. -/
  | stray (text : String)
  deriving DecidableEq, Repr

/-- Whether text is a negative number: a minus sign and digits, with at most one
point that has digits behind it.  A line break may follow. -/
def isNegativeNumber (s : List Char) : Bool :=
  let isDigit := fun c => (Text.Numeral.digitValue? c).isSome
  match s with
  | '-' :: rest =>
    let body := if rest.getLast? = some '\n' then rest.dropLast else rest
    match body.dropWhile isDigit with
    | [] => body != []
    | '.' :: decimals => decimals != [] && decimals.all isDigit
    | _ => false
  | _ => false

/-- Text before the first equals sign, and the text after it if there is one. -/
def splitEquals (s : String) : String × Option String :=
  match s.toList.dropWhile (· != '=') with
  | [] => (s, none)
  | _ :: value => (String.ofList (s.toList.takeWhile (· != '=')), some (String.ofList value))

/-- The switches that a shortened argument may stand for. -/
def candidates (beginning : String) : List (String × Switch) :=
  Switch.spellings.filter fun (spelling, _) => beginning.toList.isPrefixOf spelling.toList

namespace Token

/-- What an argument is when it is no switch. -/
def ofOther (s : String) : Token :=
  if isNegativeNumber s.toList || s.toList.contains ' ' then .operand s else .stray s

/-- What a shortened long switch stands for. -/
def ofBeginning (s : String) : Except UsageError Token :=
  let (beginning, value) := splitEquals s
  match candidates beginning with
  | [] => .ok (ofOther s)
  | [(_, found)] => .ok (.switch found value)
  | several => .error (.ambiguous s (several.map (·.1)))

/-- What an argument that starts with a dash and goes on stands for. -/
def ofDashed (s : String) : Except UsageError Token :=
  match Switch.ofSpelling? s with
  | some found => .ok (.switch found none)
  | none =>
    let (spelling, value) := splitEquals s
    match Switch.ofSpelling? spelling, s.toList with
    | some _, '-' :: 'h' :: '=' :: letters => .ok (.cluster letters)
    | some found, _ => .ok (.switch found value)
    | none, '-' :: '-' :: _ => ofBeginning s
    | none, '-' :: 'h' :: letters => .ok (.cluster letters)
    | none, _ => .ok (ofOther s)

/-- What an argument stands for. -/
def ofArgument (s : String) : Except UsageError Token :=
  match s.toList with
  | '-' :: _ :: _ => ofDashed s
  | _ => .ok (.operand s)

/-- What each argument stands for. -/
def ofArguments : List String → Except UsageError (List Token)
  | [] => .ok []
  | s :: rest =>
    if s = "--" then .ok (.separator :: rest.map .operand)
    else do
      let token ← ofArgument s
      let tokens ← ofArguments rest
      return token :: tokens

end Token

/-! ## Settings -/

/-- What the runner is asked to do.  Settings whose value was dropped are
`none`. -/
structure Settings where
  /-- The name of the program file. -/
  program : String
  cycles : Option Int := some 1000
  seed : Option Int := some 0
  transcribed : Bool := false
  dumpDisplay : Bool := false
  dumpMemory : Bool := false
  level : Option Level := some .info
  noProgress : Bool := false
  deriving DecidableEq, Repr

/-- Why there are no settings. -/
inductive Stop where
  | usage (error : UsageError)
  /-- Help was asked for. -/
  | help
  deriving DecidableEq, Repr

/-- Settings while the arguments are read from left to right. -/
structure Draft where
  /-- The program file, once it was named. -/
  program : Option String := none
  /-- The settings so far. -/
  settings : Settings := { program := "" }
  /-- Arguments that no setting takes. -/
  extras : List String := []

namespace Draft

/-- An argument that no setting takes. -/
def extra (d : Draft) (text : String) : Draft := { d with extras := d.extras ++ [text] }

/-- The operand that names the program file. -/
def named (d : Draft) (text : String) : Draft := { d with program := some text }

/-- Read a value, which may be dropped. -/
def value {α : Type} (read? : String → Option α) (error : UsageError) (text : String) :
    Except Stop (Option α) :=
  if text = "--" then .ok none
  else match read? text with
    | some v => .ok (some v)
    | none => .error (.usage error)

/-- Use the value of a switch. -/
def assign (d : Draft) (s : Switch) (text : String) : Except Stop Draft :=
  match s with
  | .cycles => do
    let n ← value Text.Numeral.read? (.notAnInteger s text) text
    return { d with settings := { d.settings with cycles := n } }
  | .seed => do
    let n ← value Text.Numeral.read? (.notAnInteger s text) text
    return { d with settings := { d.settings with seed := n } }
  | .logLevel => do
    let level ← value Level.ofName? (.notALevel s text) text
    return { d with settings := { d.settings with level := level } }
  | _ => .error (.usage (.needlessValue s text))

/-- Turn on a switch that takes no value. -/
def turnOn (d : Draft) : Switch → Except Stop Draft
  | .help => .error .help
  | .transcribed => .ok { d with settings := { d.settings with transcribed := true } }
  | .dumpDisplay => .ok { d with settings := { d.settings with dumpDisplay := true } }
  | .dumpMemory => .ok { d with settings := { d.settings with dumpMemory := true } }
  | .noProgress => .ok { d with settings := { d.settings with noProgress := true } }
  | s => .error (.usage (.missingValue s))

/-- Letters behind the short help switch.  They may only repeat the switch; the
rest from another letter on is taken for a value. -/
def helpLetters : List Char → Stop
  | ['h'] => .help
  | 'h' :: rest => helpLetters rest
  | letters => .usage (.needlessValue .help (String.ofList letters))

/-- Read the tokens from left to right.  The separator disappears next to the
operand that names the program file, and is one argument too many elsewhere. -/
def read (d : Draft) : List Token → Except Stop Draft
  | [] => .ok d
  | .operand text :: rest =>
    if d.program.isNone then
      match rest with
      | .separator :: rest => read (d.named text) rest
      | rest => read (d.named text) rest
    else read (d.extra text) rest
  | .separator :: rest =>
    if d.program.isNone then
      match rest with
      | .operand text :: rest => read (d.named text) rest
      | rest => read (d.extra "--") rest
    else read (d.extra "--") rest
  | .stray text :: rest => read (d.extra text) rest
  | .cluster letters :: _ => .error (helpLetters letters)
  | .switch s (some value) :: rest => do
    let next ← d.assign s value
    read next rest
  | .switch s none :: rest =>
    if s.takesValue then
      match rest with
      | .operand value :: rest => do
        let next ← d.assign s value
        read next rest
      | _ => .error (.usage (.missingValue s))
    else do
      let next ← d.turnOn s
      read next rest

/-- The settings at the end of the arguments. -/
def finish (d : Draft) : Except Stop Settings :=
  match d.program, d.extras with
  | none, _ => .error (.usage .missingProgram)
  | some program, [] => .ok { d.settings with program := program }
  | some _, extras => .error (.usage (.unrecognized extras))

end Draft

/-- Read the settings from the arguments. -/
def Settings.ofArguments (arguments : List String) : Except Stop Settings :=
  match Token.ofArguments arguments with
  | .error e => .error (.usage e)
  | .ok tokens => do
    let draft ← Draft.read {} tokens
    draft.finish

end ChipEight.CommandLine
