import ChipEight.CommandLine.Runner

/-!
# The program

Reads the program file, runs it as the command line says, and prints the report.
-/

open ChipEight ChipEight.CommandLine

/-- Read a file from disk. -/
def readProgram (name : String) : IO (Except FileError (List Byte)) := do
  if name.contains '\x00' then return .error .nulInName
  try
    let bytes ← IO.FS.readBinFile name
    return .ok (bytes.toList.map (·.toBitVec))
  catch
    | .noFileOrDirectory .. => return .error (.notFound name)
    | _ => return .error (.isDirectory name)

/-- The help text. -/
def helpText : String :=
  "usage: chipjax [switches] rom\n\nRun a CHIP-8 program headless for a number of cycles"

/-- Run the program named on the command line. -/
def main (arguments : List String) : IO UInt32 := do
  let contents ← match Settings.ofArguments arguments with
    | .ok settings => readProgram settings.program
    | .error _ => pure (.ok [])
  let report := run (fun _ => contents) arguments
  IO.print (report.text {} 0)
  match report.ending with
  | .exit code => return code.toUInt32
  | .usage e => IO.eprintln e.report; return 2
  | .help => IO.println helpText; return 0
  | .valueless s => IO.eprintln (valuelessMessage s); return 1
  | .refused reason => IO.eprintln reason.message; return 1
