import ChipEight.Console
import ChipEight.Fault
import ChipEight.Text.Quoted

/-!
# Refusals

Why a host's request was refused.  A request that reaches the machine may end in
a fault; others are refused before, because an argument makes no sense or a file
cannot be read.
-/

namespace ChipEight

/-- Why a file could not be read. -/
inductive FileError where
  | notFound (name : String)
  | isDirectory (name : String)
  /-- The name holds a NUL character, which no file name can. -/
  | nulInName
  deriving DecidableEq, Repr

/-- What was wrong, in words. -/
def FileError.message : FileError → String
  | .notFound name => "[Errno 2] No such file or directory: " ++ Text.Quoted.quote name
  | .isDirectory name => "[Errno 21] Is a directory: " ++ Text.Quoted.quote name
  | .nulInName => "embedded null byte"

/-- Why a host's request was refused. -/
inductive Refusal where
  /-- The machine met a fault. -/
  | fault (cause : Fault)
  /-- A program of `size` bytes does not fit. -/
  | programTooLarge (size : Nat)
  /-- Some of `length` cells at `address` do not exist. -/
  | outOfMemory (length address : Int)
  /-- A listing reached a cell that does not exist. -/
  | noSuchCell (address : Int)
  /-- There is no key with this number. -/
  | noSuchKey (key : Int)
  /-- A key buffer is not a flat one with sixteen entries. -/
  | keyBufferShape (shape : List Nat)
  /-- A dump with lines of no cells. -/
  | emptyLines
  /-- An integer that is no 16-bit opcode. -/
  | notAnOpcode (opcode : Int)
  /-- A seed outside the signed 64-bit range. -/
  | seedTooLarge (seed : Int)
  /-- Frames of less than one cycle. -/
  | emptyFrames (cycles : Int)
  | console (cause : ConsoleError)
  | file (cause : FileError)
  deriving DecidableEq, Repr

namespace Refusal

/-- The kind under which a host catches a refusal that concerns the machine's
memory or its stack.  Other refusals are about the arguments of a request. -/
def kind? : Refusal → Option FaultKind
  | .fault cause => some cause.kind
  | .programTooLarge _ | .outOfMemory _ _ => some .memoryAccess
  | _ => none

/-- The lengths along the axes of a buffer: in parentheses, and with a comma
after a single one. -/
def shapeText : List Nat → String
  | [n] => "(" ++ toString n ++ ",)"
  | shape => "(" ++ ", ".intercalate (shape.map toString) ++ ")"

/-- What was wrong, in words. -/
def message : Refusal → String
  | .fault cause => cause.message
  | .programTooLarge size =>
    s!"Program of {size} bytes does not fit in 3584 bytes of program memory"
  | .outOfMemory length address => s!"memory access out of range: {length} bytes at {address}"
  | .noSuchCell address => s!"index {address} is out of bounds for axis 0 with size 4096"
  | .noSuchKey key => s!"Key index must be in range 0x0-0xF, got {key}"
  | .keyBufferShape shape => "Key buffer must hold 16 entries, got shape " ++ shapeText shape
  | .emptyLines => "range() arg 3 must not be zero"
  | .notAnOpcode opcode => s!"Python integer {opcode} out of bounds for uint16"
  | .seedTooLarge _ => "Python int too large to convert to C long"
  | .emptyFrames cycles => s!"steps_per_frame must be positive, got {cycles}"
  | .console cause => cause.message
  | .file cause => cause.message

end Refusal

end ChipEight
