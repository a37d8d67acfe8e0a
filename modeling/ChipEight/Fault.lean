import ChipEight.Word

/-!
# Faults

What a check of the machine can find wrong.  A fault carries the numbers that its
report needs, and `Fault.message` is that report.  `FaultKind.ofMessage` recovers the
kind of a fault from the beginning of its report, and `Raised.ofMessage?` is what a
host catches.
-/

namespace ChipEight

/-- What a check found wrong. -/
inductive Fault where
  /-- A call with `depth` return addresses on the stack already. -/
  | stackOverflow (depth : Int)
  /-- A return with no return address on the stack. -/
  | stackUnderflow
  /-- An access to `length` bytes at `start`, some of them past the end of memory. -/
  | outOfRange (length start : Nat)
  /-- A test of the key named by `Vx`, which holds no key's number. -/
  | noSuchKey (x : Register) (key : Byte)
  deriving DecidableEq, Repr

/-- The kinds that a host tells apart. -/
inductive FaultKind where
  | stackOverflow
  | stackUnderflow
  | memoryAccess
  | other
  deriving DecidableEq, Repr

namespace FaultKind

/-- How a report of each kind begins. -/
def beginnings : List (String × FaultKind) :=
  [("stack overflow", .stackOverflow),
    ("stack underflow", .stackUnderflow),
    ("memory access out of range", .memoryAccess),
    ("key index out of range", .memoryAccess)]

/-- The kind of a report, read off its beginning. -/
def ofMessage (message : String) : FaultKind :=
  match beginnings.find? fun b => b.1.toList.isPrefixOf message.toList with
  | some (_, kind) => kind
  | none => .other

end FaultKind

/-- What a host catches when a check has failed. -/
structure Raised where
  kind : FaultKind
  message : String
  deriving DecidableEq, Repr

/-- What is raised for the report of a failed check, and nothing without one.  Only
the report comes through, so its beginning has to tell the kind. -/
def Raised.ofMessage? (message : Option String) : Option Raised :=
  message.map fun text => ⟨.ofMessage text, text⟩

namespace Fault

/-- The kind of a fault; a bad key number counts as a bad memory access. -/
def kind : Fault → FaultKind
  | .stackOverflow _ => .stackOverflow
  | .stackUnderflow => .stackUnderflow
  | .outOfRange _ _ => .memoryAccess
  | .noSuchKey _ _ => .memoryAccess

/-- What was wrong, in words. -/
def description : Fault → String
  | .stackOverflow depth => s!"stack overflow: {depth} return addresses already stacked"
  | .stackUnderflow => "stack underflow: return with an empty stack"
  | .outOfRange length start => s!"memory access out of range: {length} bytes at {start}"
  | .noSuchKey x key => s!"key index out of range: V{x.val} holds {key.toNat}"

/-- The report of a fault: its description and the mark of a failed check. -/
def message (f : Fault) : String := f.description ++ " (`check` failed)"

end Fault

end ChipEight
