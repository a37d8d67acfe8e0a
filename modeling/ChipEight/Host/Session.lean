import ChipEight.Host.Dump
import ChipEight.Machine.Run

/-!
# Sessions

A host works with the machine through a session: the machine itself, the random
key to start again with, the length of a frame, and the console on which
loading and unknown opcodes are reported.

Every request gives a `Response`: the session afterwards, the records shown on
the console, and either a reply or the reason of a refusal.  A refused request
leaves the machine as it was, but what it has shown on the console stays.

* `Session.step` and `Session.frame` — cycles, reporting whether to repaint;
* `Session.load` and `Session.loadFile` — programs;
* `Session.setKey` and `Session.setKeys` — the keypad;
* `Session.perform` — any request, as a value of `Action`.
-/

namespace ChipEight

/-! ## Requests on the machine -/

namespace Machine

/-- Copy a program to the start of program memory. -/
def load (m : Machine) (program : List Byte) : Except Refusal Machine :=
  if program.length ≤ 4096 - programStart then
    .ok { m with memory := m.memory.write programStart program }
  else
    .error (.programTooLarge program.length)

/-- The `length` cells from `address` on, all of which have to exist. -/
def readMemory (m : Machine) (address length : Int) : Except Refusal (List Byte) :=
  if address < 0 ∨ length < 0 ∨ 4096 < address + length then
    .error (.outOfMemory length address)
  else
    .ok (m.memory.read address.toNat length.toNat)

/-- Latch the key with this number. -/
def setKey (m : Machine) (key : Int) (pressed : Bool) : Except Refusal Machine :=
  if h : 0 ≤ key ∧ key < 16 then
    .ok (m.latch ⟨key.toNat, by omega⟩ pressed)
  else
    .error (.noSuchKey key)

/-- Latch all keys from a buffer. -/
def setKeys (m : Machine) (buffer : KeyBuffer) : Except Refusal Machine :=
  match buffer.keypad? with
  | some keys => .ok (m.latchAll keys)
  | none => .error (.keyBufferShape buffer.shape)

end Machine

/-- The opcode that an integer of exactly sixteen bits stands for. -/
def Opcode.ofInt (k : Int) : Except Refusal Opcode :=
  if 0 ≤ k ∧ k < 0x10000 then .ok (BitVec.ofInt 16 k) else .error (.notAnOpcode k)

/-- The warning about an opcode without an instruction. -/
def Notice.record (n : Notice) : Record where
  level := .warning
  message := "Unknown opcode 0x" ++ String.ofList (Text.Hex.padded 4 n.opcode.toNat)
    ++ " at 0x" ++ String.ofList (Text.Hex.padded 3 n.address.toNat)

/-! ## Sessions and responses -/

/-- A machine in the hands of a host. -/
structure Session where
  machine : Machine
  /-- The random key that a reset goes back to. -/
  key : RandomKey
  /-- The number of cycles in a frame. -/
  frameLength : Nat
  console : Console := {}

/-- What a request that was granted reports. -/
inductive Reply where
  | done
  /-- Whether the host has to paint the display again. -/
  | repaint (needed : Bool)
  deriving DecidableEq, Repr

/-- What a request gives. -/
structure Response where
  session : Session
  /-- The records shown on the console, in order. -/
  records : List Record := []
  outcome : Except Refusal Reply

namespace Session

/-- A session with a machine that has just been switched on. -/
def start (seed : Int) (mode : Mode) (frameLength : Int) : Except Refusal Session :=
  if frameLength < 1 then .error (.emptyFrames frameLength)
  else match RandomKey.ofSeed? seed with
    | some key =>
      .ok { machine := .powerOn key mode, key := key, frameLength := frameLength.toNat }
    | none => .error (.seedTooLarge seed)

/-- The records among these that the console shows. -/
def shown (s : Session) (records : List Record) : List Record :=
  records.filter fun r => s.console.admits r.level

/-- The response to a request that was refused. -/
def refuse (s : Session) (reason : Refusal) : Response where
  session := s
  outcome := .error reason

/-- The response to a request that changes the machine or is refused. -/
def update (s : Session) : Except Refusal Machine → Response
  | .ok m => { session := { s with machine := m }, outcome := .ok .done }
  | .error reason => s.refuse reason

/-- The records shown for notices of the machine. -/
def warnings (s : Session) (notices : List Notice) : List Record :=
  s.shown (notices.map Notice.record)

/-- The response to a request that runs the machine, given the response for the
machine afterwards.  It is refused if a check failed; the notices are shown
either way. -/
def conclude (s : Session) (o : Outcome) (granted : Machine → Response) : Response :=
  let response := match o.result with
    | .ok m => granted m
    | .error fault => s.refuse (.fault fault)
  { response with records := s.warnings o.notices }

/-- The response with machine `m`, whose redraw flag is reported and taken
back. -/
def repainting (s : Session) (m : Machine) : Response where
  session := { s with machine := m.acknowledge }
  outcome := .ok (.repaint m.redraw)

/-! ## Running -/

/-- One cycle. -/
def step (s : Session) : Response := s.conclude s.machine.step s.repainting

/-- `n` cycles in one go.  The redraw flag stays as the cycles leave it. -/
def run (s : Session) (n : Nat) : Response :=
  s.conclude (s.machine.run n) fun m => s.update (.ok m)

/-- All cycles of a frame in one go. -/
def frame (s : Session) : Response := s.conclude (s.machine.run s.frameLength) s.repainting

/-- Apply an opcode, taken modulo `2 ^ 16`, without a cycle. -/
def execute (s : Session) (opcode : Int) : Response :=
  s.conclude (s.machine.execute (BitVec.ofInt 16 opcode)) fun m => s.update (.ok m)

/-- Tick both timers. -/
def tick (s : Session) : Response := s.update (.ok s.machine.tick)

/-- Take back the redraw flag. -/
def acknowledge (s : Session) : Response := s.update (.ok s.machine.acknowledge)

/-- Switch the machine off and on.  The console stays as it is. -/
def reset (s : Session) : Response := s.update (.ok (.powerOn s.key s.machine.mode))

/-! ## Programs, keys and the console -/

/-- Copy a program into memory. -/
def load (s : Session) (program : List Byte) : Response := s.update (s.machine.load program)

/-- Load the program in a file, given what reading the file gave. -/
def loadFile (s : Session) (name : String) (contents : Except FileError (List Byte)) : Response :=
  let loading : Record := ⟨.info, s!"Loading {name}..."⟩
  match contents with
  | .error e => { s.refuse (.file e) with records := s.shown [loading] }
  | .ok program =>
    let size := program.length
    let read : Record := ⟨.debug, s!"Read {size} bytes from {name}"⟩
    let loaded : Record := ⟨.info, "Program loaded!"⟩
    match s.machine.load program with
    | .error reason => { s.refuse reason with records := s.shown [loading, read] }
    | .ok m => { s.update (.ok m) with records := s.shown [loading, read, loaded] }

/-- Latch one key. -/
def setKey (s : Session) (key : Int) (pressed : Bool) : Response :=
  s.update (s.machine.setKey key pressed)

/-- Latch all keys. -/
def setKeys (s : Session) (buffer : KeyBuffer) : Response := s.update (s.machine.setKeys buffer)

/-- Change the threshold of the console. -/
def setLevel (s : Session) (name : String) : Response :=
  match s.console.setLevel name with
  | .ok console => { session := { s with console := console }, outcome := .ok .done }
  | .error e => s.refuse (.console e)

end Session

/-! ## Requests as values -/

/-- A request that may change the session. -/
inductive Action where
  | step
  | frame
  | run (n : Nat)
  | execute (opcode : Int)
  | tick
  | acknowledge
  | reset
  | load (program : List Byte)
  | loadFile (name : String) (contents : Except FileError (List Byte))
  | setKey (key : Int) (pressed : Bool)
  | setKeys (buffer : KeyBuffer)
  | setLevel (name : String)

/-- The response to a request. -/
def Session.perform (s : Session) : Action → Response
  | .step => s.step
  | .frame => s.frame
  | .run n => s.run n
  | .execute opcode => s.execute opcode
  | .tick => s.tick
  | .acknowledge => s.acknowledge
  | .reset => s.reset
  | .load program => s.load program
  | .loadFile name contents => s.loadFile name contents
  | .setKey key pressed => s.setKey key pressed
  | .setKeys buffer => s.setKeys buffer
  | .setLevel name => s.setLevel name

/-- The session after a list of requests, refused ones included. -/
def Session.performAll (s : Session) (actions : List Action) : Session :=
  actions.foldl (fun s a => (s.perform a).session) s

end ChipEight
