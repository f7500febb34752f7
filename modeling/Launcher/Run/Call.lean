import Launcher.Log.Level
import Launcher.Run.World
import Launcher.Text.EscapeSequence

/-!
# Calls, log and output of a process

Every call of a process on its machine is counted, looked up in the plan of faults, carried out
unless a fault makes it fail, and recorded in the trace with its answer. Calls report failures of
the system as values; only arguments that the system cannot be given at all make the action fail.

## Main definitions

* `Launcher.Action.call` — a call, with what it does to the machine.
* `Launcher.Action.makeDirectory`, `unlink`, `openToRead`, `openToWrite`, `read`, `write`, `close`,
  `execute` and `workingDirectory?` — the calls.
* `Launcher.Action.log`, `printLine` and `printError` — the log and the streams.
-/

namespace Launcher.Action

/-! ### Log and streams -/

/-- Adds a record to the log if the threshold lets it pass. -/
def log (level : Int) (message : Text) : Action Unit :=
  modifyProcess fun p =>
    if Level.isKept p.logThreshold level then { p with log := p.log ++ [⟨level, message⟩] } else p

/-- Puts a text into the buffer of the output. Fails if it holds a stray byte. -/
def bufferOutput (t : Text) : Action Unit :=
  match t.chars? with
  | none => fail .unwritable
  | some cs => modifyProcess fun p => { p with output := p.output.write cs }

/-- Puts a text into the buffer of the error stream, with stray bytes spelled out. -/
def bufferErrors (t : Text) : Action Unit :=
  modifyProcess fun p => { p with errors := p.errors.write t.spelled }

/-- The text as it goes out: without escape sequences, unless they are to be kept. -/
def prepared (keepEscapes : Bool) (line : Text) : Text :=
  if keepEscapes then line else EscapeSequence.strip line

/-- Writes a line to the output and flushes it. Fails, and writes nothing, if the line holds a stray
byte. -/
def printLine (keepEscapes : Bool) (line : Text) : Action Unit := do
  bufferOutput (prepared keepEscapes line ++ [.char '\n'])
  modifyProcess fun p => { p with output := p.output.flush }

/-- Writes a line to the output, with its escape sequences if the output is a terminal. -/
def printPlain (line : Text) : Action Unit := do
  printLine (← get).machine.terminal.output line

/-- Writes a line to the error stream, with stray bytes spelled out, and with its escape sequences
if the error stream is a terminal. -/
def printError (line : Text) : Action Unit := do
  bufferErrors (prepared (← get).machine.terminal.errors line ++ [.char '\n'])
  modifyProcess fun p => { p with errors := p.errors.flush }

/-- Sends the buffers of both streams out. -/
def flush : Action Unit :=
  modifyProcess fun p => { p with output := p.output.flush, errors := p.errors.flush }

/-! ### Calls -/

/-- Records what a call answered. -/
def record (c : Call) (answer : Answer) : Action Unit :=
  modifyProcess fun p => if c.isTraced then { p with trace := p.trace ++ [(c, answer)] } else p

/-- Makes the call `c`. `effect` is what the call does to the machine when no fault makes it fail,
given the most bytes that it may move; `answer` is what the trace shows for its value. -/
def call {α : Type} (c : Call) (answer : α → Answer)
    (effect : Option Nat → Machine → Except Errno (α × Machine)) : Action (Except OsError α) := do
  let before := (← get).machine
  let counted := { before with made := c.kind :: before.made }
  modify fun w => { w with machine := counted }
  let result : Except Errno (α × Machine) :=
    match Fault.strike? counted.faults c (counted.made.count c.kind) with
    | some (.fail e) => .error e
    | some (.short limit) => effect (some limit) counted
    | none => effect none counted
  match result with
  | .error e =>
      record c (.error e)
      return .error (.of e c.path?)
  | .ok (value, after) =>
      modify fun w => { w with machine := after }
      record c (answer value)
      return .ok value

/-- Fails if a path for the system holds a zero byte. -/
def requireNoZero (path : Path) : Action Unit :=
  if path.toBytes.contains 0 then fail (.invalid .zeroByte) else pure ()

/-- The path of the working directory. -/
def workingDirectory? : Action (Except OsError Text) :=
  call .workingDirectory (fun _ => .ok) fun _ m =>
    match m.workingDirectory with
    | some directory => .ok (directory, m)
    | none => .error .noEntry

/-- Creates a directory. Its mode has to fit into the 32 bits that the system takes. -/
def makeDirectory (path : Path) (mode : Int) : Action (Except OsError Unit) := do
  requireNoZero path
  if !Numeral.fitsInt32 mode then fail .outOfRange
  call (.makeDirectory path mode) (fun _ => .ok) fun _ m =>
    (m.makeDirectory path.toBytes mode).map ((), ·)

/-- Removes a file. -/
def unlink (path : Path) : Action (Except OsError Unit) := do
  requireNoZero path
  call (.unlink path) (fun _ => .ok) fun _ m => (m.unlink path.toBytes).map ((), ·)

/-- Opens a file or a directory for reading. -/
def openToRead (path : Path) : Action (Except OsError Reader) := do
  requireNoZero path
  call (.openToRead path) (fun _ => .ok) fun _ m => (m.openToRead path.toBytes).map (·, m)

/-- Opens a file for writing, new or emptied, and gives its location. -/
def openToWrite (path : Path) : Action (Except OsError Location) := do
  requireNoZero path
  call (.openToWrite path) (fun _ => .ok) fun _ m => m.openToWrite path.toBytes

/-- Reads at most `size` bytes, and gives them with what is then left to read. A directory cannot be
read. -/
def read (reader : Reader) (size : Nat) : Action (Except OsError (Bytes × Reader)) :=
  call (.read size) (fun (chunk, _) => .count chunk.length) fun limit m =>
    match reader with
    | .directory => .error .isDirectory
    | .file unread =>
        let n := min size (limit.getD size)
        .ok ((unread.take n, .file (unread.drop n)), m)

/-- Writes the content to an emptied file, and gives the number of bytes stored. -/
def write (location : Location) (content : Bytes) : Action (Except OsError Nat) :=
  call (.write content.length) .count fun limit m =>
    let stored := content.take (limit.getD content.length)
    .ok (stored.length, m.store location stored)

/-- Closes an open file. -/
def close : Action (Except OsError Unit) :=
  call .close (fun _ => .ok) fun _ m => .ok ((), m)

/-- Executes a program: the process becomes it, unless the call fails. -/
def execute (path : Text) (arguments : List Text) : Action OsError := do
  requireNoZero (.text path)
  if arguments.isEmpty then fail (.invalid .noArguments)
  if arguments.any (·.contains (.char '\x00')) then fail (.invalid .zeroByte)
  if arguments.head? == some [] then fail (.invalid .emptyFirstArgument)
  let result ← call (.execute path arguments) (fun _ => .ok) fun _ m =>
    (m.execute path.encode).map (·, m)
  match result with
  | .error e => return e
  | .ok () =>
      let p := (← get).process
      throw (.replaced {
        path, arguments, environment := p.environment, output := p.output.flushed,
        errors := p.errors.flushed })

end Launcher.Action
