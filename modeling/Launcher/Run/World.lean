import Launcher.Failure
import Launcher.Machine.Basic

/-!
# A run on a machine

A run is a process on a machine. It has an environment and two output streams, keeps a log, and
leaves a trace of its calls. It ends with a value, with a failure, or by becoming another program.

## Main definitions

* `Launcher.Environment` — the variables of a process.
* `Launcher.Stream` — an output stream with its buffer.
* `Launcher.World` — a machine and a process on it.
* `Launcher.Action` — what a process does.
-/

namespace Launcher

/-- Variables with their values. -/
abbrev Environment := List (String × Text)

namespace Environment

/-- The environment with the variable set. -/
def set (env : Environment) (name : String) (value : Text) : Environment :=
  (name, value) :: env.filter (·.1 != name)

/-- The environment without the variable. -/
def unset (env : Environment) (name : String) : Environment := env.filter (·.1 != name)

/-- The variables that differ between two environments, with their values in the second. -/
def changes (before after : Environment) : List (String × Option Text) :=
  let names := (before ++ after).map (·.1) |>.eraseDups
  (names.filter fun name => before.lookup name != after.lookup name).map fun name =>
    (name, after.lookup name)

end Environment

/-- An output stream: what has left the process, and what is still in its buffer. -/
structure Stream where
  flushed : List Char
  pending : List Char
deriving DecidableEq, Repr

namespace Stream

/-- A stream to which nothing has been written. -/
def empty : Stream := ⟨[], []⟩

/-- Puts characters into the buffer. -/
def write (s : Stream) (cs : List Char) : Stream := { s with pending := s.pending ++ cs }

/-- Sends the buffer out. -/
def flush (s : Stream) : Stream := ⟨s.flushed ++ s.pending, []⟩

end Stream

/-- A record of the log. -/
structure LogRecord where
  level : Int
  message : Text
deriving DecidableEq, Repr

/-- A running process. -/
structure Process where
  environment : Environment
  /-- Records below this level are dropped. -/
  logThreshold : Int
  output : Stream
  errors : Stream
  log : List LogRecord
  trace : List (Call × Answer)
deriving Repr

/-- A process that has only just begun: nothing is written, logged or called yet. -/
def Process.fresh (environment : Environment) (logThreshold : Int) : Process :=
  { environment, logThreshold, output := .empty, errors := .empty, log := [], trace := [] }

/-- A process and the machine on which it runs. -/
structure World where
  machine : Machine
  process : Process
deriving Repr

/-- What a process becomes when it executes a program: the program and its arguments, the
environment that it gets, and what the process had written by then. -/
structure Image where
  path : Text
  arguments : List Text
  environment : Environment
  output : List Char
  errors : List Char
deriving DecidableEq, Repr

/-- How an action comes to no value: it fails, the process becomes another program, or the action
goes on for ever. -/
inductive Stop where
  | failed (failure : Failure)
  | replaced (image : Image)
  | unending
deriving DecidableEq, Repr

/-- What a process does. Changes of the world stay when an action stops. The world of an action that
goes on for ever is one on its way. -/
abbrev Action := ExceptT Stop (StateM World)

namespace Action

/-- Fails. -/
def fail {α : Type} (failure : Failure) : Action α := throw (.failed failure)

/-- Ends the launch with an exit code and a message. -/
def exit {α : Type} (code : ExitCode) (message : Text) : Action α := fail (.fail code message)

/-- The value of a computation, or its failure. -/
def ofExcept {α : Type} : Except Failure α → Action α
  | .ok a => pure a
  | .error failure => fail failure

/-- Changes the process. -/
def modifyProcess (f : Process → Process) : Action Unit :=
  modify fun w => { w with process := f w.process }

/-- The value of a variable of the environment. -/
def valueOf (name : String) : Action (Option Text) :=
  return (← get).process.environment.lookup name

/-- Sets a variable of the environment. -/
def setVariable (name : String) (value : Text) : Action Unit :=
  modifyProcess fun p => { p with environment := p.environment.set name value }

end Action

end Launcher
