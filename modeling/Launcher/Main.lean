import Launcher.Launch
import Launcher.Session

/-!
# The command line

A rehearsal of a launch. The launcher gets the arguments, the variables and the terminals of the
caller, but acts on a simulated machine, so that no directory is created and no program takes over.
What it writes is printed, and the program that it becomes is named on the error stream.

## Main definitions

* `Launcher.Rehearsal.session` — the machine on which the launch is rehearsed.
* `main` — the rehearsal.
-/

namespace Launcher.Rehearsal

/-- The variables that the launcher reads. -/
def variableNames : List String :=
  ["USER", "HOME", "PATH", "TERM", "EMACS", "COLUMNS", "LAUNCHKIT_OUTPUT_BASE",
   "LAUNCHKIT_DIR_MODE", "LAUNCHKIT_LOG_LEVEL", "LAUNCHKIT_DELEGATE", Settings.delegatedVariable]

/-- The programs that the launch may become: the delegate, and the program of the command in the
first place where it is looked for. -/
def programs (environment : Environment) (tokens : List Text) : List Text :=
  let delegate := (Settings.given? environment "LAUNCHKIT_DELEGATE").toList
  match CommandLine.read tokens with
  | .ok { command := name :: _, .. } =>
      delegate ++ (Program.candidates (environment.lookup "PATH") name).head?.toList
  | _ => delegate

/-- A machine with the working directory and the programs of the launch, and nothing else. -/
def session (environment : Environment) (directory : Text) (terminal : Terminal)
    (tokens : List Text) : Session :=
  let bare : Machine :=
    { tree := .empty, workingDirectory := some directory, userId := 1000, accounts := [],
      umask := 0o022, terminal, faults := [], made := [] }
  let furnished := (programs environment tokens).foldl
    (fun m path =>
      m.place (if isSettled slash path then path else behind slash directory path) (.file 0o755 []))
    (bare.place directory (.directory 0o755))
  { machine := furnished, environment, logThreshold := Settings.defaultLevel }

/-- The variables of the caller that the launcher reads. -/
def callerEnvironment : IO Environment :=
  variableNames.filterMapM fun name => return (← IO.getEnv name).map fun value => (name, lit value)

/-- Prints what a process has written to its two streams. -/
def printStreams (output errors : List Char) : IO Unit := do
  IO.print (String.ofList output)
  IO.eprint (String.ofList errors)

end Launcher.Rehearsal

open Launcher in
/-- Rehearses a launch with the arguments, and exits as the launch does. -/
def main (arguments : List String) : IO UInt32 := do
  let tokens := arguments.map lit
  let environment ← Rehearsal.callerEnvironment
  let directory := lit (← IO.currentDir).toString
  let terminal : Terminal :=
    { output := ← (← IO.getStdout).isTty, errors := ← (← IO.getStderr).isTty, columns := none }
  let session := Rehearsal.session environment directory terminal tokens
  let (seen, _) := session.perform (Launch.main tokens)
  match seen.result with
  | .ok code =>
      Rehearsal.printStreams seen.process.output.flushed seen.process.errors.flushed
      return (code % 256).toNat.toUInt32
  | .error (.replaced image) =>
      Rehearsal.printStreams image.output image.errors
      IO.eprintln (String.ofList (lit "exec " ++ ShellWord.join image.arguments).spelled)
      return 0
  -- A launch answers all its failures, and without faults it comes to an end.
  | .error (.failed _) | .error .unending => return (ExitCode.internal.number % 256).toNat.toUInt32
