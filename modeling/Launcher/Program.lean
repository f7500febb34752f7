import Launcher.Run.Call

/-!
# Finding and executing programs

A name with a separator in it is the path of a program. Any other name is looked for in the
directories of the variable `PATH`, from left to right.

## Main definitions

* `Launcher.Program.find?` — the path of a program.
* `Launcher.Program.become` — the process turns into a program.
-/

namespace Launcher.Program

/-- The directories searched if the variable `PATH` is not set. -/
def standardPath : Text := lit "/bin:/usr/bin"

/-- The paths under which a program may be found, in order. An empty `PATH` has no directories,
while an empty entry in it stands for the working directory. -/
def candidates (path? : Option Text) (name : Text) : List Text :=
  if name.contains slash then [name]
  else
    let path := path?.getD standardPath
    if path.isEmpty then [] else (pieces (.char ':') path).map (Text.joinPath · name)

/-- The path of the program of this name. -/
def find? (name : Text) : Action (Option Text) := do
  let machine := (← get).machine
  return (candidates (← Action.valueOf "PATH") name).find? (machine.isProgram <| .text ·)

/-- Turns the process into a program. What the streams still hold is sent out first, since it would
be lost. Comes back only if the call fails. -/
def become (path : Text) (arguments : List Text) : Action OsError := do
  Action.log Level.debug
    (lit "Executing " ++ path ++ lit " with " ++ decimal arguments.length ++ lit " argument(s)")
  Action.flush
  Action.execute path arguments

/-- Turns the process into another program that gets the same arguments, under its own name. -/
def becomeInstead (path : Text) (arguments : List Text) : Action OsError :=
  become path (path :: arguments.drop 1)

end Launcher.Program
