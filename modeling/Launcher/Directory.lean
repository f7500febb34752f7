import Launcher.Run.Call

/-!
# Creating directories and making paths absolute

A directory is created together with all that are missing on the way to it, from the top down. One
that is there already is as good as created; the first other obstacle ends the walk, and what has
been created stays.

## Main definitions

* `Launcher.Directory.create` — a directory and those on the way to it.
* `Launcher.Directory.absolute` — a path seen from the root.
-/

namespace Launcher.Directory

/-- Creates one directory, unless it is there. Something else of that name is an obstacle. -/
def createOne (path : Path) (mode : Int) : Action (Except OsError Unit) := do
  match ← Action.makeDirectory path mode with
  | .ok () => return .ok ()
  | .error e =>
      if e.errno = some (Errno.alreadyExists.number : Int) then
        if (← get).machine.isDirectory path then return .ok ()
        else return .error (.of .notDirectory (some path))
      else return .error e

/-- Creates directories one after the other, up to the first that fails. -/
def createAll (mode : Int) : List Path → Action (Except OsError Unit)
  | [] => return .ok ()
  | path :: rest => do
      match ← createOne path mode with
      | .ok () => createAll mode rest
      | .error e =>
          Action.log Level.debug (lit "Failed to create " ++ path.quoted ++ lit ": " ++ e.render)
          return .error e

/-- Creates a directory and all that are missing on the way to it. -/
def create (path : Path) (mode : Int) : Action (Except OsError Unit) := createAll mode path.chain

/-- The path of the working directory, without which a launch cannot go on. -/
def working : Action Text := do
  match ← Action.workingDirectory? with
  | .ok directory => return directory
  | .error e => Action.fail (.because .environment (lit "getcwd() failed") e)

/-- A text path seen from the root: behind the working directory, unless it is absolute or empty. -/
def absoluteText (path : Text) : Action Text := do
  if isSettled slash path then return path
  return behind slash (← working) path

/-- A path of either kind seen from the root. -/
def absolute : Path → Action Path
  | .text t => return .text (← absoluteText t)
  | .bytes b => do
      if isSettled slashByte b then return .bytes b
      return .bytes (behind slashByte (← working).encode b)

end Launcher.Directory
