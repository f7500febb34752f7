import Launcher.Machine.Call
import Launcher.Machine.Tree

/-!
# Simulated machines

A machine is what outlasts a run of the launcher: the tree, the working directory, the accounts, the
terminal, and the plan of faults with the calls made so far.

Looking up a path goes from the root or from the working directory, name by name. Before each name
the place reached must be a directory.

## Main definitions

* `Launcher.Machine` — machines.
* `Launcher.Machine.resolve` — the place that a path names.
* `Launcher.Machine.status?` — the node that a path names.
* `Launcher.Machine.makeDirectory`, `unlink`, `openToRead`, `openToWrite`, `store`, `execute` — what
  the calls do when no fault strikes.
-/

namespace Launcher

/-- An entry of the account database. -/
structure Account where
  userId : Int
  name : Text
  home : Text
deriving DecidableEq, Repr

/-- What the system knows of the terminal: which streams are attached to it, and its width if it has
one. -/
structure Terminal where
  output : Bool
  errors : Bool
  columns : Option Int
deriving DecidableEq, Repr

/-- A simulated machine. -/
structure Machine where
  tree : Tree
  /-- The path of the working directory, or `none` if the directory has been deleted. -/
  workingDirectory : Option Text
  userId : Int
  accounts : List Account
  umask : Nat
  terminal : Terminal
  faults : List Fault
  /-- The kinds of the calls made so far, latest first. -/
  made : List CallKind
deriving Repr

/-- The longest path is shorter than this. -/
def pathLimit : Nat := 4096

/-- The longest name. -/
def nameLimit : Nat := 255

namespace Tree

/-- The place reached from `here` by the names. -/
def walk (tree : Tree) (here : Location) : List Bytes → Except Errno Location
  | [] => .ok here
  | name :: names =>
      match tree.get? here with
      | none => .error .noEntry
      | some (.file _ _) => .error .notDirectory
      | some (.directory _) =>
          if name = Location.dot then walk tree here names
          else if name = Location.dotDot then walk tree here.dropLast names
          else if nameLimit < name.length then .error .nameTooLong
          else walk tree (here ++ [name]) names

end Tree

/-- The place that a path names, whether or not a node is there. -/
structure Target where
  location : Location
  /-- The path ends in no name of its own: it has no names, or the last is `.` or `..`. -/
  nameless : Bool
  /-- The path ends in a separator. -/
  slashed : Bool
deriving DecidableEq, Repr

/-- An open file or directory, with the bytes of the file that are still unread. -/
inductive Reader where
  | directory
  | file (unread : Bytes)
deriving DecidableEq, Repr

namespace Machine

/-! ### Looking up -/

/-- The location from which a path is looked up. -/
def start (m : Machine) (path : Bytes) : Except Errno Location :=
  if path.head? = some slashByte then .ok []
  else
    match m.workingDirectory with
    | some directory => .ok (Location.ofPath directory.encode)
    | none => .error .noEntry

/-- The place that a path names. -/
def resolve (m : Machine) (path : Bytes) : Except Errno Target := do
  if path.isEmpty then throw .noEntry
  if pathLimit ≤ path.length then throw .nameTooLong
  let start ← m.start path
  let names := Location.names path
  let location ← m.tree.walk start names
  let last := names.getLast?
  return {
    location
    nameless := last.all fun name => name == Location.dot || name == Location.dotDot
    slashed := path.getLast? == some slashByte }

/-- The node that a path names, unless the path names a file as if it were a directory. -/
def status (m : Machine) (path : Bytes) : Except Errno Node := do
  let target ← m.resolve path
  match m.tree.get? target.location with
  | none => .error .noEntry
  | some node => if target.slashed && !node.isDirectory then .error .notDirectory else .ok node

/-- The node that a path names, if there is one. No node has a path with a zero byte. -/
def status? (m : Machine) (path : Path) : Option Node :=
  if path.toBytes.contains 0 then none else (m.status path.toBytes).toOption

/-- Whether the path names a directory. -/
def isDirectory (m : Machine) (path : Path) : Bool := (m.status? path).any (·.isDirectory)

/-- Whether the path names a file that somebody may execute. -/
def isProgram (m : Machine) (path : Path) : Bool :=
  (m.status? path).any fun node => node.isExecutable && !node.isDirectory

/-- The account of the user. -/
def account? (m : Machine) : Option Account := m.accounts.find? (·.userId = m.userId)

/-! ### The effects of calls -/

/-- Creates a directory, with the permission bits and the sticky bit of `mode`. -/
def makeDirectory (m : Machine) (path : Bytes) (mode : Int) : Except Errno Machine := do
  let target ← m.resolve path
  if (m.tree.get? target.location).isSome then throw .alreadyExists
  let bits := maskMode (mode % 0o2000).toNat m.umask
  return { m with tree := m.tree.insert target.location (.directory bits) }

/-- Removes a file. -/
def unlink (m : Machine) (path : Bytes) : Except Errno Machine := do
  let target ← m.resolve path
  if target.nameless then throw .isDirectory
  match m.tree.get? target.location with
  | none => throw .noEntry
  | some (.directory _) => throw .isDirectory
  | some (.file _ _) =>
      if target.slashed then throw .notDirectory
      return { m with tree := m.tree.erase target.location }

/-- Opens a file or a directory for reading. -/
def openToRead (m : Machine) (path : Bytes) : Except Errno Reader := do
  match ← m.status path with
  | .directory _ => return .directory
  | .file _ content => return .file content

/-- The permission bits of files that are created, before the mask. -/
def newFileMode : Nat := 0o755

/-- Opens a file for writing: creates it, or empties it and keeps its permission bits. -/
def openToWrite (m : Machine) (path : Bytes) : Except Errno (Location × Machine) := do
  let target ← m.resolve path
  if target.nameless || target.slashed then throw .isDirectory
  match m.tree.get? target.location with
  | some (.directory _) => throw .isDirectory
  | some (.file mode _) =>
      return (target.location, { m with tree := m.tree.insert target.location (.file mode []) })
  | none =>
      let node := .file (maskMode newFileMode m.umask) []
      return (target.location, { m with tree := m.tree.insert target.location node })

/-- Stores the content in the file at the location. -/
def store (m : Machine) (location : Location) (content : Bytes) : Machine :=
  match m.tree.get? location with
  | some (.file mode _) => { m with tree := m.tree.insert location (.file mode content) }
  | _ => m

/-- Whether the path names a program that can be executed. -/
def execute (m : Machine) (path : Bytes) : Except Errno Unit := do
  let node ← m.status path
  if node.isDirectory || !node.isExecutable then throw .accessDenied

end Machine

end Launcher
