import Launcher.Text.Pieces
import Launcher.Text.Quoted
import Launcher.Text.Utf8

/-!
# Paths

A path is given as a text or as bytes; the system sees bytes in both cases. Operations on the
spelling of a path work on its own symbols and answer in its own kind.

## Main definitions

* `Launcher.Path` — paths of both kinds.
* `Launcher.Path.toBytes` — what the system sees.
* `Launcher.Path.chain` — the path and the directories on the way to it.
* `Launcher.behind` — a relative path behind a directory.
* `Launcher.Text.joinPath` — the path of an entry of a directory.
-/

namespace Launcher

/-- A path as a caller spells it. -/
inductive Path where
  | text (t : Text)
  | bytes (b : Bytes)
deriving DecidableEq, Repr

/-- The separator of path components, as a symbol. -/
def slash : Symbol := .char '/'

/-- The separator of path components, as a byte. -/
def slashByte : UInt8 := 0x2F

/-! ### Spelling, for texts and bytes alike -/

section Spelling

variable {α : Type} [DecidableEq α]

/-- Whether a path needs no directory in front to be found: it is absolute, or empty. -/
def isSettled (separator : α) (path : List α) : Bool :=
  path.isEmpty || path.head? == some separator

/-- A path behind a directory, with one separator between them unless the directory ends in one. -/
def behind (separator : α) (directory path : List α) : List α :=
  directory ++ (if directory.getLast? = some separator then [] else [separator]) ++ path

end Spelling

/-! ### Paths -/

namespace Path

/-- The bytes by which the system knows the path. -/
def toBytes : Path → Bytes
  | text t => t.encode
  | bytes b => b

/-- The path in quotes, as messages show it. -/
def quoted : Path → Text
  | text t => t.quoted
  | bytes b => Bytes.quoted b

/-- The beginnings of the path that end before a separator, and the path itself: the directories
to create so that the path is one. -/
def chain : Path → List Path
  | text t => (beginnings slash t).map text
  | bytes b => (beginnings slashByte b).map bytes

end Path

/-- The path of `name` in a directory. An absolute name stands for itself, and nothing is put
between an empty directory and the name. -/
def Text.joinPath (directory name : Text) : Text :=
  if name.head? = some slash then name
  else if directory.isEmpty || directory.getLast? = some slash then directory ++ name
  else directory ++ slash :: name

end Launcher
