import Launcher.Machine.Errno
import Launcher.Machine.Path

/-!
# System calls and their faults

Calls are recorded with what they answered, and may be struck by faults that are planned ahead. A
fault names a kind of call, and may ask for the n-th call of that kind or for a path spelled in one
way; among several that match, the first in the plan strikes.

## Main definitions

* `Launcher.Call` and `Launcher.Answer` — the entries of a trace.
* `Launcher.Fault` — one entry of a plan of faults.
* `Launcher.Fault.strike?` — what happens to a call under a plan.
* `Launcher.Fault.lastNumber` — the last call that a plan tells from those behind it.
-/

namespace Launcher

/-- The kinds of calls that are counted and can be struck by faults. -/
inductive CallKind where
  | workingDirectory
  | makeDirectory
  | unlink
  | openFile
  | read
  | write
  | close
  | execute
deriving DecidableEq, Repr

/-- A call with its arguments. -/
inductive Call where
  | workingDirectory
  | makeDirectory (path : Path) (mode : Int)
  | unlink (path : Path)
  | openToRead (path : Path)
  | openToWrite (path : Path)
  | read (size : Nat)
  | write (length : Nat)
  | close
  | execute (path : Text) (arguments : List Text)
deriving DecidableEq, Repr

/-- What a call answered: success, a number of bytes, or an error. -/
inductive Answer where
  | ok
  | count (n : Nat)
  | error (e : Errno)
deriving DecidableEq, Repr

namespace Call

/-- The kind under which the call is counted. -/
def kind : Call → CallKind
  | workingDirectory => .workingDirectory
  | makeDirectory _ _ => .makeDirectory
  | unlink _ => .unlink
  | openToRead _ => .openFile
  | openToWrite _ => .openFile
  | read _ => .read
  | write _ => .write
  | close => .close
  | execute _ _ => .execute

/-- The path that the call was given, as it was spelled. -/
def path? : Call → Option Path
  | makeDirectory path _ => some path
  | unlink path => some path
  | openToRead path => some path
  | openToWrite path => some path
  | execute path _ => some (.text path)
  | workingDirectory | read _ | write _ | close => none

/-- Asking for the working directory leaves no trace. -/
def isTraced : Call → Bool
  | workingDirectory => false
  | _ => true

end Call

/-- What a fault does to a call: it fails without effect, or it moves at most so many bytes. -/
inductive Strike where
  | fail (e : Errno)
  | short (limit : Nat)
deriving DecidableEq, Repr

/-- A planned fault. -/
structure Fault where
  kind : CallKind
  /-- The number of the call among those of its kind, from one on; any if absent. -/
  nth : Option Nat
  /-- The path of the call; any, or none, if absent. -/
  path : Option Path
  strike : Strike
deriving DecidableEq, Repr

namespace Fault

/-- Whether the fault strikes the call that is the `count`-th of its kind. -/
def hits (fault : Fault) (call : Call) (count : Nat) : Bool :=
  fault.kind == call.kind && fault.nth.all (· == count) &&
    fault.path.all (some · == call.path?)

/-- What the plan does to the call that is the `count`-th of its kind. -/
def strike? (plan : List Fault) (call : Call) (count : Nat) : Option Strike :=
  (plan.find? (·.hits call count)).map (·.strike)

/-- The last number for which a fault asks that can strike such calls, or zero if none asks for one.
Behind it the plan does the same to all of them. -/
def lastNumber (plan : List Fault) (call : Call) : Nat :=
  (plan.filterMap fun fault => fault.nth.filter (fault.hits call ·)).max?.getD 0

end Fault

end Launcher
