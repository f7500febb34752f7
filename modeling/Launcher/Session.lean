import Launcher.Run.World

/-!
# Sessions

A session is a machine that several processes use one after the other. Each process starts with the
environment and the log threshold of the session; what it does to the machine stays.

## Main definitions

* `Launcher.Session` and `Launcher.Session.perform`.
* `Launcher.Machine.place` and `Launcher.Machine.removeBelow` — changes from the outside.
-/

namespace Launcher

/-- A machine in use, with what each new process starts from. -/
structure Session where
  machine : Machine
  environment : Environment
  logThreshold : Int
deriving Repr

/-- What came of an action, and what can be seen of it. -/
structure Observation (α : Type) where
  result : Except Stop α
  process : Process
  /-- The paths that hold other nodes than before, in order, with their new nodes. -/
  changes : List (Text × Option Node)

namespace Machine

/-- The machine with a node put at the path, and with the directories on the way to it. -/
def place (m : Machine) (path : Text) (node : Node) : Machine :=
  { m with tree := m.tree.plant (Location.ofPath path.encode) node }

/-- The machine without the node at the path and all below it. -/
def removeBelow (m : Machine) (path : Text) : Machine :=
  { m with tree := m.tree.eraseBelow (Location.ofPath path.encode) }

end Machine

namespace Session

/-- A fresh process of the session. -/
def process (s : Session) : Process := .fresh s.environment s.logThreshold

/-- The differences between two trees, by path. -/
def sortedChanges (before after : Tree) : List (Text × Option Node) :=
  let changes := (before.changes after).map fun (location, node) =>
    (Text.decode location.path, node)
  changes.mergeSort fun a b => a.1.le b.1

/-- Lets a fresh process act. -/
def perform {α : Type} (s : Session) (action : Action α) : Observation α × Session :=
  let (result, world) := action.run.run { machine := s.machine, process := s.process }
  ({ result, process := world.process, changes := sortedChanges s.machine.tree world.machine.tree },
   { s with machine := world.machine })

/-- Changes the machine from the outside. -/
def change (s : Session) (f : Machine → Machine) : Observation Unit × Session :=
  s.perform (modify fun w => { w with machine := f w.machine })

end Session

end Launcher
