import Launcher.Launch
import Launcher.Proofs.Record
import Launcher.Proofs.Run.Exec
import Launcher.Session

/-!
# Histories of launches

The launcher is invoked again and again on one machine, each time in another environment and from
another working directory. What one run leaves of the tree, the next one finds.

## Main definitions

* `Launcher.Session.world` — the world in which a run in a session begins.
* `Launcher.Invocation` — what a run of the launcher is invoked with.
* `Launcher.Session.Step` — one run in a session.
* `Launcher.Session.history` — runs one after the other.

## Main results

* `Launcher.Session.history_induction` — what every run preserves, a history preserves.
-/

namespace Launcher

/-- What a run of the launcher is invoked with: the tokens behind its name, and what it finds around
it apart from the tree. The tokens are words that the system hands over, and the working directory
is named from the root. -/
structure Invocation where
  tokens : List Text
  environment : Environment
  logThreshold : Int
  workingDirectory : Option Text
  userId : Int
  accounts : List Account
  umask : Nat
  terminal : Terminal
  words : ∀ token ∈ tokens, IsArgument token
  rooted : ∀ directory ∈ workingDirectory, directory.head? = some slash

namespace Session

open Launcher.Action

/-- The world in which a run in a session begins. -/
def world (s : Session) : World := { machine := s.machine, process := s.process }

/-- What can be seen of a run is what it does to the world in which it begins. -/
theorem perform_eq (s : Session) (action : Action Int) :
    s.perform action =
      ({ result := (exec action s.world).1
         process := (exec action s.world).2.process
         changes := sortedChanges s.machine.tree (exec action s.world).2.machine.tree },
       { s with machine := (exec action s.world).2.machine }) := rfl

/-- The session as an invocation finds it, with the tree and the planned faults that it has. -/
def enter (s : Session) (invocation : Invocation) : Session where
  machine :=
    { s.machine with
      workingDirectory := invocation.workingDirectory
      userId := invocation.userId
      accounts := invocation.accounts
      umask := invocation.umask
      terminal := invocation.terminal }
  environment := invocation.environment
  logThreshold := invocation.logThreshold

/-- One run of the launcher in a session. -/
structure Step where
  before : Session
  invocation : Invocation

namespace Step

variable (step : Step)

/-- The world in which the run begins. -/
def world : World :=
  let entered := step.before.enter step.invocation
  { machine := entered.machine, process := entered.process }

/-- What can be seen of the run, and the session that it leaves. -/
def outcome : Observation Int × Session :=
  (step.before.enter step.invocation).perform (Launch.main step.invocation.tokens)

/-- How the run ends: with an exit code, or as another program. -/
def result : Except Stop Int := step.outcome.1.result

/-- What the run has written to its output. -/
def output : Stream := step.outcome.1.process.output

/-- The session that the run leaves. -/
def after : Session := step.outcome.2

/-- What can be seen of a run is how its action ends in the world in which the run begins. -/
theorem exec_main_world :
    ∃ w, exec (Launch.main step.invocation.tokens) step.world = (step.result, w) ∧
      w.machine = step.after.machine ∧ w.process.output = step.output :=
  ⟨(exec (Launch.main step.invocation.tokens) step.world).2, rfl, rfl, rfl⟩

end Step

/-- The runs of the launcher with these invocations, one after the other. -/
def history : Session → List Invocation → List Step
  | _, [] => []
  | s, invocation :: invocations =>
      let step : Step := ⟨s, invocation⟩
      step :: history step.after invocations

/-- **What every run preserves, a history preserves.** What is preserved may speak of the session
and of the runs so far. -/
theorem history_induction {P : List Step → Session → Prop} {s : Session}
    {invocations : List Invocation} {earlier later : List Step} {step : Step} (start : P [] s)
    (next : ∀ past, ∀ step ∈ s.history invocations,
      P past step.before → P (past ++ [step]) step.after)
    (h : s.history invocations = earlier ++ step :: later) : P earlier step.before := by
  induction earlier generalizing P s invocations with
  | nil =>
    cases invocations with
    | nil => cases h
    | cons invocation invocations =>
      obtain rfl := (List.cons.inj h).1
      exact start
  | cons first earlier ih =>
    cases invocations with
    | nil => cases h
    | cons invocation invocations =>
      obtain ⟨rfl, htail⟩ := List.cons.inj h
      -- The first run belongs to the past of all others.
      refine ih (P := fun past => P (_ :: past)) ?_ ?_ htail
      · exact next [] _ List.mem_cons_self start
      · intro past step hstep
        exact next (_ :: past) step (List.mem_cons_of_mem _ hstep)

/-! ### A machine with one program -/

/-- A machine with nothing on it but one program. -/
def onlyTrue : Session where
  machine :=
    { tree := Tree.empty.plant (Location.ofPath (lit "/bin/true").encode) (.file 0o755 [])
      workingDirectory := none, userId := 1000, accounts := [], umask := 0o022
      terminal := ⟨false, false, none⟩, faults := [], made := [] }
  environment := []
  logThreshold := Level.warning

end Session

end Launcher
