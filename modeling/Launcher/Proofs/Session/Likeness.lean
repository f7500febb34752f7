import Launcher.Proofs.Environment
import Launcher.Proofs.Launch.Alike
import Launcher.Proofs.Session.History

/-!
# Launches in environments that differ in few variables

A launch reads its settings from some variables of the environment and looks at some others later
on. Two launches whose environments differ in a variable that neither of them minds come to the same
end, whether they do their work or hand the command line over.

## Main definitions

* `Launcher.Session.EndsLike` — runs with the same end, in environments that differ in few
  variables.

## Main results

* `Launcher.Launch.alike_exec_main` — launches that do their work in worlds that are alike.
* `Launcher.Launch.alike_exec_main_of_recipient` — launches that are handed over in such worlds.
* `Launcher.Session.endsLike_of_alike` — from worlds that are alike to sessions.
-/

namespace Launcher

open Launcher.Action Launch

namespace Launch

variable {E : Environment → Environment → Prop} {settings settings' : Settings}
  {tokens : List Text} {w w' : World}

/-- Environments that differ in variables to which a launch does not look. -/
theorem isLikeness_agreeBeside {hidden : List String} (h : ∀ name ∈ consulted, name ∉ hidden) :
    IsLikeness (Environment.AgreeBeside hidden) where
  lookup_eq _ _ henv name hname := henv name (h name hname)
  set_port _ _ value henv := henv.set portVariable value

/-- **Runs that are not handed over come to the same end** in worlds that are alike. -/
theorem alike_exec_main (hE : IsLikeness E)
    (hquery : Query.ofTokens tokens = none) (hw : w.Alike E w')
    (h : Settings.read w.process.environment = .ok settings)
    (h' : Settings.read w'.process.environment = .ok settings')
    (hrecipient : settings.recipient? = none) (hrecipient' : settings'.recipient? = none)
    (hbase : settings'.outputBase = settings.outputBase)
    (hmode : settings'.directoryMode = settings.directoryMode) :
    ResultsAlike E (exec (Launch.main tokens) w).1 (exec (Launch.main tokens) w').1 ∧
      (exec (Launch.main tokens) w).2.Alike E (exec (Launch.main tokens) w').2 := by
  rw [exec_main_of_recipient?_eq_none hquery h hrecipient,
    exec_main_of_recipient?_eq_none hquery h' hrecipient']
  refine agree_exitCode (agree_expectingFatal (agree_work hE hbase hmode)) _ _ ?_
  exact hw.of_process hw.environment hw.output_eq hw.trace_eq

/-- Executing a program or ending comes to the same end in worlds that are alike. -/
theorem agree_executeOrEnd (program : Text) (arguments : List Text) (message : Text) :
    Agree E (executeOrEnd program arguments message) (executeOrEnd program arguments message) :=
  Agree.bind (agree_execute program arguments) fun _ => Agree.fail _

/-- **Runs that are handed over to the same delegate come to the same end** in worlds that are
alike. -/
theorem alike_exec_main_of_recipient {delegate : Text}
    (hset : ∀ env env' value, E env env' →
      E (env.set Settings.delegatedVariable value) (env'.set Settings.delegatedVariable value))
    (hquery : Query.ofTokens tokens = none) (hw : w.Alike E w')
    (h : Settings.read w.process.environment = .ok settings)
    (h' : Settings.read w'.process.environment = .ok settings')
    (hrecipient : settings.recipient? = some delegate)
    (hrecipient' : settings'.recipient? = some delegate) :
    ResultsAlike E (exec (Launch.main tokens) w).1 (exec (Launch.main tokens) w').1 ∧
      (exec (Launch.main tokens) w).2.Alike E (exec (Launch.main tokens) w').2 := by
  obtain ⟨log, hrun⟩ := exec_run_of_recipient?_eq_some tokens h hrecipient
  obtain ⟨log', hrun'⟩ := exec_run_of_recipient?_eq_some tokens h' hrecipient'
  rw [main_of_no_query hquery, exec_exitCode_congr hrun, exec_exitCode_congr hrun']
  refine agree_exitCode (agree_expectingFatal (agree_executeOrEnd _ _ _)) _ _ ?_
  exact hw.of_process (hset _ _ _ hw.environment) (congrArg Stream.flush hw.output_eq) hw.trace_eq

end Launch

namespace Session

variable {s s' : Session}

/-- Two runs have the same end: the same exit code, or the same program with the same arguments.
They have written and called the same, and left the same tree. Their environments differ at most in
these variables. -/
structure EndsLike (hidden : List String) (first second : Observation Int × Session) : Prop where
  result : ResultsAlike (Environment.AgreeBeside hidden) first.1.result second.1.result
  output_eq : second.1.process.output = first.1.process.output
  trace_eq : second.1.process.trace = first.1.process.trace
  environment : Environment.AgreeBeside hidden first.1.process.environment
    second.1.process.environment
  changes_eq : second.1.changes = first.1.changes
  tree_eq : second.2.machine.tree = first.2.machine.tree

/-- Runs that end in worlds that are alike have the same end. -/
theorem endsLike_of_alike {hidden : List String} {action action' : Action Int}
    (htree : s'.machine.tree = s.machine.tree)
    (h : ResultsAlike (Environment.AgreeBeside hidden) (exec action s.world).1
        (exec action' s'.world).1 ∧
      (exec action s.world).2.Alike (Environment.AgreeBeside hidden) (exec action' s'.world).2) :
    EndsLike hidden (s.perform action) (s'.perform action') := by
  obtain ⟨hresult, hworld⟩ := h
  have hafter := World.tree_eq_of_bare_eq hworld.bare_eq
  have hchanges : sortedChanges s'.machine.tree (exec action' s'.world).2.machine.tree =
      sortedChanges s.machine.tree (exec action s.world).2.machine.tree := by rw [htree, hafter]
  rw [perform_eq, perform_eq]
  exact ⟨hresult, hworld.output_eq, hworld.trace_eq, hworld.environment, hchanges, hafter⟩

end Session

end Launcher
