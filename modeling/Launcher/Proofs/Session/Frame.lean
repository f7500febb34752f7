import Launcher.Proofs.Launch.Frame
import Launcher.Proofs.Session.History

/-!
# What a run leaves in a session

Wherever a run breaks off, it has touched nothing but the way to its output base and the record in
it; and the record is touched by no run but one that starts a program.

## Main definitions

* `Launcher.Session.SparesRecord` — the runs that do not touch the record.

## Main results

* `Launcher.Session.leaves_after_run` — what a run can leave at each location.
-/

namespace Launcher.Session

open Launcher.Action Launch

variable {s : Session} {tokens : List Text}

/-- The run answers a question, reports, has bad arguments, is handed over, or ends without its
program. -/
inductive SparesRecord (s : Session) (tokens : List Text) : Prop where
  | question {query : Query} (h : Query.ofTokens tokens = some query)
  | report {options : StartupOptions} (h : CommandLine.read tokens = .ok { options, command := [] })
  | refused {failure : Failure} (h : CommandLine.read tokens = .error failure)
  | badArguments
      (h : (s.perform (Launch.main tokens)).1.result = .ok ExitCode.badArguments.number)
  | handedOver {settings : Settings} {delegate : Text}
      (read : Settings.read s.environment = .ok settings)
      (given : settings.recipient? = some delegate)
  | notFound {program : Text} {w : World}
      (h : exec (Launch.run tokens) s.world = (.error (.failed (Launch.notFound program)), w))

/-- Such a run starts nothing. -/
theorem startedCommand?_eq_none_of_sparesRecord (h : s.SparesRecord tokens) :
    startedCommand? tokens s.world = none := by
  refine Option.eq_none_iff_forall_ne_some.2 fun command hstarted => ?_
  obtain ⟨hquery, hresolved⟩ := startedCommand?_eq_some.1 hstarted
  obtain ⟨hne, ⟨options, hread⟩, settings, hsettings, hrecipient⟩ :=
    of_resolvedCommand?_eq_some hresolved
  cases h with
  | question h =>
    rw [hquery] at h
    cases h
  | report h =>
    rw [hread] at h
    cases h
    exact hne rfl
  | refused h =>
    rw [hread] at h
    cases h
  | badArguments h =>
    have hexec : exec (Launch.main tokens) s.world =
        (.ok ExitCode.badArguments.number, (exec (Launch.main tokens) s.world).2) :=
      Prod.ext h rfl
    rw [resolvedCommand?_eq_none_of_exec_main (.inr rfl) hquery hexec] at hresolved
    cases hresolved
  | handedOver read given =>
    have hsame : Except.ok settings = Except.ok _ := hsettings.symm.trans read
    cases hsame
    rw [hrecipient] at given
    cases given
  | notFound h =>
    rw [resolvedCommand?_eq_none_of_exec_run h] at hresolved
    cases hresolved

/-- **What a run leaves.** Whatever the tokens, the environment, the tree and the planned faults,
and however the run ends: at each location it leaves what was there, or a new directory on the way
to its output base, or it has touched the record of a command whose program it had found. A run that
spares the record starts nothing, and leaves new directories at most. -/
theorem leaves_after_run (s : Session) (tokens : List Text) :
    let after := (s.perform (Launch.main tokens)).2
    (∀ location, MayLeave tokens s.world after.machine location (s.machine.tree.get? location)
      (after.machine.tree.get? location)) ∧
    (s.SparesRecord tokens → startedCommand? tokens s.world = none ∧
      ∀ location, after.machine.tree.get? location = s.machine.tree.get? location ∨
        s.machine.tree.get? location = none ∧
          ∃ bits, after.machine.tree.get? location = some (.directory bits)) := by
  have hleaves : ∀ location, MayLeave tokens s.world (exec (Launch.main tokens) s.world).2.machine
      location (s.machine.tree.get? location)
      ((exec (Launch.main tokens) s.world).2.machine.tree.get? location) := fun location =>
    (leaves_exec_main tokens s.world location).of_made
  refine ⟨hleaves, fun hspares => ?_⟩
  have hnone := startedCommand?_eq_none_of_sparesRecord hspares
  exact ⟨hnone, fun location => (hleaves location).of_startedCommand?_eq_none hnone⟩

/-! ### A report that creates its output base -/

/-- A session of a user who asks for a report. -/
def asking : Session := { onlyTrue with environment := [("USER", lit "user")] }

/-- The report is asked for on an output base that is not there yet. -/
def askingTokens : List Text := [lit "--output_base=/cache/base", lit "--json"]

/-- The report spares the record: of its output base it leaves the two directories. -/
theorem leaves_after_run_report :
    asking.SparesRecord askingTokens ∧
      (∀ location, (asking.perform (Launch.main askingTokens)).2.machine.tree.get? location =
          asking.machine.tree.get? location ∨
        asking.machine.tree.get? location = none ∧ ∃ bits,
          (asking.perform (Launch.main askingTokens)).2.machine.tree.get? location =
            some (.directory bits)) ∧
      (asking.perform (Launch.main askingTokens)).2.machine.tree.get?
        (Location.ofPath (lit "/cache/base").encode) = some (.directory 0o755) := by
  have hread : CommandLine.read askingTokens = .ok
      { options := { StartupOptions.none with outputBase := lit "/cache/base", json := true }
        command := [] } := eq_ok_of_toOption (by decide +kernel)
  have hspares : asking.SparesRecord askingTokens := .report hread
  exact ⟨hspares, ((leaves_after_run asking askingTokens).2 hspares).2, by decide +kernel⟩

end Launcher.Session
