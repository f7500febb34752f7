import Launcher.Proofs.Launch.WorkingDirectory
import Launcher.Proofs.Session.TakeOver

/-!
# Sessions in another working directory

The working directory is a part of the machine that a session starts its processes in. A run that
looks for everything from the root does not depend on it: in another working directory, and in one
that has been deleted, it is the same to the last call.

## Main definitions

* `Launcher.Session.inDirectory` — the session in another working directory.

## Main results

* `Launcher.Session.perform_main_inDirectory` — a run that looks for everything from the root.
-/

namespace Launcher.Session

open Launcher.Action Launch

/-- The session in another working directory, or in one that has been deleted. -/
def inDirectory (s : Session) (directory : Option Text) : Session :=
  { s with machine := s.machine.inDirectory directory }

/-- **A run that looks for everything from the root does not depend on the working directory.** In
every other one, and in one that has been deleted, it comes to the same end, as the same program or
with the same exit code; it writes the same, makes the same calls, and leaves the same tree and the
same environment. So a deleted working directory is no error for it.

**Proof sketch.** `Launcher.Launch.ignoresDirectory_main`, for the world of a fresh process: all
that is observed of a run is its result, its process, and the trees before and after it, and the
working directory is in none of these. -/
theorem perform_main_inDirectory {s : Session} {tokens : List Text}
    (h : LooksFromRoot tokens s.world) (directory : Option Text) :
    (s.inDirectory directory).perform (Launch.main tokens) =
      ((s.perform (Launch.main tokens)).1,
        (s.perform (Launch.main tokens)).2.inDirectory directory) := by
  have hsame : exec (Launch.main tokens) (s.inDirectory directory).world =
      ((exec (Launch.main tokens) s.world).1,
        (exec (Launch.main tokens) s.world).2.inDirectory directory) :=
    ignoresDirectory_main h directory
  rw [perform_eq, perform_eq, hsame]
  rfl

/-- A program that is looked for in the directories `/sbin` and `/bin`, with an output base from the
root, is launched from everywhere. -/
theorem perform_main_inDirectory_launchable :
    LooksFromRoot launchableTokens launchable.world ∧
      (launchable.perform (Launch.main launchableTokens)).1.process.trace.getLast? =
        some (.execute (lit "/bin/true") launchablePlan.command, .ok) ∧
      ∀ directory, (launchable.inDirectory directory).perform (Launch.main launchableTokens) =
        ((launchable.perform (Launch.main launchableTokens)).1,
          (launchable.perform (Launch.main launchableTokens)).2.inDirectory directory) := by
  have hread : Settings.read launchable.world.process.environment = .ok launchableSettings :=
    canLaunch_launchable.read
  have hroot : LooksFromRoot launchableTokens launchable.world := by
    refine ⟨fun settings delegate h hrecipient => ?_, fun settings base w' h _ hbase => ?_,
      fun options program arguments h => .inr ?_⟩
    · obtain rfl : launchableSettings = settings := Except.ok.inj (hread.symm.trans h)
      cases hrecipient
    · obtain rfl : launchableSettings = settings := Except.ok.inj (hread.symm.trans h)
      have hraw : (exec (rawBase launchableSettings launchableTokens)
          (launchable.world.withThreshold launchableSettings.logLevel)).1 = .ok (lit "/base") :=
        eq_ok_of_toOption (by decide +kernel)
      obtain rfl : lit "/base" = base := Except.ok.inj (hraw.symm.trans (congrArg Prod.fst hbase))
      rfl
    · obtain ⟨-, hcommand⟩ :=
        CommandLine.mk.inj (Except.ok.inj (canPlan_launchable.line.symm.trans h))
      obtain ⟨rfl, -⟩ := List.cons.inj hcommand
      decide
  exact ⟨hroot, by decide +kernel, perform_main_inDirectory hroot⟩

/-- With an output base that is not from the root the working directory matters. -/
example :
    ((launchable.inDirectory none).perform
        (Launch.main [lit "--output_base=base"])).1.result.toOption =
      some ExitCode.environment.number ∧
    ((launchable.inDirectory (some (lit "/bin"))).perform
        (Launch.main [lit "--output_base=base"])).1.result.toOption =
      some ExitCode.success.number := by
  decide +kernel

end Launcher.Session
