import Launcher.Proofs.Launch.LostRecord
import Launcher.Proofs.Session.Spelling
import Launcher.Proofs.Session.TakeOver

/-!
# Launches without a record

The record of a command may fail at each of its calls: the old one cannot be removed, the new one
cannot be opened, is written in part, or cannot be closed. None of that changes what is launched.
The process becomes the program that it would have become without these faults, with the same words,
the same environment and the same output.

## Main definitions

* `Launcher.Session.SparesLaunch` — faults that strike no calls but those for the record.
* `Launcher.Session.BecomesSame` — two processes that have become the same program.

## Main results

* `Launcher.Session.becomes_same_program` — the record does not matter for the program.
-/

namespace Launcher.Session

open Launcher.Action Launch

variable {s : Session} {tokens : List Text} {image : Image}

/-- The faults of the session strike no calls of the run but those that remove, open, write or close
a file, which are those for the record. -/
def SparesLaunch (s : Session) (tokens : List Text) : Prop :=
  s.world.StrikesOnly recordKinds (exec (Launch.main tokens) s.world).2

/-- The file of the record is another one than the program that the process has become, wherever the
run has chosen to keep the record. -/
def KeepsRecordElsewhere (s : Session) (tokens : List Text) (image : Image) : Prop :=
  ∀ base ∈ chosenBase? tokens s.world,
    ¬(s.perform (Launch.main tokens)).2.machine.SamePlace image.path.encode
      (base.joinPath recordName).encode

/-- The process has become the program, with the environment and the output of the other process. -/
structure BecomesSame (image : Image) (other outcome : Observation Int × Session) : Prop where
  result : outcome.1.result = .error (.replaced image)
  environment : outcome.1.process.environment = other.1.process.environment
  output : outcome.1.process.output = other.1.process.output

/-- **A record that fails never changes what is launched.** Where a run without faults becomes a
program that is not the record, it becomes the same program under faults that strike no calls but
those for the record. -/
theorem becomes_same_program (hspares : s.SparesLaunch tokens)
    (hlaunch : ((s.withFaults []).perform (Launch.main tokens)).1.result = .error (.replaced image))
    (helsewhere : (s.withFaults []).KeepsRecordElsewhere tokens image) :
    BecomesSame image ((s.withFaults []).perform (Launch.main tokens))
      (s.perform (Launch.main tokens)) := by
  have hcalm : exec (Launch.main tokens) s.world.calm =
      (.error (.replaced image), (exec (Launch.main tokens) s.world.calm).2) := Prod.ext hlaunch rfl
  obtain ⟨hresult, henvironment, houtput⟩ := endsAs_exec_main hspares hcalm helsewhere
  exact ⟨hresult, henvironment, houtput⟩

/-! ### A record that is written in part -/

/-- A session in which a write stores two bytes at most, and no file can be closed. -/
def losing : Session :=
  launchable.withFaults
    [⟨.write, none, none, .short 2⟩, ⟨.close, none, none, .fail .accessDenied⟩]

/-- What the launch becomes. -/
def launchedImage : Image where
  path := lit "/bin/true"
  arguments := [lit "true", [], [.raw (Fin.last 0x7F)]]
  environment := [("LAUNCHKIT_COMMAND_PORT", lit "8080"), ("USER", lit "user"),
    ("PATH", lit "/sbin:/bin")]
  output := []
  errors := []

/-- Without its faults the session is the one in which the program is launched. -/
theorem withFaults_losing : losing.withFaults [] = launchable := rfl

/-- None of the faults of this session strikes the launch itself. -/
theorem sparesLaunch_losing : losing.SparesLaunch launchableTokens :=
  World.strikesOnly_of_plan (by decide) _

/-- Without faults the session becomes the program. -/
theorem result_launchable :
    (launchable.perform (Launch.main launchableTokens)).1.result =
      .error (.replaced launchedImage) := by
  obtain ⟨w, hwork, htaken⟩ := exec_work_of_canLaunch canLaunch_launchable
  have hmain : exec (Launch.main launchableTokens) launchable.world =
      (.error (.replaced (w.image (lit "/bin/true") launchablePlan.command)), w) := by
    rw [exec_main_of_recipient?_eq_none canLaunch_launchable.query canLaunch_launchable.read
      canLaunch_launchable.recipient]
    exact exec_exitCode_of_replaced hwork
  have himage : w.image (lit "/bin/true") launchablePlan.command = launchedImage := by
    rw [World.image, htaken.environment, htaken.output, htaken.errors]
    decide
  rw [perform_eq, hmain, himage]

/-- The program of this session is not its record. -/
theorem keepsRecordElsewhere_launchable :
    launchable.KeepsRecordElsewhere launchableTokens launchedImage := by
  have hbase : chosenBase? launchableTokens launchable.world = some (lit "/base") := by
    decide +kernel
  rintro base hchosen ⟨target, target', hprogram, hrecord, hsame⟩
  rw [hbase] at hchosen
  obtain rfl := Option.some.inj hchosen
  rw [Machine.location_of_resolve (by decide) hprogram,
    Machine.location_of_resolve (by decide) hrecord] at hsame
  exact absurd hsame (by decide)

/-- The program is launched although no more than two bytes of its record are written. -/
theorem becomes_same_program_losing :
    losing.SparesLaunch launchableTokens ∧
      ((losing.withFaults []).perform (Launch.main launchableTokens)).1.result =
        .error (.replaced launchedImage) ∧
      (losing.withFaults []).KeepsRecordElsewhere launchableTokens launchedImage ∧
      BecomesSame launchedImage ((losing.withFaults []).perform (Launch.main launchableTokens))
        (losing.perform (Launch.main launchableTokens)) := by
  have hlaunch := result_launchable
  have helsewhere := keepsRecordElsewhere_launchable
  rw [← withFaults_losing] at hlaunch helsewhere
  exact ⟨sparesLaunch_losing, hlaunch, helsewhere,
    becomes_same_program sparesLaunch_losing hlaunch helsewhere⟩

end Launcher.Session
