import Launcher.Proofs.Launch.Faultless
import Launcher.Proofs.Session.History

/-!
# From a session to a program

A launch in a session without planned faults becomes the program of its command, if nothing stands
in the way of that: there are two checks of the program, one when it is looked for and one when it
is executed, and what the launch does in between does not bring them apart.

## Main definitions

* `Launcher.Session.CanLaunch` — nothing stands in the way of the program.
* `Launcher.Session.BecomesProgram` — how the launch ends then.

## Main results

* `Launcher.Session.becomes_program` — the launch becomes the program.
-/

namespace Launcher.Session

open Launcher.Action Launch

variable {s : Session} {tokens : List Text} {settings : Settings} {plan : Plan} {prepared : World}
  {path : Text}

/-- In a session without planned faults nothing stands in the way of the program at the path: the
command line asks no question, has no zero bytes and is not handed over; a plan can be made; its
output base can be created; and in the world that this leaves the program can take over. -/
structure CanLaunch (s : Session) (tokens : List Text) (settings : Settings) (plan : Plan)
    (prepared : World) (path : Text) : Prop where
  faults : s.machine.faults = []
  query : Query.ofTokens tokens = none
  zero : ∀ token ∈ tokens, Symbol.char '\x00' ∉ token
  read : Settings.read s.environment = .ok settings
  recipient : settings.recipient? = none
  canPlan : CanPlan settings tokens plan s.world
  created : exec (Directory.create (.text plan.base) plan.directoryMode) s.world =
    (.ok (.ok ⟨⟩), prepared)
  canTakeOver : CanTakeOver plan path prepared

/-- The launch becomes the program at the path, with the words of the command, the environment of
the session with the port, and nothing written. The record is a new file that holds the command. -/
structure BecomesProgram (s : Session) (plan : Plan) (path : Text)
    (outcome : Observation Int × Session) : Prop where
  result : outcome.1.result = .error (.replaced
    { path, arguments := plan.command
      environment := programEnvironment plan.options s.environment, output := [], errors := [] })
  trace : ∃ calls, outcome.1.process.trace = calls ++ [(.execute path plan.command, .ok)]
  environment : outcome.1.process.environment = programEnvironment plan.options s.environment
  output : outcome.1.process.output = .empty
  record : outcome.2.machine.status? (.text (plan.base.joinPath recordName)) =
    some (.file (maskMode 0o755 s.machine.umask) (Record.encode plan.command))

/-- **The work of the launch comes to an end in the program.** -/
theorem exec_work_of_canLaunch (h : CanLaunch s tokens settings plan prepared path) :
    ∃ w, exec (work settings tokens) (s.world.withThreshold settings.logLevel) =
        (.error (.replaced (w.image path plan.command)), w) ∧ TakenOver plan path s.world w := by
  obtain ⟨w₁, hplan, hkept⟩ := exec_makePlan h.canPlan h.faults rfl
    (rfl : Undisturbed s.world (s.world.withThreshold settings.logLevel))
  obtain ⟨w₂, hcreate, halike⟩ := (Directory.agree_create _ _).exec_eq_ok
    (hkept.alike h.faults rfl) h.created
  have hbase : exec (createBase plan) w₁ = (.ok ⟨⟩, w₂) := by
    rw [createBase, exec_bind_of_ok hcreate]
    rfl
  have hcreateKeeps : Keeps (World.besides [.tree, .log, .trace]) []
      (Directory.create (.text plan.base) plan.directoryMode) := Directory.keeps_create _ _
  have hsame : w₂.besides [.tree, .threshold, .log, .trace] =
      s.world.besides [.tree, .threshold, .log, .trace] :=
    (World.besides_eq_of_among (hcreateKeeps.view_eq_of_exec hcreate)).trans
      (World.besides_eq_of_among hkept)
  have hzero : ∀ word ∈ plan.command, Symbol.char '\x00' ∉ word := fun word hword =>
    h.zero word (CommandLine.mem_tokens_of_mem_command h.canPlan.line hword)
  obtain ⟨w₃, hproceed, htaken⟩ := exec_proceed_of_canTakeOver (h.canTakeOver.of_alike halike)
    ((World.faults_eq_of_besides_eq hsame).trans h.faults)
    (Directory.isDirectory_of_exec_create hcreate) hzero
  refine ⟨w₃, ?_, htaken.of_besides_eq hsame⟩
  unfold work
  rw [exec_bind_of_ok hplan, exec_bind_of_ok hbase, hproceed]

/-- **A launch becomes the program of its command** if nothing stands in the way of that. -/
theorem becomes_program (h : CanLaunch s tokens settings plan prepared path) :
    BecomesProgram s plan path (s.perform (Launch.main tokens)) := by
  obtain ⟨w, hwork, htaken⟩ := exec_work_of_canLaunch h
  have hmain : exec (Launch.main tokens) s.world =
      (.error (.replaced (w.image path plan.command)), w) := by
    rw [exec_main_of_recipient?_eq_none h.query h.read h.recipient]
    exact exec_exitCode_of_replaced hwork
  have himage : w.image path plan.command =
      { path, arguments := plan.command
        environment := programEnvironment plan.options s.environment
        output := [], errors := [] } := by
    rw [World.image, htaken.environment, htaken.output, htaken.errors]
    rfl
  rw [perform_eq, hmain, himage]
  exact ⟨rfl, htaken.trace, htaken.environment, htaken.output, htaken.record⟩

/-! ### A launch with a port -/

/-- A session of a user with a program to launch. -/
def launchable : Session :=
  { onlyTrue with environment := [("USER", lit "user"), ("PATH", lit "/sbin:/bin")] }

/-- The program is to be launched with an empty argument and one that is no UTF-8. -/
def launchableTokens : List Text :=
  [lit "--output_base=/base", lit "--command_port=8080", lit "--", lit "true", [],
    [.raw (Fin.last 0x7F)]]

/-- The plan for these tokens. -/
def launchablePlan : Plan where
  options := { StartupOptions.none with outputBase := lit "/base", commandPort := some 8080 }
  command := [lit "true", [], [.raw (Fin.last 0x7F)]]
  user := lit "user"
  base := lit "/base"
  directoryMode := 0o755

/-- The settings of a session without variables of the launcher. -/
def launchableSettings : Settings where
  outputBase := none
  directoryMode := 0o755
  logLevel := Level.warning
  delegate := none
  delegated := false

/-- The world in which the output base has been created. -/
def launchableWorld : World :=
  (exec (Directory.create (.text (lit "/base")) 0o755) launchable.world).2

/-- The settings and the tokens of this session make its plan. -/
theorem canPlan_launchable :
    CanPlan launchableSettings launchableTokens launchablePlan launchable.world where
  line := eq_ok_of_toOption (by decide +kernel)
  user := eq_ok_of_toOption (by decide)
  base := ⟨lit "/base", eq_ok_of_toOption (by decide), eq_ok_of_toOption (by decide)⟩
  directoryMode := rfl

/-- The program of the plan can take over. -/
theorem canTakeOver_launchable : CanTakeOver launchablePlan (lit "/bin/true") launchableWorld where
  length_lt := by decide
  record := by decide
  program := ⟨lit "true", [[], [.raw (Fin.last 0x7F)]], rfl, by decide⟩
  elsewhere := by
    rintro ⟨target, target', hprogram, hrecord, hsame⟩
    rw [Machine.location_of_resolve (by decide) hprogram,
      Machine.location_of_resolve (by decide) hrecord] at hsame
    exact absurd hsame (by decide)

/-- So this session can launch its program. -/
theorem canLaunch_launchable :
    CanLaunch launchable launchableTokens launchableSettings launchablePlan launchableWorld
      (lit "/bin/true") where
  faults := rfl
  query := by decide
  zero := by decide
  read := eq_ok_of_toOption (by decide)
  recipient := rfl
  canPlan := canPlan_launchable
  created := Prod.ext (eq_ok_ok_of_toOption (by decide)) rfl
  canTakeOver := canTakeOver_launchable

/-- The program is launched, with its arguments as they are. -/
theorem becomes_program_true :
    CanLaunch launchable launchableTokens launchableSettings launchablePlan launchableWorld
        (lit "/bin/true") ∧
      BecomesProgram launchable launchablePlan (lit "/bin/true")
        (launchable.perform (Launch.main launchableTokens)) :=
  ⟨canLaunch_launchable, becomes_program canLaunch_launchable⟩

end Launcher.Session
