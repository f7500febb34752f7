import Launcher.Proofs.Session.Likeness

/-!
# The level of the log

A variable of the environment sets how much of its work a launch logs. It sets nothing else: with
any two levels a launch makes the same calls, writes the same output and comes to the same end,
whatever faults are planned. What differs is the log, and what is written to the error stream.

## Main results

* `Launcher.Settings.read_of_levels` — the settings under two levels.
* `Launcher.Session.endsLike_of_levels` — a launch under two levels.
-/

namespace Launcher

open Launcher.Action Launch

/-! ## Settings -/

namespace Settings

variable {env env' : Environment} {level level' : Int}

/-- The variable that sets the level of the log. -/
def levelVariable : String := "LAUNCHKIT_LOG_LEVEL"

/-- Another level is all that changes in the settings. Those that cannot be read for another reason
still cannot be read, for the same one. -/
theorem read_of_levels (hagree : Environment.AgreeBeside [levelVariable] env env')
    (hlevel : readLevel (given? env levelVariable) = .ok level)
    (hlevel' : readLevel (given? env' levelVariable) = .ok level') :
    read env' = (read env).map fun settings => { settings with logLevel := level' } := by
  have hgiven : ∀ name, name ∉ [levelVariable] → given? env' name = given? env name :=
    fun name hname => given?_eq (hagree name hname)
  have hread : readLevel (given? env "LAUNCHKIT_LOG_LEVEL") = .ok level := hlevel
  have hread' : readLevel (given? env' "LAUNCHKIT_LOG_LEVEL") = .ok level' := hlevel'
  unfold read
  rw [hgiven "LAUNCHKIT_DIR_MODE" (by decide), hgiven "LAUNCHKIT_OUTPUT_BASE" (by decide),
    hgiven "LAUNCHKIT_DELEGATE" (by decide), hgiven delegatedVariable (by decide), hread, hread']
  rcases readMode (given? env "LAUNCHKIT_DIR_MODE") with v | mode
  · rfl
  · rfl

end Settings

/-! ## Launches -/

namespace Launch

variable {tokens : List Text} {w w' : World} {level level' : Int}

/-- **The level of the log does not matter to a run.** -/
theorem alike_exec_main_of_levels (tokens : List Text)
    (hw : w.Alike (Environment.AgreeBeside [Settings.levelVariable]) w')
    (hlevel : Settings.readLevel
      (Settings.given? w.process.environment Settings.levelVariable) = .ok level)
    (hlevel' : Settings.readLevel
      (Settings.given? w'.process.environment Settings.levelVariable) = .ok level') :
    ResultsAlike (Environment.AgreeBeside [Settings.levelVariable])
        (exec (Launch.main tokens) w).1 (exec (Launch.main tokens) w').1 ∧
      (exec (Launch.main tokens) w).2.Alike (Environment.AgreeBeside [Settings.levelVariable])
        (exec (Launch.main tokens) w').2 := by
  have hE : IsLikeness (Environment.AgreeBeside [Settings.levelVariable]) :=
    isLikeness_agreeBeside (by decide)
  rcases hquery : Query.ofTokens tokens with _ | query
  · have hread := Settings.read_of_levels hw.environment hlevel hlevel'
    rcases hsettings : Settings.read w.process.environment with v | settings
    · rw [hsettings] at hread
      rw [main_of_no_query hquery, exec_exitCode_congr (exec_run_of_read_eq_error hsettings),
        exec_exitCode_congr (exec_run_of_read_eq_error hread)]
      exact agree_exitCode (agree_expectingFatal (Agree.fail _)) w w' hw
    · rw [hsettings] at hread
      rcases hrecipient : settings.recipient? with _ | delegate
      · exact alike_exec_main hE hquery hw hsettings hread hrecipient hrecipient rfl rfl
      · exact alike_exec_main_of_recipient (fun _ _ value henv => henv.set _ value) hquery hw
          hsettings hread hrecipient hrecipient
  · rw [Launch.main, hquery]
    exact agree_answer hE query w w' hw

end Launch

namespace Session

variable {s s' : Session} {level level' : Int}

/-- **The level of the log changes nothing but the log and the error stream.** Two runs with the
same tokens on the same machine, with the same planned faults, in environments that differ at most
in a level that can be read, come to the same end: the same exit code or the same program with the
same arguments. They make the same calls with the same answers, write the same output and leave the
same tree. -/
theorem endsLike_of_levels (tokens : List Text) (hmachine : s'.machine = s.machine)
    (hagree : Environment.AgreeBeside [Settings.levelVariable] s.environment s'.environment)
    (hlevel : Settings.readLevel (Settings.given? s.environment Settings.levelVariable) = .ok level)
    (hlevel' : Settings.readLevel (Settings.given? s'.environment Settings.levelVariable) =
      .ok level') :
    EndsLike [Settings.levelVariable] (s.perform (Launch.main tokens))
      (s'.perform (Launch.main tokens)) := by
  refine endsLike_of_alike (congrArg Machine.tree hmachine)
    (alike_exec_main_of_levels tokens ?_ hlevel hlevel')
  exact ⟨congrArg (fun m : Machine => { m with made := [] }) hmachine,
    Or.inr (congrArg Machine.made hmachine), hagree, rfl, rfl⟩

/-! ### A record that cannot be removed -/

/-- A session with a program to launch, in which no file can be removed. -/
def quiet : Session :=
  { onlyTrue with
    machine := { onlyTrue.machine with faults := [⟨.unlink, none, none, .fail .accessDenied⟩] }
    environment := [("USER", lit "user"), ("PATH", lit "/bin")] }

/-- The same session with a level at which everything is logged. -/
def talkative : Session :=
  { quiet with environment := quiet.environment.set Settings.levelVariable (lit "debug") }

/-- Under the one level a launch logs that it could not record its command, under the other one what
it does besides. It becomes the same program after the same calls. -/
theorem endsLike_of_levels_debug :
    Settings.readLevel (Settings.given? quiet.environment Settings.levelVariable) =
        .ok Level.warning ∧
      Settings.readLevel (Settings.given? talkative.environment Settings.levelVariable) =
        .ok Level.debug ∧
      (quiet.perform (Launch.main [lit "--output_base=/base", lit "true"])).1.process.log.length <
        (talkative.perform
          (Launch.main [lit "--output_base=/base", lit "true"])).1.process.log.length ∧
      EndsLike [Settings.levelVariable]
        (quiet.perform (Launch.main [lit "--output_base=/base", lit "true"]))
        (talkative.perform (Launch.main [lit "--output_base=/base", lit "true"])) := by
  have hquiet : Settings.readLevel (Settings.given? quiet.environment Settings.levelVariable) =
      .ok Level.warning := eq_ok_of_toOption (by decide)
  have htalkative : Settings.readLevel
      (Settings.given? talkative.environment Settings.levelVariable) = .ok Level.debug :=
    eq_ok_of_toOption (by decide)
  have hagree : Environment.AgreeBeside [Settings.levelVariable] quiet.environment
      talkative.environment := Environment.agreeBeside_set (by decide) _ _
  exact ⟨hquiet, htalkative, by decide +kernel, endsLike_of_levels _ rfl hagree hquiet htalkative⟩

end Session

end Launcher
