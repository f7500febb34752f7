import Launcher.Launch
import Launcher.Proofs.CommandLine.Reading
import Launcher.Proofs.Directory
import Launcher.Proofs.Report
import Launcher.Proofs.WholeFile

/-!
# The stages of a launch

A launch settles what it is about, prepares its output base, and then proceeds to the report or to
the program of its command. Only the second stage and the record of a command touch the tree.

## Main definitions

* `Launcher.Launch.Plan` — what a launch has settled.
* `Launcher.Launch.settle`, `prepare` and `proceed` — the stages.
* `Launcher.Launch.recordCommand` and `Launcher.Launch.takeOver` — what a program is started with.
* `Launcher.Launch.survey` and `Launcher.Launch.resolve` — the stages up to the status that is
  reported, and up to the program of the command.

## Main results

* `Launcher.Launch.run_eq` — a launch is its stages.
* `Launcher.Launch.keeps_settle` — the first stage changes nothing.
* `Launcher.Launch.of_exec_prepare` — the second stage leaves an output base.
* `Launcher.Launch.exists_status_of_exec_run` and
  `Launcher.Launch.exec_run_of_resolvedCommand?_eq_some` — the two ways on from there.
-/

namespace Launcher

open Launcher.Action

variable {codes : List ExitCode}

/-! ## The user, the program and the screen -/

namespace User

/-- The name of the user's account. -/
def accountName : Action Text := do
  let name : Text := ((← get).machine.account?.map (·.name)).getD []
  if name.isEmpty then
    Action.exit .environment (lit "$USER is not set, and unable to look up name of current user")
  Action.log Level.debug
    (lit "Resolved user name " ++ name.quoted ++ lit " from the account database")
  return name

/-- The name of the user is the one that is given, or else that of the account. -/
theorem name_eq :
    name = (do
      match ← Action.valueOf "USER" with
      | some name => if !name.isEmpty then return name else accountName
      | none => accountName) := by
  refine bind_congr fun given => ?_
  rcases given with _ | name
  · rfl
  · rfl

/-- Looking up the name of the account changes the log at most. -/
theorem keeps_accountName : Keeps (World.besides [.log]) [.environment] accountName :=
  Keeps.bind Keeps.get fun _ => Keeps.unlessRefused (Stop.exitsWith_fail (by simp) _)
    (Keeps.bind (keeps_log _ _) fun _ => Keeps.pure _)

/-- Looking up the name of the user changes the log at most, and ends the launch only for the
environment. -/
theorem keeps_name : Keeps (World.besides [.log]) [.environment] name := by
  rw [name_eq]
  refine Keeps.bind (Keeps.valueOf _) fun given => ?_
  rcases given with _ | name
  · exact keeps_accountName
  · exact Keeps.ite (Keeps.pure _) keeps_accountName

/-- Finding the user's own output base changes nothing. -/
theorem keeps_defaultOutputBase (user : Text) :
    Keeps (World.besides []) codes (defaultOutputBase user) := by
  refine Keeps.bind (Keeps.bind (Keeps.valueOf _) fun given => ?_) fun _ => Keeps.pure _
  rcases given with _ | directory
  · refine Keeps.bind Keeps.get fun w => ?_
    rcases w.machine.account? with _ | account
    · exact Keeps.pure _
    · exact Keeps.pure _
  · exact Keeps.pure _

end User

namespace Program

/-- The path under which a program is found in a world. -/
def path? (name : Text) (w : World) : Option Text :=
  (candidates (w.process.environment.lookup "PATH") name).find? (w.machine.isProgram <| .text ·)

/-- Finding a program is a look at the machine and the environment, and changes nothing. -/
theorem exec_find? (name : Text) (w : World) : exec (find? name) w = (.ok (path? name w), w) := rfl

/-- Turning into a program changes the log and the trace only, as far as there is still a launch. -/
theorem keeps_become (path : Text) (arguments : List Text) :
    Keeps (World.besides [.log, .trace]) codes (become path arguments) :=
  Keeps.bind (keeps_log _ _).widen fun _ => Keeps.bind keeps_flush.widen fun _ =>
    (keeps_execute _ _).widen

end Program

namespace Screen

/-- Asking whether the terminal is interactive changes nothing. -/
theorem keeps_isInteractive : Keeps (World.besides []) codes isInteractive :=
  Keeps.bind (Keeps.valueOf _) fun _ => Keeps.bind (Keeps.valueOf _) fun _ =>
    Keeps.ite (Keeps.pure _) (Keeps.bind Keeps.get fun _ => Keeps.pure _)

/-- Asking for the columns of the terminal changes nothing. -/
theorem keeps_columns : Keeps (World.besides []) codes columns := by
  refine Keeps.bind Keeps.get fun w => ?_
  rcases w.machine.terminal.columns with _ | columns
  · refine Keeps.bind (Keeps.valueOf _) fun given => ?_
    rcases given with _ | _ | ⟨a, text⟩
    · exact Keeps.pure _
    · exact Keeps.pure _
    · rcases hvalue : Numeral.int32 (a :: text) with e | value
      · simp only [hvalue]
        exact Keeps.fail (Stop.exitsWith_of_ne_fatal fun _ => by simp)
      · simp only [hvalue]
        exact Keeps.pure _
  · exact Keeps.pure _

end Screen

namespace Launch

variable {tokens : List Text} {w w' : World}

/-! ## Settling what a launch is about -/

/-- What a launch has settled: the command line, the user, the output base from the root, and the
permission bits of directories. -/
structure Plan where
  options : StartupOptions
  command : List Text
  user : Text
  base : Text
  directoryMode : Int

/-- Settles what a launch is about that is not handed over. -/
def makePlan (settings : Settings) (tokens : List Text) : Action Plan := do
  let line ← Action.ofExcept (CommandLine.read tokens)
  let user ← User.name
  let chosen ← chosenOutputBase line.options settings user
  let base ← Directory.absoluteText chosen
  return { options := line.options, command := line.command, user, base,
           directoryMode := settings.directoryMode }

/-- Settles what a launch is about under given settings. -/
def settleUnder (settings : Settings) (tokens : List Text) : Action Plan := do
  Action.modifyProcess fun p => { p with logThreshold := settings.logLevel }
  handOver settings tokens
  makePlan settings tokens

/-- Settles what a launch is about, before anything is created. -/
def settle (tokens : List Text) : Action Plan := do
  match Settings.read (← get).process.environment with
  | .ok settings => settleUnder settings tokens
  | .error v => Action.exit .environment v.message

/-- Under settings that can be read, the command line is handed over or a plan is made. -/
theorem exec_settle {settings : Settings}
    (h : Settings.read w.process.environment = .ok settings) :
    exec (settle tokens) w = exec (do
      handOver settings tokens
      makePlan settings tokens) (w.withThreshold settings.logLevel) := by
  unfold settle
  rw [exec_bind_of_ok (exec_get w), h]
  rfl

/-- Handing the command line over touches no file and no stream, and ends the launch only for the
environment. -/
theorem keeps_handOver (settings : Settings) (tokens : List Text) :
    Keeps (World.besides [.environment, .log, .trace]) [.environment]
      (handOver settings tokens) := by
  unfold handOver
  rcases settings.delegate with _ | delegate
  · exact Keeps.pure _
  · refine Keeps.ite (Keeps.pure _) (Keeps.bind (keeps_log _ _).widen fun _ => ?_)
    refine Keeps.bind (keeps_setVariable _ _).widen fun _ => ?_
    refine Keeps.bind (Program.keeps_become _ _).widen fun e => ?_
    exact Keeps.fail (Stop.exitsWith_because (by simp) _ _)

/-- Choosing the output base changes nothing. -/
theorem keeps_chosenOutputBase (options : StartupOptions) (settings : Settings) (user : Text) :
    Keeps (World.besides []) codes (chosenOutputBase options settings user) := by
  unfold chosenOutputBase
  rcases options.outputBase.or settings.outputBase with _ | base
  · exact User.keeps_defaultOutputBase user
  · exact Keeps.pure _

/-- Tokens that are refused end the launch as bad arguments. -/
theorem keeps_ofExcept_read (tokens : List Text) :
    Keeps (World.besides []) [.badArguments] (Action.ofExcept (CommandLine.read tokens)) := by
  rcases hread : CommandLine.read tokens with e | line
  · refine Keeps.fail ?_
    rcases CommandLine.eq_of_read_eq_error hread with ⟨message, rfl⟩ | ⟨digits, -, rfl⟩
    · exact Stop.exitsWith_fail (by simp) message
    · exact Stop.exitsWith_of_ne_fatal fun _ => by simp
  · exact Keeps.pure _

/-- Making a plan changes the log at most, and ends the launch only for its arguments or the
environment. -/
theorem keeps_makePlan (settings : Settings) (tokens : List Text) :
    Keeps (World.besides [.log]) [.badArguments, .environment] (makePlan settings tokens) := by
  refine Keeps.bind ((keeps_ofExcept_read tokens).mono (by simp)).widen fun line => ?_
  refine Keeps.bind (User.keeps_name.mono (by simp)) fun user => ?_
  refine Keeps.bind (keeps_chosenOutputBase _ _ _).widen fun chosen => ?_
  exact Keeps.bind ((Directory.keeps_absoluteText chosen).mono (by simp)).widen fun _ =>
    Keeps.pure _

/-- Settling what a launch is about touches no file and no stream. -/
theorem keeps_settleUnder (settings : Settings) (tokens : List Text) :
    Keeps (World.besides [.environment, .threshold, .log, .trace]) [.badArguments, .environment]
      (settleUnder settings tokens) := by
  refine Keeps.bind (Keeps.modifyProcess fun _ => rfl) fun _ => ?_
  refine Keeps.bind ((keeps_handOver settings tokens).mono (by simp)).widen fun _ => ?_
  exact (keeps_makePlan settings tokens).widen

/-- **Settling changes nothing.** -/
theorem keeps_settle (tokens : List Text) :
    Keeps (World.besides [.environment, .threshold, .log, .trace]) [.badArguments, .environment]
      (settle tokens) := by
  refine Keeps.bind Keeps.get fun w => ?_
  rcases Settings.read w.process.environment with v | settings
  · exact Keeps.fail (Stop.exitsWith_fail (by simp) _)
  · exact keeps_settleUnder settings tokens

/-- A plan is what the tokens and the settings say, for an output base that has been made
absolute. -/
theorem of_exec_makePlan {settings : Settings} {plan : Plan}
    (h : exec (makePlan settings tokens) w = (.ok plan, w')) :
    CommandLine.read tokens = .ok { options := plan.options, command := plan.command } ∧
      plan.directoryMode = settings.directoryMode ∧
      ∃ chosen w₁ w₂, w₁.bare = w.bare ∧
        exec (Directory.absoluteText chosen) w₁ = (.ok plan.base, w₂) := by
  unfold makePlan at h
  obtain ⟨line, w₁, hread, hview₁, h⟩ := (keeps_ofExcept_read tokens).bare.of_exec_bind h
  obtain ⟨user, w₂, -, hview₂, h⟩ := User.keeps_name.bare.of_exec_bind h
  have hkeeps : Keeps (World.besides []) [] (chosenOutputBase line.options settings user) :=
    keeps_chosenOutputBase _ _ _
  obtain ⟨chosen, w₃, -, hview₃, h⟩ := hkeeps.bare.of_exec_bind h
  obtain ⟨base, w₄, hbase, h⟩ := exec_bind_eq_ok.1 h
  cases h
  refine ⟨?_, rfl, chosen, w₃, w', hview₃.trans (hview₂.trans hview₁), hbase⟩
  rcases htokens : CommandLine.read tokens with e | line'
  · rw [htokens] at hread
    cases hread
  · rw [htokens] at hread
    cases hread
    rfl

/-- What has been settled is a plan that was made under the settings. -/
theorem of_exec_settle_eq_ok {plan : Plan} (h : exec (settle tokens) w = (.ok plan, w')) :
    ∃ settings w₁, Settings.read w.process.environment = .ok settings ∧ w₁.bare = w.bare ∧
      exec (makePlan settings tokens) w₁ = (.ok plan, w') := by
  rcases hsettings : Settings.read w.process.environment with v | settings
  · unfold settle at h
    rw [exec_bind_of_ok (exec_get w), hsettings] at h
    cases h
  · rw [exec_settle hsettings] at h
    obtain ⟨_, w₁, -, hview, hplan⟩ := (keeps_handOver settings tokens).bare.of_exec_bind h
    exact ⟨settings, w₁, rfl, hview, hplan⟩

/-- What is settled is what the tokens say. -/
theorem read_of_exec_settle {plan : Plan} (h : exec (settle tokens) w = (.ok plan, w')) :
    CommandLine.read tokens = .ok { options := plan.options, command := plan.command } := by
  obtain ⟨settings, w₁, -, -, hplan⟩ := of_exec_settle_eq_ok h
  exact (of_exec_makePlan hplan).1

/-- What is settled is what the tokens say, and the output base is seen from the root. -/
theorem of_exec_settle {plan : Plan}
    (hrooted : ∀ directory ∈ w.machine.workingDirectory, directory.head? = some slash)
    (h : exec (settle tokens) w = (.ok plan, w')) :
    CommandLine.read tokens = .ok { options := plan.options, command := plan.command } ∧
      isSettled slash plan.base = true := by
  obtain ⟨settings, w₁, -, hview₁, hplan⟩ := of_exec_settle_eq_ok h
  obtain ⟨hread, -, chosen, w₂, w₃, hview₂, hbase⟩ := of_exec_makePlan hplan
  have hworking : w₂.machine.workingDirectory = w.machine.workingDirectory := by
    have hmachine := congrArg Machine.workingDirectory (hview₂.trans hview₁)
    exact hmachine
  exact ⟨hread, Directory.isSettled_of_exec_absoluteText (hworking ▸ hrooted) hbase⟩

/-! ## Preparing the output base -/

/-- Creates the output base of a plan, without which a launch cannot go on. -/
def createBase (plan : Plan) : Action Unit := do
  match ← Directory.create (.text plan.base) plan.directoryMode with
  | .ok () => return ()
  | .error e =>
      Action.fail (.because .environment
        (lit "could not create output base directory '" ++ plan.base ++ lit "'") e)

/-- Settles what a launch is about and creates its output base. -/
def prepare (tokens : List Text) : Action Plan := do
  let plan ← settle tokens
  createBase plan
  return plan

/-- Creating the output base keeps what creating a directory keeps. -/
theorem keeps_createBase {γ : Type} {view : World → γ} {plan : Plan}
    (h : Keeps view [.environment] (Directory.create (.text plan.base) plan.directoryMode)) :
    Keeps view [.environment] (createBase plan) := by
  refine Keeps.bind h fun created => ?_
  rcases created with e | ⟨⟩
  · exact Keeps.fail (Stop.exitsWith_because (by simp) _ _)
  · exact Keeps.pure _

/-- Preparing a launch writes nothing to the streams, and ends it only for its arguments or the
environment. -/
theorem keeps_prepare (tokens : List Text) :
    Keeps (World.besides [.tree, .environment, .threshold, .log, .trace])
      [.badArguments, .environment] (prepare tokens) := by
  refine Keeps.bind (keeps_settle tokens).widen fun plan => ?_
  refine Keeps.bind ?_ fun _ => Keeps.pure _
  exact ((keeps_createBase (Directory.keeps_create _ _)).mono (by simp)).widen

/-- **An output base that has been prepared is there,** and it is the one that was settled. -/
theorem of_exec_prepare {plan : Plan} (h : exec (prepare tokens) w = (.ok plan, w')) :
    (∃ w₁, exec (settle tokens) w = (.ok plan, w₁)) ∧
      w'.machine.isDirectory (.text plan.base) = true := by
  obtain ⟨plan', w₁, hsettle, h⟩ := exec_bind_eq_ok.1 h
  obtain ⟨_, w₂, hcreate, h⟩ := exec_bind_eq_ok.1 h
  cases h
  obtain ⟨created, w₃, hdirectory, h⟩ := exec_bind_eq_ok.1 hcreate
  rcases created with e | ⟨⟩
  · exact absurd (congrArg Prod.fst h) (by simp)
  · cases h
    exact ⟨⟨w₁, hsettle⟩, Directory.isDirectory_of_exec_create hdirectory⟩

/-- Preparing does not touch what lies deeper than the output base. -/
theorem nodeAt_of_exec_prepare {location : Location} {result : Except Stop Plan}
    (hrooted : ∀ directory ∈ w.machine.workingDirectory, directory.head? = some slash)
    (hdeep : ∀ plan w₁, exec (settle tokens) w = (.ok plan, w₁) →
      Location.dotDot ∉ Location.names plan.base.encode ∧
        (Location.ofPath plan.base.encode).length < location.length)
    (h : exec (prepare tokens) w = (result, w')) : w'.nodeAt location = w.nodeAt location := by
  have hsurface := (keeps_settle tokens).surface.view_eq w
  unfold prepare at h
  rw [exec_bind] at h
  rcases hsettle : exec (settle tokens) w with ⟨stop | plan, w₁⟩
  · rw [hsettle] at h hsurface
    cases h
    exact World.nodeAt_eq_of_bare_eq (congrArg Prod.fst hsurface) location
  · rw [hsettle] at h hsurface
    obtain ⟨hdots, hlength⟩ := hdeep plan w₁ hsettle
    have hkeeps : Keeps (World.nodeAt location) [.environment] (do
        createBase plan
        return plan) :=
      Keeps.bind (keeps_createBase (Directory.keeps_nodeAt_create _
        (of_exec_settle hrooted hsettle).2 hdots hlength)) fun _ => Keeps.pure _
    exact (hkeeps.view_eq_of_exec h).trans
      (World.nodeAt_eq_of_bare_eq (congrArg Prod.fst hsurface) location)

/-! ## Proceeding -/

/-- Proceeds, once the output base is there, to the report or to the program of the command. -/
def proceed (plan : Plan) : Action Unit := do
  Action.log Level.debug (lit "Using output base " ++ plan.base)
  match plan.command with
  | [] => report plan.options plan.user plan.base
  | program :: _ => start plan.options plan.base program plan.command

/-- **A launch is its stages.** -/
theorem run_eq (tokens : List Text) : run tokens = prepare tokens >>= proceed := by
  simp only [run, prepare, settle, bind_assoc, pure_bind]
  refine bind_congr fun w => ?_
  rcases Settings.read w.process.environment with v | settings
  · rfl
  · simp only [settleUnder, makePlan, prepareOutputBase, createBase, bind_assoc, pure_bind]
    refine bind_congr fun _ => bind_congr fun _ => bind_congr fun line => bind_congr fun user => ?_
    refine bind_congr fun chosen => bind_congr fun base => bind_congr fun created => ?_
    rcases created with e | ⟨⟩
    · rfl
    · simp only [pure_bind]
      rfl

/-! ### The report -/

/-- Reads the status that is reported. -/
def readStatus (options : StartupOptions) (user base : Text) : Action Status := do
  let interactive := (← Screen.isInteractive) && !options.batch
  let record ← WholeFile.read? (.text (base.joinPath recordName))
  let columns ← Screen.columns
  return { user, outputBase := base, interactive, columns, commandPort := options.commandPort,
           lastCommand := record.map Record.decode }

/-- A report reads a status and writes it down. -/
theorem report_eq (options : StartupOptions) (user base : Text) :
    report options user base = (do
      let status ← readStatus options user base
      Report.emit options.json (status.interactive && !options.json) status) := by
  simp only [report, readStatus, bind_assoc, pure_bind]

/-- Reading the status changes the log and the trace only, and ends no launch. -/
theorem keeps_readStatus (options : StartupOptions) (user base : Text) :
    Keeps (World.besides [.log, .trace]) codes (readStatus options user base) :=
  Keeps.bind Screen.keeps_isInteractive.widen fun _ =>
    Keeps.bind (WholeFile.keeps_read? _) fun _ =>
      Keeps.bind Screen.keeps_columns.widen fun _ => Keeps.pure _

/-- A report does not touch the tree, and ends no launch if it cannot be made. -/
theorem keeps_report (options : StartupOptions) (user base : Text) :
    Keeps (World.besides [.log, .trace, .output]) codes (report options user base) := by
  rw [report_eq]
  exact Keeps.bind (keeps_readStatus _ _ _).widen fun _ => (Report.keeps_emit _ _ _).widen

/-- The last command of a status is the record as it is read, whatever comes of the reading. -/
theorem lastCommand_of_exec_readStatus {options : StartupOptions} {user base : Text}
    {status : Status} (h : exec (readStatus options user base) w = (.ok status, w')) :
    ∃ (record : Option Bytes) (w₁ w₂ : World), w₁.surface = w.surface ∧
      exec (WholeFile.read? (.text (base.joinPath recordName))) w₁ = (.ok record, w₂) ∧
        status.lastCommand = record.map Record.decode := by
  have hinteractive : Keeps World.surface [] Screen.isInteractive :=
    Screen.keeps_isInteractive.surface
  obtain ⟨interactive, w₁, -, hview, h⟩ := hinteractive.of_exec_bind h
  obtain ⟨record, w₂, hrecord, h⟩ := exec_bind_eq_ok.1 h
  obtain ⟨columns, w₃, -, h⟩ := exec_bind_eq_ok.1 h
  cases h
  exact ⟨record, w₁, w₂, hview, hrecord, rfl⟩

/-! ### The program of the command -/

/-- Records a command. A record that cannot be written is only logged. -/
def recordCommand (base : Text) (command : List Text) : Action Unit := do
  let recordPath := base.joinPath recordName
  match ← WholeFile.replace (.text recordPath) (Record.encode command) with
  | .ok () => return ()
  | .error e =>
      Action.log Level.warning
        (lit "Could not record command in " ++ recordPath ++ lit ": " ++ e.render)

/-- Becomes the program at a path, or fails. -/
def become (path : Text) (command : List Text) : Action Unit := do
  let e ← Program.become path command
  Action.fail (.because .environment (lit "execv of '" ++ path ++ lit "' failed") e)

/-- Becomes the program of a command, once the command has been recorded. -/
def takeOver (options : StartupOptions) (path : Text) (command : List Text) : Action Unit := do
  if let some port := options.commandPort then Action.setVariable portVariable (decimal port)
  become path command

/-- A program that has been found is started by recording the command and taking over. -/
theorem start_eq (options : StartupOptions) (base program : Text) (command : List Text) :
    start options base program command = (do
      match ← Program.find? program with
      | none => Action.exit .environment (lit "Cannot find executable '" ++ program ++ lit "'.")
      | some path =>
          recordCommand base command
          takeOver options path command) := by
  refine bind_congr fun found => ?_
  rcases found with _ | path
  · rfl
  · simp only [recordCommand, bind_assoc]
    refine bind_congr fun written => ?_
    rcases written with e | ⟨⟩
    · rfl
    · rfl

/-- Becoming the program of a command or failing to changes the log and the trace only, and ends the
launch only for the environment. -/
theorem keeps_become (path : Text) (command : List Text) :
    Keeps (World.besides [.log, .trace]) [.environment] (become path command) :=
  Keeps.bind (Program.keeps_become _ _) fun _ =>
    Keeps.fail (Stop.exitsWith_because (by simp) _ _)

/-- Taking over touches no file and no stream, and ends the launch only for the environment. -/
theorem keeps_takeOver (options : StartupOptions) (path : Text) (command : List Text) :
    Keeps (World.besides [.environment, .log, .trace]) [.environment]
      (takeOver options path command) := by
  unfold takeOver
  rcases options.commandPort with _ | port
  · exact (keeps_become _ _).widen
  · exact Keeps.bind (keeps_setVariable _ _).widen fun _ => (keeps_become _ _).widen

/-- **Nothing is left to do behind a program that has been started,** and a failure to start it is
about the program. -/
theorem exists_stop_of_exec_takeOver (options : StartupOptions) (path : Text)
    (command : List Text) (w : World) :
    ∃ stop w', exec (takeOver options path command) w = (.error stop, w') ∧
      ∀ f, stop = .failed (.fatal f) → ∃ rest, f.message = lit "execv of '" ++ rest := by
  have hbecome : ∀ w, ∃ stop w', exec (become path command) w = (.error stop, w') ∧
      ∀ f, stop = .failed (.fatal f) → ∃ rest, f.message = lit "execv of '" ++ rest := by
    intro w
    rcases hexec : exec (Program.become path command) w with ⟨stop | e, w'⟩
    · have hkeeps : Keeps (World.besides [.log, .trace]) [] (Program.become path command) :=
        Program.keeps_become _ _
      refine ⟨stop, w', exec_bind_of_error hexec, fun f hf => ?_⟩
      obtain ⟨code, hcode, -⟩ := hkeeps.exits w stop w' hexec f hf
      cases hcode
    · refine ⟨_, w', (exec_bind_of_ok hexec).trans (exec_fail _ w'), fun f hf => ?_⟩
      refine ⟨path ++ lit "' failed", ?_⟩
      rw [(Failure.of_because (Stop.failed.inj hf)).2, List.append_assoc]
  unfold takeOver
  rcases options.commandPort with _ | port
  · exact hbecome w
  · exact hbecome { w with process :=
      { w.process with environment := w.process.environment.set portVariable (decimal port) } }

/-! ### How far a launch comes -/

/-- The stages of a launch up to its report: the status if there is no command. -/
def survey (tokens : List Text) : Action (Option Status) := do
  let plan ← prepare tokens
  Action.log Level.debug (lit "Using output base " ++ plan.base)
  match plan.command with
  | [] => return some (← readStatus plan.options plan.user plan.base)
  | _ :: _ => return none

/-- **A launch that comes to its end reports** the status that it reads once it is prepared. -/
theorem exists_status_of_exec_run {options : StartupOptions}
    (hread : CommandLine.read tokens = .ok { options, command := [] })
    (h : exec (run tokens) w = (.ok ⟨⟩, w')) :
    ∃ plan status w₁ w₂ w₃, exec (prepare tokens) w = (.ok plan, w₁) ∧
      w₂.surface = w₁.surface ∧
      exec (readStatus options plan.user plan.base) w₂ = (.ok status, w₃) ∧
      exec (survey tokens) w = (.ok (some status), w₃) ∧ w₃.written = w.written ∧
      exec (Report.emit options.json (status.interactive && !options.json) status) w₃ =
        (.ok ⟨⟩, w') := by
  rw [run_eq] at h
  obtain ⟨plan, w₁, hprepare, hview₁, h⟩ := (keeps_prepare tokens).written.of_exec_bind h
  obtain ⟨⟨_, hsettle⟩, -⟩ := of_exec_prepare hprepare
  obtain ⟨rfl, hcommand⟩ :=
    CommandLine.mk.inj (Except.ok.inj ((read_of_exec_settle hsettle).symm.trans hread))
  obtain ⟨log, hlog⟩ := exists_exec_log Level.debug (lit "Using output base " ++ plan.base) w₁
  rw [proceed, exec_bind_of_ok hlog, hcommand] at h
  simp only [report_eq] at h
  have hkeeps : Keeps World.surface [] (readStatus plan.options plan.user plan.base) :=
    (keeps_readStatus _ _ _).surface
  obtain ⟨status, w₃, hstatus, hview₃, hemit⟩ := hkeeps.of_exec_bind h
  have hwritten : w₃.written = w.written := (congrArg Prod.snd hview₃).trans hview₁
  refine ⟨plan, status, w₁, w₁.withLog log, w₃, hprepare, rfl, hstatus, ?_, hwritten, hemit⟩
  rw [survey, exec_bind_of_ok hprepare, exec_bind_of_ok hlog, hcommand]
  simp only []
  rw [exec_bind_of_ok hstatus]
  rfl

/-- The stages of a launch up to the program of its command: the command if there is one and its
program has been found. -/
def resolve (tokens : List Text) : Action (Option (List Text)) := do
  let plan ← prepare tokens
  match plan.command with
  | [] => return none
  | program :: _ => return (← Program.find? program).map fun _ => plan.command

/-- The command of a launch in a world, if it comes as far as to find the program. -/
def resolvedCommand? (tokens : List Text) (w : World) : Option (List Text) :=
  match exec (resolve tokens) w with
  | (.ok command?, _) => command?
  | (.error _, _) => none

/-- The command of a launch that has been prepared. -/
theorem resolvedCommand?_of_exec_prepare {plan : Plan}
    (h : exec (prepare tokens) w = (.ok plan, w')) :
    resolvedCommand? tokens w =
      match plan.command with
      | [] => none
      | program :: _ => (Program.path? program w').map fun _ => plan.command := by
  unfold resolvedCommand? resolve
  rw [exec_bind_of_ok h]
  rcases plan.command with _ | ⟨program, arguments⟩
  · rfl
  · simp only []
    rw [exec_bind_of_ok (Program.exec_find? program w')]
    rfl

/-- How a launch goes on once it has been prepared. Its log does not matter for that. -/
theorem exists_exec_proceed (plan : Plan) (w : World) :
    ∃ log, exec (proceed plan) w =
      exec (match plan.command with
        | [] => report plan.options plan.user plan.base
        | program :: _ =>
            match Program.path? program w with
            | none =>
                Action.exit .environment (lit "Cannot find executable '" ++ program ++ lit "'.")
            | some path => do
                recordCommand plan.base plan.command
                takeOver plan.options path plan.command)
        (w.withLog log) := by
  obtain ⟨log, hlog⟩ := exists_exec_log Level.debug (lit "Using output base " ++ plan.base) w
  refine ⟨log, ?_⟩
  rw [proceed, exec_bind_of_ok hlog]
  rcases plan.command with _ | ⟨program, arguments⟩
  · rfl
  · have hfind := Program.exec_find? program (w.withLog log)
    have hpath : Program.path? program (w.withLog log) = Program.path? program w := rfl
    simp only [start_eq]
    rw [exec_bind_of_ok hfind, hpath]

/-- A launch without a command does not come as far as to find a program. -/
theorem resolvedCommand?_eq_none_of_read {options : StartupOptions}
    (hrooted : ∀ directory ∈ w.machine.workingDirectory, directory.head? = some slash)
    (hread : CommandLine.read tokens = .ok { options, command := [] }) :
    resolvedCommand? tokens w = none := by
  rcases hprepare : exec (prepare tokens) w with ⟨stop | plan, w₁⟩
  · rw [resolvedCommand?, resolve, exec_bind_of_error hprepare]
  · obtain ⟨⟨w₂, hsettle⟩, -⟩ := of_exec_prepare hprepare
    obtain ⟨hread', -⟩ := of_exec_settle hrooted hsettle
    obtain ⟨-, hcommand⟩ := CommandLine.mk.inj (Except.ok.inj (hread'.symm.trans hread))
    rw [resolvedCommand?_of_exec_prepare hprepare, hcommand]

/-- A launch that finds its program records the command and lets the program take over. -/
theorem exec_run_of_resolvedCommand?_eq_some {command : List Text}
    (h : resolvedCommand? tokens w = some command) :
    ∃ plan path w₁ log, exec (prepare tokens) w = (.ok plan, w₁) ∧ plan.command = command ∧
      exec (run tokens) w =
        exec (do recordCommand plan.base command; takeOver plan.options path command)
          (w₁.withLog log) := by
  rcases hprepare : exec (prepare tokens) w with ⟨stop | plan, w₁⟩
  · rw [resolvedCommand?, resolve, exec_bind_of_error hprepare] at h
    cases h
  · rw [resolvedCommand?_of_exec_prepare hprepare] at h
    obtain ⟨log, hproceed⟩ := exists_exec_proceed plan w₁
    rw [run_eq, exec_bind_of_ok hprepare, hproceed]
    rcases hcommand : plan.command with _ | ⟨program, arguments⟩
    · simp [hcommand] at h
    · rcases hpath : Program.path? program w₁ with _ | path
      · simp [hcommand, hpath] at h
      · simp only [hcommand, hpath, Option.map_some, Option.some.injEq] at h
        subst h
        exact ⟨plan, path, w₁, log, rfl, hcommand, by simp only [hpath]⟩

/-- A launch that does not find a program, or does not look for one, keeps what it has kept when it
is prepared, if a report and the log do not touch that. -/
theorem view_eq_of_resolvedCommand?_eq_none {γ : Type} {view : World → γ}
    (hlog : ∀ w log, view (World.withLog w log) = view w)
    (hreport : ∀ options user base, Keeps view [] (report options user base))
    (hprepare : view (exec (prepare tokens) w).2 = view w) (h : resolvedCommand? tokens w = none) :
    view (exec (run tokens) w).2 = view w := by
  rw [run_eq]
  rcases hprepared : exec (prepare tokens) w with ⟨stop | plan, w₁⟩
  · rw [exec_bind_of_error hprepared]
    rw [hprepared] at hprepare
    exact hprepare
  · rw [resolvedCommand?_of_exec_prepare hprepared] at h
    rw [hprepared] at hprepare
    obtain ⟨log, hproceed⟩ := exists_exec_proceed plan w₁
    rw [exec_bind_of_ok hprepared, hproceed, ← hprepare]
    rcases hcommand : plan.command with _ | ⟨program, arguments⟩
    · exact ((hreport _ _ _).view_eq (w₁.withLog log)).trans (hlog w₁ log)
    · rcases hpath : Program.path? program w₁ with _ | path
      · simp only [hpath]
        exact hlog w₁ log
      · simp [hcommand, hpath] at h

/-- A launch that does not find a program, or does not look for one, keeps what lies deeper than its
output base. -/
theorem nodeAt_of_resolvedCommand?_eq_none {location : Location}
    (hrooted : ∀ directory ∈ w.machine.workingDirectory, directory.head? = some slash)
    (hdeep : ∀ plan w₁, exec (settle tokens) w = (.ok plan, w₁) →
      Location.dotDot ∉ Location.names plan.base.encode ∧
        (Location.ofPath plan.base.encode).length < location.length)
    (h : resolvedCommand? tokens w = none) :
    (exec (run tokens) w).2.nodeAt location = w.nodeAt location :=
  view_eq_of_resolvedCommand?_eq_none (fun _ _ => rfl)
    (fun _ _ _ => (keeps_report _ _ _).nodeAt location)
    (nodeAt_of_exec_prepare hrooted hdeep rfl) h

end Launch

end Launcher
