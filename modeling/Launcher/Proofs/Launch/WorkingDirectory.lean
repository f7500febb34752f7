import Launcher.Proofs.Launch.Execution
import Launcher.Proofs.Run.WorkingDirectory
import Mathlib.Data.List.Find

/-!
# Launches and the working directory

A launch looks for four things by paths: the delegate, the output base with the directories on the
way to it, the record in the output base, and the program of its command. If it looks for all of
them from the root, it does not depend on the working directory.

## Main definitions

* `Launcher.Program.searched` — the directories in which programs are looked for.
* `Launcher.Launch.rawBase` — the output base that a launch chooses, before it is made absolute.
* `Launcher.Launch.LooksFromRoot` — a launch looks for everything from the root.

## Main results

* `Launcher.Directory.ignoresDirectory_create`, `Launcher.WholeFile.ignoresDirectory_read?` and
  `Launcher.WholeFile.ignoresDirectory_replace` — directories and files from the root.
* `Launcher.Launch.ignoresDirectory_work` — the work of a launch that looks from the root.
* `Launcher.Launch.ignoresDirectory_main` — a whole run.
-/

namespace Launcher

open Launcher.Action

variable {path : Path} {w w' : World}

/-! ## The user and the screen -/

/-- The name of the account is the same in every working directory. -/
theorem User.ignoresDirectory_accountName (w : World) :
    IgnoresDirectory User.accountName w :=
  IgnoresDirectory.get_bind (fun _ => rfl) (IgnoresDirectory.unlessRefused
    (IgnoresDirectory.bind (ignoresDirectory_log _ _ w) fun _ w' _ => IgnoresDirectory.pure _ w'))

/-- The name of the user is the same in every working directory. -/
theorem User.ignoresDirectory_name (w : World) : IgnoresDirectory User.name w := by
  rw [User.name_eq]
  refine IgnoresDirectory.bind (IgnoresDirectory.valueOf _ w) fun given w' _ => ?_
  rcases given with _ | name
  · exact User.ignoresDirectory_accountName w'
  · exact IgnoresDirectory.ite (IgnoresDirectory.pure _ w') (User.ignoresDirectory_accountName w')

/-- The user's own output base is the same in every working directory. -/
theorem User.ignoresDirectory_defaultOutputBase (user : Text) (w : World) :
    IgnoresDirectory (User.defaultOutputBase user) w := by
  refine IgnoresDirectory.bind (IgnoresDirectory.bind (IgnoresDirectory.valueOf _ w)
    fun given w' _ => ?_) fun _ w' _ => IgnoresDirectory.pure _ w'
  rcases given with _ | directory
  · refine IgnoresDirectory.get_bind (fun _ => rfl) ?_
    rcases w'.machine.account? with _ | account
    · exact IgnoresDirectory.pure _ w'
    · exact IgnoresDirectory.pure _ w'
  · exact IgnoresDirectory.pure _ w'

/-- Whether the terminal is interactive does not depend on the working directory. -/
theorem Screen.ignoresDirectory_isInteractive (w : World) :
    IgnoresDirectory Screen.isInteractive w :=
  IgnoresDirectory.bind (IgnoresDirectory.valueOf _ w) fun _ w₁ _ =>
    IgnoresDirectory.bind (IgnoresDirectory.valueOf _ w₁) fun _ w₂ _ =>
      IgnoresDirectory.ite (IgnoresDirectory.pure _ w₂)
        (IgnoresDirectory.get_bind (fun _ => rfl) (IgnoresDirectory.pure _ w₂))

/-- The columns of the terminal do not depend on the working directory. -/
theorem Screen.ignoresDirectory_columns (w : World) : IgnoresDirectory Screen.columns w := by
  refine IgnoresDirectory.get_bind (fun _ => rfl) ?_
  rcases w.machine.terminal.columns with _ | columns
  · refine IgnoresDirectory.bind (IgnoresDirectory.valueOf _ w) fun given w' _ => ?_
    rcases given with _ | _ | ⟨a, text⟩
    · exact IgnoresDirectory.pure _ w'
    · exact IgnoresDirectory.pure _ w'
    · rcases hvalue : Numeral.int32 (a :: text) with e | value
      · simp only [hvalue]
        exact IgnoresDirectory.fail _ w'
      · simp only [hvalue]
        exact IgnoresDirectory.pure _ w'
  · exact IgnoresDirectory.pure _ w

/-! ## Directories -/

namespace Directory

/-- A directory whose path begins at the root is created alike in every working directory. -/
theorem ignoresDirectory_createOne (hroot : path.IsFromRoot) (mode : Int) (w : World) :
    IgnoresDirectory (createOne path mode) w := by
  refine IgnoresDirectory.bind (ignoresDirectory_makeDirectory hroot mode w) fun result w' _ => ?_
  rcases result with e | ⟨⟩
  · refine IgnoresDirectory.ite (IgnoresDirectory.get_bind (fun directory => ?_)
      (IgnoresDirectory.ite (IgnoresDirectory.pure _ w') (IgnoresDirectory.pure _ w')))
      (IgnoresDirectory.pure _ w')
    have hsame : (w'.inDirectory directory).machine.isDirectory path =
        w'.machine.isDirectory path := by
      rw [Machine.isDirectory, World.inDirectory, Machine.status?_inDirectory hroot,
        Machine.isDirectory]
    rw [hsame]
  · exact IgnoresDirectory.pure _ w'

/-- Directories whose paths begin at the root are created alike in every working directory. -/
theorem ignoresDirectory_createAll (mode : Int) {paths : List Path}
    (hroot : ∀ path ∈ paths, path.IsFromRoot) (w : World) :
    IgnoresDirectory (createAll mode paths) w := by
  induction paths generalizing w with
  | nil => exact IgnoresDirectory.pure _ w
  | cons path paths ih =>
    obtain ⟨hpath, hpaths⟩ := List.forall_mem_cons.1 hroot
    refine IgnoresDirectory.bind (ignoresDirectory_createOne hpath mode w) fun result w' _ => ?_
    rcases result with e | ⟨⟩
    · exact IgnoresDirectory.bind (ignoresDirectory_log _ _ w') fun _ w'' _ =>
        IgnoresDirectory.pure _ w''
    · exact ih hpaths w'

/-- **A directory from the root is created in the same way** in every working directory, and so are
those on the way to it. -/
theorem ignoresDirectory_create (hroot : path.IsFromRoot) (mode : Int) (w : World) :
    IgnoresDirectory (create path mode) w := by
  refine ignoresDirectory_createAll mode (fun start hstart => ?_) w
  obtain ⟨hhead, -⟩ := exists_append_of_mem_beginnings (Path.toBytes_mem_beginnings hstart)
  exact hhead.trans hroot

/-- A path from the root is not looked for elsewhere. -/
theorem absoluteText_of_head? {t : Text} (hroot : t.head? = some slash) :
    absoluteText t = pure t := by
  have hsettled : isSettled slash t = true := by simp [isSettled, hroot]
  unfold absoluteText
  rw [if_pos hsettled]

end Directory

/-! ## Files -/

namespace WholeFile

/-- An open file is read on alike in every working directory. -/
theorem ignoresDirectory_readOn (fuel : Nat) (reader : Reader) (chunks : List Bytes) (w : World) :
    IgnoresDirectory (readOn fuel reader chunks) w := by
  induction fuel generalizing reader chunks w with
  | zero => exact IgnoresDirectory.throw _ w
  | succ fuel ih =>
    refine IgnoresDirectory.bind (ignoresDirectory_read reader chunkSize w) fun result w' _ => ?_
    rcases result with e | ⟨_ | ⟨byte, chunk⟩, rest⟩
    · exact IgnoresDirectory.ite (ih _ _ w') (IgnoresDirectory.pure _ w')
    · exact IgnoresDirectory.pure _ w'
    · exact ih _ _ w'

/-- What has been read is closed alike in every working directory. -/
theorem ignoresDirectory_closing (read : Option Bytes) (w : World) :
    IgnoresDirectory (closing read) w := by
  refine IgnoresDirectory.bind (ignoresDirectory_close w) fun closed w' _ => ?_
  rcases closed with e | ⟨⟩
  · exact IgnoresDirectory.fail _ w'
  · exact IgnoresDirectory.pure _ w'

/-- **A file from the root is read in the same way** in every working directory. -/
theorem ignoresDirectory_read? (hroot : path.IsFromRoot) (w : World) :
    IgnoresDirectory (read? path) w := by
  rw [read?_eq]
  refine IgnoresDirectory.bind (ignoresDirectory_openToRead hroot w) fun opened w₁ _ => ?_
  rcases opened with e | reader
  · exact IgnoresDirectory.bind (ignoresDirectory_log _ _ w₁) fun _ w₂ _ =>
      IgnoresDirectory.pure _ w₂
  · refine IgnoresDirectory.get_bind (fun _ => rfl) ?_
    refine IgnoresDirectory.bind (ignoresDirectory_readOn _ _ _ w₁) fun result w₂ _ => ?_
    rcases result with e | content
    · exact IgnoresDirectory.bind (ignoresDirectory_log _ _ w₂) fun _ w₃ _ =>
        ignoresDirectory_closing _ w₃
    · exact ignoresDirectory_closing _ w₂

/-- A write is judged alike in every working directory. -/
theorem ignoresDirectory_verdict (path : Path) (content : Bytes) (written : Except OsError Nat)
    (closed : Except OsError Unit) (w : World) :
    IgnoresDirectory (verdict path content written closed) w := by
  unfold verdict
  rcases written with e | n
  · exact IgnoresDirectory.pure _ w
  · rcases closed with e | ⟨⟩
    · exact IgnoresDirectory.pure _ w
    · exact IgnoresDirectory.ite (IgnoresDirectory.pure _ w)
        (IgnoresDirectory.bind (ignoresDirectory_log _ _ w) fun _ w' _ =>
          IgnoresDirectory.pure _ w')

/-- A new file whose path begins at the root is written alike in every working directory. -/
theorem ignoresDirectory_writeNew (hroot : path.IsFromRoot) (content : Bytes) (w : World) :
    IgnoresDirectory (writeNew path content) w := by
  refine IgnoresDirectory.bind (ignoresDirectory_openToWrite hroot w) fun opened w₁ _ => ?_
  rcases opened with e | location
  · exact IgnoresDirectory.pure _ w₁
  · exact IgnoresDirectory.bind (ignoresDirectory_write location content w₁) fun written w₂ _ =>
      IgnoresDirectory.bind (ignoresDirectory_close w₂) fun closed w₃ _ =>
        ignoresDirectory_verdict _ _ _ _ w₃

/-- **A file from the root is replaced in the same way** in every working directory. -/
theorem ignoresDirectory_replace (hroot : path.IsFromRoot) (content : Bytes) (w : World) :
    IgnoresDirectory (replace path content) w := by
  rw [replace_eq]
  refine IgnoresDirectory.bind (ignoresDirectory_unlink hroot w) fun removed w' _ => ?_
  rcases removed with e | ⟨⟩
  · exact IgnoresDirectory.ite (IgnoresDirectory.pure _ w')
      (ignoresDirectory_writeNew hroot content w')
  · exact ignoresDirectory_writeNew hroot content w'

end WholeFile

/-! ## Programs -/

namespace Program

variable {name : Text} {given : Option Text}

/-- The directories in which programs are looked for: the entries of the variable `PATH` as it is
given, or the standard ones if it is not set. An empty `PATH` has no entries. -/
def searched (given : Option Text) : List Text :=
  if given.getD standardPath = [] then [] else pieces (.char ':') (given.getD standardPath)

/-- A name without a separator is looked for in these directories. -/
theorem candidates_of_not_mem (h : slash ∉ name) :
    candidates given name = (searched given).map (Text.joinPath · name) := by
  unfold candidates searched
  rw [if_neg (by simpa using h)]
  by_cases hempty : given.getD standardPath = []
  · simp [hempty]
  · simp [hempty]

/-- A program is looked for from the root if its name begins there, or if the directories in which
it is looked for do. -/
theorem head?_of_mem_candidates {candidate : Text}
    (h : name.head? = some slash ∨
      slash ∉ name ∧ ∀ directory ∈ searched given, directory.head? = some slash)
    (hcandidate : candidate ∈ candidates given name) : candidate.head? = some slash := by
  rcases h with hroot | ⟨hplain, hsearched⟩
  · have hmem : name.contains slash = true := by
      simpa using List.mem_of_mem_head? hroot
    rw [candidates, if_pos hmem, List.mem_singleton] at hcandidate
    exact hcandidate ▸ hroot
  · rw [candidates_of_not_mem hplain] at hcandidate
    obtain ⟨directory, hdirectory, rfl⟩ := List.mem_map.1 hcandidate
    exact Text.head?_joinPath (hsearched directory hdirectory) fun hhead =>
      hplain (List.mem_of_mem_head? hhead)

/-- **A program that is looked for from the root is the same** in every working directory. -/
theorem path?_inDirectory
    (h : ∀ candidate ∈ candidates (w.process.environment.lookup "PATH") name,
      candidate.head? = some slash) (directory : Option Text) :
    path? name (w.inDirectory directory) = path? name w := by
  refine List.find?_congr fun candidate hcandidate => ?_
  rw [Machine.isProgram, World.inDirectory,
    Machine.status?_inDirectory (Path.isFromRoot_text (h candidate hcandidate)), Machine.isProgram]

/-- Where all candidates begin at the root, the same program is found in every working directory. -/
theorem ignoresDirectory_find?
    (h : ∀ candidate ∈ candidates (w.process.environment.lookup "PATH") name,
      candidate.head? = some slash) : IgnoresDirectory (find? name) w := by
  intro directory
  rw [exec_find?, exec_find?, path?_inDirectory h]

/-- A process turns alike into a program from the root in every working directory. -/
theorem ignoresDirectory_become {program : Text} (hroot : program.head? = some slash)
    (arguments : List Text) (w : World) : IgnoresDirectory (become program arguments) w :=
  IgnoresDirectory.bind (ignoresDirectory_log _ _ w) fun _ w₁ _ =>
    IgnoresDirectory.bind (IgnoresDirectory.modifyProcess _ w₁) fun _ w₂ _ =>
      ignoresDirectory_execute hroot arguments w₂

end Program

namespace Report

/-- Lines are printed alike in every working directory. -/
theorem ignoresDirectory_printAll (keepEscapes : Bool) (lines : List Text) (w : World) :
    IgnoresDirectory (printAll keepEscapes lines) w := by
  induction lines generalizing w with
  | nil => exact IgnoresDirectory.pure _ w
  | cons line lines ih =>
    exact IgnoresDirectory.bind (ignoresDirectory_printLine _ _ w) fun _ w' _ => ih w'

/-- A report is written alike in every working directory. -/
theorem ignoresDirectory_emit (asJson colour : Bool) (status : Status) (w : World) :
    IgnoresDirectory (emit asJson colour status) w :=
  IgnoresDirectory.unlessRefused
    (IgnoresDirectory.ite (ignoresDirectory_printPlain _ w) (ignoresDirectory_printAll _ _ w))

end Report

namespace Launch

variable {settings : Settings} {tokens : List Text} {plan : Plan}

/-! ## What a launch looks for -/

/-- The output base that a launch chooses under the settings, before it is made absolute. -/
def rawBase (settings : Settings) (tokens : List Text) : Action Text := do
  let line ← Action.ofExcept (CommandLine.read tokens)
  let user ← User.name
  chosenOutputBase line.options settings user

/-- **A launch looks for everything from the root:** the delegate if it is handed over, the output
base that it chooses otherwise, and the program of its command. -/
structure LooksFromRoot (tokens : List Text) (w : World) : Prop where
  /-- The delegate begins at the root. -/
  delegate : ∀ settings delegate, Settings.read w.process.environment = .ok settings →
    settings.recipient? = some delegate → delegate.head? = some slash
  /-- The chosen output base begins at the root. -/
  base : ∀ settings base w', Settings.read w.process.environment = .ok settings →
    settings.recipient? = none →
    exec (rawBase settings tokens) (w.withThreshold settings.logLevel) = (.ok base, w') →
    base.head? = some slash
  /-- The program begins at the root, or is a name that is looked for in directories that do. -/
  program : ∀ options program arguments,
    CommandLine.read tokens = .ok { options, command := program :: arguments } →
    program.head? = some slash ∨
      slash ∉ program ∧ ∀ directory ∈ Program.searched (w.process.environment.lookup "PATH"),
        directory.head? = some slash

/-- The value of a computation does not depend on the working directory. -/
theorem ignoresDirectory_ofExcept {α : Type} (result : Except Failure α) (w : World) :
    IgnoresDirectory (Action.ofExcept result) w := by
  rcases result with failure | a
  · exact IgnoresDirectory.fail failure w
  · exact IgnoresDirectory.pure a w

/-- The same output base is chosen in every working directory. -/
theorem ignoresDirectory_chosenOutputBase (options : StartupOptions) (settings : Settings)
    (user : Text) (w : World) : IgnoresDirectory (chosenOutputBase options settings user) w := by
  unfold chosenOutputBase
  rcases options.outputBase.or settings.outputBase with _ | base
  · exact User.ignoresDirectory_defaultOutputBase user w
  · exact IgnoresDirectory.pure _ w

/-- The output base is chosen for the command line and the user. -/
theorem exec_rawBase {line : CommandLine} {user : Text} {w₁ w₂ : World}
    (hline : exec (Action.ofExcept (CommandLine.read tokens)) w = (.ok line, w₁))
    (huser : exec User.name w₁ = (.ok user, w₂)) :
    exec (rawBase settings tokens) w = exec (chosenOutputBase line.options settings user) w₂ := by
  rw [rawBase, exec_bind_of_ok hline, exec_bind_of_ok huser]

/-! ## The stages -/

/-- **A plan for an output base from the root is made in the same way** in every working directory:
the base stays as it is chosen. -/
theorem ignoresDirectory_makePlan (hbase : ∀ base w',
      exec (rawBase settings tokens) w = (.ok base, w') → base.head? = some slash) :
    IgnoresDirectory (makePlan settings tokens) w := by
  refine IgnoresDirectory.bind (ignoresDirectory_ofExcept _ w) fun line w₁ hline => ?_
  refine IgnoresDirectory.bind (User.ignoresDirectory_name w₁) fun user w₂ huser => ?_
  refine IgnoresDirectory.bind (ignoresDirectory_chosenOutputBase _ _ _ w₂)
    fun base w₃ hchosen => ?_
  have hraw := (exec_rawBase hline huser).trans hchosen
  rw [Directory.absoluteText_of_head? (hbase base w₃ hraw), pure_bind]
  exact IgnoresDirectory.pure _ w₃

/-- The output base of a plan is the one that has been chosen, if that is from the root. -/
theorem exec_rawBase_of_exec_makePlan (hbase : ∀ base w',
      exec (rawBase settings tokens) w = (.ok base, w') → base.head? = some slash)
    (h : exec (makePlan settings tokens) w = (.ok plan, w')) :
    exec (rawBase settings tokens) w = (.ok plan.base, w') := by
  obtain ⟨line, w₁, hline, h⟩ := exec_bind_eq_ok.1 h
  obtain ⟨user, w₂, huser, h⟩ := exec_bind_eq_ok.1 h
  obtain ⟨base, w₃, hchosen, h⟩ := exec_bind_eq_ok.1 h
  have hraw := (exec_rawBase hline huser).trans hchosen
  rw [Directory.absoluteText_of_head? (hbase base w₃ hraw), pure_bind] at h
  cases h
  exact hraw

/-- An output base from the root is created alike in every working directory. -/
theorem ignoresDirectory_createBase (hbase : plan.base.head? = some slash) (w : World) :
    IgnoresDirectory (createBase plan) w := by
  refine IgnoresDirectory.bind (Directory.ignoresDirectory_create
    (Path.isFromRoot_text hbase) _ w) fun created w' _ => ?_
  rcases created with e | ⟨⟩
  · exact IgnoresDirectory.fail _ w'
  · exact IgnoresDirectory.pure _ w'

/-- The record in an output base from the root is a path from the root. -/
theorem isFromRoot_record {base : Text} (hbase : base.head? = some slash) :
    (Path.text (base.joinPath recordName)).IsFromRoot :=
  Path.isFromRoot_text (Text.head?_joinPath hbase (by decide))

/-- A report on an output base from the root is made alike in every working directory. -/
theorem ignoresDirectory_report (options : StartupOptions) (user : Text) {base : Text}
    (hbase : base.head? = some slash) (w : World) :
    IgnoresDirectory (report options user base) w := by
  rw [report_eq]
  refine IgnoresDirectory.bind ?_ fun _ w' _ => Report.ignoresDirectory_emit _ _ _ w'
  exact IgnoresDirectory.bind (Screen.ignoresDirectory_isInteractive w) fun _ w₁ _ =>
    IgnoresDirectory.bind (WholeFile.ignoresDirectory_read? (isFromRoot_record hbase) w₁)
      fun _ w₂ _ => IgnoresDirectory.bind (Screen.ignoresDirectory_columns w₂) fun _ w₃ _ =>
        IgnoresDirectory.pure _ w₃

/-- A command is recorded alike in every working directory, if its output base begins at the
root. -/
theorem ignoresDirectory_recordCommand {base : Text} (hbase : base.head? = some slash)
    (command : List Text) (w : World) : IgnoresDirectory (recordCommand base command) w := by
  refine IgnoresDirectory.bind (WholeFile.ignoresDirectory_replace (isFromRoot_record hbase) _ w)
    fun written w' _ => ?_
  rcases written with e | ⟨⟩
  · exact ignoresDirectory_log _ _ w'
  · exact IgnoresDirectory.pure _ w'

/-- A program from the root takes over alike in every working directory. -/
theorem ignoresDirectory_takeOver (options : StartupOptions) {path : Text}
    (hpath : path.head? = some slash) (command : List Text) (w : World) :
    IgnoresDirectory (takeOver options path command) w := by
  have hbecome : ∀ w, IgnoresDirectory (become path command) w := fun w =>
    IgnoresDirectory.bind (Program.ignoresDirectory_become hpath command w) fun _ w' _ =>
      IgnoresDirectory.fail _ w'
  unfold takeOver
  rcases options.commandPort with _ | port
  · exact hbecome w
  · exact IgnoresDirectory.bind (IgnoresDirectory.modifyProcess _ w) fun _ w' _ => hbecome w'

/-- The program that is started is one of the candidates, and so it is looked for from the root. -/
theorem ignoresDirectory_start (options : StartupOptions) {base program : Text}
    (command : List Text) (hbase : base.head? = some slash)
    (hcandidates : ∀ candidate ∈
      Program.candidates (w.process.environment.lookup "PATH") program,
      candidate.head? = some slash) :
    IgnoresDirectory (start options base program command) w := by
  rw [start_eq]
  refine IgnoresDirectory.bind (Program.ignoresDirectory_find? hcandidates)
    fun found w' hfound => ?_
  rcases found with _ | path
  · exact IgnoresDirectory.fail _ w'
  · have hpath : Program.path? program w = some path :=
      Except.ok.inj (congrArg Prod.fst hfound)
    have hroot := hcandidates path (List.mem_of_find?_eq_some hpath)
    exact IgnoresDirectory.bind (ignoresDirectory_recordCommand hbase command w') fun _ w'' _ =>
      ignoresDirectory_takeOver options hroot command w''

/-! ## The launch -/

/-- **The work of a launch is the same in every working directory** if it looks for its output base
and its program from the root. -/
theorem ignoresDirectory_work
    (hbase : ∀ base w', exec (rawBase settings tokens) w = (.ok base, w') →
      base.head? = some slash)
    (hprogram : ∀ options program arguments,
      CommandLine.read tokens = .ok { options, command := program :: arguments } →
      ∀ candidate ∈ Program.candidates (w.process.environment.lookup "PATH") program,
        candidate.head? = some slash) :
    IgnoresDirectory (work settings tokens) w := by
  refine IgnoresDirectory.bind (ignoresDirectory_makePlan hbase) fun plan w₁ hplan => ?_
  have hroot := hbase plan.base w₁ (exec_rawBase_of_exec_makePlan hbase hplan)
  obtain ⟨hread, -, -⟩ := of_exec_makePlan hplan
  refine IgnoresDirectory.bind (ignoresDirectory_createBase hroot w₁) fun _ w₂ hcreate => ?_
  -- Neither the plan nor the directories change where programs are looked for.
  have henvironment : w₂.process.environment = w.process.environment := by
    have hkeeps : Keeps _ [.environment] (createBase plan) :=
      keeps_createBase (Directory.keeps_create _ _)
    exact (World.environment_eq_of_besides_eq (hkeeps.view_eq_of_exec hcreate)).trans
      (World.environment_eq_of_besides_eq ((keeps_makePlan settings tokens).view_eq_of_exec hplan))
  refine IgnoresDirectory.bind (ignoresDirectory_log _ _ w₂) fun _ w₃ hlog => ?_
  have hlogged : w₃.process.environment = w₂.process.environment := by
    obtain ⟨log, hexec⟩ := exists_exec_log Level.debug
      (lit "Using output base " ++ plan.base) w₂
    rw [hexec] at hlog
    cases hlog
    rfl
  rcases hcommand : plan.command with _ | ⟨program, arguments⟩
  · exact ignoresDirectory_report _ _ hroot w₃
  · rw [hcommand] at hread
    refine ignoresDirectory_start _ _ hroot fun candidate hcandidate => ?_
    rw [hlogged, henvironment] at hcandidate
    exact hprogram _ program arguments hread candidate hcandidate

/-- The command line is handed over alike in every working directory to a delegate from the root. -/
theorem ignoresDirectory_handOver {delegate : Text} (h : settings.delegate = some delegate)
    (hroot : delegate.head? = some slash) (tokens : List Text) (w : World) :
    IgnoresDirectory (handOver settings tokens) w := by
  unfold handOver
  rw [h]
  exact IgnoresDirectory.ite (IgnoresDirectory.pure _ w) (IgnoresDirectory.bind
    (ignoresDirectory_log _ _ w) fun _ w₁ _ => IgnoresDirectory.bind
      (IgnoresDirectory.modifyProcess _ w₁) fun _ w₂ _ => IgnoresDirectory.bind
        (Program.ignoresDirectory_become hroot _ w₂) fun _ w₃ _ => IgnoresDirectory.fail _ w₃)

/-- What a launch does under its settings, the hand-over or the work, is the same in every working
directory. -/
theorem ignoresDirectory_handOver_work (h : LooksFromRoot tokens w)
    (hsettings : Settings.read w.process.environment = .ok settings) :
    IgnoresDirectory (do
      handOver settings tokens
      work settings tokens) (w.withThreshold settings.logLevel) := by
  rcases hrecipient : settings.recipient? with _ | delegate
  · rw [handOver_eq_pure hrecipient, pure_bind]
    refine ignoresDirectory_work (fun base w' => h.base settings base w' hsettings hrecipient) ?_
    exact fun options program arguments hread _ =>
      Program.head?_of_mem_candidates (h.program options program arguments hread)
  · obtain ⟨-, hdelegate⟩ := Settings.of_recipient?_eq_some hrecipient
    refine IgnoresDirectory.bind (ignoresDirectory_handOver hdelegate
      (h.delegate settings delegate hsettings hrecipient) tokens _) fun _ w' hhand => ?_
    -- A hand-over does not come back.
    obtain ⟨stop, w'', hstop⟩ := exists_stop_of_exec_handOver tokens hrecipient
      (w.withThreshold settings.logLevel)
    cases hhand.symm.trans hstop

/-- **A launch that looks for everything from the root is the same** in every working directory. -/
theorem ignoresDirectory_run (h : LooksFromRoot tokens w) : IgnoresDirectory (run tokens) w := by
  intro directory
  rcases hsettings : Settings.read w.process.environment with v | settings
  · have hmoved : Settings.read (w.inDirectory directory).process.environment = .error v :=
      hsettings
    rw [exec_run_of_read_eq_error hsettings, exec_run_of_read_eq_error hmoved]
  · have hmoved : Settings.read (w.inDirectory directory).process.environment = .ok settings :=
      hsettings
    rw [exec_run_of_read hsettings, exec_run_of_read hmoved]
    exact ignoresDirectory_handOver_work h hsettings directory

/-! ## The ends of a launch -/

/-- Turning unexpected failures into an internal error does not depend on the working directory. -/
theorem ignoresDirectory_expectingFatal {action : Action Unit} (h : IgnoresDirectory action w) :
    IgnoresDirectory (expectingFatal action) w := by
  refine IgnoresDirectory.tryCatch h fun stop w' => ?_
  have hinternal : IgnoresDirectory (do
      Action.log Level.error (lit "Launcher failed unexpectedly")
      Action.exit .internal (lit "Internal launcher error.") : Action Unit) w' :=
    IgnoresDirectory.bind (ignoresDirectory_log _ _ w') fun _ w'' _ => IgnoresDirectory.fail _ w''
  cases stop with
  | replaced image => exact IgnoresDirectory.throw _ w'
  | unending => exact IgnoresDirectory.throw _ w'
  | failed failure =>
    cases failure with
    | fatal f => exact IgnoresDirectory.throw _ w'
    | system e => exact hinternal
    | invalid v => exact hinternal
    | outOfRange => exact hinternal
    | unwritable => exact hinternal

/-- Why a launch ends is said alike in every working directory. -/
theorem ignoresDirectory_terminate (f : Fatal) (w : World) :
    IgnoresDirectory (terminate f) w :=
  IgnoresDirectory.bind (ignoresDirectory_log _ _ w) fun _ w₁ _ =>
    IgnoresDirectory.bind (ignoresDirectory_printError _ w₁) fun _ w₂ _ =>
      IgnoresDirectory.pure _ w₂

/-- The exit code of an action does not depend on the working directory if the action does not. -/
theorem ignoresDirectory_exitCode {action : Action Unit} (h : IgnoresDirectory action w) :
    IgnoresDirectory (exitCode action) w := by
  refine IgnoresDirectory.tryCatch
    (IgnoresDirectory.bind h fun _ w' _ => IgnoresDirectory.pure _ w') fun stop w' => ?_
  cases stop with
  | replaced image => exact IgnoresDirectory.throw _ w'
  | unending => exact IgnoresDirectory.throw _ w'
  | failed failure =>
    cases failure with
    | fatal f => exact ignoresDirectory_terminate f w'
    | system e => exact IgnoresDirectory.throw _ w'
    | invalid v => exact IgnoresDirectory.throw _ w'
    | outOfRange => exact IgnoresDirectory.throw _ w'
    | unwritable => exact IgnoresDirectory.throw _ w'

/-- A question about the program is answered alike in every working directory. -/
theorem ignoresDirectory_answer (query : Query) (w : World) :
    IgnoresDirectory (answer query) w := by
  cases query with
  | version =>
    exact IgnoresDirectory.bind (ignoresDirectory_printPlain _ w) fun _ w' _ =>
      IgnoresDirectory.pure _ w'
  | help =>
    exact IgnoresDirectory.get_bind (fun _ => rfl) (IgnoresDirectory.bind
      (IgnoresDirectory.valueOf _ w) fun _ w₁ _ => IgnoresDirectory.bind
        (ignoresDirectory_printPlain _ w₁) fun _ w₂ _ => IgnoresDirectory.pure _ w₂)
  | misuse option =>
    exact IgnoresDirectory.bind (ignoresDirectory_printError _ w) fun _ w' _ =>
      IgnoresDirectory.pure _ w'

/-- **A whole run that looks for everything from the root is the same** in every working
directory. -/
theorem ignoresDirectory_main (h : LooksFromRoot tokens w) : IgnoresDirectory (main tokens) w := by
  rcases hquery : Query.ofTokens tokens with _ | query
  · rw [main_of_no_query hquery]
    exact ignoresDirectory_exitCode (ignoresDirectory_expectingFatal (ignoresDirectory_run h))
  · unfold main
    rw [hquery]
    exact ignoresDirectory_answer query w

end Launch

end Launcher
