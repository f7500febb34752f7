import Launcher.Proofs.Launch.Execution
import Launcher.Proofs.Run.Alike

/-!
# Launches in worlds that are alike

Once its settings have been read, a launch looks at few variables of its environment. So its work
comes to the same end in worlds that are alike, if their environments agree in these.

## Main definitions

* `Launcher.Launch.IsLikeness` — the environments agree in what a launch looks at.

## Main results

* `Launcher.Launch.agree_work` — the work is the same in worlds that are alike.
-/

namespace Launcher

open Launcher.Action

variable {E : Environment → Environment → Prop}

namespace Launch

/-- The variables that a launch looks at once its settings have been read. -/
def consulted : List String := ["USER", "HOME", "PATH", "TERM", "EMACS", "COLUMNS"]

/-- Environments that are related agree in the variables that a launch looks at, and stay related
when it sets its port. -/
structure IsLikeness (E : Environment → Environment → Prop) : Prop where
  lookup_eq : ∀ env env', E env env' → ∀ name ∈ consulted, env'.lookup name = env.lookup name
  set_port : ∀ env env' value, E env env' →
    E (env.set portVariable value) (env'.set portVariable value)

/-- A launch finds the same values of the variables that it looks at. -/
theorem IsLikeness.agree_valueOf (h : IsLikeness E) {name : String} (hname : name ∈ consulted) :
    Agree E (valueOf name) (valueOf name) :=
  Agree.valueOf fun env env' henv => h.lookup_eq env env' henv name hname

end Launch

/-! ## The user, the program and the screen -/

section Parts

variable (hE : Launch.IsLikeness E)
include hE

omit hE in
/-- In alike worlds the user's account has the same name. -/
theorem User.agree_accountName : Agree E User.accountName User.accountName := by
  refine Agree.get_bind fun w w' h => ?_
  rw [h.account?_eq]
  exact Agree.unlessRefused (Agree.bind (agree_log _ _) fun _ => Agree.pure _)

/-- In alike worlds the user has the same name. -/
theorem User.agree_name : Agree E User.name User.name := by
  rw [User.name_eq]
  refine Agree.bind (hE.agree_valueOf (by decide)) fun given => ?_
  rcases given with _ | name
  · exact User.agree_accountName
  · exact Agree.ite (Agree.pure _) User.agree_accountName

/-- In alike worlds the user's own output base is the same. -/
theorem User.agree_defaultOutputBase (user : Text) :
    Agree E (User.defaultOutputBase user) (User.defaultOutputBase user) := by
  refine Agree.bind (Agree.bind (hE.agree_valueOf (by decide)) fun given => ?_)
    fun _ => Agree.pure _
  rcases given with _ | directory
  · refine Agree.get_bind fun w w' h => ?_
    rw [h.account?_eq]
    rcases w.machine.account? with _ | account
    · exact Agree.pure _
    · exact Agree.pure _
  · exact Agree.pure _

/-- In alike worlds the same program is found. -/
theorem Program.agree_find? (name : Text) : Agree E (Program.find? name) (Program.find? name) := by
  refine Agree.get_bind fun w w' h => ?_
  refine Agree.bind (hE.agree_valueOf (by decide)) fun path => ?_
  have hprogram : (fun candidate : Text => w'.machine.isProgram (.text candidate)) =
      fun candidate => w.machine.isProgram (.text candidate) :=
    funext fun candidate => h.isProgram_eq (.text candidate)
  rw [hprogram]
  exact Agree.pure _

/-- In alike worlds the terminal is interactive in both or in neither. -/
theorem Screen.agree_isInteractive : Agree E Screen.isInteractive Screen.isInteractive := by
  refine Agree.bind (hE.agree_valueOf (by decide)) fun type => ?_
  refine Agree.bind (hE.agree_valueOf (by decide)) fun emacs => ?_
  refine Agree.ite (Agree.pure _) (Agree.get_bind fun w w' h => ?_)
  rw [h.terminal_eq]
  exact Agree.pure _

/-- In alike worlds the terminal has the same columns. -/
theorem Screen.agree_columns : Agree E Screen.columns Screen.columns := by
  refine Agree.get_bind fun w w' h => ?_
  rw [h.terminal_eq]
  rcases w.machine.terminal.columns with _ | columns
  · refine Agree.bind (hE.agree_valueOf (by decide)) fun given => ?_
    rcases given with _ | _ | ⟨a, text⟩
    · exact Agree.pure _
    · exact Agree.pure _
    · rcases hvalue : Numeral.int32 (a :: text) with e | value
      · simp only [hvalue]
        exact Agree.fail _
      · simp only [hvalue]
        exact Agree.pure _
  · exact Agree.pure _

end Parts

/-! ## Directories, files and reports -/

namespace Directory

/-- In alike worlds one directory is created alike. -/
theorem agree_createOne (path : Path) (mode : Int) :
    Agree E (createOne path mode) (createOne path mode) := by
  refine Agree.bind (agree_makeDirectory path mode) fun result => ?_
  rcases result with e | ⟨⟩
  · refine Agree.ite (Agree.get_bind fun w w' h => ?_) (Agree.pure _)
    rw [h.isDirectory_eq]
    exact Agree.ite (Agree.pure _) (Agree.pure _)
  · exact Agree.pure _

/-- In alike worlds directories are created alike, one after the other. -/
theorem agree_createAll (mode : Int) (paths : List Path) :
    Agree E (createAll mode paths) (createAll mode paths) := by
  induction paths with
  | nil => exact Agree.pure _
  | cons path paths ih =>
    refine Agree.bind (agree_createOne path mode) fun result => ?_
    rcases result with e | ⟨⟩
    · exact Agree.bind (agree_log _ _) fun _ => Agree.pure _
    · exact ih

/-- Creating a directory comes to the same end in worlds that are alike. -/
theorem agree_create (path : Path) (mode : Int) :
    Agree E (create path mode) (create path mode) := agree_createAll mode path.chain

/-- In alike worlds a path is made absolute alike. -/
theorem agree_absoluteText (path : Text) :
    Agree E (absoluteText path) (absoluteText path) := by
  refine Agree.ite (Agree.pure _) (Agree.bind (Agree.bind agree_workingDirectory? fun result => ?_)
    fun _ => Agree.pure _)
  rcases result with e | directory
  · exact Agree.fail _
  · exact Agree.pure _

end Directory

namespace WholeFile

/-- In alike worlds an open file is read on alike. -/
theorem agree_readOn (fuel : Nat) (reader : Reader) (chunks : List Bytes) :
    Agree E (readOn fuel reader chunks) (readOn fuel reader chunks) := by
  induction fuel generalizing reader chunks with
  | zero => exact Agree.throw trivial
  | succ fuel ih =>
    refine Agree.bind (agree_read reader chunkSize) fun result => ?_
    rcases result with e | ⟨_ | ⟨byte, chunk⟩, rest⟩
    · exact Agree.ite (ih _ _) (Agree.pure _)
    · exact Agree.pure _
    · exact ih _ _

/-- In alike worlds what has been read is closed alike. -/
theorem agree_closing (read : Option Bytes) : Agree E (closing read) (closing read) := by
  refine Agree.bind agree_close fun closed => ?_
  rcases closed with e | ⟨⟩
  · exact Agree.fail _
  · exact Agree.pure _

/-- Reading a file comes to the same end in worlds that are alike. -/
theorem agree_read? (path : Path) : Agree E (read? path) (read? path) := by
  rw [read?_eq]
  refine Agree.bind (agree_openToRead path) fun opened => ?_
  rcases opened with e | reader
  · exact Agree.bind (agree_log _ _) fun _ => Agree.pure _
  · refine Agree.get_bind fun w w' h => ?_
    have hlimit : readLimit w'.machine reader = readLimit w.machine reader := by
      rw [h.machine_eq]
      rfl
    rw [hlimit]
    refine Agree.bind (agree_readOn _ _ _) fun result => ?_
    rcases result with e | content
    · exact Agree.bind (agree_log _ _) fun _ => agree_closing _
    · exact agree_closing _

/-- In alike worlds a write is judged alike. -/
theorem agree_verdict (path : Path) (content : Bytes) (written : Except OsError Nat)
    (closed : Except OsError Unit) :
    Agree E (verdict path content written closed) (verdict path content written closed) := by
  unfold verdict
  rcases written with e | n
  · exact Agree.pure _
  · rcases closed with e | ⟨⟩
    · exact Agree.pure _
    · exact Agree.ite (Agree.pure _) (Agree.bind (agree_log _ _) fun _ => Agree.pure _)

/-- In alike worlds a new file is written alike. -/
theorem agree_writeNew (path : Path) (content : Bytes) :
    Agree E (writeNew path content) (writeNew path content) := by
  refine Agree.bind (agree_openToWrite path) fun opened => ?_
  rcases opened with e | location
  · exact Agree.pure _
  · exact Agree.bind (agree_write location content) fun written =>
      Agree.bind agree_close fun closed => agree_verdict _ _ _ _

/-- Replacing a file comes to the same end in worlds that are alike. -/
theorem agree_replace (path : Path) (content : Bytes) :
    Agree E (replace path content) (replace path content) := by
  rw [replace_eq]
  refine Agree.bind (agree_unlink path) fun removed => ?_
  rcases removed with e | ⟨⟩
  · exact Agree.ite (Agree.pure _) (agree_writeNew path content)
  · exact agree_writeNew path content

end WholeFile

namespace Report

/-- In alike worlds lines are printed alike. -/
theorem agree_printAll (keepEscapes : Bool) (lines : List Text) :
    Agree E (printAll keepEscapes lines) (printAll keepEscapes lines) := by
  induction lines with
  | nil => exact Agree.pure _
  | cons line lines ih => exact Agree.bind (agree_printLine _ _) fun _ => ih

/-- In alike worlds a report is written alike. -/
theorem agree_emit (asJson colour : Bool) (status : Status) :
    Agree E (emit asJson colour status) (emit asJson colour status) :=
  Agree.unlessRefused (Agree.ite (agree_printPlain _) (agree_printAll _ _))

end Report

/-! ## The work of a launch -/

namespace Launch

variable {settings settings' : Settings} {tokens : List Text}

/-- Failures that are the same end in the same way. -/
theorem agree_expectingFatal {action action' : Action Unit} (h : Agree E action action') :
    Agree E (expectingFatal action) (expectingFatal action') := by
  refine Agree.tryCatch h fun stop stop' hstop => ?_
  rcases stop with failure | image | _
  · rcases stop' with failure' | image' | _
    · obtain rfl : failure' = failure := hstop
      rcases failure' with f | e | v | _ | _
      · exact Agree.throw rfl
      all_goals exact Agree.bind (agree_log _ _) fun _ => Agree.fail _
    all_goals exact hstop.elim
  · rcases stop' with failure' | image' | _
    · exact hstop.elim
    · exact Agree.throw hstop
    · exact hstop.elim
  · rcases stop' with failure' | image' | _
    · exact hstop.elim
    · exact hstop.elim
    · exact Agree.throw hstop

/-- Actions that agree have the same exit code. -/
theorem agree_exitCode {action action' : Action Unit} (h : Agree E action action') :
    Agree E (exitCode action) (exitCode action') := by
  refine Agree.tryCatch (Agree.bind h fun _ => Agree.pure _) fun stop stop' hstop => ?_
  rcases stop with failure | image | _
  · rcases stop' with failure' | image' | _
    · obtain rfl : failure' = failure := hstop
      rcases failure' with f | e | v | _ | _
      · exact Agree.bind (agree_log _ _) fun _ => Agree.bind (agree_printError _) fun _ =>
          Agree.pure _
      all_goals exact Agree.throw rfl
    all_goals exact hstop.elim
  · rcases stop' with failure' | image' | _
    · exact hstop.elim
    · exact Agree.throw hstop
    · exact hstop.elim
  · rcases stop' with failure' | image' | _
    · exact hstop.elim
    · exact hstop.elim
    · exact Agree.throw hstop

/-- In alike worlds a command is recorded alike. -/
theorem agree_recordCommand (base : Text) (command : List Text) :
    Agree E (recordCommand base command) (recordCommand base command) := by
  refine Agree.bind (WholeFile.agree_replace _ _) fun written => ?_
  rcases written with e | ⟨⟩
  · exact agree_log _ _
  · exact Agree.pure _

/-- In alike worlds the output base of a plan is created alike. -/
theorem agree_createBase (plan : Plan) : Agree E (createBase plan) (createBase plan) := by
  refine Agree.bind (Directory.agree_create _ _) fun created => ?_
  rcases created with e | ⟨⟩
  · exact Agree.fail _
  · exact Agree.pure _

section Work

variable (hE : IsLikeness E)
include hE

/-- In alike worlds settings with the same output base choose the same one. -/
theorem agree_chosenOutputBase (hbase : settings'.outputBase = settings.outputBase)
    (options : StartupOptions) (user : Text) :
    Agree E (chosenOutputBase options settings user) (chosenOutputBase options settings' user) := by
  unfold chosenOutputBase
  rw [hbase]
  rcases options.outputBase.or settings.outputBase with _ | base
  · exact User.agree_defaultOutputBase hE user
  · exact Agree.pure _

/-- A plan depends on no other settings than the output base and the mode of directories. -/
theorem agree_makePlan (hbase : settings'.outputBase = settings.outputBase)
    (hmode : settings'.directoryMode = settings.directoryMode) :
    Agree E (makePlan settings tokens) (makePlan settings' tokens) := by
  unfold makePlan
  rw [hmode]
  refine Agree.bind ?_ fun line => Agree.bind (User.agree_name hE) fun user => ?_
  · rcases CommandLine.read tokens with e | line
    · exact Agree.fail _
    · exact Agree.pure _
  · exact Agree.bind (agree_chosenOutputBase hE hbase _ _) fun chosen =>
      Agree.bind (Directory.agree_absoluteText chosen) fun _ => Agree.pure _

/-- In alike worlds the report is made alike. -/
theorem agree_report (options : StartupOptions) (user base : Text) :
    Agree E (report options user base) (report options user base) :=
  Agree.bind (Screen.agree_isInteractive hE) fun _ => Agree.bind (WholeFile.agree_read? _) fun _ =>
    Agree.bind (Screen.agree_columns hE) fun _ => Report.agree_emit _ _ _

/-- In alike worlds the program of a command takes over alike. -/
theorem agree_takeOver (options : StartupOptions) (program : Text) (command : List Text) :
    Agree E (takeOver options program command) (takeOver options program command) := by
  have hbecome : Agree E (become program command) (become program command) :=
    Agree.bind (Agree.bind (agree_log _ _) fun _ => Agree.bind agree_flush fun _ =>
      agree_execute _ _) fun _ => Agree.fail _
  unfold takeOver
  rcases options.commandPort with _ | port
  · exact hbecome
  · exact Agree.bind (agree_setVariable fun env env' h => hE.set_port env env' _ h) fun _ => hbecome

/-- In alike worlds a launch proceeds alike once its output base is there. -/
theorem agree_proceed (plan : Plan) : Agree E (proceed plan) (proceed plan) := by
  refine Agree.bind (agree_log _ _) fun _ => ?_
  rcases plan.command with _ | ⟨program, arguments⟩
  · exact agree_report hE _ _ _
  · simp only [start_eq]
    refine Agree.bind (Program.agree_find? hE program) fun found => ?_
    rcases found with _ | path
    · exact Agree.fail _
    · exact Agree.bind (agree_recordCommand _ _) fun _ => agree_takeOver hE _ _ _

/-- **The work is the same in worlds that are alike,** under settings that differ at most in the
delegate and the log. -/
theorem agree_work (hbase : settings'.outputBase = settings.outputBase)
    (hmode : settings'.directoryMode = settings.directoryMode) :
    Agree E (work settings tokens) (work settings' tokens) :=
  Agree.bind (agree_makePlan hE hbase hmode) fun plan =>
    Agree.bind (agree_createBase plan) fun _ => agree_proceed hE plan

/-- A question has the same answer in worlds that are alike. -/
theorem agree_answer (query : Query) : Agree E (answer query) (answer query) := by
  cases query with
  | version => exact Agree.bind (agree_printPlain _) fun _ => Agree.pure _
  | help =>
    refine Agree.get_bind fun w w' h => ?_
    rw [h.terminal_eq]
    exact Agree.bind (hE.agree_valueOf (by decide)) fun _ =>
      Agree.bind (agree_printPlain _) fun _ => Agree.pure _
  | misuse option => exact Agree.bind (agree_printError _) fun _ => Agree.pure _

end Work

end Launch

end Launcher
