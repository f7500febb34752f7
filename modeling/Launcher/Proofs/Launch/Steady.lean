import Launcher.Proofs.Launch.Ends
import Launcher.Proofs.Run.Steady

/-!
# Stages of a launch that no fault strikes

Each stage of a launch makes calls of few kinds. Where none of them is struck, the stage does what
it would do without faults. So a launch goes the same way with and without faults as long as no
stage is reached that has a call that is struck.

## Main results

* `Launcher.WholeFile.steady_read?` — reading a file, although it reckons with the faults that are
  planned.
* `Launcher.Launch.steady_prepare` and `Launcher.Launch.steady_proceed` — the stages of a launch.
* `Launcher.Launch.begins_run_main` — a run makes no calls behind its work.
-/

namespace Launcher

open Launcher.Action

variable {kinds : List CallKind}

/-! ## The user, the program and the screen -/

namespace User

/-- Looking up the name of the account makes no call that is counted. -/
theorem steady_accountName : Steady kinds accountName :=
  Steady.get_bind (fun _ => rfl) fun _ => Steady.unlessRefused
    (Steady.bind (steady_log _ _) fun _ => Steady.pure _)

/-- Looking up the name of the user makes no call that is counted. -/
theorem steady_name : Steady kinds name := by
  rw [name_eq]
  refine Steady.bind (Steady.valueOf _) fun given => ?_
  rcases given with _ | name
  · exact steady_accountName
  · exact Steady.ite (Steady.pure _) steady_accountName

/-- Finding the user's own output base makes no call that is counted. -/
theorem steady_defaultOutputBase (user : Text) : Steady kinds (defaultOutputBase user) := by
  refine Steady.bind (Steady.bind (Steady.valueOf _) fun given => ?_) fun _ => Steady.pure _
  rcases given with _ | directory
  · refine Steady.get_bind (fun _ => rfl) fun w => ?_
    rcases w.machine.account? with _ | account
    · exact Steady.pure _
    · exact Steady.pure _
  · exact Steady.pure _

end User

namespace Program

/-- Finding a program makes no call that is counted. -/
theorem steady_find? (name : Text) : Steady kinds (find? name) :=
  Steady.get_bind (fun _ => rfl) fun _ => Steady.bind (Steady.valueOf _) fun _ => Steady.pure _

/-- Turning into a program makes no calls but for executing it. -/
theorem steady_become (path : Text) (arguments : List Text) :
    Steady [.execute] (become path arguments) :=
  Steady.bind (steady_log _ _) fun _ => Steady.bind steady_flush fun _ => steady_execute _ _

end Program

namespace Screen

/-- Asking whether the terminal is interactive makes no call that is counted. -/
theorem steady_isInteractive : Steady kinds isInteractive :=
  Steady.bind (Steady.valueOf _) fun _ => Steady.bind (Steady.valueOf _) fun _ =>
    Steady.ite (Steady.pure _) (Steady.get_bind (fun _ => rfl) fun _ => Steady.pure _)

/-- Asking for the columns of the terminal makes no call that is counted. -/
theorem steady_columns : Steady kinds columns := by
  refine Steady.get_bind (fun _ => rfl) fun w => ?_
  rcases w.machine.terminal.columns with _ | columns
  · refine Steady.bind (Steady.valueOf _) fun given => ?_
    rcases given with _ | _ | ⟨a, text⟩
    · exact Steady.pure _
    · exact Steady.pure _
    · rcases hvalue : Numeral.int32 (a :: text) with e | value
      · simp only [hvalue]
        exact Steady.fail _
      · simp only [hvalue]
        exact Steady.pure _
  · exact Steady.pure _

end Screen

/-! ## Directories, files and reports -/

namespace Directory

/-- Creating one directory makes no calls but for directories. -/
theorem steady_createOne (path : Path) (mode : Int) :
    Steady [.makeDirectory] (createOne path mode) := by
  refine Steady.bind (steady_makeDirectory path mode) fun result => ?_
  rcases result with e | ⟨⟩
  · exact Steady.ite (Steady.get_bind (fun _ => rfl) fun _ =>
      Steady.ite (Steady.pure _) (Steady.pure _)) (Steady.pure _)
  · exact Steady.pure _

/-- Creating directories one after the other makes no calls but for directories. -/
theorem steady_createAll (mode : Int) (paths : List Path) :
    Steady [.makeDirectory] (createAll mode paths) := by
  induction paths with
  | nil => exact Steady.pure _
  | cons path paths ih =>
    refine Steady.bind (steady_createOne path mode) fun result => ?_
    rcases result with e | ⟨⟩
    · exact Steady.bind (steady_log _ _) fun _ => Steady.pure _
    · exact ih

/-- Creating a path makes no calls but for directories. -/
theorem steady_create (path : Path) (mode : Int) : Steady [.makeDirectory] (create path mode) :=
  steady_createAll mode path.chain

/-- Making a path absolute makes no calls but for the working directory. -/
theorem steady_absoluteText (path : Text) : Steady [.workingDirectory] (absoluteText path) := by
  refine Steady.ite (Steady.pure _)
    (Steady.bind (Steady.bind steady_workingDirectory? fun result => ?_) fun _ => Steady.pure _)
  rcases result with e | directory
  · exact Steady.fail _
  · exact Steady.pure _

end Directory

namespace WholeFile

/-- Reading on in an open file makes reads only. -/
theorem steady_readOn (fuel : Nat) (reader : Reader) (chunks : List Bytes) :
    Steady [.read] (readOn fuel reader chunks) := by
  induction fuel generalizing reader chunks with
  | zero => exact Steady.throw _
  | succ fuel ih =>
    refine Steady.bind (steady_read reader chunkSize) fun result => ?_
    rcases result with e | ⟨_ | ⟨byte, chunk⟩, rest⟩
    · exact Steady.ite (ih _ _) (Steady.pure _)
    · exact Steady.pure _
    · exact ih _ _

/-- Closing what has been read makes a close only. -/
theorem steady_closing (read : Option Bytes) : Steady [.close] (closing read) := by
  refine Steady.bind steady_close fun closed => ?_
  rcases closed with e | ⟨⟩
  · exact Steady.fail _
  · exact Steady.pure _

/-- **Where no fault is planned, fuel that is enough is as good as more of it.** -/
theorem exec_readOn_congr {fuel fuel' : Nat} {w : World} (reader : Reader) (chunks : List Bytes)
    (hfaults : w.machine.faults = []) (hfuel : readLimit w.machine reader ≤ fuel)
    (hfuel' : readLimit w.machine reader ≤ fuel') :
    exec (readOn fuel reader chunks) w = exec (readOn fuel' reader chunks) w := by
  induction fuel generalizing fuel' reader chunks w with
  | zero => rcases reader with _ | unread <;> simp [readLimit] at hfuel
  | succ fuel ih =>
    rcases fuel' with _ | fuel'
    · rcases reader with _ | unread <;> simp [readLimit] at hfuel'
    rcases reader with _ | unread
    · rw [readOn, readOn, exec_bind_of_ok (exec_read_directory hfaults chunkSize),
        exec_bind_of_ok (exec_read_directory hfaults chunkSize)]
      rfl
    · rw [readOn, readOn, exec_bind_of_ok (exec_read_file hfaults unread chunkSize),
        exec_bind_of_ok (exec_read_file hfaults unread chunkSize)]
      rcases hchunk : unread.take chunkSize with _ | ⟨byte, chunk⟩
      · rfl
      · -- The chunk is not empty, so less is left to read.
        have hless : (unread.drop chunkSize).length < unread.length :=
          length_drop_lt (by rw [hchunk]; simp)
        have hlimit :
            readLimit (w.afterCall (.read chunkSize) (.count (byte :: chunk).length)).machine
              (.file (unread.drop chunkSize)) < readLimit w.machine (.file unread) :=
          Nat.add_lt_add_right (Nat.add_lt_add_right hless _) _
        exact ih (.file (unread.drop chunkSize)) _ hfaults (by omega) (by omega)

/-- Reading a file reckons with the faults that are planned, but takes no notice of those that do
not strike. -/
theorem steady_readThrough (reader : Reader) :
    Steady [.read] (do readOn (readLimit (← get).machine reader) reader []) := by
  intro w
  obtain ⟨calls, hkinds, hsteady⟩ := steady_readOn (readLimit w.machine reader) reader [] w
  refine ⟨calls, hkinds, hsteady.made, hsteady.faults_eq, fun hstruck => ?_⟩
  have hlimit : readLimit w.calm.machine reader ≤ readLimit w.machine reader := by
    rcases reader with _ | unread
    · exact Nat.add_le_add_right (Nat.zero_le _) _
    · exact Nat.add_le_add_right (Nat.add_le_add_left (Nat.zero_le _) _) _
  exact (exec_readOn_congr reader [] rfl (Nat.le_refl _) hlimit).trans (hsteady.calm_eq hstruck)

/-- Reading an open file to its end makes reads and a close only. -/
theorem steady_readOpened (path : Path) (reader : Reader) :
    Steady [.read, .close] (readOpened path reader) := by
  have hread : Steady [.read, .close] (do readOn (readLimit (← get).machine reader) reader []) :=
    (steady_readThrough reader).mono (by simp)
  have hclosing : ∀ read, Steady [.read, .close] (closing read) := fun read =>
    (steady_closing read).mono (by simp)
  unfold readOpened
  rw [← bind_assoc]
  refine Steady.bind hread fun result => ?_
  rcases result with e | content
  · exact Steady.bind (steady_log _ _) fun _ => hclosing _
  · exact hclosing _

/-- Reading a file makes calls to open, to read and to close only. -/
theorem steady_read? (path : Path) : Steady [.openFile, .read, .close] (read? path) := by
  rw [read?_eq]
  refine Steady.bind ((steady_openToRead path).mono (by simp)) fun opened => ?_
  rcases opened with e | reader
  · exact Steady.bind (steady_log _ _) fun _ => Steady.pure _
  · exact (steady_readOpened path reader).mono (by simp)

/-- Judging a write makes no call. -/
theorem steady_verdict (path : Path) (content : Bytes) (written : Except OsError Nat)
    (closed : Except OsError Unit) : Steady kinds (verdict path content written closed) := by
  unfold verdict
  rcases written with e | n
  · exact Steady.pure _
  · rcases closed with e | ⟨⟩
    · exact Steady.pure _
    · exact Steady.ite (Steady.pure _) (Steady.bind (steady_log _ _) fun _ => Steady.pure _)

/-- Writing a new file makes calls to open, to write and to close only. -/
theorem steady_writeNew (path : Path) (content : Bytes) :
    Steady [.openFile, .write, .close] (writeNew path content) := by
  refine Steady.bind ((steady_openToWrite path).mono (by simp)) fun opened => ?_
  rcases opened with e | location
  · exact Steady.pure _
  · exact Steady.bind ((steady_write location content).mono (by simp)) fun _ =>
      Steady.bind (steady_close.mono (by simp)) fun _ => steady_verdict _ _ _ _

/-- Replacing a file makes the calls of writing a new one, and the one that removes the old one. -/
theorem steady_replace (path : Path) (content : Bytes) :
    Steady [.unlink, .openFile, .write, .close] (replace path content) := by
  have hnew : Steady [.unlink, .openFile, .write, .close] (writeNew path content) :=
    (steady_writeNew path content).mono (by simp)
  rw [replace_eq]
  refine Steady.bind ((steady_unlink path).mono (by simp)) fun removed => ?_
  rcases removed with e | ⟨⟩
  · exact Steady.ite (Steady.pure _) hnew
  · exact hnew

end WholeFile

namespace Report

/-- Printing lines makes no call that is counted. -/
theorem steady_printAll (keepEscapes : Bool) (lines : List Text) :
    Steady kinds (printAll keepEscapes lines) := by
  induction lines with
  | nil => exact Steady.pure _
  | cons line lines ih => exact Steady.bind (steady_printLine _ _) fun _ => ih

/-- Writing a report makes no call that is counted. -/
theorem steady_emit (asJson colour : Bool) (status : Status) :
    Steady kinds (emit asJson colour status) :=
  Steady.unlessRefused (Steady.ite (steady_printPlain _) (steady_printAll _ _))

end Report

/-! ## The stages -/

namespace Launch

variable {tokens : List Text}

/-- Handing the command line over makes no calls but for executing the delegate. -/
theorem steady_handOver (settings : Settings) (tokens : List Text) :
    Steady [.execute] (handOver settings tokens) := by
  unfold handOver
  rcases settings.delegate with _ | delegate
  · exact Steady.pure _
  · exact Steady.ite (Steady.pure _) (Steady.bind (steady_log _ _) fun _ =>
      Steady.bind (steady_setVariable _ _) fun _ =>
        Steady.bind (Program.steady_become _ _) fun _ => Steady.fail _)

/-- Choosing the output base makes no call that is counted. -/
theorem steady_chosenOutputBase (options : StartupOptions) (settings : Settings) (user : Text) :
    Steady kinds (chosenOutputBase options settings user) := by
  unfold chosenOutputBase
  rcases options.outputBase.or settings.outputBase with _ | base
  · exact User.steady_defaultOutputBase user
  · exact Steady.pure _

/-- Making a plan makes no calls but for the working directory. -/
theorem steady_makePlan (settings : Settings) (tokens : List Text) :
    Steady [.workingDirectory] (makePlan settings tokens) := by
  unfold makePlan
  refine Steady.bind ?_ fun line => Steady.bind User.steady_name fun user => ?_
  · rcases CommandLine.read tokens with e | line
    · exact Steady.fail _
    · exact Steady.pure _
  · exact Steady.bind (steady_chosenOutputBase _ _ _) fun chosen =>
      Steady.bind (Directory.steady_absoluteText chosen) fun _ => Steady.pure _

/-- Settling makes no other calls than to look for the working directory and to execute the
delegate. -/
theorem steady_settle (tokens : List Text) :
    Steady [.workingDirectory, .execute] (settle tokens) := by
  refine Steady.get_bind (fun _ => rfl) fun w => ?_
  rcases Settings.read w.process.environment with v | settings
  · exact Steady.fail _
  · exact Steady.bind (Steady.modifyProcess fun _ => rfl) fun _ =>
      Steady.bind ((steady_handOver settings tokens).mono (by simp)) fun _ =>
        (steady_makePlan settings tokens).mono (by simp)

/-- Creating the output base makes no calls but for directories. -/
theorem steady_createBase (plan : Plan) : Steady [.makeDirectory] (createBase plan) := by
  refine Steady.bind (Directory.steady_create _ _) fun created => ?_
  rcases created with e | ⟨⟩
  · exact Steady.fail _
  · exact Steady.pure _

/-- **Preparing** makes no calls that open, write or remove a file. -/
theorem steady_prepare (tokens : List Text) :
    Steady [.workingDirectory, .makeDirectory, .execute] (prepare tokens) :=
  Steady.bind ((steady_settle tokens).mono (by simp)) fun plan =>
    Steady.bind ((steady_createBase plan).mono (by simp)) fun _ => Steady.pure _

/-- A report makes the calls of reading its record only. -/
theorem steady_report (options : StartupOptions) (user base : Text) :
    Steady [.openFile, .read, .close] (report options user base) :=
  Steady.bind Screen.steady_isInteractive fun _ => Steady.bind (WholeFile.steady_read? _) fun _ =>
    Steady.bind Screen.steady_columns fun _ => Report.steady_emit _ _ _

/-- The kinds of calls that keep a record. -/
def recordKinds : List CallKind := [.unlink, .openFile, .write, .close]

/-- Recording a command makes the calls of replacing its record only. -/
theorem steady_recordCommand (base : Text) (command : List Text) :
    Steady recordKinds (recordCommand base command) := by
  refine Steady.bind (WholeFile.steady_replace _ _) fun written => ?_
  rcases written with e | ⟨⟩
  · exact steady_log _ _
  · exact Steady.pure _

/-- Taking over makes no calls but for executing the program. -/
theorem steady_takeOver (options : StartupOptions) (path : Text) (command : List Text) :
    Steady [.execute] (takeOver options path command) := by
  have hbecome : Steady [.execute] (become path command) :=
    Steady.bind (Program.steady_become _ _) fun _ => Steady.fail _
  unfold takeOver
  rcases options.commandPort with _ | port
  · exact hbecome
  · exact Steady.bind (steady_setVariable _ _) fun _ => hbecome

/-- A launch that proceeds makes the calls of its record, and the one that executes the program. -/
theorem steady_proceed (plan : Plan) :
    Steady [.unlink, .openFile, .read, .write, .close, .execute] (proceed plan) := by
  refine Steady.bind (steady_log _ _) fun _ => ?_
  rcases plan.command with _ | ⟨program, arguments⟩
  · exact (steady_report _ _ _).mono (by simp)
  · simp only [start_eq]
    refine Steady.bind (Program.steady_find? program) fun found => ?_
    rcases found with _ | path
    · exact Steady.fail _
    · exact Steady.bind ((steady_recordCommand _ _).mono (by simp [recordKinds])) fun _ =>
        (steady_takeOver _ _ _).mono (by simp)

/-! ## The run -/

/-- A question is answered without a call. -/
theorem steady_answer (query : Query) : Steady kinds (answer query) := by
  cases query with
  | version => exact Steady.bind (steady_printPlain _) fun _ => Steady.pure _
  | help =>
    exact Steady.get_bind (fun _ => rfl) fun _ => Steady.bind (Steady.valueOf _) fun _ =>
      Steady.bind (steady_printPlain _) fun _ => Steady.pure _
  | misuse option => exact Steady.bind (steady_printError _) fun _ => Steady.pure _

/-- Saying why a launch ends makes no call that is counted. -/
theorem steady_terminate (f : Fatal) : Steady kinds (terminate f) :=
  Steady.bind (steady_log _ _) fun _ => Steady.bind (steady_printError _) fun _ => Steady.pure _

/-- A run that answers no question begins with its work. -/
theorem begins_run_main (hquery : Query.ofTokens tokens = none) :
    Begins (run tokens) (main tokens) := by
  have hexpecting : Begins (run tokens) (expectingFatal (run tokens)) := by
    refine begins_tryCatch [] fun stop => ?_
    rcases stop with (f | e | v | _ | _) | image | _
    · exact Steady.throw _
    · exact Steady.bind (steady_log _ _) fun _ => Steady.fail _
    · exact Steady.bind (steady_log _ _) fun _ => Steady.fail _
    · exact Steady.bind (steady_log _ _) fun _ => Steady.fail _
    · exact Steady.bind (steady_log _ _) fun _ => Steady.fail _
    · exact Steady.throw _
    · exact Steady.throw _
  rw [main_of_no_query hquery]
  refine hexpecting.trans (Begins.trans (begins_bind [] fun _ => Steady.pure _)
    (begins_tryCatch [] fun stop => ?_))
  rcases stop with (f | e | v | _ | _) | image | _
  · exact steady_terminate f
  all_goals exact Steady.throw _

end Launch

end Launcher
