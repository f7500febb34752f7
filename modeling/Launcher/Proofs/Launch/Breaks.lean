import Launcher.Proofs.Launch.Execution
import Launcher.Proofs.Run.Stops
import Launcher.Proofs.WholeFile.Reading

/-!
# Where a launch breaks off

A launch that does not come to its end is refused for bad arguments before it has done anything,
ends for its environment without having written anything, becomes another program, or breaks off
unexpectedly. Only a report writes to the output, and a report ends no launch.

## Main definitions

* `Launcher.Launch.Refused` — a launch has bad arguments.
* `Launcher.Launch.Breaks` — a launch breaks off in one of the other ways.

## Main results

* `Launcher.Launch.says_report` and its like — no stage but the execution replaces the process.
* `Launcher.Launch.refused_or_breaks_of_exec_run` — how a launch breaks off.
-/

namespace Launcher

open Launcher.Action

/-! ## What the stages say -/

namespace User

/-- A user without an account is said to have none. -/
theorem says_accountName : Says accountName := by
  have hmessage : Text.IsVisible
      (lit "$USER is not set, and unable to look up name of current user") :=
    ⟨'$', _, rfl, by decide⟩
  exact Says.bind Says.get fun _ => Says.unlessRefused (Stop.isSaid_fail _ hmessage)
    (Says.bind (says_log _ _) fun _ => Says.pure _)

/-- Finding the name of the user stops only with a reason. -/
theorem says_name : Says name := by
  rw [name_eq]
  refine Says.bind (Says.valueOf _) fun given => ?_
  rcases given with _ | name
  · exact says_accountName
  · exact Says.ite (Says.pure _) says_accountName

/-- Finding the user's own output base does not stop. -/
theorem says_defaultOutputBase (user : Text) : Says (defaultOutputBase user) := by
  refine Says.bind (Says.bind (Says.valueOf _) fun given => ?_) fun _ => Says.pure _
  rcases given with _ | directory
  · refine Says.bind Says.get fun w => ?_
    rcases w.machine.account? with _ | account
    · exact Says.pure _
    · exact Says.pure _
  · exact Says.pure _

end User

namespace Screen

/-- Asking whether the terminal is interactive does not stop. -/
theorem says_isInteractive : Says isInteractive :=
  Says.bind (Says.valueOf _) fun _ => Says.bind (Says.valueOf _) fun _ =>
    Says.ite (Says.pure _) (Says.bind Says.get fun _ => Says.pure _)

/-- A number of columns that cannot be read is an exception of its own. -/
theorem says_columns : Says columns := by
  refine Says.bind Says.get fun w => ?_
  rcases w.machine.terminal.columns with _ | columns
  · refine Says.bind (Says.valueOf _) fun given => ?_
    rcases given with _ | _ | ⟨a, text⟩
    · exact Says.pure _
    · exact Says.pure _
    · rcases hvalue : Numeral.int32 (a :: text) with e | value
      · simp only [hvalue]
        exact Says.fail (.unexpected fun _ => by simp)
      · simp only [hvalue]
        exact Says.pure _
  · exact Says.pure _

end Screen

namespace Directory

variable {path : Path} {mode : Int}

/-- Creating one directory stops only with an exception. -/
theorem says_createOne (path : Path) (mode : Int) : Says (createOne path mode) := by
  refine Says.bind (says_makeDirectory path mode) fun result => ?_
  rcases result with e | ⟨⟩
  · exact Says.ite (Says.bind Says.get fun _ => Says.ite (Says.pure _) (Says.pure _)) (Says.pure _)
  · exact Says.pure _

/-- Creating directories one after the other stops only with an exception. -/
theorem says_createAll (mode : Int) (paths : List Path) : Says (createAll mode paths) := by
  induction paths with
  | nil => exact Says.pure _
  | cons path paths ih =>
    refine Says.bind (says_createOne path mode) fun result => ?_
    rcases result with e | ⟨⟩
    · exact Says.bind (says_log _ _) fun _ => Says.pure _
    · exact ih

/-- A path that cannot be made absolute is said to be one. -/
theorem says_absoluteText (path : Text) : Says (absoluteText path) := by
  have hmessage : Text.IsVisible (lit "getcwd() failed") := ⟨'g', _, rfl, by decide⟩
  have hworking : Says working := by
    refine Says.bind (says_call _ _ _) fun result => ?_
    rcases result with e | directory
    · exact Says.fail (Stop.isSaid_because _ hmessage e)
    · exact Says.pure _
  exact Says.ite (Says.pure _) (Says.bind hworking fun _ => Says.pure _)

end Directory

namespace WholeFile

variable {path : Path}

/-- **Reading a file fails with a word, or goes on for ever.** -/
theorem isSaid_or_readsForEver_of_exec_read? {stop : Stop} {w w' : World}
    (h : exec (read? path) w = (.error stop, w')) :
    stop.IsSaid ∨ stop = .unending ∧ ReadsForEver w w' := by
  have hkeeps : Keeps (World.besides [.log, .trace]) [] (read? path) := keeps_read? path
  have hwritten : w'.written = w.written := hkeeps.written.view_eq_of_exec h
  rw [read?_eq] at h
  rcases exec_openToRead_cases path w with ⟨failure, hopen⟩ | ⟨e, hopen⟩ | ⟨reader, -, -, hopen⟩
  · rw [exec_bind_of_error hopen] at h
    cases h
    exact Or.inl (says_openToRead path w _ _ hopen)
  · rw [exec_bind_of_ok hopen] at h
    exact Or.inl (Says.bind (says_log _ _) (fun _ => Says.pure none) _ _ _ h)
  · rw [exec_bind_of_ok hopen] at h
    rcases exec_readOpened_cases path reader (w.afterCall (.openToRead path) .ok) with
      ⟨answers, read, closed, result, w₁, -, hread, -, hclosed⟩ |
        ⟨answers, w₁, hread, hinterrupted, hgoes, hmakes⟩
    · cases hread.symm.trans h
      cases hclosed with
      | notClosed e => exact Or.inl (.unexpected fun _ => by simp)
    · cases hread.symm.trans h
      exact Or.inr ⟨rfl, hinterrupted, hwritten, path, answers, hgoes,
        (World.makes_afterCall rfl _ w).trans hmakes⟩

/-- Writing a new file stops only with an exception. -/
theorem says_writeNew (path : Path) (content : Bytes) : Says (writeNew path content) := by
  refine Says.bind (says_openToWrite path) fun opened => ?_
  rcases opened with e | location
  · exact Says.pure _
  · refine Says.bind (says_call _ _ _) fun written => Says.bind (says_call _ _ _) fun closed => ?_
    exact Says.of_value fun w => by
      obtain ⟨replaced, log, hverdict⟩ := exists_exec_verdict path content written closed w
      exact ⟨replaced, congrArg Prod.fst hverdict⟩

/-- Replacing a file stops only with an exception. -/
theorem says_replace (path : Path) (content : Bytes) : Says (replace path content) := by
  rw [replace_eq]
  refine Says.bind (says_unlink path) fun removed => ?_
  rcases removed with e | ⟨⟩
  · exact Says.ite (Says.pure _) (says_writeNew path content)
  · exact says_writeNew path content

end WholeFile

namespace Report

/-- Printing lines stops only at one that cannot be written. -/
theorem says_printAll (keepEscapes : Bool) (lines : List Text) :
    Says (printAll keepEscapes lines) := by
  induction lines with
  | nil => exact Says.pure _
  | cons line lines ih => exact Says.bind (says_printLine _ _) fun _ => ih

/-- A report stops only at a number or a line that cannot be written. -/
theorem says_emit (asJson colour : Bool) (status : Status) : Says (emit asJson colour status) :=
  Says.unlessRefused (.unexpected fun _ => by simp)
    (Says.ite (Says.bind Says.get fun _ => says_printLine _ _) (says_printAll _ _))

end Report

namespace Launch

variable {tokens : List Text} {settings : Settings} {plan : Plan} {stop : Stop}
  {written : List Char} {w w' w₁ : World}

/-- A command line that is not accepted is refused with a reason. -/
theorem says_ofExcept_read (tokens : List Text) :
    Says (Action.ofExcept (CommandLine.read tokens)) := by
  rcases hread : CommandLine.read tokens with failure | line
  · refine Says.fail ?_
    rcases CommandLine.exists_refusal_of_read hread with ⟨refusal, rfl⟩ | ⟨digits, -, rfl⟩
    · exact Stop.isSaid_fail _ refusal.isVisible_message
    · exact .unexpected fun _ => by simp
  · exact Says.pure _

/-- A plan that cannot be made is given up with a reason. -/
theorem says_makePlan (settings : Settings) (tokens : List Text) :
    Says (makePlan settings tokens) := by
  refine Says.bind (says_ofExcept_read tokens) fun line => Says.bind User.says_name fun user => ?_
  refine Says.bind ?_ fun chosen => Says.bind (Directory.says_absoluteText chosen) fun _ =>
    Says.pure _
  unfold chosenOutputBase
  rcases line.options.outputBase.or settings.outputBase with _ | base
  · exact User.says_defaultOutputBase user
  · exact Says.pure _

/-- An output base that cannot be created is given up with a reason. -/
theorem says_createBase (plan : Plan) : Says (createBase plan) := by
  have hmessage : Text.IsVisible (lit "could not create output base directory '") :=
    ⟨'c', _, rfl, by decide⟩
  refine Says.bind (Directory.says_createAll _ _) fun created => ?_
  rcases created with e | ⟨⟩
  · exact Says.fail (Stop.isSaid_because _ ((hmessage.append _).append _) e)
  · exact Says.pure _

/-- **A report fails with a word, or reads its record for ever.** It never replaces the process. -/
theorem isSaid_or_readsForEver_of_exec_report {options : StartupOptions} {user base : Text}
    (h : exec (report options user base) w = (.error stop, w')) :
    stop.IsSaid ∨ stop = .unending ∧ WholeFile.ReadsForEver w w' := by
  unfold report at h
  have hinteractive : Keeps (World.besides []) [] Screen.isInteractive := Screen.keeps_isInteractive
  rcases hfirst : exec Screen.isInteractive w with ⟨stop' | interactive, w₁⟩
  · rw [exec_bind_of_error hfirst] at h
    cases h
    exact Or.inl (Screen.says_isInteractive w _ _ hfirst)
  · rw [exec_bind_of_ok hfirst] at h
    rcases hread : exec (WholeFile.read? (.text (base.joinPath recordName))) w₁
      with ⟨stop' | record, w₂⟩
    · rw [exec_bind_of_error hread] at h
      cases h
      rcases WholeFile.isSaid_or_readsForEver_of_exec_read? hread with hsaid | ⟨rfl, hreads⟩
      · exact Or.inl hsaid
      · obtain ⟨path, answers, hgoes, hmakes⟩ := hreads.calls
        have hfaults : w₁.faults = w.faults := hinteractive.faults.view_eq_of_exec hfirst
        exact Or.inr ⟨rfl, hfaults ▸ hreads.interrupted,
          hreads.written.trans (hinteractive.written.view_eq_of_exec hfirst), path, answers, hgoes,
          (hinteractive.makes hfirst).trans hmakes⟩
    · rw [exec_bind_of_ok hread] at h
      exact Or.inl (Says.bind Screen.says_columns (fun _ => Report.says_emit _ _ _) _ _ _ h)

/-- Recording a command stops only with an exception. -/
theorem says_recordCommand (base : Text) (command : List Text) :
    Says (recordCommand base command) := by
  refine Says.bind (WholeFile.says_replace _ _) fun result => ?_
  rcases result with e | ⟨⟩
  · exact says_log _ _
  · exact Says.pure _

/-! ## Breaking off -/

/-- Bad arguments end the launch with a message, before anything has been done. -/
structure Refused (w w' : World) (stop : Stop) : Prop where
  fatal : ∃ f, stop = .failed (.fatal f) ∧ f.exitCode = ExitCode.badArguments.number ∧
    f.message.IsVisible
  bare : w'.bare = w.bare
  trace : w'.process.trace = w.process.trace
  quiet : w'.written = w.written

/-- How else a launch comes to no end of its own, of which this had been written before: it ends for
its environment with a message, and without having written anything; it becomes another program by a
call, without having written anything; it breaks off in a way that it did not expect; or
interruptions that never cease keep it from ending, and from writing anything. -/
inductive Breaks (written : List Char) (w : World) : Stop → Prop
  | ended {f : Fatal} (code : f.exitCode = ExitCode.environment.number)
      (said : f.message.IsVisible) (quiet : w.written = written) :
      Breaks written w (.failed (.fatal f))
  | replaced {image : Image} (output : image.output = written) (quiet : w.written = written)
      (called : ∃ calls,
        w.process.trace = calls ++ [(.execute image.path image.arguments, .ok)]) :
      Breaks written w (.replaced image)
  | unexpected {failure : Failure} (h : ∀ f, failure ≠ .fatal f) :
      Breaks written w (.failed failure)
  | unending (interrupted : ¬Fault.Ceases w.faults (.read WholeFile.chunkSize) (.fail .interrupted))
      (quiet : w.written = written) : Breaks written w .unending

/-- A failure with a message, for the environment if it ends the launch, breaks a launch off that
has written nothing. -/
theorem breaks_of_isSaid (hsaid : stop.IsSaid) (hexits : stop.ExitsWith [.environment])
    (hquiet : w.written = written) : Breaks written w stop := by
  cases hsaid with
  | fatal hmessage =>
    obtain ⟨code, hmem, hcode⟩ := hexits _ rfl
    rw [List.mem_singleton.1 hmem] at hcode
    exact .ended hcode hmessage hquiet
  | unexpected h => exact .unexpected h

/-- The same for an action that keeps what has been written. -/
theorem breaks_of_exec {α : Type} {action : Action α} (hspeech : Says action)
    (hkeeps : Keeps World.written [.environment] action)
    (h : exec action w = (.error stop, w')) : Breaks w.written w' stop :=
  breaks_of_isSaid (hspeech w stop w' h) (hkeeps.exits w stop w' h) (hkeeps.view_eq_of_exec h)

/-- A report that breaks off does so unexpectedly, whatever it has written by then; or it goes on
for ever, and has written nothing. -/
theorem breaks_of_exec_report {options : StartupOptions} {user base : Text}
    (h : exec (report options user base) w = (.error stop, w')) : Breaks w.written w' stop := by
  have hkeeps : Keeps (World.besides [.log, .trace, .output]) [] (report options user base) :=
    keeps_report _ _ _
  rcases isSaid_or_readsForEver_of_exec_report h with hsaid | ⟨rfl, hreads⟩
  · cases hsaid with
    | fatal =>
      obtain ⟨code, hmem, -⟩ := hkeeps.exits w _ w' h _ rfl
      cases hmem
    | unexpected hfatal => exact .unexpected hfatal
  · exact .unending (hkeeps.faults.view_eq_of_exec h ▸ hreads.interrupted) hreads.written

/-- A program that is executed once the output has been sent out replaces the process, or the launch
breaks off. -/
theorem breaks_of_exec_executeOrEnd {program message : Text} {arguments : List Text}
    (hmessage : message.IsVisible) (hsent : w.process.output.pending = [])
    (h : exec (executeOrEnd program arguments message) w = (.error stop, w')) :
    Breaks w.written w' stop := by
  by_cases hgiven : CanBeGiven program arguments
  · rcases exec_executeOrEnd_cases hgiven message w with ⟨e, hexec⟩ | hexec
    · rw [hexec] at h
      cases h
      exact breaks_of_isSaid (Stop.isSaid_because _ hmessage _)
        (Stop.exitsWith_because (by simp) _ _) rfl
    · rw [hexec] at h
      cases h
      refine .replaced ?_ rfl ⟨w.process.trace, rfl⟩
      rw [World.written, hsent, List.append_nil]
      rfl
  · obtain ⟨failure, hexec⟩ := exec_execute_of_not_canBeGiven hgiven w
    have hkeeps : Keeps (World.besides [.trace]) [] (Action.execute program arguments) :=
      keeps_execute program arguments
    rw [executeOrEnd, exec_bind_of_error hexec] at h
    cases h
    refine .unexpected fun f hf => ?_
    obtain ⟨code, hmem, -⟩ := hkeeps.exits w _ _ hexec f (congrArg Stop.failed hf)
    cases hmem

/-- Sending out what waits in the buffers is no writing. -/
theorem written_readied (w : World) (environment : Environment) (log : List LogRecord) :
    (w.readied environment log).written = w.written := by
  rw [World.written, World.readied, Stream.flush, List.append_nil]
  rfl

/-- A program that takes over, or fails to, has been left nothing to write. -/
theorem breaks_of_exec_takeOver {options : StartupOptions} {path : Text} {command : List Text}
    (h : exec (takeOver options path command) w = (.error stop, w')) :
    Breaks w.written w' stop := by
  have hmessage : Text.IsVisible (lit "execv of '") := ⟨'e', _, rfl, by decide⟩
  obtain ⟨log, htakeOver⟩ := exec_takeOver options path command w
  rw [htakeOver] at h
  rw [← written_readied w (programEnvironment options w.process.environment) log]
  exact breaks_of_exec_executeOrEnd ((hmessage.append _).append _) rfl h

/-- A launch that is handed over, or fails to be, has written nothing. -/
theorem breaks_of_exec_delegate {delegate : Text} {environment : Environment}
    {log : List LogRecord}
    (h : exec (executeOrEnd delegate (delegate :: tokens) (delegateMessage delegate))
      (w.readied environment log) = (.error stop, w')) : Breaks w.written w' stop := by
  have hmessage : Text.IsVisible (lit "could not execute delegate '") := ⟨'c', _, rfl, by decide⟩
  rw [← written_readied w environment log]
  exact breaks_of_exec_executeOrEnd ((hmessage.append _).append _) rfl h

/-- A launch that breaks off once its output base is there. -/
theorem breaks_of_exec_proceed (h : exec (proceed plan) w = (.error stop, w')) :
    Breaks w.written w' stop := by
  obtain ⟨log, hproceed⟩ := exists_exec_proceed plan w
  rw [hproceed] at h
  rcases hcommand : plan.command with _ | ⟨program, arguments⟩
  · rw [hcommand] at h
    exact breaks_of_exec_report (w := w.withLog log) h
  · simp only [hcommand] at h
    rcases hpath : Program.path? program w with _ | path
    · have hmessage : Text.IsVisible (lit "Cannot find executable '") := ⟨'C', _, rfl, by decide⟩
      rw [hpath] at h
      cases h
      exact .ended rfl ((hmessage.append _).append _) rfl
    · simp only [hpath] at h
      have hkeeps : Keeps World.written [.environment]
          (recordCommand plan.base (program :: arguments)) := (keeps_recordCommand _ _).written
      rcases hrecord : exec (recordCommand plan.base (program :: arguments)) (w.withLog log)
        with ⟨stop' | ⟨⟩, w₁⟩
      · rw [exec_bind_of_error hrecord] at h
        cases h
        exact breaks_of_exec (w := w.withLog log) (says_recordCommand _ _) hkeeps hrecord
      · rw [exec_bind_of_ok hrecord] at h
        have hwritten : w₁.written = (w.withLog log).written := hkeeps.view_eq_of_exec hrecord
        have hbreaks := breaks_of_exec_takeOver h
        rw [hwritten] at hbreaks
        exact hbreaks

/-- A launch that breaks off before its plan has been made has done nothing. -/
theorem refused_or_breaks_of_exec_makePlan
    (h : exec (makePlan settings tokens) w = (.error stop, w')) :
    Refused w w' stop ∨ Breaks w.written w' stop := by
  have hkeeps := keeps_makePlan settings tokens
  cases says_makePlan settings tokens w stop w' h with
  | fatal hmessage =>
    obtain ⟨code, hmem, hcode⟩ := hkeeps.exits w _ w' h _ rfl
    rcases List.mem_cons.1 hmem with rfl | hmem
    · exact Or.inl ⟨⟨_, rfl, hcode, hmessage⟩, hkeeps.bare.view_eq_of_exec h,
        World.trace_eq_of_besides_eq (hkeeps.view_eq_of_exec h), hkeeps.written.view_eq_of_exec h⟩
    · rw [List.mem_singleton.1 hmem] at hcode
      exact Or.inr (.ended hcode hmessage (hkeeps.written.view_eq_of_exec h))
  | unexpected hfatal => exact Or.inr (.unexpected hfatal)

/-- **How a launch breaks off.** -/
theorem refused_or_breaks_of_exec_run (h : exec (run tokens) w = (.error stop, w')) :
    Refused w w' stop ∨ Breaks w.written w' stop := by
  rcases hsettings : Settings.read w.process.environment with v | settings
  · rw [exec_run_of_read_eq_error hsettings] at h
    cases h
    exact Or.inr (.ended rfl v.isVisible_message rfl)
  · rcases hrecipient : settings.recipient? with _ | delegate
    · rw [exec_run_of_recipient?_eq_none hsettings hrecipient, work] at h
      rcases hplan : exec (makePlan settings tokens) (w.withThreshold settings.logLevel)
        with ⟨stop' | plan, w₁⟩
      · rw [exec_bind_of_error hplan] at h
        cases h
        rcases refused_or_breaks_of_exec_makePlan hplan with hrefused | hbreaks
        · exact Or.inl ⟨hrefused.fatal, hrefused.bare, hrefused.trace, hrefused.quiet⟩
        · exact Or.inr hbreaks
      · rw [exec_bind_of_ok hplan] at h
        have hplanned : w₁.written = (w.withThreshold settings.logLevel).written :=
          (keeps_makePlan settings tokens).written.view_eq_of_exec hplan
        have hcreate :
            Keeps (World.besides [.tree, .log, .trace]) [.environment] (createBase plan) :=
          keeps_createBase (Directory.keeps_create _ _)
        rcases hcreated : exec (createBase plan) w₁ with ⟨stop' | ⟨⟩, w₂⟩
        · rw [exec_bind_of_error hcreated] at h
          cases h
          have hbreaks := breaks_of_exec (says_createBase plan) hcreate.written hcreated
          rw [hplanned] at hbreaks
          exact Or.inr hbreaks
        · rw [exec_bind_of_ok hcreated] at h
          have hprepared : w₂.written = w.written :=
            (hcreate.written.view_eq_of_exec hcreated).trans hplanned
          exact Or.inr (hprepared ▸ breaks_of_exec_proceed h)
    · obtain ⟨log, hrun⟩ := exec_run_of_recipient?_eq_some tokens hsettings hrecipient
      rw [hrun] at h
      exact Or.inr (breaks_of_exec_delegate (w := w.withThreshold settings.logLevel) h)

/-! ## Coming to an end -/

/-- A question about the program is answered, or a line of the answer cannot be written. -/
theorem says_answer (query : Query) : Says (answer query) := by
  cases query with
  | version => exact Says.bind (says_printPlain _) fun _ => Says.pure _
  | help =>
    exact Says.bind Says.get fun _ => Says.bind (Says.valueOf _) fun _ =>
      Says.bind (says_printPlain _) fun _ => Says.pure _
  | misuse option => exact Says.bind (says_printError _) fun _ => Says.pure _

/-- **A launch comes to an end if the interruptions of its reads cease.** -/
theorem exec_run_ne_unending
    (hceases : Fault.Ceases w.faults (.read WholeFile.chunkSize) (.fail .interrupted)) :
    (exec (run tokens) w).1 ≠ .error .unending := by
  intro hunending
  rcases hrun : exec (run tokens) w with ⟨result, w₁⟩
  rw [hrun] at hunending
  obtain rfl : result = .error .unending := hunending
  rcases refused_or_breaks_of_exec_run hrun with ⟨⟨f, hstop, -⟩, -⟩ | hbreaks
  · cases hstop
  · cases hbreaks with
    | unending interrupted =>
      have hfaults : w₁.faults = w.faults := (keeps_run tokens).faults.view_eq_of_exec hrun
      exact interrupted (hfaults ▸ hceases)

/-- **A run comes to an end if the interruptions of its reads cease.** -/
theorem exec_main_ne_unending (tokens : List Text)
    (hceases : Fault.Ceases w.faults (.read WholeFile.chunkSize) (.fail .interrupted)) :
    (exec (main tokens) w).1 ≠ .error .unending := by
  intro hunending
  rcases hquery : Query.ofTokens tokens with _ | query
  · rw [main_of_no_query hquery] at hunending
    have hrun := exec_of_exec_exitCode_error (Prod.ext hunending rfl)
    exact exec_run_ne_unending hceases (congrArg Prod.fst hrun)
  · rw [main, hquery] at hunending
    exact (says_answer query w _ _ (Prod.ext hunending rfl)).ne_unending rfl

end Launch

end Launcher
