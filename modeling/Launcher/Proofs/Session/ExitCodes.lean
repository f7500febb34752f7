import Launcher.Proofs.Launch.Breaks
import Launcher.Proofs.Launch.PartialRecord
import Launcher.Proofs.Session.History

/-!
# What the exit code of a run tells

A run becomes another program or ends with one of four exit codes, whatever happens to it, unless it
is interrupted for ever. The exit code tells how far it came and what it has written.

## Main definitions

* `Launcher.HelpPage.Answers` — what is written in answer to a question.
* `Launcher.Launch.Tells` and `Launcher.Launch.Ends` — what an exit code tells, and how a run can
  end.
* `Launcher.Session.Classified` — what the end of a run tells.

## Main results

* `Launcher.Launch.ends_exec_main` — a run ends in one of these ways.
* `Launcher.Session.classified_run` — so does a run in a session.
-/

namespace Launcher

open Launcher.Action

/-- The page that answers a question about the program. -/
inductive HelpPage.Answers : Query → Text → Prop
  | version : Answers .version versionText
  | help (width : Nat) : Answers .help (text width)

namespace Launch

variable {tokens : List Text} {f : Fatal} {stop : Stop} {w w' w₁ : World}

/-! ## Saying why -/

/-- A launch that ends by its own decision says why. -/
theorem exec_terminate_of_isVisible (h : f.message.IsVisible) (w : World) :
    ∃ w', exec (terminate f) w = (.ok f.exitCode, w') ∧
      w'.besides [.log, .errors] = w.besides [.log, .errors] ∧ w.Said w' := by
  obtain ⟨log, hlog⟩ := exists_exec_log Level.debug
    (lit "Terminating with exit code " ++ decimal f.exitCode) w
  obtain ⟨w', hprint, hsaid⟩ := exec_printError_of_isVisible (Fatal.isVisible_render h)
    (w.withLog log)
  have hend : exec (terminate f) w = (.ok f.exitCode, w') := by
    rw [terminate, exec_bind_of_ok hlog, exec_bind_of_ok hprint]
    rfl
  have hkeeps : Keeps (World.besides [.log, .errors]) [] (terminate f) := keeps_terminate f
  exact ⟨w', hend, hkeeps.view_eq_of_exec hend, hsaid⟩

/-- What is said behind a run that has left the error stream alone is said in the run. -/
theorem said_of_besides_eq {parts : List World.Part}
    [World.Part.Among parts [.tree, .environment, .threshold, .log, .trace, .output]]
    (h : w₁.besides parts = w.besides parts) (hsaid : w₁.Said w') : w.Said w' := by
  obtain ⟨message, hne, herrors⟩ := hsaid
  rw [World.errors_eq_of_besides_eq h] at herrors
  exact ⟨message, hne, herrors⟩

/-! ## How a run ends -/

/-- What an exit code tells of a run that began in the world `w`, where nothing had been written,
and has left the world `w'`. -/
inductive Tells (tokens : List Text) (w w' : World) : ExitCode → Prop
  /-- The answer to a question has been written. -/
  | answered {query : Query} {page : Text} {cs : List Char}
      (asked : Query.ofTokens tokens = some query) (answers : HelpPage.Answers query page)
      (chars : (prepared w.machine.terminal.output page ++ [Symbol.char '\n']).chars? = some cs)
      (output : w'.process.output = ⟨cs, []⟩) : Tells tokens w w' .success
  /-- The whole report has been written. -/
  | reported {options : StartupOptions} {status : Status} {cs : List Char}
      (unasked : Query.ofTokens tokens = none)
      (read : CommandLine.read tokens = .ok { options, command := [] })
      (surveyed : reportedStatus? tokens w = some status)
      (chars : (Report.text options.json status).chars? = some cs)
      (output : w'.process.output = ⟨cs, []⟩) : Tells tokens w w' .success
  /-- Nothing has been done but to say that the arguments are bad. -/
  | refused (bare : w'.bare = w.bare) (trace : w'.process.trace = w.process.trace)
      (quiet : w'.written = []) (said : w.Said w') : Tells tokens w w' .badArguments
  /-- Nothing has been written to the output. -/
  | ended (quiet : w'.written = []) (said : w.Said w') : Tells tokens w w' .environment
  /-- The end was unexpected. -/
  | unexpected (said : w.Said w') : Tells tokens w w' .internal

/-- How a run can end: as another program, by its last call and without having written anything, or
with an exit code that tells the rest. It never ends only if interruptions never cease, and has then
written nothing. -/
inductive Ends (tokens : List Text) (w w' : World) : Except Stop Int → Prop
  | becomes {image : Image} (output : image.output = []) (quiet : w'.written = [])
      (called : ∃ calls,
        w'.process.trace = calls ++ [(.execute image.path image.arguments, .ok)]) :
      Ends tokens w w' (.error (.replaced image))
  | exits {code : ExitCode} (h : Tells tokens w w' code) : Ends tokens w w' (.ok code.number)
  | unending (interrupted : ¬Fault.Ceases w.faults (.read WholeFile.chunkSize) (.fail .interrupted))
      (quiet : w'.written = []) : Ends tokens w w' (.error .unending)

/-- A run that answers a question ends with the answer, or is refused. -/
theorem ends_exec_answer {query : Query} (hquery : Query.ofTokens tokens = some query)
    (hwritten : w.written = []) :
    Ends tokens w (exec (answer query) w).2 (exec (answer query) w).1 := by
  cases query with
  | version =>
    obtain ⟨cs, w₁, hcs, hprint, houtput⟩ :=
      exec_printPlain_of_isWritable HelpPage.isWritable_versionText w
    rw [answer, exec_bind_of_ok hprint]
    refine .exits (.answered hquery .version hcs ?_)
    rw [exec_pure, houtput, hwritten, List.nil_append]
  | help =>
    rw [answer, exec_bind_of_ok (exec_get w)]
    have hcolumns : exec (Action.valueOf "COLUMNS") w =
      (.ok (w.process.environment.lookup "COLUMNS"), w) := rfl
    rw [exec_bind_of_ok hcolumns]
    obtain ⟨cs, w₁, hcs, hprint, houtput⟩ := exec_printPlain_of_isWritable
      (HelpPage.isWritable_text (HelpPage.width (HelpPage.columns
        (w.process.environment.lookup "COLUMNS") w.machine.terminal.columns))) w
    simp only []
    rw [exec_bind_of_ok hprint]
    refine .exits (.answered hquery (.help _) hcs ?_)
    rw [exec_pure, houtput, hwritten, List.nil_append]
  | misuse option =>
    have hmessage : Text.IsVisible (lit "Error: Option '") := ⟨'E', _, rfl, by decide⟩
    obtain ⟨w₁, hprint, hsaid⟩ := exec_printError_of_isVisible
      ((hmessage.append option).append (lit "' does not take a value.")) w
    have hend : exec (answer (.misuse option)) w = (.ok ExitCode.badArguments.number, w₁) := by
      rw [answer, exec_bind_of_ok hprint]
      rfl
    have hkeeps : Keeps (World.besides [.errors]) [] (Action.printError
      (lit "Error: Option '" ++ option ++ lit "' does not take a value.")) := keeps_printError _
    rw [hend]
    exact .exits (.refused (hkeeps.bare.view_eq_of_exec hprint)
      (World.trace_eq_of_besides_eq (hkeeps.view_eq_of_exec hprint))
      ((hkeeps.written.view_eq_of_exec hprint).trans hwritten) hsaid)

/-- A launch that comes to its end has no command. -/
theorem exists_read_of_exec_run (h : exec (run tokens) w = (.ok ⟨⟩, w')) :
    ∃ options, CommandLine.read tokens = .ok { options, command := [] } := by
  rw [run_eq] at h
  obtain ⟨plan, w₁, hprepare, h⟩ := exec_bind_eq_ok.1 h
  obtain ⟨⟨w₂, hsettle⟩, -⟩ := of_exec_prepare hprepare
  obtain ⟨log, hproceed⟩ := exists_exec_proceed plan w₁
  have hread := read_of_exec_settle hsettle
  rw [hproceed] at h
  rcases hcommand : plan.command with _ | ⟨program, arguments⟩
  · rw [hcommand] at hread
    exact ⟨plan.options, hread⟩
  · simp only [hcommand] at h
    rcases hpath : Program.path? program w₁ with _ | path
    · rw [hpath] at h
      cases h
    · rw [hpath] at h
      obtain ⟨_, w₃, -, htakeOver⟩ := exec_bind_eq_ok.1 h
      obtain ⟨stop, w₄, hstop, -⟩ := exists_stop_of_exec_takeOver plan.options path
        (program :: arguments) w₃
      rw [hstop] at htakeOver
      cases htakeOver

/-- A run that comes to its end has written the whole report. -/
theorem tells_of_exec_run_ok (hquery : Query.ofTokens tokens = none) (hwritten : w.written = [])
    (h : exec (run tokens) w = (.ok ⟨⟩, w')) : Tells tokens w w' .success := by
  obtain ⟨options, hread⟩ := exists_read_of_exec_run h
  obtain ⟨plan, status, w₁, w₂, w₃, -, -, -, hsurvey, hwritten₃, hemit⟩ :=
    exists_status_of_exec_run hread h
  obtain ⟨cs, hcs, houtput⟩ := Report.text_of_exec_emit (hwritten₃.trans hwritten) hemit
  exact .reported hquery hread (by rw [reportedStatus?, hquery, hsurvey]) hcs houtput

/-- A run that stops before its end becomes another program, or says why it ends. -/
theorem ends_of_exec_run_error (hwritten : w.written = [])
    (h : exec (run tokens) w = (.error stop, w₁)) :
    ∃ result w', exec (exitCode (expectingFatal (run tokens))) w = (result, w') ∧
      Ends tokens w w' result := by
  have hkept := (keeps_run tokens).view_eq_of_exec h
  have hbroken : ∀ {failure : Failure}, (∀ f, failure ≠ .fatal f) → stop = .failed failure →
      ∃ result w', exec (exitCode (expectingFatal (run tokens))) w = (result, w') ∧
        Ends tokens w w' result := by
    rintro failure hfatal rfl
    obtain ⟨log, hexpecting⟩ := exec_expectingFatal_of_failed h hfatal
    obtain ⟨w', hend, -, hsaid⟩ := exec_terminate_of_isVisible
      (f := unexpectedly) ⟨'I', _, rfl, by decide⟩ (w₁.withLog log)
    exact ⟨_, w', (exec_exitCode_of_expected hexpecting).trans hend,
      .exits (.unexpected (said_of_besides_eq hkept hsaid))⟩
  rcases refused_or_breaks_of_exec_run h
    with ⟨⟨f, rfl, hcode, hmessage⟩, hbare, htrace, hquiet⟩ | hbreaks
  · obtain ⟨w', hend, hsame, hsaid⟩ := exec_terminate_of_isVisible hmessage w₁
    rw [hcode] at hend
    exact ⟨_, w', (exec_exitCode_of_expected (exec_expectingFatal_of_fatal h)).trans hend,
      .exits (.refused ((World.bare_eq_of_besides_eq hsame).trans hbare)
        ((World.trace_eq_of_besides_eq hsame).trans htrace)
        ((World.written_eq_of_besides_eq hsame).trans (hquiet.trans hwritten))
        (said_of_besides_eq hkept hsaid))⟩
  · rw [hwritten] at hbreaks
    cases hbreaks with
    | ended hcode hmessage hquiet =>
      obtain ⟨w', hend, hsame, hsaid⟩ := exec_terminate_of_isVisible hmessage w₁
      rw [hcode] at hend
      exact ⟨_, w', (exec_exitCode_of_expected (exec_expectingFatal_of_fatal h)).trans hend,
        .exits (.ended ((World.written_eq_of_besides_eq hsame).trans hquiet)
          (said_of_besides_eq hkept hsaid))⟩
    | replaced houtput hquiet hcalled =>
      exact ⟨_, w₁, exec_exitCode_of_replaced h, .becomes houtput hquiet hcalled⟩
    | unexpected hfatal => exact hbroken hfatal rfl
    | unending interrupted quiet =>
      have hfaults : w₁.faults = w.faults := (keeps_run tokens).faults.view_eq_of_exec h
      exact ⟨_, w₁, exec_exitCode_of_not_failed h fun failure => by simp,
        .unending (hfaults ▸ interrupted) quiet⟩

/-- **A run ends in one of these ways.** -/
theorem ends_exec_main (tokens : List Text) (hwritten : w.written = []) :
    Ends tokens w (exec (main tokens) w).2 (exec (main tokens) w).1 := by
  rcases hquery : Query.ofTokens tokens with _ | query
  · rw [main_of_no_query hquery]
    rcases hrun : exec (run tokens) w with ⟨stop | ⟨⟩, w₁⟩
    · obtain ⟨result, w', hend, hends⟩ := ends_of_exec_run_error hwritten hrun
      rw [hend]
      exact hends
    · rw [exec_exitCode_of_ok hrun]
      exact .exits (tells_of_exec_run_ok hquery hwritten hrun)
  · rw [main, hquery]
    exact ends_exec_answer hquery hwritten

end Launch

/-! ## In a session -/

namespace Session

open Launch

variable {s : Session} {tokens : List Text}

/-- What the end of a run tells: how it came about, and what has been done and written by then. -/
structure Classified (s : Session) (tokens : List Text) (outcome : Observation Int × Session) :
    Prop where
  /-- The process has become another program by its last call, or has exited with one of the exit
  codes. -/
  ends : (∃ image calls, outcome.1.result = .error (.replaced image) ∧ image.output = [] ∧
      outcome.1.process.trace = calls ++ [(.execute image.path image.arguments, .ok)]) ∨
    ∃ code : ExitCode, outcome.1.result = .ok code.number
  /-- Bad arguments are found before any call is made and any node changed. -/
  unprepared : outcome.1.result = .ok ExitCode.badArguments.number →
    outcome.1.process.trace = [] ∧ outcome.2.machine.tree = s.machine.tree
  /-- Another program, bad arguments and an unfit environment find nothing on the output. -/
  quiet : (∃ image, outcome.1.result = .error (.replaced image)) ∨
      outcome.1.result = .ok ExitCode.badArguments.number ∨
      outcome.1.result = .ok ExitCode.environment.number →
    outcome.1.process.output = .empty
  /-- Where the run has not succeeded, one line stands on the error stream, and it is not empty. -/
  said : ∀ code : ExitCode, code ≠ .success → outcome.1.result = .ok code.number →
    ∃ message : List Char, message ≠ [] ∧ outcome.1.process.errors = ⟨message ++ ['\n'], []⟩
  /-- A run that has succeeded has answered a question, or has written the whole report. -/
  complete : outcome.1.result = .ok ExitCode.success.number →
    ∃ cs, outcome.1.process.output = ⟨cs, []⟩ ∧
      ((∃ query page, Query.ofTokens tokens = some query ∧ HelpPage.Answers query page ∧
          (prepared s.machine.terminal.output page ++ [Symbol.char '\n']).chars? = some cs) ∨
        ∃ options status, Query.ofTokens tokens = none ∧
          CommandLine.read tokens = .ok { options, command := [] } ∧
          reportedStatus? tokens s.world = some status ∧
          (Report.text options.json status).chars? = some cs)

/-- An exit code is told from others by its number. -/
theorem code_eq_of_result {code code' : ExitCode}
    (h : (.ok code.number : Except Stop Int) = .ok code'.number) : code = code' :=
  number_injective (Except.ok.inj h)

/-- What the end of a run tells, if it has come to an end in one of the ways in which a run can
end. -/
theorem classified_of_ends {result : Except Stop Int} {w : World}
    (h : Ends tokens s.world w result) (hends : result ≠ .error .unending) :
    s.Classified tokens
      ({ result, process := w.process, changes := sortedChanges s.machine.tree w.machine.tree },
        { s with machine := w.machine }) := by
  cases h with
  | unending => exact absurd rfl hends
  | becomes output quiet called =>
    obtain ⟨calls, hcalls⟩ := called
    exact {
      ends := Or.inl ⟨_, calls, rfl, output, hcalls⟩
      unprepared := fun h => by cases h
      quiet := fun _ => World.output_eq_empty quiet
      said := fun _ _ h => by cases h
      complete := fun h => by cases h }
  | @exits code htells =>
    have htold : ∀ {code' : ExitCode}, (.ok code.number : Except Stop Int) = .ok code'.number →
        Tells tokens s.world w code' := fun h => code_eq_of_result h ▸ htells
    have hline : s.world.Said w → ∃ message : List Char, message ≠ [] ∧
        w.process.errors = ⟨message ++ ['\n'], []⟩ := id
    refine ⟨Or.inr ⟨code, rfl⟩, fun h => ?_, fun h => ?_, fun code' hne h => ?_, fun h => ?_⟩
    · cases htold h with
      | refused bare trace quiet said => exact ⟨trace, World.tree_eq_of_bare_eq bare⟩
    · rcases h with ⟨image, h⟩ | h | h
      · cases h
      · cases htold h with
        | refused bare trace quiet said => exact World.output_eq_empty quiet
      · cases htold h with
        | ended quiet said => exact World.output_eq_empty quiet
    · cases htold h with
      | answered => exact absurd rfl hne
      | reported => exact absurd rfl hne
      | refused bare trace quiet said => exact hline said
      | ended quiet said => exact hline said
      | unexpected said => exact hline said
    · cases htold h with
      | answered asked answers chars output =>
        exact ⟨_, output, Or.inl ⟨_, _, asked, answers, chars⟩⟩
      | reported unasked read surveyed chars output =>
        exact ⟨_, output, Or.inr ⟨_, _, unasked, read, surveyed, chars⟩⟩

/-- **What the end of a run tells,** whatever the tokens, the environment, the accounts, the tree,
the working directory, the terminal and the planned faults are. A run comes to an end if the
interruptions of its reads cease. One that never ends writes nothing. -/
theorem classified_run (s : Session) (tokens : List Text) :
    (Fault.Ceases s.machine.faults (.read WholeFile.chunkSize) (.fail .interrupted) →
      (s.perform (Launch.main tokens)).1.result ≠ .error .unending) ∧
    ((s.perform (Launch.main tokens)).1.result ≠ .error .unending →
      s.Classified tokens (s.perform (Launch.main tokens))) ∧
    ((s.perform (Launch.main tokens)).1.result = .error .unending →
      (s.perform (Launch.main tokens)).1.process.output = .empty) := by
  have hends := ends_exec_main (w := s.world) tokens rfl
  refine ⟨exec_main_ne_unending (w := s.world) tokens, classified_of_ends hends,
    fun hunending => ?_⟩
  have hresult : (exec (Launch.main tokens) s.world).1 = .error .unending := hunending
  rw [hresult] at hends
  cases hends with
  | unending interrupted quiet => exact World.output_eq_empty quiet

/-- A run whose first read is interrupted ends as a run does. If every read is interrupted, the run
never ends, and writes nothing. -/
theorem classified_run_interrupting :
    (Fault.Ceases (interrupting (some 1)).machine.faults (.read WholeFile.chunkSize)
        (.fail .interrupted) ∧
      (interrupting (some 1)).Classified reportTokens
        ((interrupting (some 1)).perform (Launch.main reportTokens))) ∧
    ((interrupting none).perform (Launch.main reportTokens)).1.result = .error .unending ∧
      ((interrupting none).perform (Launch.main reportTokens)).1.process.output = .empty := by
  have hceases : Fault.Ceases (interrupting (some 1)).machine.faults (.read WholeFile.chunkSize)
      (.fail .interrupted) := by decide
  have hunending : ((interrupting none).perform (Launch.main reportTokens)).1.result =
      .error .unending := by decide +kernel
  obtain ⟨hends, hclassified, -⟩ := classified_run (interrupting (some 1)) reportTokens
  obtain ⟨-, -, hquiet⟩ := classified_run (interrupting none) reportTokens
  exact ⟨⟨hceases, hclassified (hends hceases)⟩, hunending, hquiet hunending⟩

/-- Not every run becomes another program or exits: one whose reads are all interrupted never
ends. -/
theorem not_every_run_classified :
    ¬∀ (s : Session) (tokens : List Text),
      s.Classified tokens (s.perform (Launch.main tokens)) := by
  intro hclaim
  have hunending : ((interrupting none).perform (Launch.main reportTokens)).1.result =
      .error .unending := by decide +kernel
  obtain ⟨image, calls, hresult, -⟩ | ⟨code, hresult⟩ :=
    (hclaim (interrupting none) reportTokens).ends
  · cases hunending.symm.trans hresult
  · cases hunending.symm.trans hresult

end Session

end Launcher
