import Launcher.Proofs.Launch.Stages

/-!
# How a launch ends

A launch ends with an exit code or as another program. The code tells how far it came: success only
after a report, bad arguments only before anything is prepared.

## Main results

* `Launcher.Launch.keeps_run` — the exit codes with which a launch ends by its own decision.
* `Launcher.Launch.besides_exec_exitCode` — what the end of a launch adds to its work.
* `Launcher.Launch.mem_of_exec_exitCode` — where an exit code comes from.
* `Launcher.Launch.resolvedCommand?_eq_none_of_exec_main` and
  `Launcher.Launch.resolvedCommand?_eq_none_of_exec_run` — the ends after which nothing was started.
-/

namespace Launcher.Launch

open Launcher.Action

variable {codes : List ExitCode} {tokens : List Text} {w w' : World}

/-! ## The exit codes of the stages -/

/-- Recording a command changes the tree, the log and the trace at most, and ends no launch. -/
theorem keeps_recordCommand (base : Text) (command : List Text) :
    Keeps (World.besides [.tree, .log, .trace]) codes (recordCommand base command) := by
  refine Keeps.bind (WholeFile.keeps_replace _ _) fun written => ?_
  rcases written with e | ⟨⟩
  · exact (keeps_log _ _).widen
  · exact Keeps.pure _

/-- Starting a command writes nothing to the streams, and ends the launch only for the
environment. -/
theorem keeps_start (options : StartupOptions) (base program : Text) (command : List Text) :
    Keeps (World.besides [.tree, .environment, .log, .trace]) [.environment]
      (start options base program command) := by
  rw [start_eq]
  refine Keeps.bind (Keeps.of_value (fun _ => rfl) fun w => ⟨_, rfl⟩) fun found => ?_
  rcases found with _ | path
  · exact Keeps.fail (Stop.exitsWith_fail (by simp) _)
  · exact Keeps.bind (keeps_recordCommand _ _).widen fun _ => (keeps_takeOver _ _ _).widen

/-- A launch that proceeds says nothing on the error stream, and ends only for the environment. -/
theorem keeps_proceed (plan : Plan) :
    Keeps (World.besides [.tree, .environment, .log, .trace, .output]) [.environment]
      (proceed plan) := by
  refine Keeps.bind (keeps_log _ _).widen fun _ => ?_
  rcases plan.command with _ | ⟨program, arguments⟩
  · exact (keeps_report _ _ _).widen
  · exact (keeps_start _ _ _ _).widen

/-- **A launch that ends by its own decision ends as bad arguments or for its environment.** It
writes nothing to the error stream by then. -/
theorem keeps_run (tokens : List Text) :
    Keeps (World.besides [.tree, .environment, .threshold, .log, .trace, .output])
      [.badArguments, .environment] (run tokens) := by
  rw [run_eq]
  exact Keeps.bind (keeps_prepare tokens).widen fun plan =>
    ((keeps_proceed plan).mono (by simp)).widen

/-! ## From stops to exit codes -/

/-- Saying why a launch ends changes the log and the errors only. -/
theorem keeps_terminate (f : Fatal) : Keeps (World.besides [.log, .errors]) codes (terminate f) :=
  Keeps.bind (keeps_log _ _).widen fun _ => Keeps.bind (keeps_printError _).widen fun _ =>
    Keeps.pure _

/-- Saying why a launch ends comes to its exit code. -/
theorem exec_terminate (f : Fatal) (w : World) :
    ∃ w', exec (terminate f) w = (.ok f.exitCode, w') := ⟨_, rfl⟩

/-- The end of a launch by its own decision was expected. -/
theorem exec_expectingFatal_of_fatal {action : Action Unit} {f : Fatal}
    (h : exec action w = (.error (.failed (.fatal f)), w')) :
    exec (expectingFatal action) w = (.error (.failed (.fatal f)), w') := by
  rw [expectingFatal, exec_tryCatch, h]
  rfl

/-- The end of a launch that did not expect a failure. -/
def unexpectedly : Fatal := .plain ExitCode.internal.number (lit "Internal launcher error.")

/-- A failure that a launch did not expect becomes the end of it. -/
theorem exec_expectingFatal_of_failed {action : Action Unit} {failure : Failure}
    (h : exec action w = (.error (.failed failure), w')) (hfatal : ∀ f, failure ≠ .fatal f) :
    ∃ log, exec (expectingFatal action) w =
      (.error (.failed (.fatal unexpectedly)), w'.withLog log) := by
  obtain ⟨log, hlog⟩ := exists_exec_log Level.error (lit "Launcher failed unexpectedly") w'
  refine ⟨log, ?_⟩
  rw [expectingFatal, exec_tryCatch, h]
  cases failure with
  | fatal f => exact absurd rfl (hfatal f)
  | system e => exact exec_bind_of_ok hlog
  | invalid v => exact exec_bind_of_ok hlog
  | outOfRange => exact exec_bind_of_ok hlog
  | unwritable => exact exec_bind_of_ok hlog

/-- A launch that ends by its own decision says so. -/
theorem exec_exitCode_of_expected {action : Action Unit} {f : Fatal}
    (h : exec (expectingFatal action) w = (.error (.failed (.fatal f)), w')) :
    exec (exitCode (expectingFatal action)) w = exec (terminate f) w' := by
  rw [exitCode, exec_tryCatch, exec_bind_of_error h]

/-- Saying so gives the exit code of the decision. -/
theorem exists_exec_terminate (f : Fatal) (w : World) :
    ∃ w', exec (terminate f) w = (.ok f.exitCode, w') ∧
      w'.besides [.log, .errors] = w.besides [.log, .errors] := by
  obtain ⟨w', hend⟩ := exec_terminate f w
  have hkeeps : Keeps (World.besides [.log, .errors]) [] (terminate f) := keeps_terminate f
  exact ⟨w', hend, hkeeps.view_eq_of_exec hend⟩

/-- A launch that ends by its own decision has the exit code of that decision. -/
theorem exec_exitCode_of_fatal {action : Action Unit} {f : Fatal}
    (h : exec action w = (.error (.failed (.fatal f)), w')) :
    ∃ w'', exec (exitCode (expectingFatal action)) w = (.ok f.exitCode, w'') ∧
      w''.besides [.log, .errors] = w'.besides [.log, .errors] := by
  rw [exec_exitCode_of_expected (exec_expectingFatal_of_fatal h)]
  exact exists_exec_terminate f w'

/-- A failure that the launch did not expect ends it as an internal error. -/
theorem exec_exitCode_of_failed {action : Action Unit} {failure : Failure}
    (h : exec action w = (.error (.failed failure), w')) (hfatal : ∀ f, failure ≠ .fatal f) :
    ∃ w'', exec (exitCode (expectingFatal action)) w = (.ok ExitCode.internal.number, w'') ∧
      w''.besides [.log, .errors] = w'.besides [.log, .errors] := by
  obtain ⟨log, hexpecting⟩ := exec_expectingFatal_of_failed h hfatal
  rw [exec_exitCode_of_expected hexpecting]
  exact exists_exec_terminate unexpectedly (w'.withLog log)

/-- A stop that is no failure is none of the launch's business: it gets no exit code. -/
theorem exec_exitCode_of_not_failed {action : Action Unit} {stop : Stop}
    (h : exec action w = (.error stop, w')) (hstop : ∀ failure, stop ≠ .failed failure) :
    exec (exitCode (expectingFatal action)) w = (.error stop, w') := by
  have hexpecting : exec (expectingFatal action) w = (.error stop, w') := by
    rw [expectingFatal, exec_tryCatch, h]
    cases stop with
    | failed failure => exact absurd rfl (hstop failure)
    | replaced image => rfl
    | unending => rfl
  rw [exitCode, exec_tryCatch, exec_bind_of_error hexpecting]
  cases stop with
  | failed failure => exact absurd rfl (hstop failure)
  | replaced image => rfl
  | unending => rfl

/-- A process that becomes another program has no exit code. -/
theorem exec_exitCode_of_replaced {action : Action Unit} {image : Image}
    (h : exec action w = (.error (.replaced image), w')) :
    exec (exitCode (expectingFatal action)) w = (.error (.replaced image), w') :=
  exec_exitCode_of_not_failed h fun failure => by simp

/-- A stop becomes an exit code if it is a failure: its own if it ends the launch, and else that of
an internal error. -/
theorem exec_exitCode_of_stop {action : Action Unit} {stop : Stop}
    (h : exec action w = (.error stop, w')) :
    ((∀ failure, stop ≠ .failed failure) ∧
        exec (exitCode (expectingFatal action)) w = (.error stop, w')) ∨
      ∃ code w'', exec (exitCode (expectingFatal action)) w = (.ok code, w'') ∧
        w''.besides [.log, .errors] = w'.besides [.log, .errors] ∧
        ((∃ f, stop = .failed (.fatal f) ∧ code = f.exitCode) ∨
          code = ExitCode.internal.number) := by
  by_cases hstop : ∃ failure, stop = .failed failure
  · obtain ⟨failure, rfl⟩ := hstop
    refine Or.inr ?_
    by_cases hfatal : ∃ f, failure = .fatal f
    · obtain ⟨f, rfl⟩ := hfatal
      obtain ⟨w'', hend, hview⟩ := exec_exitCode_of_fatal h
      exact ⟨_, w'', hend, hview, Or.inl ⟨f, rfl, rfl⟩⟩
    · obtain ⟨w'', hend, hview⟩ := exec_exitCode_of_failed h fun f hf => hfatal ⟨f, hf⟩
      exact ⟨_, w'', hend, hview, Or.inr rfl⟩
  · have hother : ∀ failure, stop ≠ .failed failure := not_exists.1 hstop
    exact Or.inl ⟨hother, exec_exitCode_of_not_failed h hother⟩

/-- A launch that has done its work has the exit code of success. -/
theorem exec_exitCode_of_ok {action : Action Unit} (h : exec action w = (.ok ⟨⟩, w')) :
    exec (exitCode (expectingFatal action)) w = (.ok ExitCode.success.number, w') := by
  have hexpecting : exec (expectingFatal action) w = (.ok ⟨⟩, w') := by
    rw [expectingFatal, exec_tryCatch, h]
  rw [exitCode, exec_tryCatch, exec_bind_of_ok hexpecting]
  rfl

/-- A process that has become another program, or goes on for ever, does so in its work. -/
theorem exec_of_exec_exitCode_error {action : Action Unit} {stop : Stop}
    (h : exec (exitCode (expectingFatal action)) w = (.error stop, w')) :
    exec action w = (.error stop, w') := by
  rcases haction : exec action w with ⟨stop | ⟨⟩, w₁⟩
  · rcases exec_exitCode_of_stop haction with ⟨-, hend⟩ | ⟨code, w₂, hend, -⟩
    · rw [hend] at h
      cases h
      rfl
    · rw [hend] at h
      cases h
  · rw [exec_exitCode_of_ok haction] at h
    cases h

/-- The end of an action depends on how it comes about. -/
theorem exec_exitCode_congr {action action' : Action Unit}
    (h : exec action w = exec action' w') :
    exec (exitCode (expectingFatal action)) w = exec (exitCode (expectingFatal action')) w' := by
  have hexpecting : exec (expectingFatal action) w = exec (expectingFatal action') w' := by
    rw [expectingFatal, exec_tryCatch, h, expectingFatal, exec_tryCatch]
  rw [exitCode, exec_tryCatch, exec_bind, hexpecting, exitCode, exec_tryCatch, exec_bind]

/-- **Turning stops into exit codes changes nothing but the log and the error stream.** -/
theorem besides_exec_exitCode (action : Action Unit) (w : World) :
    (exec (exitCode (expectingFatal action)) w).2.besides [.log, .errors] =
      (exec action w).2.besides [.log, .errors] := by
  rcases h : exec action w with ⟨stop | ⟨⟩, w₁⟩
  · rcases exec_exitCode_of_stop h with ⟨-, hend⟩ | ⟨code, w'', hend, hview, -⟩
    · rw [hend]
    · rw [hend]
      exact hview
  · rw [exec_exitCode_of_ok h]

/-- An answer to a question changes nothing but the streams. -/
theorem keeps_answer (query : Query) :
    Keeps (World.besides [.output, .errors]) codes (answer query) := by
  cases query with
  | version => exact Keeps.bind (keeps_printPlain _).widen fun _ => Keeps.pure _
  | help =>
    exact Keeps.bind Keeps.get fun _ => Keeps.bind (Keeps.valueOf _) fun _ =>
      Keeps.bind (keeps_printPlain _).widen fun _ => Keeps.pure _
  | misuse option => exact Keeps.bind (keeps_printError _).widen fun _ => Keeps.pure _

/-- A run that answers no question is its work with its end. -/
theorem main_of_no_query (hquery : Query.ofTokens tokens = none) :
    main tokens = exitCode (expectingFatal (run tokens)) := by rw [main, hquery]

/-- A run that answers a question does not touch the machine. -/
theorem bare_exec_main_of_query {query : Query} (h : Query.ofTokens tokens = some query)
    (w : World) :
    (exec (main tokens) w).2.bare = w.bare := by
  have hkeeps : Keeps (World.besides [.output, .errors]) [] (answer query) := keeps_answer query
  rw [main, h]
  exact hkeeps.bare.view_eq w

/-- A run that answers no question does to the machine what the work does to it. -/
theorem bare_exec_main_of_work (h : Query.ofTokens tokens = none) (w : World) :
    (exec (main tokens) w).2.bare = (exec (run tokens) w).2.bare := by
  rw [main, h]
  exact World.bare_eq_of_besides_eq (besides_exec_exitCode (run tokens) w)

/-- A run that answers no question makes the calls that the work makes. -/
theorem trace_exec_main_of_work (h : Query.ofTokens tokens = none) (w : World) :
    (exec (main tokens) w).2.process.trace = (exec (run tokens) w).2.process.trace := by
  rw [main, h]
  exact World.trace_eq_of_besides_eq (besides_exec_exitCode (run tokens) w)

/-- No run plans faults. -/
theorem faults_exec_main (tokens : List Text) (w : World) :
    (exec (main tokens) w).2.faults = w.faults := by
  rcases hquery : Query.ofTokens tokens with _ | query
  · exact (World.faults_eq_of_bare_eq (bare_exec_main_of_work hquery w)).trans
      ((keeps_run tokens).faults.view_eq w)
  · exact World.faults_eq_of_bare_eq (bare_exec_main_of_query hquery w)

/-! ## What exit codes tell -/

/-- Different exit codes have different numbers. -/
theorem number_injective {code code' : ExitCode} (h : code.number = code'.number) :
    code = code' := by
  cases code <;> cases code' <;> simp_all [ExitCode.number]

/-- A launch that stops with few exit codes ends with one of them or with that of an internal
error. -/
theorem mem_of_exec_exitCode {action : Action Unit} {stop : Stop} {code : ExitCode} {w₁ : World}
    (hexec : exec action w = (.error stop, w₁)) (hexits : stop.ExitsWith codes)
    (h : exec (exitCode (expectingFatal action)) w = (.ok code.number, w')) :
    code ∈ .internal :: codes := by
  rcases exec_exitCode_of_stop hexec with ⟨-, hend⟩ | ⟨code', w'', hend, -, hcode⟩
  · rw [hend] at h
    cases h
  · rw [hend] at h
    obtain rfl : code' = code.number := Except.ok.inj (Prod.mk.inj h).1
    rcases hcode with ⟨f, rfl, hnumber⟩ | hnumber
    · obtain ⟨code', hmem, hcode⟩ := hexits f rfl
      rw [number_injective (hnumber.trans hcode)]
      exact List.mem_cons_of_mem _ hmem
    · rw [number_injective hnumber]
      exact List.mem_cons_self

/-- **Success is reported by no other than a launch that has come to its end.** -/
theorem exec_run_of_exec_main_success (hquery : Query.ofTokens tokens = none)
    (h : exec (main tokens) w = (.ok ExitCode.success.number, w')) :
    exec (run tokens) w = (.ok ⟨⟩, w') := by
  rw [main, hquery] at h
  rcases hrun : exec (run tokens) w with ⟨stop | ⟨⟩, w₁⟩
  · have hmem := mem_of_exec_exitCode hrun ((keeps_run tokens).exits w stop w₁ hrun) h
    exact absurd hmem (by decide)
  · rw [exec_exitCode_of_ok hrun] at h
    cases h
    rfl

/-- **A launch that succeeds or has bad arguments has started no program.** -/
theorem resolvedCommand?_eq_none_of_exec_main {code : ExitCode}
    (hcode : code = .success ∨ code = .badArguments) (hquery : Query.ofTokens tokens = none)
    (h : exec (main tokens) w = (.ok code.number, w')) : resolvedCommand? tokens w = none := by
  rw [main, hquery] at h
  rcases hresolved : resolvedCommand? tokens w with _ | command
  · rfl
  · obtain ⟨plan, path, w₁, log, -, -, hrun⟩ := exec_run_of_resolvedCommand?_eq_some hresolved
    have hkeeps : Keeps (World.besides [.tree, .environment, .log, .trace]) [.environment] (do
        recordCommand plan.base command
        takeOver plan.options path command) :=
      Keeps.bind (keeps_recordCommand _ _).widen fun _ => (keeps_takeOver _ _ _).widen
    rcases hstart : exec (do
        recordCommand plan.base command
        takeOver plan.options path command) (w₁.withLog log) with ⟨stop | ⟨⟩, w₂⟩
    · have hmem := mem_of_exec_exitCode (hrun.trans hstart) (hkeeps.exits _ stop w₂ hstart) h
      rcases hcode with rfl | rfl
      · exact absurd hmem (by decide)
      · exact absurd hmem (by decide)
    · obtain ⟨_, w₃, -, htakeOver⟩ := exec_bind_eq_ok.1 hstart
      obtain ⟨stop, w₄, hstop, -⟩ := exists_stop_of_exec_takeOver plan.options path command w₃
      rw [hstop] at htakeOver
      cases htakeOver

/-- The end of a launch that does not find its program. -/
def notFound (program : Text) : Failure :=
  .fail .environment (lit "Cannot find executable '" ++ program ++ lit "'.")

/-- **A launch that does not find its program has started none.** It ends with a message of its
own. -/
theorem resolvedCommand?_eq_none_of_exec_run {program : Text}
    (h : exec (run tokens) w = (.error (.failed (notFound program)), w')) :
    resolvedCommand? tokens w = none := by
  rcases hresolved : resolvedCommand? tokens w with _ | command
  · rfl
  · obtain ⟨plan, path, w₁, log, -, -, hrun⟩ := exec_run_of_resolvedCommand?_eq_some hresolved
    rw [hrun, exec_bind] at h
    rcases hrecord : exec (recordCommand plan.base command) (w₁.withLog log)
      with ⟨stop | ⟨⟩, w₂⟩
    · have hkeeps :
          Keeps (World.besides [.tree, .log, .trace]) [] (recordCommand plan.base command) :=
        keeps_recordCommand _ _
      rw [hrecord] at h
      obtain rfl : stop = .failed (notFound program) := Except.error.inj (Prod.mk.inj h).1
      obtain ⟨code, hcode, -⟩ := hkeeps.exits _ _ _ hrecord _ rfl
      cases hcode
    · rw [hrecord] at h
      obtain ⟨stop, w₃, hstop, hfatal⟩ := exists_stop_of_exec_takeOver plan.options path command w₂
      obtain rfl : stop = .failed (notFound program) :=
        Except.error.inj (Prod.mk.inj (hstop.symm.trans h)).1
      obtain ⟨rest, hmessage⟩ := hfatal _ rfl
      cases hmessage

end Launcher.Launch
