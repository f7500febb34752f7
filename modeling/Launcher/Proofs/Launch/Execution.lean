import Launcher.Proofs.Launch.Ends
import Launcher.Proofs.Run.Faults

/-!
# Becoming another program

A launch ends by becoming another program in two ways: the program of its command takes over, or the
command line is handed over to a delegate. Both send out what the streams hold, set a variable of
the environment, and make one call.

## Main definitions

* `Launcher.World.readied` — the world in which a program is executed.
* `Launcher.Settings.recipient?` — the delegate to which a command line is handed over.
* `Launcher.Launch.executeOrEnd` — a program is executed, or the launch ends.
* `Launcher.Launch.work` — the work of a launch under settings that have been read.

## Main results

* `Launcher.Launch.exec_executeOrEnd_cases` — what can come of executing a program.
* `Launcher.Launch.exec_takeOver` and `Launcher.Launch.exec_handOver` — both ways are this one.
* `Launcher.Launch.exec_run_of_recipient?_eq_none` and
  `Launcher.Launch.exec_run_of_recipient?_eq_some` — a launch is its work, or is handed over.
* `Launcher.Program.canBeGiven_of_path?` — a program that is found can be executed with arguments
  without zero bytes.
-/

namespace Launcher

open Launcher.Action

/-- The world in which a program is executed: the streams are sent out, and the environment is the
one that the program gets. -/
def World.readied (w : World) (environment : Environment) (log : List LogRecord) : World :=
  { w with process :=
    { w.process with
      environment
      log
      output := w.process.output.flush
      errors := w.process.errors.flush } }

/-- The delegate to which a command line is handed over under the settings. -/
def Settings.recipient? (settings : Settings) : Option Text :=
  if settings.delegated then none else settings.delegate

/-- A command line that has been handed over is not handed over again, nor is one without a
delegate. -/
theorem Settings.recipient?_eq_none {settings : Settings}
    (h : settings.delegated = true ∨ settings.delegate = none) : settings.recipient? = none := by
  unfold recipient?
  rcases h with hdelegated | hdelegate
  · rw [if_pos hdelegated]
  · rw [hdelegate, ite_self]

/-- A command line is handed over to the delegate that is set, if that has not happened already. -/
theorem Settings.of_recipient?_eq_some {settings : Settings} {delegate : Text}
    (h : settings.recipient? = some delegate) :
    settings.delegated = false ∧ settings.delegate = some delegate := by
  unfold recipient? at h
  rcases hdelegated : settings.delegated
  · rw [hdelegated] at h
    exact ⟨rfl, h⟩
  · rw [hdelegated] at h
    cases h

namespace Launch

variable {settings : Settings} {tokens arguments command : List Text} {program delegate : Text}
  {w w' : World}

/-! ## Executing or ending -/

/-- Executes a program. If that fails, the launch ends with the message. -/
def executeOrEnd (program : Text) (arguments : List Text) (message : Text) : Action Unit := do
  let e ← Action.execute program arguments
  Action.fail (.because .environment message e)

/-- The process becomes the program, or the launch ends. -/
theorem exec_executeOrEnd_cases (h : CanBeGiven program arguments) (message : Text) (w : World) :
    (∃ e, exec (executeOrEnd program arguments message) w =
        (.error (.failed (.because .environment message (.of e (some (.text program))))),
          w.afterCall (.execute program arguments) (.error e))) ∨
      exec (executeOrEnd program arguments message) w =
        (.error (.replaced (w.image program arguments)),
          w.afterCall (.execute program arguments) .ok) := by
  rcases exec_execute_cases h w with ⟨e, hexec⟩ | hexec
  · exact Or.inl ⟨e, exec_bind_of_ok hexec⟩
  · exact Or.inr (exec_bind_of_error hexec)

/-- What cannot be given to the system ends the launch before the call. -/
theorem exec_executeOrEnd_of_not_canBeGiven (h : ¬CanBeGiven program arguments) (message : Text)
    (w : World) :
    ∃ failure, exec (executeOrEnd program arguments message) w = (.error (.failed failure), w) := by
  obtain ⟨failure, hexec⟩ := exec_execute_of_not_canBeGiven h w
  exact ⟨failure, exec_bind_of_error hexec⟩

/-- The launch does not go on behind a program. -/
theorem exists_stop_of_exec_executeOrEnd (program : Text) (arguments : List Text) (message : Text)
    (w : World) :
    ∃ stop w', exec (executeOrEnd program arguments message) w = (.error stop, w') := by
  by_cases hgiven : CanBeGiven program arguments
  · rcases exec_executeOrEnd_cases hgiven message w with ⟨e, hexec⟩ | hexec
    · exact ⟨_, _, hexec⟩
    · exact ⟨_, _, hexec⟩
  · obtain ⟨failure, hexec⟩ := exec_executeOrEnd_of_not_canBeGiven hgiven message w
    exact ⟨_, w, hexec⟩

/-- A process that becomes another program could be given it, and becomes it by this call. -/
theorem of_exec_executeOrEnd_replaced {message : Text} {image : Image}
    (h : exec (executeOrEnd program arguments message) w = (.error (.replaced image), w')) :
    CanBeGiven program arguments ∧ image = w.image program arguments ∧
      w' = w.afterCall (.execute program arguments) .ok := by
  by_cases hgiven : CanBeGiven program arguments
  · rcases exec_executeOrEnd_cases hgiven message w with ⟨e, hexec⟩ | hexec
    · rw [hexec] at h
      cases h
    · rw [hexec] at h
      cases h
      exact ⟨hgiven, rfl, rfl⟩
  · obtain ⟨failure, hexec⟩ := exec_executeOrEnd_of_not_canBeGiven hgiven message w
    rw [hexec] at h
    cases h

/-- What the process becomes, if it becomes another program. -/
theorem image_of_exec_executeOrEnd {message : Text} {image : Image}
    (h : exec (executeOrEnd program arguments message) w = (.error (.replaced image), w')) :
    image = w.image program arguments := (of_exec_executeOrEnd_replaced h).2.1

/-- A program is executed behind a record of the log, and with the streams sent out. -/
theorem exec_programBecome (program : Text) (arguments : List Text) (message : Text) (w : World) :
    ∃ log, exec (do
        let e ← Program.become program arguments
        Action.fail (.because .environment message e)) w =
      exec (executeOrEnd program arguments message) (w.readied w.process.environment log) := by
  obtain ⟨log, hlog⟩ := exists_exec_log Level.debug (lit "Executing " ++ program ++ lit " with " ++
    decimal arguments.length ++ lit " argument(s)") w
  refine ⟨log, ?_⟩
  have hflush : exec Action.flush (w.withLog log) =
      (.ok ⟨⟩, w.readied w.process.environment log) := rfl
  unfold Program.become executeOrEnd
  rw [bind_assoc, exec_bind_of_ok hlog, bind_assoc, exec_bind_of_ok hflush]

/-! ## The program of a command -/

/-- The environment that the program of a command gets. -/
def programEnvironment (options : StartupOptions) (environment : Environment) : Environment :=
  match options.commandPort with
  | none => environment
  | some port => environment.set portVariable (decimal port)

/-- The program of a command takes over by being executed. -/
theorem exec_takeOver (options : StartupOptions) (program : Text) (command : List Text)
    (w : World) :
    ∃ log, exec (takeOver options program command) w =
      exec (executeOrEnd program command (lit "execv of '" ++ program ++ lit "' failed"))
        (w.readied (programEnvironment options w.process.environment) log) := by
  unfold takeOver programEnvironment
  rcases options.commandPort with _ | port
  · exact exec_programBecome program command _ w
  · exact exec_programBecome program command _ { w with process :=
      { w.process with environment := w.process.environment.set portVariable (decimal port) } }

/-! ## The delegate -/

/-- Without a delegate to hand over to, nothing is done. -/
theorem handOver_eq_pure (h : settings.recipient? = none) :
    handOver settings tokens = pure ⟨⟩ := by
  unfold Settings.recipient? at h
  unfold handOver
  rcases hdelegate : settings.delegate with _ | delegate
  · rfl
  · rcases hdelegated : settings.delegated
    · rw [hdelegate, hdelegated] at h
      cases h
    · rfl

/-- The message when the delegate cannot be executed. -/
def delegateMessage (delegate : Text) : Text :=
  lit "could not execute delegate '" ++ delegate ++ lit "'"

/-- The command line is handed over by executing the delegate, with the command line marked as taken
over. -/
theorem exec_handOver (tokens : List Text) (h : settings.recipient? = some delegate) (w : World) :
    ∃ log, exec (handOver settings tokens) w =
      exec (executeOrEnd delegate (delegate :: tokens) (delegateMessage delegate))
        (w.readied (w.process.environment.set Settings.delegatedVariable (lit "1")) log) := by
  obtain ⟨hdelegated, hdelegate⟩ := Settings.of_recipient?_eq_some h
  obtain ⟨log, hlog⟩ := exists_exec_log Level.info (lit "Handing off to " ++ delegate) w
  have hset : exec (Action.setVariable Settings.delegatedVariable (lit "1")) (w.withLog log) =
      (.ok ⟨⟩, { w.withLog log with process :=
        { (w.withLog log).process with
          environment := w.process.environment.set Settings.delegatedVariable (lit "1") } }) := rfl
  unfold handOver
  simp only [hdelegate, hdelegated]
  show ∃ log, exec (Action.log Level.info (lit "Handing off to " ++ delegate) >>= _) w = _
  rw [exec_bind_of_ok hlog, exec_bind_of_ok hset]
  exact exec_programBecome delegate (delegate :: tokens) (delegateMessage delegate) _

/-- Nothing is left to do behind a hand-over. -/
theorem exists_stop_of_exec_handOver (tokens : List Text) (h : settings.recipient? = some delegate)
    (w : World) : ∃ stop w', exec (handOver settings tokens) w = (.error stop, w') := by
  obtain ⟨log, hhand⟩ := exec_handOver tokens h w
  obtain ⟨stop, w', hstop⟩ := exists_stop_of_exec_executeOrEnd delegate (delegate :: tokens)
    (delegateMessage delegate)
    (w.readied (w.process.environment.set Settings.delegatedVariable (lit "1")) log)
  exact ⟨stop, w', hhand.trans hstop⟩

/-! ## The work -/

/-- The work of a launch that is not handed over, under settings that have been read. -/
def work (settings : Settings) (tokens : List Text) : Action Unit := do
  let plan ← makePlan settings tokens
  createBase plan
  proceed plan

/-- Settings that cannot be read end a launch at once. -/
theorem exec_run_of_read_eq_error {v : InvalidValue}
    (h : Settings.read w.process.environment = .error v) :
    exec (run tokens) w = (.error (.failed (.fail .environment v.message)), w) := by
  unfold run
  rw [exec_bind_of_ok (exec_get w), h]
  rfl

/-- Under settings that can be read, a launch is handed over or does its work. -/
theorem exec_run_of_read (h : Settings.read w.process.environment = .ok settings) :
    exec (run tokens) w = exec (do
      handOver settings tokens
      work settings tokens) (w.withThreshold settings.logLevel) := by
  have hsettle : exec (settle tokens) w = _ := exec_settle h
  unfold work
  rw [run_eq, prepare, bind_assoc, exec_bind, hsettle, ← exec_bind]
  simp only [pure_bind, bind_assoc]

/-- **A launch that is not handed over is its work.** -/
theorem exec_run_of_recipient?_eq_none (h : Settings.read w.process.environment = .ok settings)
    (hrecipient : settings.recipient? = none) :
    exec (run tokens) w = exec (work settings tokens) (w.withThreshold settings.logLevel) := by
  rw [exec_run_of_read h, handOver_eq_pure hrecipient, pure_bind]

/-- **A launch that is handed over executes the delegate,** and nothing else. -/
theorem exec_run_of_recipient?_eq_some (tokens : List Text)
    (h : Settings.read w.process.environment = .ok settings)
    (hrecipient : settings.recipient? = some delegate) :
    ∃ log, exec (run tokens) w =
      exec (executeOrEnd delegate (delegate :: tokens) (delegateMessage delegate))
        ((w.withThreshold settings.logLevel).readied
          (w.process.environment.set Settings.delegatedVariable (lit "1")) log) := by
  obtain ⟨log, hhand⟩ := exec_handOver tokens hrecipient (w.withThreshold settings.logLevel)
  obtain ⟨stop, w', hstop⟩ := exists_stop_of_exec_handOver tokens hrecipient
    (w.withThreshold settings.logLevel)
  refine ⟨log, ?_⟩
  rw [exec_run_of_read h, exec_bind_of_error hstop, ← hstop, hhand]
  rfl

/-- What has been settled has not been handed over, and is a plan that was made under the
settings. -/
theorem exec_makePlan_of_exec_settle {plan : Plan} (h : exec (settle tokens) w = (.ok plan, w')) :
    ∃ settings, Settings.read w.process.environment = .ok settings ∧ settings.recipient? = none ∧
      exec (makePlan settings tokens) (w.withThreshold settings.logLevel) = (.ok plan, w') := by
  rcases hsettings : Settings.read w.process.environment with v | settings
  · unfold settle at h
    rw [exec_bind_of_ok (exec_get w), hsettings] at h
    cases h
  · rw [exec_settle hsettings] at h
    rcases hrecipient : settings.recipient? with _ | delegate
    · rw [handOver_eq_pure hrecipient] at h
      exact ⟨settings, rfl, hrecipient, h⟩
    · obtain ⟨stop, w₁, hstop⟩ := exists_stop_of_exec_handOver tokens hrecipient
        (w.withThreshold settings.logLevel)
      rw [exec_bind_of_error hstop] at h
      cases h

/-- What has been settled has been settled without a call. -/
theorem view_eq_of_exec_settle {plan : Plan} {w₁ : World}
    (h : exec (settle tokens) w = (.ok plan, w₁)) :
    w₁.besides [.threshold, .log] = w.besides [.threshold, .log] := by
  obtain ⟨settings, -, -, hplan⟩ := exec_makePlan_of_exec_settle h
  have hkept : w₁.besides [.threshold, .log] =
      (w.withThreshold settings.logLevel).besides [.threshold, .log] :=
    World.besides_eq_of_among ((keeps_makePlan settings tokens).view_eq_of_exec hplan)
  exact hkept

/-- A launch stops where its output base is not created. -/
theorem exec_run_of_exec_createBase {plan : Plan} {stop : Stop} {w₁ w₂ : World}
    (hsettle : exec (settle tokens) w = (.ok plan, w₁))
    (h : exec (createBase plan) w₁ = (.error stop, w₂)) :
    exec (run tokens) w = (.error stop, w₂) := by
  have hprepare : exec (prepare tokens) w = (.error stop, w₂) := by
    rw [prepare, exec_bind_of_ok hsettle, exec_bind_of_error h]
  rw [run_eq, exec_bind_of_error hprepare]

/-- The end of a run that is not handed over is that of the work. -/
theorem exec_main_of_recipient?_eq_none (hquery : Query.ofTokens tokens = none)
    (h : Settings.read w.process.environment = .ok settings)
    (hrecipient : settings.recipient? = none) :
    exec (main tokens) w =
      exec (exitCode (expectingFatal (work settings tokens)))
        (w.withThreshold settings.logLevel) := by
  rw [main_of_no_query hquery]
  exact exec_exitCode_congr (exec_run_of_recipient?_eq_none h hrecipient)

end Launch

/-! ## Programs that are found -/

namespace Program

variable {name path : Text} {w : World}

/-- A program that is found is a file that somebody may execute. -/
theorem isProgram_of_path? (h : path? name w = some path) :
    w.machine.isProgram (.text path) = true := by
  have hfound := List.find?_some h
  exact hfound

/-- The path of a program has no zero bytes. -/
theorem zero_not_mem_of_isProgram {m : Machine} (h : m.isProgram (.text path) = true) :
    Symbol.char '\x00' ∉ path :=
  fun hmem => (Machine.isProgram_eq_true.1 h).1 ((Text.zero_mem_encode_iff path).2 hmem)

/-- A path that is empty or ends in a separator is that of no program. -/
theorem not_isProgram {m : Machine} (h : path = [] ∨ path.getLast? = some slash) :
    m.isProgram (.text path) ≠ true := by
  intro hprogram
  obtain ⟨-, node, hstatus, -, hfile⟩ := Machine.isProgram_eq_true.1 hprogram
  obtain ⟨target, hresolve, -, hslashed⟩ := Machine.status_eq_ok.1 hstatus
  obtain ⟨hne, -, start, location, -, -, rfl⟩ := Machine.resolve_eq_ok.1 hresolve
  rcases h with rfl | hlast
  · exact hne rfl
  · obtain ⟨front, rfl⟩ := List.getLast?_eq_some_iff.1 hlast
    have hencode : (Path.text (front ++ [slash])).toBytes = Text.encode front ++ [slashByte] :=
      Text.encode_append front [slash]
    have hend :
        (Machine.targetOf (Path.text (front ++ [slash])).toBytes location).slashed = true := by
      rw [hencode]
      simp [Machine.targetOf]
    rw [hslashed hend] at hfile
    cases hfile

/-- There is no program without a name. -/
theorem path?_nil (w : World) : path? [] w = none := by
  refine List.find?_eq_none.2 fun path hpath => ?_
  have hjoin : ∀ directory : Text, directory.joinPath [] = [] ∨
      (directory.joinPath []).getLast? = some slash := by
    intro directory
    unfold Text.joinPath
    rw [if_neg (by simp)]
    split
    · rename_i hend
      rcases Bool.or_eq_true_iff.1 hend with hempty | hslash
      · exact Or.inl (by simpa using hempty)
      · exact Or.inr (by simpa using hslash)
    · exact Or.inr (by simp)
  unfold candidates at hpath
  rw [if_neg (by simp)] at hpath
  simp only [] at hpath
  split at hpath
  · cases hpath
  · obtain ⟨directory, -, rfl⟩ := List.mem_map.1 hpath
    exact not_isProgram (hjoin directory)

/-- **A program that is found can be executed** with arguments without zero bytes. -/
theorem canBeGiven_of_path? {arguments : List Text} (h : path? name w = some path)
    (hzero : ∀ argument ∈ name :: arguments, Symbol.char '\x00' ∉ argument) :
    CanBeGiven path (name :: arguments) where
  program_zero := zero_not_mem_of_isProgram (isProgram_of_path? h)
  zero := hzero
  ne_nil := List.cons_ne_nil _ _
  head_ne_nil := by
    intro hhead
    obtain rfl : name = [] := Option.some.inj hhead
    rw [path?_nil] at h
    cases h

end Program

end Launcher
