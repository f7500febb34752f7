import Launcher.Proofs.Launch.LastCommand
import Launcher.Proofs.Session.History

/-!
# The last command of a history

Over all the runs of a history that share an output base, a report shows the command that was
started last. It does not matter whether the program could be executed in the end, and runs that
start nothing leave no trace in later reports.

## Main definitions

* `Launcher.Session.Records` — a session whose record holds a command, or which has no record.
* `Launcher.Session.Step.IsReport` — a run that reports successfully for a program.
* `Launcher.Session.Step.Shows` — the output is a report with this last command.
* `Launcher.Session.Step.StartsNothing` — the ends of runs that start no program.
* `Launcher.Session.lastStarted?` — the command that was started last.

## Main results

* `Launcher.Session.records_before` — the record holds the command that was started last.
* `Launcher.Session.shows_last_command` — a report shows the command that was started last.
-/

namespace Launcher.Session

open Launcher.Action Launch

variable {base : Text} {last : Option (List Text)} {s : Session} {step : Step}

namespace Step

/-- The output base of the run, if it comes as far as to choose one. -/
def chosenBase? (step : Step) : Option Text := Launch.chosenBase? step.invocation.tokens step.world

/-- The command of the run, if it comes as far as to find the program. -/
def startedCommand? (step : Step) : Option (List Text) :=
  Launch.startedCommand? step.invocation.tokens step.world

/-- The run was asked for a report for a program and has succeeded. -/
structure IsReport (step : Step) : Prop where
  query : Query.ofTokens step.invocation.tokens = none
  asked : ∃ options, options.json = true ∧
    CommandLine.read step.invocation.tokens = .ok { options, command := [] }
  succeeded : step.result = .ok ExitCode.success.number

/-- The output of the run is one line, the report of a status with this last command. -/
def Shows (step : Step) (last : Option (List Text)) : Prop :=
  ∃ (status : Status) (line : List Char), status.lastCommand = last ∧
    (Report.json status).line = line.map .char ∧ step.output = ⟨line ++ ['\n'], []⟩

/-- The run ends for bad arguments, in success or without its program, or it was asked for a
report. -/
inductive StartsNothing (step : Step) : Prop where
  | badArguments (h : step.result = .ok ExitCode.badArguments.number)
  | success (h : step.result = .ok ExitCode.success.number)
  | notFound (program : Text) (w : World) (h : exec (Launch.run step.invocation.tokens) step.world =
      (.error (.failed (Launch.notFound program)), w))
  | report (options : StartupOptions)
      (h : CommandLine.read step.invocation.tokens = .ok { options, command := [] })

/-- A run that chooses no other output base chooses this one. -/
theorem chooses (hchosen : ∀ chosen ∈ step.chosenBase?, chosen = base) :
    Chooses base step.invocation.tokens step.world where
  rooted := step.invocation.rooted
  words := step.invocation.words
  chosen := hchosen

end Step

/-! ## One run -/

/-- The node of the record in an output base. -/
def record (s : Session) (base : Text) : Option Node := s.machine.tree.get? (recordLocation base)

/-- No faults are planned, and the record holds this command. -/
structure Records (base : Text) (last : Option (List Text)) (s : Session) : Prop where
  faults : s.machine.faults = []
  record : RecordsLast (s.record base) last

/-- **After a run the record holds the command that it has started,** or else what it held
before. -/
theorem records_after (hbase : IsRecordable base)
    (hchosen : ∀ chosen ∈ step.chosenBase?, chosen = base) (h : Records base last step.before) :
    Records base (step.startedCommand?.or last) step.after where
  faults := (faults_exec_main step.invocation.tokens step.world).trans h.faults
  record := recordsLast_exec_main h.faults hbase (step.chooses hchosen) h.record

/-- **A report shows what the record holds.** -/
theorem shows_of_records (hbase : IsRecordable base)
    (hchosen : ∀ chosen ∈ step.chosenBase?, chosen = base) (h : Records base last step.before)
    (hreport : step.IsReport) : step.Shows last := by
  obtain ⟨w, hexec, -, houtput⟩ := step.exec_main_world
  obtain ⟨options, hjson, hread⟩ := hreport.asked
  rw [hreport.succeeded] at hexec
  rw [Step.Shows, ← houtput]
  exact output_of_exec_main (w := step.world) h.faults hbase (step.chooses hchosen) rfl h.record
    hreport.query hread hjson hexec

/-- A run with such an end has started nothing. -/
theorem startedCommand?_eq_none (h : step.StartsNothing) : step.startedCommand? = none := by
  unfold Step.startedCommand? Launch.startedCommand?
  rcases hquery : Query.ofTokens step.invocation.tokens with _ | query
  · obtain ⟨w, hexec, -⟩ := step.exec_main_world
    cases h with
    | badArguments h =>
      rw [h] at hexec
      exact resolvedCommand?_eq_none_of_exec_main (.inr rfl) hquery hexec
    | success h =>
      rw [h] at hexec
      exact resolvedCommand?_eq_none_of_exec_main (.inl rfl) hquery hexec
    | notFound program w h => exact resolvedCommand?_eq_none_of_exec_run h
    | report options h => exact resolvedCommand?_eq_none_of_read step.invocation.rooted h
  · rfl

/-- A run that has started nothing leaves the record as it was. -/
theorem record_after (hbase : IsRecordable base)
    (hchosen : ∀ chosen ∈ step.chosenBase?, chosen = base) (h : step.startedCommand? = none) :
    step.after.record base = step.before.record base :=
  nodeAt_exec_main hbase (step.chooses hchosen) h

/-! ## All runs -/

variable {invocations : List Invocation} {earlier later : List Step}

/-- The command that was started last. -/
def lastStarted? (past : List Step) : Option (List Text) :=
  past.reverse.findSome? Step.startedCommand?

/-- One more step shows its own command if it has started one, and otherwise the one before it. -/
theorem lastStarted?_append_singleton (past : List Step) (step : Step) :
    lastStarted? (past ++ [step]) = step.startedCommand?.or (lastStarted? past) := by
  unfold lastStarted?
  rw [List.reverse_append, List.findSome?_append, List.reverse_singleton, List.findSome?_singleton]

/-- **Before each run the record holds the command that was started last.** -/
theorem records_before (hfaults : s.machine.faults = []) (hbase : IsRecordable base)
    (hnone : s.record base = none)
    (hchosen : ∀ step ∈ s.history invocations, ∀ chosen ∈ step.chosenBase?, chosen = base)
    (h : s.history invocations = earlier ++ step :: later) :
    Records base (lastStarted? earlier) step.before := by
  have start : Records base none s := ⟨hfaults, hnone⟩
  refine history_induction (P := fun past => Records base (lastStarted? past)) start ?_ h
  intro past step hstep hrecords
  rw [lastStarted?_append_singleton]
  exact records_after hbase (hchosen step hstep) hrecords

/-- **A report shows the command that was started last.** In a history whose runs share an output
base that has no record at first, a successful report for a program shows the command of the latest
run before it that found its program, and no command if there is no such run. A run that ends for
bad arguments, without its program or in a report has started nothing, and leaves the record as it
was. -/
theorem shows_last_command (hfaults : s.machine.faults = []) (hbase : IsRecordable base)
    (hnone : s.record base = none)
    (hchosen : ∀ step ∈ s.history invocations, ∀ chosen ∈ step.chosenBase?, chosen = base) :
    (∀ earlier step later, s.history invocations = earlier ++ step :: later → step.IsReport →
      step.Shows (lastStarted? earlier)) ∧
    ∀ step ∈ s.history invocations, step.StartsNothing →
      step.startedCommand? = none ∧ step.after.record base = step.before.record base := by
  constructor
  · intro earlier step later h hreport
    have hstep : step ∈ s.history invocations := by
      rw [h]
      exact List.mem_append_right _ List.mem_cons_self
    exact shows_of_records hbase (hchosen step hstep)
      (records_before hfaults hbase hnone hchosen h) hreport
  · intro step hstep h
    have hstarted := startedCommand?_eq_none h
    exact ⟨hstarted, record_after hbase (hchosen step hstep) hstarted⟩

/-! ### A launch and a report -/

/-- An invocation by a user of the machine. -/
def invoke (tokens : List Text) (words : ∀ token ∈ tokens, IsArgument token) : Invocation where
  tokens
  environment := [("USER", lit "user"), ("PATH", lit "/bin")]
  logThreshold := Level.warning
  workingDirectory := none
  userId := 1000
  accounts := []
  umask := 0o022
  terminal := ⟨false, false, none⟩
  words
  rooted := by simp

/-- The program is started with an empty argument and one that is no UTF-8. -/
def launching : Step :=
  ⟨onlyTrue, invoke [lit "--output_base=/base", lit "--", lit "true", [], [.raw (Fin.last 0x7F)]]
    (by decide +kernel)⟩

/-- Behind the launch a report for a program is asked for. -/
def reporting : Step :=
  ⟨launching.after, invoke [lit "--output_base=/base", lit "--json"] (by decide +kernel)⟩

/-- The two invocations one after the other make this history. -/
theorem history_launching_reporting :
    onlyTrue.history [launching.invocation, reporting.invocation] = [launching, reporting] := rfl

/-- The second of the two steps is a report. -/
theorem isReport_reporting : reporting.IsReport where
  query := by decide +kernel
  asked := ⟨{ StartupOptions.none with outputBase := lit "/base", json := true }, rfl,
    eq_ok_of_toOption (by decide +kernel)⟩
  succeeded := eq_ok_of_toOption (by decide +kernel)

/-- The report behind the launch shows its command, and leaves the record alone. -/
theorem shows_last_command_true :
    (onlyTrue.machine.faults = [] ∧ IsRecordable (lit "/base") ∧
      onlyTrue.record (lit "/base") = none ∧
      ∀ step ∈ onlyTrue.history [launching.invocation, reporting.invocation],
        ∀ chosen ∈ step.chosenBase?, chosen = lit "/base") ∧
    reporting.Shows (some [lit "true", [], [.raw 0x7F]]) ∧
    reporting.after.record (lit "/base") = reporting.before.record (lit "/base") := by
  have hfaults : onlyTrue.machine.faults = [] := rfl
  have hbase : IsRecordable (lit "/base") := ⟨by decide +kernel, by decide +kernel⟩
  have hnone : onlyTrue.record (lit "/base") = none := by decide +kernel
  have hchosen : ∀ step ∈ onlyTrue.history [launching.invocation, reporting.invocation],
      ∀ chosen ∈ step.chosenBase?, chosen = lit "/base" := by
    rw [history_launching_reporting]
    decide +kernel
  have hlast : lastStarted? [launching] = some [lit "true", [], [.raw 0x7F]] := by decide +kernel
  have hmem : reporting ∈ onlyTrue.history [launching.invocation, reporting.invocation] := by
    rw [history_launching_reporting]
    exact List.mem_cons_of_mem _ List.mem_cons_self
  obtain ⟨hshows, hkept⟩ := shows_last_command hfaults hbase hnone hchosen
  have hshown := hshows [launching] reporting [] history_launching_reporting isReport_reporting
  have hsuccess := hkept reporting hmem (.success isReport_reporting.succeeded)
  rw [hlast] at hshown
  exact ⟨⟨hfaults, hbase, hnone, hchosen⟩, hshown, hsuccess.2⟩

end Launcher.Session
