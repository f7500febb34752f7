import Launcher.Proofs.Launch.PartialRecord
import Launcher.Proofs.Session.LastCommand

/-!
# The last command of a history with faults

Runs of a history that share an output base record their commands in it, and any call of theirs may
fail or fall short. A record that could not be written is only logged, so a later report may show
less than a command; but what it shows is a beginning of a command that a run before it has started.

## Main definitions

* `Launcher.Session.Step.Reports` — a run that reports successfully.
* `Launcher.Session.Step.Writes` — the output is the report of this status.
* `Launcher.Session.IsLeftBy` — bytes that one of the runs has left in the record.
* `Launcher.Session.RecordsPartly` — a session whose record holds such bytes, if there is one.

## Main results

* `Launcher.Session.recordsPartly_before` — the record holds a beginning of a command of the past.
* `Launcher.Session.shows_beginning_of_started` — a report shows a beginning of a command of the
  past.
-/

namespace Launcher.Session

open Launcher.Action Launch WholeFile

variable {base : Text} {faults : List Fault} {past : List Step} {s : Session} {step : Step}

namespace Step

/-- The calls of the run and their answers. -/
def trace (step : Step) : List (Call × Answer) := step.outcome.1.process.trace

/-- The status of the run, if it comes as far as to read one. -/
def reportedStatus? (step : Step) : Option Status :=
  Launch.reportedStatus? step.invocation.tokens step.world

/-- The run was asked for a report and has succeeded. -/
structure Reports (step : Step) (options : StartupOptions) : Prop where
  query : Query.ofTokens step.invocation.tokens = none
  read : CommandLine.read step.invocation.tokens = .ok { options, command := [] }
  succeeded : step.result = .ok ExitCode.success.number

/-- The output of the run is the report of this status. -/
def Writes (step : Step) (asJson : Bool) (status : Status) : Prop :=
  ∃ cs, (Report.text asJson status).chars? = some cs ∧ step.output = ⟨cs, []⟩

end Step

/-! ## One run -/

/-- The content of the record in an output base. -/
def content (s : Session) (base : Text) : Option Bytes := (s.record base).bind Node.content?

/-- The bytes are a beginning of the record of a command that one of the runs has started, and the
whole of it if the run has written all that it was to write. -/
def IsLeftBy (past : List Step) (bytes : Bytes) : Prop :=
  ∃ run ∈ past, ∃ command, run.startedCommand? = some command ∧
    (∀ word ∈ command, IsArgument word) ∧ ∃ n, bytes = (Record.encode command).take n ∧
      (WritesWhole run.trace → bytes = Record.encode command)

/-- The faults are planned, and the record holds what one of the runs has left of it. -/
structure RecordsPartly (base : Text) (faults : List Fault) (past : List Step) (s : Session) :
    Prop where
  faults : s.machine.faults = faults
  record : ∀ bytes ∈ s.content base, IsLeftBy past bytes

/-- **After a run the record holds what is left of it,** by this run or by one before. -/
theorem recordsPartly_after (hchosen : ∀ chosen ∈ step.chosenBase?, chosen = base)
    (h : RecordsPartly base faults past step.before) :
    RecordsPartly base faults (past ++ [step]) step.after where
  faults := (faults_exec_main step.invocation.tokens step.world).trans h.faults
  record := by
    have hkept : ∀ bytes ∈ step.before.content base, IsLeftBy (past ++ [step]) bytes := by
      intro bytes hbytes
      obtain ⟨run, hrun, hleft⟩ := h.record bytes hbytes
      exact ⟨run, List.mem_append_left _ hrun, hleft⟩
    have hchooses := step.chooses hchosen
    rcases hstarted : step.startedCommand? with _ | command
    · have hsame : step.after.content base = step.before.content base :=
        contentAt_exec_main hstarted
      rw [hsame]
      exact hkept
    · obtain ⟨calls, hmakes, hleaves⟩ := leaves_of_startedCommand? hchooses hstarted
      have htrace : step.trace = calls := hmakes
      have hafter : Leaves (Record.encode command) (WritesWhole calls)
          (step.before.content base) (step.after.content base) := hleaves
      rw [← htrace] at hafter
      generalize step.after.content base = after at hafter
      cases hafter with
      | kept => exact hkept
      | removed => exact fun bytes hbytes => by cases hbytes
      | written n hwhole =>
        rintro _ ⟨⟩
        exact ⟨step, List.mem_append_right _ List.mem_cons_self, command, hstarted,
          isArgument_of_startedCommand? hchooses hstarted, n, rfl, hwhole⟩

/-- **A report shows a beginning of what the record is to hold.** -/
theorem shows_of_recordsPartly {options : StartupOptions}
    (hchosen : ∀ chosen ∈ step.chosenBase?, chosen = base)
    (h : RecordsPartly base faults past step.before) (hreports : step.Reports options) :
    ∃ status, step.reportedStatus? = some status ∧ step.Writes options.json status ∧
      ∀ shown ∈ status.lastCommand, ∃ run ∈ past, ∃ command,
        run.startedCommand? = some command ∧ Record.IsBeginning command shown ∧
          (WritesWhole run.trace → ReadsWhole faults → shown = command) := by
  obtain ⟨w, hexec, -, houtput⟩ := step.exec_main_world
  rw [hreports.succeeded] at hexec
  obtain ⟨status, cs, hstatus, hcs, hwritten, hshows⟩ :=
    exists_status_of_exec_main (step.chooses hchosen) rfl hreports.query hreports.read hexec
  refine ⟨status, hstatus, ⟨cs, hcs, houtput.symm.trans hwritten⟩, fun shown hshown => ?_⟩
  obtain ⟨old, n, hold, rfl, hreads⟩ := hshows shown hshown
  obtain ⟨run, hrun, command, hstarted, hwords, k, hbytes, hwhole⟩ := h.record old hold
  refine ⟨run, hrun, command, hstarted, ?_, fun hwrites hfaults => ?_⟩
  · rw [hbytes, List.take_take]
    exact Record.isBeginning_decode_take hwords _
  · have hfaults' : ReadsWhole step.world.faults := by
      rw [← h.faults] at hfaults
      exact hfaults
    rw [hreads hfaults', hwhole hwrites, Record.decode_encode hwords]

/-! ## All runs -/

variable {invocations : List Invocation} {earlier later : List Step}

/-- **Before each run the record holds what a run of the past has left of it.** -/
theorem recordsPartly_before (hnone : s.record base = none)
    (hchosen : ∀ step ∈ s.history invocations, ∀ chosen ∈ step.chosenBase?, chosen = base)
    (h : s.history invocations = earlier ++ step :: later) :
    RecordsPartly base s.machine.faults earlier step.before := by
  have start : RecordsPartly base s.machine.faults [] s := by
    refine ⟨rfl, fun bytes hbytes => ?_⟩
    rw [content, hnone] at hbytes
    cases hbytes
  refine history_induction (P := fun past => RecordsPartly base s.machine.faults past) start ?_ h
  intro past step hstep hrecords
  exact recordsPartly_after (hchosen step hstep) hrecords

/-- **A report shows a beginning of a command of the past,** whatever faults strike. In a history
whose runs share an output base that has no record at first, the last command that a successful
report shows is a beginning of the command of a run before it that has found its program. It is the
whole command if that run has written all that it was to write, and no read comes back empty too
early. -/
theorem shows_beginning_of_started (hnone : s.record base = none)
    (hchosen : ∀ step ∈ s.history invocations, ∀ chosen ∈ step.chosenBase?, chosen = base) :
    ∀ earlier step later, s.history invocations = earlier ++ step :: later →
      ∀ options, step.Reports options →
        ∃ status, step.reportedStatus? = some status ∧ step.Writes options.json status ∧
          ∀ shown ∈ status.lastCommand, ∃ run ∈ earlier, ∃ command,
            run.startedCommand? = some command ∧ Record.IsBeginning command shown ∧
              (WritesWhole run.trace → ReadsWhole s.machine.faults → shown = command) := by
  intro earlier step later h options hreports
  have hstep : step ∈ s.history invocations := by
    rw [h]
    exact List.mem_append_right _ List.mem_cons_self
  exact shows_of_recordsPartly (hchosen step hstep) (recordsPartly_before hnone hchosen h) hreports

/-! ### A command that is cut off -/

/-- On this machine the first write stores seven bytes of what it is given. -/
def runningShort : Session where
  machine := { onlyTrue.machine with faults := [⟨.write, some 1, none, .short 7⟩] }
  environment := onlyTrue.environment
  logThreshold := onlyTrue.logThreshold

/-- The program is started with one argument. -/
def tearing : Step :=
  ⟨runningShort, invoke [lit "--output_base=/base", lit "--", lit "true", lit "hello"]
    (by decide)⟩

/-- Behind the launch a report for a program is asked for. -/
def tornReport : Step := ⟨tearing.after, reporting.invocation⟩

/-- The two invocations one after the other make this history. -/
theorem history_tearing :
    runningShort.history [tearing.invocation, tornReport.invocation] = [tearing, tornReport] := rfl

/-- The two runs: the first starts a command, and the second reports two of the five characters of
its argument. -/
structure Torn : Prop where
  chosen : ∀ step ∈ runningShort.history [tearing.invocation, tornReport.invocation],
    ∀ chosen ∈ step.chosenBase?, chosen = lit "/base"
  given : (CommandLine.read tearing.invocation.tokens).toOption.map (·.command) =
    some [lit "true", lit "hello"]
  started : tearing.startedCommand? = some [lit "true", lit "hello"]
  reports : tornReport.Reports
    { StartupOptions.none with outputBase := lit "/base", json := true }
  reported : tornReport.reportedStatus?.bind (·.lastCommand) = some [lit "true", lit "he"]

/-- In this history the report shows a beginning of the command only. -/
theorem torn : Torn where
  chosen := by
    rw [history_tearing]
    decide +kernel
  given := by decide +kernel
  started := by decide +kernel
  reports := ⟨by decide, eq_ok_of_toOption (by decide +kernel),
    eq_ok_of_toOption (by decide +kernel)⟩
  reported := by decide +kernel

/-- There is no record before the history begins. -/
theorem record_runningShort : runningShort.record (lit "/base") = none := by decide

/-- What the report shows is a beginning of the command of the launch, which is the only one. -/
theorem shows_beginning_of_started_torn :
    (runningShort.record (lit "/base") = none ∧
      ∀ step ∈ runningShort.history [tearing.invocation, tornReport.invocation],
        ∀ chosen ∈ step.chosenBase?, chosen = lit "/base") ∧
    tearing.startedCommand? = some [lit "true", lit "hello"] ∧
    ∃ status, tornReport.Writes true status ∧
      status.lastCommand = some [lit "true", lit "he"] ∧
      Record.IsBeginning [lit "true", lit "hello"] [lit "true", lit "he"] := by
  obtain ⟨status, hstatus, hwrites, hshows⟩ := shows_beginning_of_started record_runningShort
    torn.chosen [tearing] tornReport [] history_tearing _ torn.reports
  have hlast : status.lastCommand = some [lit "true", lit "he"] := by
    have hreported := torn.reported
    rw [hstatus] at hreported
    exact hreported
  obtain ⟨run, hrun, command, hcommand, hbeginning, -⟩ := hshows _ hlast
  obtain rfl := List.mem_singleton.1 hrun
  obtain rfl := Option.some.inj (hcommand.symm.trans torn.started)
  exact ⟨⟨record_runningShort, torn.chosen⟩, torn.started, status, hwrites, hlast, hbeginning⟩

/-- **Not every command that a report shows is one that was given.** A write that falls short leaves
a record that ends within an argument, and the report shows it all the same. -/
theorem not_shows_whole_command :
    ¬ ∀ (s : Session) (base : Text) (invocations : List Invocation), s.record base = none →
      (∀ step ∈ s.history invocations, ∀ chosen ∈ step.chosenBase?, chosen = base) →
      ∀ earlier step later, s.history invocations = earlier ++ step :: later →
        ∀ options, step.Reports options →
          ∃ status, step.reportedStatus? = some status ∧ step.Writes options.json status ∧
            ∀ shown ∈ status.lastCommand, ∃ run ∈ earlier, ∃ given,
              CommandLine.read run.invocation.tokens =
                .ok { options := given, command := shown } := by
  intro h
  obtain ⟨status, hstatus, -, hshows⟩ := h runningShort (lit "/base") _ record_runningShort
    torn.chosen [tearing] tornReport [] history_tearing _ torn.reports
  have hreported := torn.reported
  rw [hstatus] at hreported
  obtain ⟨run, hrun, given, hread⟩ := hshows _ hreported
  obtain rfl := List.mem_singleton.1 hrun
  have hgiven := torn.given
  rw [hread] at hgiven
  have hsame : [lit "true", lit "he"] = [lit "true", lit "hello"] := Option.some.inj hgiven
  exact absurd hsame (by decide)

end Launcher.Session
