import Launcher.Proofs.Session.Reporting
import Launcher.Proofs.WholeFile.ByValue

/-!
# Reports on a record that cannot be read, or not be closed

A launch without a command reads the record for its report. A record that cannot be opened or read
is reported as none, and the report is written all the same. But a record that cannot be closed
makes the reading fail, whatever has been read of it, and the launch ends as an internal error
without a word on its output.

## Main definitions

* `Launcher.Launch.IsPrepared` — a launch without a command, with its output base there.
* `Launcher.Session.EndsByRecord` — what a report comes to by the calls that read the record.

## Main results

* `Launcher.Session.fails_only_unclosed` — a record disturbs a report only if it cannot be closed.
* `Launcher.Session.not_every_reading_returns` — a file that has been read, and not closed.
-/

namespace Launcher

open Launcher.Action WholeFile

namespace Launch

variable {tokens : List Text} {plan : Plan} {record : Option Bytes} {w w₁ w₂ : World}

/-! ## Reading the status -/

/-- There is no status without a reading. -/
theorem exec_readStatus_of_stop {stop : Stop}
    (hread : exec (read? plan.recordPath) w = (.error stop, w₁)) :
    exec (readStatus plan.options plan.user plan.base) w = (.error stop, w₁) :=
  (exec_bind_of_ok (Screen.exec_isInteractive w)).trans (exec_bind_of_error hread)

/-- A report makes no calls behind those that read the record. -/
theorem trace_exec_report (hread : exec (read? plan.recordPath) w = (.ok record, w₁)) :
    (exec (report plan.options plan.user plan.base) w).2.process.trace = w₁.process.trace := by
  have hkeeps : ∀ interactive : Bool, Keeps (World.besides [.output]) [] (do
      let columns ← Screen.columns
      Report.emit plan.options.json (interactive && !plan.options.json)
        { user := plan.user, outputBase := plan.base, interactive, columns
          commandPort := plan.options.commandPort, lastCommand := record.map Record.decode }) :=
    fun _ => Keeps.bind Screen.keeps_columns.widen fun _ => Report.keeps_emit _ _ _
  have hreport : exec (report plan.options plan.user plan.base) w = exec _ w₁ :=
    (exec_bind_of_ok (Screen.exec_isInteractive w)).trans (exec_bind_of_ok hread)
  rw [hreport]
  exact World.trace_eq_of_besides_eq ((hkeeps _).view_eq w₁)

/-! ## Launches that read the record -/

/-- A launch without a command has come from one world to another in which its output base is
there. -/
structure IsPrepared (tokens : List Text) (plan : Plan) (w w₁ : World) : Prop where
  prepared : exec (prepare tokens) w = (.ok plan, w₁)
  command : plan.command = []

namespace IsPrepared

/-- Such a launch goes on to its report. -/
theorem exists_exec_run (h : IsPrepared tokens plan w w₁) :
    ∃ log, exec (run tokens) w =
      exec (report plan.options plan.user plan.base) (w₁.withLog log) := by
  obtain ⟨log, hproceed⟩ := exists_exec_proceed plan w₁
  refine ⟨log, ?_⟩
  rw [run_eq, exec_bind_of_ok h.prepared, hproceed, h.command]

/-- A run that comes to its report still has the faults that it began with. -/
theorem faults_eq (h : IsPrepared tokens plan w w₁) : w₁.faults = w.faults :=
  (keeps_prepare tokens).faults.view_eq_of_exec h.prepared

/-- Such a launch has written nothing yet when the record has been read. -/
theorem written_eq {log : List LogRecord} {result : Except Stop (Option Bytes)}
    (h : IsPrepared tokens plan w w₁)
    (hread : exec (read? plan.recordPath) (w₁.withLog log) = (result, w₂)) :
    w₂.written = w.written := by
  have hprepared : w₁.written = w.written :=
    (keeps_prepare tokens).written.view_eq_of_exec h.prepared
  exact (World.written_eq_of_besides_eq (unmoved_of_exec_read? hread)).trans hprepared

/-- The path of the record can be given to the system. -/
theorem zero_not_mem (h : IsPrepared tokens plan w w₁) : 0 ∉ plan.recordPath.toBytes :=
  zero_not_mem_record (of_exec_prepare h.prepared).2

end IsPrepared

end Launch

namespace Session

open Launch

variable {s : Session} {tokens : List Text} {plan : Plan} {record : Option Bytes}
  {calls : List (Call × Answer)} {w w₁ w₂ : World}

/-- **What a report comes to by the calls that read the record.** If the record could not be closed,
the launch ends as an internal error and has written nothing. Otherwise there is no record if it
could not be opened or read; and whether there is one or not, the report is written as a whole
unless something else stands in its way. -/
structure EndsByRecord (plan : Plan) (w : World) (calls : List (Call × Answer))
    (outcome : Observation Int × Session) : Prop where
  made : outcome.1.process.trace = w.process.trace ++ calls
  unclosed : Unclosed calls →
    outcome.1.result = .ok ExitCode.internal.number ∧ outcome.1.process.output = .empty
  closed : ¬Unclosed calls → ∃ record : Option Bytes, (record = none ↔ Unreadable calls) ∧
    ∀ columns, Screen.width w.machine.terminal w.process.environment = .ok columns →
      Report.CanBeWritten plan.options.json (plan.statusOf w record columns) →
      Reports plan.options.json (plan.statusOf w record columns) outcome

section Reading

variable {log : List LogRecord} (hquery : Query.ofTokens tokens = none)
  (h : IsPrepared tokens plan s.world w₁)
  (hrun : exec (run tokens) s.world =
    exec (report plan.options plan.user plan.base) (w₁.withLog log))
  (hmakes : w₁.Makes calls w₂)
include hquery h hrun hmakes

/-- A launch whose reading fails ends as an internal error, and has written nothing. -/
theorem endsByRecord_of_failed {e : OsError}
    (hread : exec (read? plan.recordPath) (w₁.withLog log) = (.error (.failed (.system e)), w₂))
    (hcalls : Unclosed calls) :
    EndsByRecord plan w₁ calls (s.perform (Launch.main tokens)) := by
  have hreport : exec (report plan.options plan.user plan.base) (w₁.withLog log) =
      (.error (.failed (.system e)), w₂) := by
    rw [report_eq]
    exact exec_bind_of_error (exec_readStatus_of_stop hread)
  obtain ⟨w₃, hend, hkept⟩ := exec_exitCode_of_failed (hrun.trans hreport) fun f => by simp
  have hquiet : w₃.written = [] := (World.written_eq_of_besides_eq hkept).trans (h.written_eq hread)
  rw [perform_eq, main_of_no_query hquery, hend]
  exact {
    made := (World.trace_eq_of_besides_eq hkept).trans hmakes
    unclosed := fun _ => ⟨rfl, World.output_eq_empty hquiet⟩
    closed := fun hclosed => absurd hcalls hclosed }

/-- A launch that has read the record, or found that there is none, writes its report. -/
theorem endsByRecord_of_read
    (hread : exec (read? plan.recordPath) (w₁.withLog log) = (.ok record, w₂))
    (hclosed : ¬Unclosed calls)
    (hrecord : record = none ↔ Unreadable calls) :
    EndsByRecord plan w₁ calls (s.perform (Launch.main tokens)) := by
  rw [perform_eq, main_of_no_query hquery]
  refine ⟨?_, fun hunclosed => absurd hunclosed hclosed, fun _ => ⟨record, hrecord, ?_⟩⟩
  · have hkept := besides_exec_exitCode (run tokens) s.world
    rw [hrun] at hkept
    exact (World.trace_eq_of_besides_eq hkept).trans ((trace_exec_report hread).trans hmakes)
  · intro columns hcolumns hwritable
    have hstatus : exec (readStatus plan.options plan.user plan.base) (w₁.withLog log) =
        (.ok (plan.statusOf w₁ record columns), w₂) := by
      have hwidth : Screen.width (w₁.withLog log).machine.terminal
        (w₁.withLog log).process.environment = .ok columns := hcolumns
      rw [exec_readStatus_of_read hread, hwidth]
      rfl
    obtain ⟨w₃, cs, hreport, hcs, houtput⟩ :=
      exists_exec_report (h.written_eq hread) hwritable hstatus
    rw [exec_exitCode_of_ok (hrun.trans hreport)]
    exact ⟨rfl, cs, hcs, houtput⟩

end Reading

/-- A report comes to what the calls that read the record come to. -/
theorem exists_endsByRecord (hquery : Query.ofTokens tokens = none)
    (h : IsPrepared tokens plan s.world w)
    (hceases : Fault.Ceases s.machine.faults (.read chunkSize) (.fail .interrupted)) :
    ∃ calls, EndsByRecord plan w calls (s.perform (Launch.main tokens)) := by
  obtain ⟨log, hrun⟩ := h.exists_exec_run
  have hfaults : (w.withLog log).faults = s.machine.faults := h.faults_eq
  obtain ⟨result, w₂, calls, hread, hmakes, hcomes⟩ :=
    exists_comesTo (w := w.withLog log) h.zero_not_mem (hfaults ▸ hceases)
  refine ⟨calls, ?_⟩
  by_cases hcalls : Unclosed calls
  · obtain ⟨e, rfl⟩ := hcomes.unclosed hcalls
    exact endsByRecord_of_failed hquery h hrun hmakes hread hcalls
  · obtain ⟨record, rfl, hrecord⟩ := hcomes.value hcalls
    exact endsByRecord_of_read hquery h hrun hmakes hread hcalls hrecord

/-- **A record disturbs a report only if it cannot be closed.** Under any plan of faults that does
not interrupt for ever, reading a file comes to a value whatever becomes of the calls that open and
read it, and it fails if the file cannot be closed. So it is with a report: a record that cannot be
opened or read is reported as none, and one that cannot be closed is an internal error. -/
theorem fails_only_unclosed {faults : List Fault}
    (hceases : Fault.Ceases faults (.read chunkSize) (.fail .interrupted)) :
    (∀ (path : Path) (w : World), w.faults = faults → 0 ∉ path.toBytes →
      ∃ result w' calls, exec (read? path) w = (result, w') ∧ w.Makes calls w' ∧
        ComesTo calls result) ∧
    ∀ (s : Session) (tokens : List Text) (plan : Plan) (w : World), s.machine.faults = faults →
      Query.ofTokens tokens = none → IsPrepared tokens plan s.world w →
      ∃ calls, EndsByRecord plan w calls (s.perform (Launch.main tokens)) := by
  constructor
  · rintro path w rfl hzero
    exact exists_comesTo hzero hceases
  · rintro s tokens plan w rfl hquery hprepared
    exact exists_endsByRecord hquery hprepared hceases

/-! ### A record that cannot be closed -/

/-- A session in which no file can be closed, with a record in its output base. -/
def jammed : Session :=
  { onlyTrue with
    machine := { onlyTrue.machine with
      tree := onlyTrue.machine.tree.plant (Location.ofPath (lit "/base/last_command").encode)
        (.file 0o644 (Record.encode [lit "true"]))
      faults := [⟨.close, none, none, .fail .accessDenied⟩] }
    environment := [("USER", lit "user")] }

/-- The tokens that ask for the report. -/
def jammedTokens : List Text := [lit "--output_base=/base", lit "--json"]

/-- The path of the record. -/
def jammedPath : Path := .text (lit "/base/last_command")

/-- The record is opened and read to its end before it cannot be closed. -/
def jammedCalls : List (Call × Answer) :=
  [(.openToRead jammedPath, .ok), (.read chunkSize, .count 5), (.read chunkSize, .count 0),
    (.close, .error .accessDenied)]

/-- The close of this record is the call that fails. -/
theorem unclosed_jammed : Unclosed jammedCalls := ⟨.accessDenied, by decide⟩

/-- This session comes to its report, and makes exactly these calls for it. -/
theorem exists_isPrepared_jammed : ∃ plan w, IsPrepared jammedTokens plan jammed.world w ∧
    (jammed.perform (Launch.main jammedTokens)).1.process.trace =
      w.process.trace ++ jammedCalls := by
  have hprepared : (exec (prepare jammedTokens) jammed.world).1.toOption.map (·.command) =
      some [] := by decide +kernel
  have htrace : (jammed.perform (Launch.main jammedTokens)).1.process.trace =
      (exec (prepare jammedTokens) jammed.world).2.process.trace ++ jammedCalls := by decide +kernel
  rcases hexec : exec (prepare jammedTokens) jammed.world with ⟨result, w⟩
  rw [hexec] at hprepared htrace
  obtain ⟨plan, hplan, hcommand⟩ := Option.map_eq_some_iff.1 hprepared
  exact ⟨plan, w, ⟨hexec.trans (congrArg (·, w) (eq_ok_of_toOption hplan)), hcommand⟩, htrace⟩

/-- The record is read as a whole, but not closed: reading it is a failure, and the launch ends as
an internal error. -/
theorem fails_only_unclosed_jammed :
    Fault.Ceases jammed.machine.faults (.read chunkSize) (.fail .interrupted) ∧
    (0 ∉ jammedPath.toBytes ∧
      ∃ e w', exec (read? jammedPath) jammed.world = (.error (.failed (.system e)), w')) ∧
    (∃ plan w, Query.ofTokens jammedTokens = none ∧ IsPrepared jammedTokens plan jammed.world w ∧
      EndsByRecord plan w jammedCalls (jammed.perform (Launch.main jammedTokens))) ∧
    (jammed.perform (Launch.main jammedTokens)).1.result = .ok ExitCode.internal.number := by
  have hzero : 0 ∉ jammedPath.toBytes := by decide
  have hceases : Fault.Ceases jammed.machine.faults (.read chunkSize) (.fail .interrupted) := by
    decide
  have hquery : Query.ofTokens jammedTokens = none := by decide
  have htrace : (exec (read? jammedPath) jammed.world).2.process.trace = jammedCalls := by
    decide +kernel
  obtain ⟨plan, w, hprepared, hcalls⟩ := exists_isPrepared_jammed
  obtain ⟨result, w', calls, hread, hmakes, hcomes⟩ :=
    (fails_only_unclosed hceases).1 jammedPath jammed.world rfl hzero
  rw [hread] at htrace
  obtain rfl : calls = jammedCalls := hmakes.symm.trans htrace
  obtain ⟨e, rfl⟩ := hcomes.unclosed unclosed_jammed
  obtain ⟨calls', hends⟩ :=
    (fails_only_unclosed hceases).2 jammed jammedTokens plan w rfl hquery hprepared
  obtain rfl : calls' = jammedCalls := List.append_cancel_left (hends.made.symm.trans hcalls)
  exact ⟨hceases, ⟨hzero, e, w', hread⟩, ⟨plan, w, hquery, hprepared, hends⟩,
    (hends.unclosed unclosed_jammed).1⟩

/-- Not every reading of a file comes to a value. -/
theorem not_every_reading_returns :
    ¬∀ (path : Path) (w : World), 0 ∉ path.toBytes →
      Fault.Ceases w.faults (.read chunkSize) (.fail .interrupted) →
      ∃ content? w', exec (read? path) w = (.ok content?, w') := by
  intro hclaim
  obtain ⟨content?, w', hread⟩ := hclaim jammedPath jammed.world (by decide) (by decide)
  have hfails : (exec (read? jammedPath) jammed.world).1.toOption = none := by decide +kernel
  rw [hread] at hfails
  cases hfails

end Session

end Launcher
