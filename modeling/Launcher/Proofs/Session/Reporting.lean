import Launcher.Proofs.Launch.Faultless
import Launcher.Proofs.Launch.Reporting
import Launcher.Proofs.Session.History

/-!
# Which records are shown

A record may hold any bytes, and it is read as words in which the bytes that are no UTF-8 are kept.
A report for a program spells them out. A report for a person shows them as they are, which the
output refuses: where such a byte is left in the row as it is cut, the launch ends as an internal
error with the rows above it on the output. A record of words in UTF-8 is shown at any width.

## Main definitions

* `Launcher.Session.Reports` — a run writes the whole report of a status.

## Main results

* `Launcher.Session.shows_record_or_breaks` — what becomes of a record.
* `Launcher.Session.not_every_record_is_shown` — a record that is not shown.
-/

namespace Launcher

open Launcher.Action Launch

/-- A record of words without stray bytes has a row that can be written, at any width. -/
theorem Launch.isWritable_commandRow_status {plan : Plan} {content : Bytes} {w : World}
    (h : ∀ word ∈ Record.decode content, Text.IsWritable word) (columns : Int) :
    (Report.commandRow (plan.status w content columns)).IsWritable :=
  Report.isWritable_commandRow rfl h

namespace Session

variable {s : Session} {tokens : List Text} {plan : Plan} {content : Bytes} {columns : Int}

/-- The run succeeds, and has written the whole report of the status and nothing else. -/
structure Reports (asJson : Bool) (status : Status) (outcome : Observation Int × Session) :
    Prop where
  result : outcome.1.result = .ok ExitCode.success.number
  output : ∃ cs, (Report.text asJson status).chars? = some cs ∧
    outcome.1.process.output = ⟨cs, []⟩

/-- A run reports if nothing stands in the way of it. -/
theorem reports_of_canReport (hquery : Query.ofTokens tokens = none)
    (h : ComesToReport tokens plan content s.world)
    (hcan : CanReport plan content columns s.world) :
    Reports plan.options.json (plan.status s.world content columns)
      (s.perform (Launch.main tokens)) := by
  obtain ⟨w, cs, hrun, hcs, houtput⟩ := h.exec_run_of_canReport hcan rfl
  rw [perform_eq, main_of_no_query hquery, exec_exitCode_of_ok hrun]
  exact ⟨rfl, cs, hcs, houtput⟩

/-- A run that cannot report ends as an internal error. -/
theorem result_of_not_canReport (hquery : Query.ofTokens tokens = none)
    (h : ComesToReport tokens plan content s.world)
    (hcannot : ∀ columns, ¬CanReport plan content columns s.world) :
    (s.perform (Launch.main tokens)).1.result = .ok ExitCode.internal.number := by
  obtain ⟨failure, w, hrun, hfatal⟩ := h.exec_run_of_not_canReport hcannot
  obtain ⟨w', hend, -⟩ := exec_exitCode_of_failed hrun hfatal
  rw [perform_eq, main_of_no_query hquery, hend]

/-- **A record is shown as a whole, or the launch ends as an internal error.** It is shown if
nothing stands in the way of the report: in a report for a person, no stray byte may be left in the
row of the command as it is cut. In a record of words in UTF-8 there is none. -/
theorem shows_record_or_breaks (hquery : Query.ofTokens tokens = none)
    (h : ComesToReport tokens plan content s.world) :
    (∀ columns, CanReport plan content columns s.world →
      Reports plan.options.json (plan.status s.world content columns)
        (s.perform (Launch.main tokens))) ∧
    ((∀ columns, ¬CanReport plan content columns s.world) →
      (s.perform (Launch.main tokens)).1.result = .ok ExitCode.internal.number) ∧
    ((∀ word ∈ Record.decode content, Text.IsWritable word) →
      ∀ columns, (Report.commandRow (plan.status s.world content columns)).IsWritable) :=
  ⟨fun _ => reports_of_canReport hquery h, result_of_not_canReport hquery h,
    isWritable_commandRow_status⟩

/-! ### A record with a stray byte -/

/-- A session whose output base has a record that is no UTF-8. -/
def stray : Session :=
  { onlyTrue with
    machine := { onlyTrue.machine with
      tree := onlyTrue.machine.tree.plant (Location.ofPath (lit "/base/last_command").encode)
        (.file 0o644 [0xFF, 0]) }
    environment := [("USER", lit "user")] }

/-- The content of the record. -/
def strayContent : Bytes := [0xFF, 0]

/-- The plan for a report, for a person or for a program. -/
def strayPlan (json : Bool) : Plan where
  options := { StartupOptions.none with outputBase := lit "/base", json }
  command := []
  user := lit "user"
  base := lit "/base"
  directoryMode := 0o755

/-- The settings of a session without variables of the launcher. -/
def straySettings : Settings where
  outputBase := none
  directoryMode := 0o755
  logLevel := Level.warning
  delegate := none
  delegated := false

/-- The tokens that ask for the report. -/
def strayTokens (json : Bool) : List Text :=
  lit "--output_base=/base" :: if json then [lit "--json"] else []

/-- The tokens of this session ask for no help. -/
theorem query_stray (json : Bool) : Query.ofTokens (strayTokens json) = none := by
  cases json <;> decide

/-- The run of this session comes to its report. -/
theorem comesToReport_stray (json : Bool) :
    ComesToReport (strayTokens json) (strayPlan json) strayContent stray.world where
  faults := rfl
  settled := by
    have hplan : CanPlan straySettings (strayTokens json) (strayPlan json) stray.world :=
      { line := by cases json <;> exact eq_ok_of_toOption (by decide +kernel)
        user := eq_ok_of_toOption (by cases json <;> decide)
        base := ⟨lit "/base", eq_ok_of_toOption (by cases json <;> decide),
          eq_ok_of_toOption (by cases json <;> decide)⟩
        directoryMode := rfl }
    exact exists_exec_settle hplan (eq_ok_of_toOption (by decide)) rfl rfl rfl
  command := rfl
  record := ⟨0o644, by cases json <;> decide +kernel⟩
  user := Text.isWritable_lit "user"
  base := Text.isWritable_lit "/base"

/-- A report for a program spells the byte out. -/
theorem shows_record_or_breaks_json :
    Query.ofTokens (strayTokens true) = none ∧
      ComesToReport (strayTokens true) (strayPlan true) strayContent stray.world ∧
      Reports true ((strayPlan true).status stray.world strayContent 80)
        (stray.perform (Launch.main (strayTokens true))) := by
  have hcan : CanReport (strayPlan true) strayContent 80 stray.world :=
    ⟨by decide, eq_ok_of_toOption (by decide), by decide +kernel, Or.inl rfl⟩
  have hshown := shows_record_or_breaks (query_stray true) (comesToReport_stray true)
  exact ⟨query_stray true, comesToReport_stray true, hshown.1 80 hcan⟩

/-- In a report for a person the byte is left in the row, at the width of eighty columns. -/
theorem not_canReport_stray (columns : Int) :
    ¬CanReport (strayPlan false) strayContent columns stray.world := by
  rintro ⟨-, hwidth, -, hrow⟩
  have hcolumns : Screen.width stray.world.machine.terminal stray.world.process.environment =
    .ok 80 := eq_ok_of_toOption (by decide)
  rw [hcolumns] at hwidth
  obtain rfl := Except.ok.inj hwidth
  have hstray : Symbol.raw (Fin.last 0x7F) ∈
      Report.commandRow ((strayPlan false).status stray.world strayContent 80) := by decide +kernel
  rcases hrow with hjson | hrow
  · cases hjson
  · obtain ⟨c, hc⟩ := hrow _ hstray
    cases hc

/-- Not every record of an output base is shown. -/
theorem not_every_record_is_shown :
    ¬∀ (s : Session) (tokens : List Text) (plan : Plan) (content : Bytes),
      Query.ofTokens tokens = none → ComesToReport tokens plan content s.world →
        (s.perform (Launch.main tokens)).1.result = .ok ExitCode.success.number := by
  intro hclaim
  have hshown := hclaim stray (strayTokens false) (strayPlan false) strayContent (query_stray false)
    (comesToReport_stray false)
  rw [result_of_not_canReport (query_stray false) (comesToReport_stray false)
    not_canReport_stray] at hshown
  exact absurd (Except.ok.inj hshown) (by decide)

end Session

end Launcher
