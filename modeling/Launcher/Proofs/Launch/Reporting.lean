import Launcher.Proofs.Launch.Frame
import Launcher.Proofs.ReportRows
import Launcher.Proofs.Screen

/-!
# Launches that come to their report

A launch without a command comes to its report as soon as its output base is there, which it is
where a record is kept in it. The report shows the record that is read. It is written as a whole, or
else it fails unexpectedly, and there are few reasons for that.

## Main definitions

* `Launcher.Launch.Plan.status` and `Launcher.Launch.Plan.statusOf` — the status that is reported
  for a plan.
* `Launcher.Launch.ComesToReport` — a launch is about to report a record.
* `Launcher.Launch.CanReport` — nothing stands in the way of the report.

## Main results

* `Launcher.Launch.base_ne_nil_of_exec_settle` — an output base is not empty.
* `Launcher.Launch.exec_createBase_of_resolve` — where a record is named its output base is there.
* `Launcher.Launch.ComesToReport.exec_run_of_canReport` and
  `Launcher.Launch.ComesToReport.exec_run_of_not_canReport` — the report is written, or it fails.
-/

namespace Launcher

open Launcher.Action

/-! ## The output base -/

/-- The output base of a user who has chosen none is not empty. -/
theorem User.ne_nil_of_exec_defaultOutputBase {user base : Text} {w w' : World}
    (h : exec (defaultOutputBase user) w = (.ok base, w')) : base ≠ [] := by
  obtain ⟨directory, w₁, -, hbase⟩ := exec_bind_eq_ok.1 h
  cases hbase
  exact Text.joinPath_ne_nil (Or.inl (Text.joinPath_ne_nil (Or.inr (by decide))))

/-- A path that is not empty is not empty when it is seen from the root. -/
theorem Directory.ne_nil_of_exec_absoluteText {path base : Text} {w w' : World} (hne : path ≠ [])
    (h : exec (absoluteText path) w = (.ok base, w')) : base ≠ [] := by
  unfold absoluteText at h
  by_cases hsettled : isSettled slash path = true
  · rw [if_pos hsettled] at h
    cases h
    exact hne
  · rw [if_neg hsettled] at h
    obtain ⟨directory, w₁, -, hbase⟩ := exec_bind_eq_ok.1 h
    cases hbase
    exact List.append_ne_nil_of_right_ne_nil _ hne

namespace Launch

variable {tokens : List Text} {plan : Plan} {content : Bytes} {columns : Int}
  {w w' w₁ w₂ : World}

/-- The output base that a launch chooses is not empty. -/
theorem ne_nil_of_exec_chosenOutputBase {options : StartupOptions} {settings : Settings}
    {user chosen : Text} (hoptions : options.outputBase ≠ some [])
    (hsettings : settings.outputBase ≠ some [])
    (h : exec (chosenOutputBase options settings user) w = (.ok chosen, w')) : chosen ≠ [] := by
  have hasked : options.outputBase.or settings.outputBase ≠ some [] := by
    rcases hbase : options.outputBase with _ | base
    · exact hsettings
    · rw [Option.some_or, ← hbase]
      exact hoptions
  unfold chosenOutputBase at h
  rcases hchosen : options.outputBase.or settings.outputBase with _ | base
  · rw [hchosen] at h
    exact User.ne_nil_of_exec_defaultOutputBase h
  · rw [hchosen] at h hasked
    cases h
    rintro rfl
    exact hasked rfl

/-- **The output base of a launch is not empty.** -/
theorem base_ne_nil_of_exec_settle (h : exec (settle tokens) w = (.ok plan, w')) :
    plan.base ≠ [] := by
  obtain ⟨settings, hread, -, hplan⟩ := exec_makePlan_of_exec_settle h
  have hsettings : settings.outputBase ≠ some [] := by
    rw [(Settings.read_eq_ok.1 hread).2.2.1]
    exact Settings.given?_ne_nil _ _
  unfold makePlan at hplan
  obtain ⟨line, w₁, hline, hplan⟩ := exec_bind_eq_ok.1 hplan
  obtain ⟨user, w₂, -, hplan⟩ := exec_bind_eq_ok.1 hplan
  obtain ⟨chosen, w₃, hchosen, hplan⟩ := exec_bind_eq_ok.1 hplan
  obtain ⟨base, w₄, hbase, hplan⟩ := exec_bind_eq_ok.1 hplan
  cases hplan
  have hoptions : line.options.outputBase ≠ some [] := by
    rcases htokens : CommandLine.read tokens with e | line'
    · rw [htokens] at hline
      cases hline
    · rw [htokens] at hline
      cases hline
      exact CommandLine.outputBase_ne_nil_of_read htokens
  exact Directory.ne_nil_of_exec_absoluteText
    (ne_nil_of_exec_chosenOutputBase hoptions hsettings hchosen) hbase

/-- A path to a record without zero bytes leads to an output base without zero bytes. -/
theorem zero_not_mem_of_record {base : Text} (h : 0 ∉ (base.joinPath recordName).encode) :
    0 ∉ base.encode := by
  have hname : recordName.head? ≠ some slash := by decide
  obtain ⟨rest, hrest⟩ := Text.exists_joinPath_eq_append base hname
  rw [hrest, Text.encode_append] at h
  exact fun hmem => h (List.mem_append_left _ hmem)

/-- **Where a record is named its output base is there,** and creating it changes nothing. -/
theorem exec_createBase_of_resolve {target : Target} (hfaults : w.faults = [])
    (hfits : Numeral.fitsInt32 plan.directoryMode = true) (hne : plan.base ≠ [])
    (hzero : 0 ∉ (plan.base.joinPath recordName).encode)
    (hresolve : w.machine.resolve (plan.base.joinPath recordName).encode = .ok target) :
    ∃ w', exec (createBase plan) w = (.ok ⟨⟩, w') ∧ w'.besides [.trace] = w.besides [.trace] := by
  have hdirectories : ∀ path ∈ (Path.text plan.base).chain, w.machine.isDirectory path = true := by
    intro path hpath
    obtain ⟨start, hstart, rfl⟩ := List.mem_map.1 hpath
    exact Directory.isDirectory_of_mem_beginnings hne (zero_not_mem_of_record hzero) (by decide)
      isEntryName_recordName hresolve hstart
  obtain ⟨w', hcreate, -, hkept⟩ :=
    Directory.exec_createAll_of_isDirectory hfaults hfits hdirectories
  refine ⟨w', ?_, hkept⟩
  rw [createBase, Directory.create, exec_bind_of_ok hcreate]
  rfl

/-! ## The status -/

/-- The status that is reported for a plan in a world: what was settled, what the terminal can do,
and the command that the record holds. -/
def Plan.status (plan : Plan) (w : World) (content : Bytes) (columns : Int) : Status where
  user := plan.user
  outputBase := plan.base
  interactive :=
    Screen.showsColours w.machine.terminal w.process.environment && !plan.options.batch
  columns
  commandPort := plan.options.commandPort
  lastCommand := some (Record.decode content)

/-- The content of a record that is there. -/
def HasRecord (base : Text) (content : Bytes) (w : World) : Prop :=
  ∃ mode, w.machine.status? (.text (base.joinPath recordName)) = some (.file mode content)

/-- The path of a record that is there can be looked up. -/
theorem HasRecord.exists_resolve {base : Text} (h : HasRecord base content w) :
    0 ∉ (base.joinPath recordName).encode ∧
      ∃ target, w.machine.resolve (base.joinPath recordName).encode = .ok target := by
  obtain ⟨mode, hstatus⟩ := h
  have hzero : 0 ∉ (Path.text (base.joinPath recordName)).toBytes := by
    intro hmem
    simp [Machine.status?, hmem] at hstatus
  refine ⟨hzero, ?_⟩
  rw [Machine.status?_eq_toOption hzero] at hstatus
  rcases hnode : w.machine.status (Path.text (base.joinPath recordName)).toBytes with e | node
  · rw [hnode] at hstatus
    cases hstatus
  · obtain ⟨target, hresolve, -⟩ := Machine.status_eq_ok.1 hnode
    exact ⟨target, hresolve⟩

/-- A launch that has only logged something and made calls that change nothing is where it was. -/
def Unmoved (w w' : World) : Prop :=
  w'.besides [.threshold, .log, .trace] = w.besides [.threshold, .log, .trace]

namespace Unmoved

variable {base : Text} (h : Unmoved w w')
include h

/-- The planned faults are still the same. -/
theorem faults_eq : w'.faults = w.faults := World.faults_eq_of_besides_eq h

/-- The record is still there, with its content. -/
theorem hasRecord (hrecord : HasRecord base content w) : HasRecord base content w' := by
  obtain ⟨mode, hstatus⟩ := hrecord
  have hbare : w'.bare = w.bare := World.bare_eq_of_besides_eq h
  have hsame := congrArg (fun m : Machine => m.status? (.text (base.joinPath recordName))) hbare
  exact ⟨mode, Eq.trans hsame hstatus⟩

/-- The terminal is still the same. -/
theorem terminal_eq : w'.machine.terminal = w.machine.terminal := by
  have hterminal := congrArg (fun v : World => v.machine.terminal) h
  exact hterminal

/-- The environment is still the same. -/
theorem environment_eq : w'.process.environment = w.process.environment :=
  World.environment_eq_of_besides_eq h

/-- The status of a plan is still the same. -/
theorem status_eq (plan : Plan) (content : Bytes) (columns : Int) :
    plan.status w' content columns = plan.status w content columns := by
  unfold Plan.status
  rw [h.terminal_eq, h.environment_eq]

end Unmoved

/-- Reading a file moves a launch nowhere. -/
theorem unmoved_of_exec_read? {path : Path} {result : Except Stop (Option Bytes)}
    (h : exec (WholeFile.read? path) w = (result, w')) : Unmoved w w' := by
  have hkeeps : Keeps (World.besides [.log, .trace]) [] (WholeFile.read? path) :=
    WholeFile.keeps_read? path
  exact World.besides_eq_of_among (hkeeps.view_eq_of_exec h)

/-- The path of the record. -/
def Plan.recordPath (plan : Plan) : Path := .text (plan.base.joinPath recordName)

/-- The status that is reported for a plan in a world if this has been read of the record. -/
def Plan.statusOf (plan : Plan) (w : World) (record : Option Bytes) (columns : Int) : Status :=
  { plan.status w [] columns with lastCommand := record.map Record.decode }

/-- **The status shows what has been read of the record,** unless the width of a line is asked for
by a numeral that is too long. -/
theorem exec_readStatus_of_read {record : Option Bytes}
    (hread : exec (WholeFile.read? plan.recordPath) w = (.ok record, w₁)) :
    exec (readStatus plan.options plan.user plan.base) w =
      (((Screen.width w.machine.terminal w.process.environment).map
        (plan.statusOf w record)).mapError fun v => .failed (.invalid v), w₁) := by
  have hmoved := unmoved_of_exec_read? hread
  have hcolumns := Screen.exec_columns w₁
  rw [hmoved.terminal_eq, hmoved.environment_eq] at hcolumns
  unfold readStatus
  rw [exec_bind_of_ok (Screen.exec_isInteractive w), ← Plan.recordPath, exec_bind_of_ok hread]
  rcases hwidth : Screen.width w.machine.terminal w.process.environment with v | columns
  · rw [hwidth] at hcolumns
    exact exec_bind_of_error hcolumns
  · rw [hwidth] at hcolumns
    exact exec_bind_of_ok hcolumns

/-- **The status is read** where no fault is planned and a record is there. -/
theorem exec_readStatus (hfaults : w.faults = []) (hrecord : HasRecord plan.base content w) :
    ∃ w', exec (readStatus plan.options plan.user plan.base) w =
        (((Screen.width w.machine.terminal w.process.environment).map
          (plan.status w content)).mapError fun v => .failed (.invalid v), w') ∧
      Unmoved w w' := by
  obtain ⟨hzero, -⟩ := hrecord.exists_resolve
  obtain ⟨mode, hstatus⟩ := hrecord
  obtain ⟨w₁, hread⟩ := WholeFile.exec_read? plan.recordPath hfaults hzero
  rw [Plan.recordPath, hstatus] at hread
  exact ⟨w₁, exec_readStatus_of_read hread, unmoved_of_exec_read? hread⟩

/-! ## The report -/

/-- **A report on a status that can be written is written as a whole.** -/
theorem exists_exec_report {status : Status} (hwritten : w₁.written = [])
    (hcan : Report.CanBeWritten plan.options.json status)
    (h : exec (readStatus plan.options plan.user plan.base) w = (.ok status, w₁)) :
    ∃ w' cs, exec (report plan.options plan.user plan.base) w = (.ok ⟨⟩, w') ∧
      (Report.text plan.options.json status).chars? = some cs ∧ w'.process.output = ⟨cs, []⟩ := by
  obtain ⟨_, w', hemit⟩ :=
    Report.returns_emit hcan (status.interactive && !plan.options.json) w₁
  obtain ⟨cs, hcs, houtput⟩ := Report.text_of_exec_emit hwritten hemit
  refine ⟨w', cs, ?_, hcs, houtput⟩
  rw [report_eq, exec_bind_of_ok h]
  exact hemit

/-- Nothing stands in the way of the report in a world: the mode of directories is one of 32 bits,
lines have a width, no number is too long to be written, and the report is for a program, or the row
with the command of the record can be written as it is cut. -/
structure CanReport (plan : Plan) (content : Bytes) (columns : Int) (w : World) : Prop where
  directoryMode : Numeral.fitsInt32 plan.directoryMode = true
  width : Screen.width w.machine.terminal w.process.environment = .ok columns
  numbers : Report.hasLongNumber (plan.status w content columns) = false
  row : plan.options.json = true ∨
    (Report.commandRow (plan.status w content columns)).IsWritable

/-- In the world a launch has settled on a plan without a command, for a user and an output base
without stray bytes, and a record is there. -/
structure ComesToReport (tokens : List Text) (plan : Plan) (content : Bytes) (w : World) :
    Prop where
  faults : w.faults = []
  settled : ∃ w₁, exec (settle tokens) w = (.ok plan, w₁)
  command : plan.command = []
  record : HasRecord plan.base content w
  user : plan.user.IsWritable
  base : plan.base.IsWritable

/-- A report can be written if its last row can, since the other rows can be. -/
theorem ComesToReport.canBeWritten_iff (h : ComesToReport tokens plan content w) :
    Report.CanBeWritten plan.options.json (plan.status w content columns) ↔
      Report.hasLongNumber (plan.status w content columns) = false ∧
        (plan.options.json = true ∨
          (Report.commandRow (plan.status w content columns)).IsWritable) := by
  constructor
  · rintro ⟨hnumbers, hrows⟩
    refine ⟨hnumbers, hrows.imp_right fun hrows => hrows _ ?_⟩
    rw [Report.rows_eq]
    exact List.mem_append_right _ List.mem_cons_self
  · rintro ⟨hnumbers, hrow⟩
    refine ⟨hnumbers, hrow.imp_right fun hrow line hline => ?_⟩
    rw [Report.rows_eq] at hline
    rcases List.mem_append.1 hline with hupper | hlast
    · exact Report.isWritable_upperRows h.user h.base line hupper
    · exact List.mem_singleton.1 hlast ▸ hrow

/-- A launch with a mode in range comes to its report. -/
theorem ComesToReport.exec_run (h : ComesToReport tokens plan content w)
    (hfits : Numeral.fitsInt32 plan.directoryMode = true) :
    ∃ w₁, exec (run tokens) w = exec (report plan.options plan.user plan.base) w₁ ∧
      Unmoved w w₁ := by
  obtain ⟨w₁, hsettle⟩ := h.settled
  have hfirst : Unmoved w w₁ := World.besides_eq_of_among (view_eq_of_exec_settle hsettle)
  obtain ⟨hzero, target, hresolve⟩ := (hfirst.hasRecord h.record).exists_resolve
  obtain ⟨w₂, hcreate, hkept⟩ := exec_createBase_of_resolve (hfirst.faults_eq.trans h.faults) hfits
    (base_ne_nil_of_exec_settle hsettle) hzero hresolve
  have hsecond : Unmoved w w₂ := Eq.trans (World.besides_eq_of_among hkept) hfirst
  have hprepare : exec (prepare tokens) w = (.ok plan, w₂) := by
    rw [prepare, exec_bind_of_ok hsettle, exec_bind_of_ok hcreate]
    rfl
  obtain ⟨log, hproceed⟩ := exists_exec_proceed plan w₂
  refine ⟨w₂.withLog log, ?_, hsecond⟩
  rw [run_eq, exec_bind_of_ok hprepare, hproceed, h.command]

/-- **A report that nothing stands in the way of is written as a whole.** -/
theorem ComesToReport.exec_run_of_canReport (h : ComesToReport tokens plan content w)
    (hcan : CanReport plan content columns w) (hwritten : w.written = []) :
    ∃ w' cs, exec (run tokens) w = (.ok ⟨⟩, w') ∧
      (Report.text plan.options.json (plan.status w content columns)).chars? = some cs ∧
      w'.process.output = ⟨cs, []⟩ := by
  obtain ⟨w₁, hrun, hfirst⟩ := h.exec_run hcan.directoryMode
  obtain ⟨w₂, hstatus, hmoved⟩ := exec_readStatus (hfirst.faults_eq.trans h.faults)
    (hfirst.hasRecord h.record)
  rw [hfirst.terminal_eq, hfirst.environment_eq, hcan.width] at hstatus
  have hread : exec (readStatus plan.options plan.user plan.base) w₁ =
      (.ok (plan.status w content columns), w₂) := by
    rw [hstatus, ← hfirst.status_eq]
    rfl
  have hquiet : w₂.written = [] :=
    (World.written_eq_of_besides_eq (Eq.trans hmoved hfirst)).trans hwritten
  obtain ⟨w₃, cs, hreport, hcs, houtput⟩ :=
    exists_exec_report hquiet (h.canBeWritten_iff.2 ⟨hcan.numbers, hcan.row⟩) hread
  exact ⟨w₃, cs, hrun.trans hreport, hcs, houtput⟩

/-- **A report that something stands in the way of fails unexpectedly.** -/
theorem ComesToReport.exec_run_of_not_canReport (h : ComesToReport tokens plan content w)
    (hcannot : ∀ columns, ¬CanReport plan content columns w) :
    ∃ failure w', exec (run tokens) w = (.error (.failed failure), w') ∧
      ∀ f, failure ≠ .fatal f := by
  rcases hfits : Numeral.fitsInt32 plan.directoryMode
  · -- The mode is out of range, which is noticed before anything is created.
    obtain ⟨w₁, hsettle⟩ := h.settled
    obtain ⟨hzero, -⟩ := h.record.exists_resolve
    have hbytes : 0 ∉ (Path.text plan.base).toBytes := zero_not_mem_of_record hzero
    have hcreate : exec (createBase plan) w₁ = (.error (.failed .outOfRange), w₁) :=
      exec_bind_of_error (Directory.exec_create_of_not_fits hfits hbytes w₁)
    exact ⟨_, w₁, exec_run_of_exec_createBase hsettle hcreate, fun f => by simp⟩
  · obtain ⟨w₁, hrun, hfirst⟩ := h.exec_run hfits
    obtain ⟨w₂, hstatus, -⟩ := exec_readStatus (hfirst.faults_eq.trans h.faults)
      (hfirst.hasRecord h.record)
    rw [hfirst.terminal_eq, hfirst.environment_eq] at hstatus
    rw [hrun, report_eq]
    rcases hwidth : Screen.width w.machine.terminal w.process.environment with v | columns
    · rw [hwidth] at hstatus
      exact ⟨_, w₂, exec_bind_of_error hstatus, fun f => by simp⟩
    · rw [hwidth] at hstatus
      have hread : exec (readStatus plan.options plan.user plan.base) w₁ =
          (.ok (plan.status w content columns), w₂) := by
        rw [hstatus, ← hfirst.status_eq]
        rfl
      have hnot : ¬Report.CanBeWritten plan.options.json (plan.status w content columns) := by
        intro hwritten
        obtain ⟨hnumbers, hrow⟩ := h.canBeWritten_iff.1 hwritten
        exact hcannot columns ⟨hfits, hwidth, hnumbers, hrow⟩
      rw [exec_bind_of_ok hread]
      exact Report.exec_emit_of_not_canBeWritten h.user h.base hnot _ w₂

end Launch

end Launcher
