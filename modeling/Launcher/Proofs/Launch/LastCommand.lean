import Launcher.Proofs.Launch.Ends
import Launcher.Proofs.Record

/-!
# The record of the last command

A launch that finds its program records its command in the output base, in place of the command that
was recorded there before. Nothing else that a launch does touches the record, and a report shows
the command that it holds.

## Main definitions

* `Launcher.Launch.recordLocation` — the place of the record.
* `Launcher.Launch.IsRecordable` — an output base in which commands can be recorded.
* `Launcher.Launch.RecordsLast` — the record holds a command, or there is none.
* `Launcher.Launch.startedCommand?` — the command for which a run finds the program.
* `Launcher.Launch.chosenBase?` — the output base that a run chooses.

## Main results

* `Launcher.Launch.recordsLast_exec_main` — what the record holds after a run.
* `Launcher.Launch.output_of_exec_main` — what a report for a program shows.
-/

namespace Launcher.Launch

open Launcher.Action

variable {base : Text} {tokens : List Text} {last : Option (List Text)} {w w' : World}

/-! ## The place of the record -/

/-- The place of the record in an output base. -/
def recordLocation (base : Text) : Location := Location.ofPath (base.joinPath recordName).encode

/-- An output base in which commands can be recorded: it does not lead back up, and the path of the
record is not too long. -/
structure IsRecordable (base : Text) : Prop where
  dotDot_not_mem : Location.dotDot ∉ Location.names base.encode
  length_lt : (base.joinPath recordName).encode.length < pathLimit

/-- The name of the record is that of an entry of a directory. -/
theorem isEntryName_recordName : Machine.IsEntryName recordName.encode where
  slash_not_mem := by decide
  ne_nil := by decide
  ne_dot := by decide
  ne_dotDot := by decide
  length_le := by decide

/-- The record lies deeper than the output base. -/
theorem length_ofPath_lt_recordLocation (base : Text) :
    (Location.ofPath base.encode).length < (recordLocation base).length := by
  by_cases hempty : base = []
  · subst hempty
    decide
  · rw [recordLocation, Text.ofPath_encode_joinPath hempty (by decide) isEntryName_recordName,
      List.length_append]
    exact Nat.lt_succ_self _

/-- An output base that is there is named from the root. -/
theorem head?_eq_slash_of_isDirectory {m : Machine} (hsettled : isSettled slash base = true)
    (hdirectory : m.isDirectory (.text base) = true) : base.head? = some slash := by
  rcases Bool.or_eq_true_iff.1 hsettled with hempty | habsolute
  · obtain rfl := List.isEmpty_iff.1 hempty
    obtain ⟨-, target, mode, hresolve, -⟩ := Machine.isDirectory_eq_true.1 hdirectory
    exact absurd rfl (Machine.resolve_eq_ok.1 hresolve).1
  · exact beq_iff_eq.1 habsolute

/-- The path of the record names its place. -/
theorem resolve_record {m : Machine} (hsettled : isSettled slash base = true)
    (hbase : IsRecordable base) (hdirectory : m.isDirectory (.text base) = true) :
    m.resolve (base.joinPath recordName).encode = .ok ⟨recordLocation base, false, false⟩ :=
  Text.resolve_joinPath (head?_eq_slash_of_isDirectory hsettled hdirectory) (by decide)
    isEntryName_recordName hbase.length_lt hdirectory

/-- The path of the record can be given to the system. -/
theorem zero_not_mem_record {m : Machine} (hdirectory : m.isDirectory (.text base) = true) :
    0 ∉ (base.joinPath recordName).encode := by
  have hzero : 0 ∉ base.encode := (Machine.isDirectory_eq_true.1 hdirectory).1
  rw [Text.zero_mem_encode_iff] at hzero ⊢
  unfold Text.joinPath
  split
  · decide
  · split
    · exact fun h => (List.mem_append.1 h).elim hzero (by decide)
    · exact fun h => (List.mem_append.1 h).elim hzero (by decide)

/-- What is read at the path of the record is the content of its node. -/
theorem content_record {m : Machine} (hsettled : isSettled slash base = true)
    (hbase : IsRecordable base) (hdirectory : m.isDirectory (.text base) = true) :
    (m.status? (.text (base.joinPath recordName))).bind Node.content? =
      (m.tree.get? (recordLocation base)).bind Node.content? := by
  rw [Machine.status?_eq_toOption (by exact zero_not_mem_record hdirectory), Machine.status,
    Path.toBytes, resolve_record hsettled hbase hdirectory]
  rcases hnode : m.tree.get? (recordLocation base) with _ | node
  · simp [hnode]
  · simp [hnode]

/-! ## What the record holds -/

/-- The node of the record holds the command if there is one, in words that the system hands over,
and else there is no node. -/
def RecordsLast (node : Option Node) : Option (List Text) → Prop
  | none => node = none
  | some command =>
      (∃ mode, node = some (.file mode (Record.encode command))) ∧ ∀ word ∈ command, IsArgument word

/-- The command is read off the record. -/
theorem decode_content_of_recordsLast {node : Option Node} (h : RecordsLast node last) :
    (node.bind Node.content?).map Record.decode = last := by
  cases last with
  | none =>
    obtain rfl : node = none := h
    rfl
  | some command =>
    obtain ⟨⟨mode, rfl⟩, hwords⟩ := h
    exact congrArg some (Record.decode_encode hwords)

/-- No directory is in the place of the record. -/
theorem ne_directory_of_recordsLast {node : Option Node} (h : RecordsLast node last) (mode : Nat) :
    node ≠ some (.directory mode) := by
  rintro rfl
  cases last with
  | none => cases h
  | some command =>
    obtain ⟨⟨mode', hfile⟩, -⟩ := h
    cases hfile

/-- A command is recorded without faults where the path of the record names a place of its own at
which there is no directory. -/
theorem exec_recordCommand_of_resolve {target : Target} (command : List Text)
    (hfaults : w.faults = []) (hzero : 0 ∉ (base.joinPath recordName).encode)
    (hresolve : w.machine.resolve (base.joinPath recordName).encode = .ok target)
    (hnameless : target.nameless = false) (hslashed : target.slashed = false)
    (hnode : ∀ mode, w.machine.tree.get? target.location ≠ some (.directory mode)) :
    ∃ w', exec (recordCommand base command) w = (.ok ⟨⟩, w') ∧
      WholeFile.IsReplaced w.machine.tree w'.machine.tree target.location
        (.file (maskMode Machine.newFileMode w.machine.umask) (Record.encode command)) := by
  obtain ⟨w', hreplace, hreplaced⟩ := WholeFile.exec_replace (.text _)
    (Record.encode command) hfaults hzero hresolve hnameless hslashed hnode
  refine ⟨w', ?_, hreplaced⟩
  rw [recordCommand, exec_bind_of_ok hreplace]
  rfl

/-- **Recording a command without faults replaces the record.** -/
theorem exec_recordCommand {command : List Text} (hfaults : w.faults = [])
    (hsettled : isSettled slash base = true) (hbase : IsRecordable base)
    (hdirectory : w.machine.isDirectory (.text base) = true)
    (hlast : RecordsLast (w.nodeAt (recordLocation base)) last)
    (hwords : ∀ word ∈ command, IsArgument word) :
    ∃ w', exec (recordCommand base command) w = (.ok ⟨⟩, w') ∧
      RecordsLast (w'.nodeAt (recordLocation base)) (some command) := by
  obtain ⟨w', hrecord, hreplaced⟩ := exec_recordCommand_of_resolve command hfaults
    (zero_not_mem_record hdirectory) (resolve_record hsettled hbase hdirectory) rfl rfl
    (ne_directory_of_recordsLast hlast)
  exact ⟨w', hrecord, ⟨_, hreplaced.placed⟩, hwords⟩

/-! ## What a run does to the record -/

/-- The command of a run, if it answers no question and comes as far as to find the program. -/
def startedCommand? (tokens : List Text) (w : World) : Option (List Text) :=
  match Query.ofTokens tokens with
  | none => resolvedCommand? tokens w
  | some _ => none

/-- A run that starts a command answers no question. -/
theorem startedCommand?_eq_some {command : List Text} :
    startedCommand? tokens w = some command ↔
      Query.ofTokens tokens = none ∧ resolvedCommand? tokens w = some command := by
  unfold startedCommand?
  rcases Query.ofTokens tokens with _ | query <;> simp

/-- The output base of a run, if it answers no question and comes as far as to choose one. -/
def chosenBase? (tokens : List Text) (w : World) : Option Text :=
  match Query.ofTokens tokens, exec (settle tokens) w with
  | none, (.ok plan, _) => some plan.base
  | _, _ => none

/-- The run is told an absolute working directory and words that the system hands over; and if it
comes as far as to choose an output base, it chooses this one. -/
structure Chooses (base : Text) (tokens : List Text) (w : World) : Prop where
  rooted : ∀ directory ∈ w.machine.workingDirectory, directory.head? = some slash
  words : ∀ token ∈ tokens, IsArgument token
  chosen : ∀ chosen ∈ chosenBase? tokens w, chosen = base

/-- What such a run settles, it settles for this output base. -/
theorem Chooses.base_eq {plan : Plan} (h : Chooses base tokens w)
    (hquery : Query.ofTokens tokens = none) (hsettle : exec (settle tokens) w = (.ok plan, w')) :
    plan.base = base := by
  refine h.chosen plan.base ?_
  rw [chosenBase?, hquery, hsettle]
  rfl

/-- The output base of such a run lies above the record. -/
theorem Chooses.deep (hbase : IsRecordable base) (h : Chooses base tokens w)
    (hquery : Query.ofTokens tokens = none) :
    ∀ plan w', exec (settle tokens) w = (.ok plan, w') →
      Location.dotDot ∉ Location.names plan.base.encode ∧
        (Location.ofPath plan.base.encode).length < (recordLocation base).length := by
  intro plan w' hsettle
  rw [h.base_eq hquery hsettle]
  exact ⟨hbase.dotDot_not_mem, length_ofPath_lt_recordLocation base⟩

/-- What such a run has once it is prepared: the command that its tokens say, and the output base,
with the record as before. -/
theorem Chooses.of_exec_prepare {plan : Plan} (hbase : IsRecordable base)
    (h : Chooses base tokens w) (hquery : Query.ofTokens tokens = none)
    (hprepare : exec (prepare tokens) w = (.ok plan, w')) :
    plan.base = base ∧
      CommandLine.read tokens = .ok { options := plan.options, command := plan.command } ∧
      isSettled slash base = true ∧ w'.machine.isDirectory (.text base) = true ∧
      w'.nodeAt (recordLocation base) = w.nodeAt (recordLocation base) := by
  obtain ⟨⟨w₁, hsettle⟩, hdirectory⟩ := Launch.of_exec_prepare hprepare
  obtain ⟨hread, hsettled⟩ := of_exec_settle h.rooted hsettle
  have hchosen := h.base_eq hquery hsettle
  rw [hchosen] at hdirectory hsettled
  exact ⟨hchosen, hread, hsettled, hdirectory,
    nodeAt_of_exec_prepare h.rooted (h.deep hbase hquery) hprepare⟩

/-- A run that starts nothing keeps the record. -/
theorem nodeAt_exec_main (hbase : IsRecordable base) (hchooses : Chooses base tokens w)
    (h : startedCommand? tokens w = none) :
    (exec (main tokens) w).2.nodeAt (recordLocation base) = w.nodeAt (recordLocation base) := by
  unfold startedCommand? at h
  rcases hquery : Query.ofTokens tokens with _ | query
  · rw [hquery] at h
    exact (World.nodeAt_eq_of_bare_eq (bare_exec_main_of_work hquery w) _).trans
      (nodeAt_of_resolvedCommand?_eq_none hchooses.rooted (hchooses.deep hbase hquery) h)
  · exact World.nodeAt_eq_of_bare_eq (bare_exec_main_of_query hquery w) _

/-- A run without faults that starts a command records it. -/
theorem recordsLast_of_startedCommand? {command : List Text} (hfaults : w.faults = [])
    (hbase : IsRecordable base) (hchooses : Chooses base tokens w)
    (hlast : RecordsLast (w.nodeAt (recordLocation base)) last)
    (h : startedCommand? tokens w = some command) :
    RecordsLast ((exec (main tokens) w).2.nodeAt (recordLocation base)) (some command) := by
  obtain ⟨hquery, hresolved⟩ := startedCommand?_eq_some.1 h
  obtain ⟨plan, path, w₁, log, hprepare, rfl, hrun⟩ :=
    exec_run_of_resolvedCommand?_eq_some hresolved
  obtain ⟨rfl, hread, hsettled, hdirectory, hnode⟩ :=
    hchooses.of_exec_prepare hbase hquery hprepare
  have hwords : ∀ word ∈ plan.command, IsArgument word := fun word hword =>
    hchooses.words word (CommandLine.mem_tokens_of_mem_command hread hword)
  obtain ⟨w₂, hrecord, hrecorded⟩ := exec_recordCommand (w := w₁.withLog log)
    (((keeps_prepare tokens).faults.view_eq_of_exec hprepare).trans hfaults) hsettled hbase
    hdirectory (hnode ▸ hlast) hwords
  have hkeeps := (keeps_takeOver plan.options path plan.command).nodeAt
    (recordLocation plan.base)
  rw [World.nodeAt_eq_of_bare_eq (bare_exec_main_of_work hquery w), hrun,
    exec_bind_of_ok hrecord, hkeeps.view_eq w₂]
  exact hrecorded

/-- **What the record holds after a run without faults:** the command that the run started, or else
what it held before. -/
theorem recordsLast_exec_main (hfaults : w.faults = []) (hbase : IsRecordable base)
    (hchooses : Chooses base tokens w)
    (hlast : RecordsLast (w.nodeAt (recordLocation base)) last) :
    RecordsLast ((exec (main tokens) w).2.nodeAt (recordLocation base))
      ((startedCommand? tokens w).or last) := by
  rcases hstarted : startedCommand? tokens w with _ | command
  · rw [nodeAt_exec_main hbase hchooses hstarted]
    exact hlast
  · exact recordsLast_of_startedCommand? hfaults hbase hchooses hlast hstarted

/-! ## What a report shows -/

/-- The content of the record is read where the output base is there. -/
theorem exec_read?_record (hfaults : w.faults = []) (hbase : IsRecordable base)
    (hsettled : isSettled slash base = true)
    (hdirectory : w.machine.isDirectory (.text base) = true) :
    ∃ w', exec (WholeFile.read? (.text (base.joinPath recordName))) w =
      (.ok ((w.nodeAt (recordLocation base)).bind Node.content?), w') := by
  have hread := WholeFile.exec_read? (.text (base.joinPath recordName)) hfaults
    (zero_not_mem_record hdirectory)
  rw [content_record hsettled hbase hdirectory] at hread
  exact hread

/-- **A report for a program shows the command that the record holds.** -/
theorem output_of_exec_main {options : StartupOptions} (hfaults : w.faults = [])
    (hbase : IsRecordable base) (hchooses : Chooses base tokens w) (hwritten : w.written = [])
    (hlast : RecordsLast (w.nodeAt (recordLocation base)) last)
    (hquery : Query.ofTokens tokens = none)
    (hread : CommandLine.read tokens = .ok { options, command := [] })
    (hjson : options.json = true)
    (h : exec (main tokens) w = (.ok ExitCode.success.number, w')) :
    ∃ (status : Status) (line : List Char), status.lastCommand = last ∧
      (Report.json status).line = line.map .char ∧
      w'.process.output = ⟨line ++ ['\n'], []⟩ := by
  obtain ⟨plan, status, w₁, w₂, w₃, hprepare, hview₂, hstatus, -, hwritten₃, hemit⟩ :=
    exists_status_of_exec_run hread (exec_run_of_exec_main_success hquery h)
  obtain ⟨rfl, -, hsettled, hdirectory, hnode⟩ := hchooses.of_exec_prepare hbase hquery hprepare
  obtain ⟨record, w₄, w₅, hview₄, hrecord, hlastCommand⟩ := lastCommand_of_exec_readStatus hstatus
  -- The record is read in a world that differs from the prepared one in its log at most.
  have hbare₄ : w₄.bare = w₁.bare := congrArg Prod.fst (hview₄.trans hview₂)
  have hfaults₄ : w₄.faults = [] := (World.faults_eq_of_bare_eq hbare₄).trans
    (((keeps_prepare tokens).faults.view_eq_of_exec hprepare).trans hfaults)
  have hdirectory₄ : w₄.bare.isDirectory (.text plan.base) = true := by
    rw [hbare₄]
    exact hdirectory
  obtain ⟨w₅', hread₄⟩ := exec_read?_record hfaults₄ hbase hsettled hdirectory₄
  rw [World.nodeAt_eq_of_bare_eq hbare₄, hnode, hrecord] at hread₄
  cases hread₄
  rw [hjson] at hemit
  obtain ⟨line, hline, houtput⟩ := Report.output_of_exec_emit hemit
  rw [hwritten₃, hwritten, List.nil_append] at houtput
  exact ⟨status, line, hlastCommand.trans (decode_content_of_recordsLast hlast), hline, houtput⟩

end Launcher.Launch
