import Launcher.Proofs.Launch.Breaks
import Launcher.Proofs.Launch.Faultless
import Launcher.Proofs.Launch.Frame
import Launcher.Proofs.Launch.Steady
import Launcher.Proofs.Run.Returns

/-!
# Launches that lose their record

A record that cannot be written does not stop a launch. Whatever becomes of the calls that keep the
record, the process goes on to the execution of its program, and the program is still there, since
the record was all that could be lost. So a launch that would have become a program becomes it, in
the same environment and with the same output.

## Main definitions

* `Launcher.World.surroundings` — what a process passes on to the program that it becomes.
* `Launcher.Launch.EndsAs` — the process ends in the same image, environment and output.

## Main results

* `Launcher.Launch.returns_recordCommand` — a launch goes on behind its record.
* `Launcher.Machine.execute_of_refiles` — a program is still there when another file is lost.
* `Launcher.Launch.endsAs_exec_run` — a launch does not depend on its record.
-/

namespace Launcher

open Launcher.Action

/-! ## What is left of the machine -/

namespace Machine

variable {m m' : Machine} {path : Path} {base : Text} {location : Location}

/-- Paths that name the same place go on doing so. -/
theorem SamePlace.of_extends {path path' : Bytes} (h : m.SamePlace path path')
    (hextends : m.Extends m') : m'.SamePlace path path' := by
  obtain ⟨target, target', hpath, hpath', hsame⟩ := h
  exact ⟨target, target',
    resolve_of_keepsDirectories hextends.workingDirectory hextends.directories hpath,
    resolve_of_keepsDirectories hextends.workingDirectory hextends.directories hpath', hsame⟩

/-- In an output base that is there the path of the record named before what it names later. -/
theorem names_record_of_extends (hdirectory : m.isDirectory (.text base) = true)
    (hextends : m.Extends m')
    (h : m'.Names (.text (base.joinPath Launch.recordName)) location) :
    m.Names (.text (base.joinPath Launch.recordName)) location := by
  obtain ⟨target, hresolve, htarget⟩ := h
  obtain ⟨here, hrecord⟩ :=
    Launch.exists_resolve_record hdirectory (resolve_eq_ok.1 hresolve).2.1
  have hlater := resolve_of_keepsDirectories hextends.workingDirectory hextends.directories hrecord
  obtain rfl := Except.ok.inj (hresolve.symm.trans hlater)
  exact ⟨_, hrecord, htarget⟩

/-- **A program is still there** when a file has been replaced or lost that is not the program. -/
theorem execute_of_refiles {record : Path} (h : Refiles record m m')
    (hprogram : m.isProgram path = true)
    (hother : ∀ location, m.Names path location → ¬m'.Names record location) :
    m'.execute path.toBytes = .ok ⟨⟩ := by
  obtain ⟨-, node, hstatus, hexecutable, hfile⟩ := isProgram_eq_true.1 hprogram
  obtain ⟨target, hresolve, hnode, hslashed⟩ := status_eq_ok.1 hstatus
  have hkept : m'.tree.get? target.location = some node := by
    rcases h.node target.location with hsame | ⟨-, -, hnames⟩
    · exact hsame.trans hnode
    · exact absurd hnames (hother _ ⟨target, hresolve, rfl⟩)
  exact execute_eq_ok.2 ⟨node, status_eq_ok.2 ⟨target,
    resolve_of_keepsDirectories h.workingDirectory h.directories hresolve, hkept, hslashed⟩,
    hexecutable, hfile⟩

end Machine

/-! ## Going on behind the record -/

/-- What a process passes on to the program that it becomes: its environment, and the streams once
they have been sent out. -/
def World.surroundings (w : World) : Environment × Stream × Stream :=
  (w.process.environment, w.process.output.flush, w.process.errors.flush)

/-- Replacing a file whose path has no zero byte comes to an outcome, whatever the calls are
answered. -/
theorem WholeFile.returns_replace {path : Path} (hzero : 0 ∉ path.toBytes) (content : Bytes) :
    Returns (replace path content) := by
  intro w
  obtain ⟨_, outcome, _, w', hexec, -⟩ := exists_replacedBy_replace content hzero w
  exact ⟨outcome, w', hexec⟩

namespace Launch

variable {tokens : List Text} {plan : Plan} {image : Image} {w v : World}

/-- **A launch goes on behind its record,** whatever becomes of that. -/
theorem returns_recordCommand {base : Text} (hzero : 0 ∉ (base.joinPath recordName).encode)
    (command : List Text) : Returns (recordCommand base command) := by
  refine Returns.bind (WholeFile.returns_replace (by exact hzero) _) fun written => ?_
  rcases written with e | ⟨⟩
  · exact returns_log _ _
  · exact Returns.pure _

/-- Recording a command leaves the surroundings of the process as they were, and touches nothing but
the record. -/
theorem exists_exec_recordCommand {base : Text}
    (hdirectory : w.machine.isDirectory (.text base) = true) (command : List Text) :
    ∃ u calls, exec (recordCommand base command) w = (.ok ⟨⟩, u) ∧ w.Calls calls u ∧
      u.faults = w.faults ∧ u.surroundings = w.surroundings ∧
      w.machine.Refiles (.text (base.joinPath recordName)) u.machine := by
  obtain ⟨_, u, hrecord⟩ := returns_recordCommand (zero_not_mem_record hdirectory) command w
  obtain ⟨calls, -, hsteady⟩ := steady_recordCommand base command w
  have hmade := hsteady.made
  rw [hrecord] at hmade
  have hkeeps : Keeps (World.besides [.tree, .log, .trace]) [] (recordCommand base command) :=
    keeps_recordCommand _ _
  have hkept := hkeeps.view_eq_of_exec hrecord
  have hsurroundings : u.surroundings = w.surroundings := by
    have h := congrArg
      (fun v : World => (v.process.environment, v.process.output, v.process.errors)) hkept
    exact h
  have hrefiles := (moves_recordCommand base command).of_exec hrecord
  exact ⟨u, calls, hrecord, hmade, World.faults_eq_of_besides_eq hkept, hsurroundings,
    ⟨hrefiles.directories, hrefiles.workingDirectory, hrefiles.umask⟩, hrefiles.node⟩

/-- The process ends as one that has ended in the image: as the same image, with the same
environment and the same output. -/
def EndsAs {α : Type} (image : Image) (v : World) (outcome : Except Stop α × World) : Prop :=
  outcome.1 = .error (.replaced image) ∧
    outcome.2.process.environment = v.process.environment ∧
    outcome.2.process.output = v.process.output

/-- A program is executed as it would be without faults, if the machine can execute it and the call
cannot be struck. -/
theorem exec_executeOrEnd_of_strikesOnly {program message : Text} {arguments : List Text}
    (hgiven : CanBeGiven program arguments)
    (hstrikes : w.StrikesOnly recordKinds (exec (executeOrEnd program arguments message) w).2)
    (hexecute : w.machine.execute program.encode = .ok ⟨⟩) :
    exec (executeOrEnd program arguments message) w =
      (.error (.replaced (w.image program arguments)),
        w.afterCall (.execute program arguments) .ok) := by
  have hsteady : Steady [.execute] (executeOrEnd program arguments message) :=
    Steady.bind (steady_execute _ _) fun _ => Steady.fail _
  have hcalm := hsteady.exec_calm (by decide) hstrikes
  have hquiet : exec (executeOrEnd program arguments message) w.calm =
      (.error (.replaced (w.calm.image program arguments)),
        w.calm.afterCall (.execute program arguments) .ok) :=
    exec_executeOrEnd_of_execute rfl hgiven hexecute
  rcases exec_executeOrEnd_cases hgiven message w with ⟨e, hexec⟩ | hexec
  · rw [hquiet, hexec] at hcalm
    cases hcalm
  · exact hexec

/-- **Once a launch has found its program, it does not depend on its record,** if the program is not
the record. -/
theorem endsAs_exec_of_isProgram {path : Text} {log log' : List LogRecord}
    (hdirectory : w.machine.isDirectory (.text plan.base) = true)
    (hprogram : w.machine.isProgram (.text path) = true)
    (hstrikes : w.StrikesOnly recordKinds (exec (do
      recordCommand plan.base plan.command
      takeOver plan.options path plan.command) (w.withLog log)).2)
    (hcalm : exec (do
      recordCommand plan.base plan.command
      takeOver plan.options path plan.command) (w.calm.withLog log') =
        (.error (.replaced image), v))
    (helsewhere : ¬v.machine.SamePlace image.path.encode (plan.base.joinPath recordName).encode) :
    EndsAs image v (exec (do
      recordCommand plan.base plan.command
      takeOver plan.options path plan.command) (w.withLog log)) := by
  -- The record is kept or lost, and the process goes on in the same surroundings.
  obtain ⟨u, calls, hrecord, hmade, hfaults, hkept, hrefiles⟩ :=
    exists_exec_recordCommand (w := w.withLog log) hdirectory plan.command
  obtain ⟨u', -, hrecord', -, -, hkept', hrefiles'⟩ :=
    exists_exec_recordCommand (w := w.calm.withLog log') hdirectory plan.command
  have hsame : u.surroundings = u'.surroundings := hkept.trans hkept'.symm
  rw [exec_bind_of_ok hrecord] at hstrikes ⊢
  rw [exec_bind_of_ok hrecord'] at hcalm
  -- Without faults the program is executed, so it can be.
  obtain ⟨log₁, htakeOver⟩ := exec_takeOver plan.options path plan.command u
  obtain ⟨log₂, htakeOver'⟩ := exec_takeOver plan.options path plan.command u'
  rw [htakeOver] at hstrikes ⊢
  rw [htakeOver'] at hcalm
  obtain ⟨hgiven, rfl, rfl⟩ := of_exec_executeOrEnd_replaced hcalm
  have hextends : w.machine.Extends ((u'.readied (programEnvironment plan.options
      u'.process.environment) log₂).afterCall (.execute path plan.command) .ok).machine :=
    ⟨hrefiles'.directories, hrefiles'.workingDirectory, hrefiles'.umask⟩
  have hexecute : u.machine.execute (Path.text path).toBytes = .ok ⟨⟩ := by
    refine Machine.execute_of_refiles hrefiles hprogram fun location hpath hnames => ?_
    obtain ⟨target, hresolve, rfl⟩ := hpath
    obtain ⟨target', hresolve', hplace⟩ :=
      Machine.names_record_of_extends hdirectory hrefiles.toExtends hnames
    have hplaces : w.machine.SamePlace path.encode (plan.base.joinPath recordName).encode :=
      ⟨target, target', hresolve, hresolve', hplace.symm⟩
    exact helsewhere (hplaces.of_extends hextends)
  -- The call that executes it is not struck.
  have hstart : (w.withLog log).StrikesOnly recordKinds _ :=
    hstrikes.later (World.calls_nil rfl rfl) rfl
  have hready : (u.readied (programEnvironment plan.options u.process.environment) log₁).StrikesOnly
      recordKinds _ := (hstart.later hmade hfaults).later (World.calls_nil rfl rfl) rfl
  rw [exec_executeOrEnd_of_strikesOnly hgiven hready hexecute]
  obtain ⟨henvironment, hstreams⟩ := Prod.mk.inj hsame
  obtain ⟨houtput, herrors⟩ := Prod.mk.inj hstreams
  refine ⟨?_, congrArg (programEnvironment plan.options) henvironment, houtput⟩
  simp only [World.image, World.readied, henvironment, houtput, herrors]

/-- **Once a launch is prepared, it does not depend on its record,** if its program is not the
record. -/
theorem endsAs_exec_proceed (hdirectory : w.machine.isDirectory (.text plan.base) = true)
    (hstrikes : w.StrikesOnly recordKinds (exec (proceed plan) w).2)
    (hcalm : exec (proceed plan) w.calm = (.error (.replaced image), v))
    (helsewhere : ¬v.machine.SamePlace image.path.encode (plan.base.joinPath recordName).encode) :
    EndsAs image v (exec (proceed plan) w) := by
  obtain ⟨log, hproceed⟩ := exists_exec_proceed plan w
  obtain ⟨log', hproceed'⟩ := exists_exec_proceed plan w.calm
  rw [hproceed] at hstrikes ⊢
  rw [hproceed'] at hcalm
  rcases hcommand : plan.command with _ | ⟨program, arguments⟩
  · -- A report does not replace the process.
    rw [hcommand] at hcalm
    rcases isSaid_or_readsForEver_of_exec_report hcalm with hsaid | ⟨hstop, -⟩
    · cases hsaid
    · cases hstop
  · have hsame : Program.path? program w.calm = Program.path? program w := rfl
    simp only [hcommand, hsame] at hstrikes hcalm ⊢
    rcases hpath : Program.path? program w with _ | path
    · rw [hpath] at hcalm
      cases hcalm
    · simp only [hpath] at hstrikes hcalm ⊢
      rw [← hcommand] at hstrikes hcalm ⊢
      exact endsAs_exec_of_isProgram hdirectory (Program.isProgram_of_path? hpath) hstrikes hcalm
        helsewhere

/-- **A launch does not depend on its record,** if its program is not the record: where it would
have become a program without the faults that strike the calls for the record, it becomes the same
program. -/
theorem endsAs_exec_run (hstrikes : w.StrikesOnly recordKinds (exec (run tokens) w).2)
    (hcalm : exec (run tokens) w.calm = (.error (.replaced image), v))
    (helsewhere : ∀ plan w₁, exec (settle tokens) w.calm = (.ok plan, w₁) →
      ¬v.machine.SamePlace image.path.encode (plan.base.joinPath recordName).encode) :
    EndsAs image v (exec (run tokens) w) := by
  rw [run_eq] at hstrikes hcalm ⊢
  rcases (steady_prepare tokens).exec_bind_cases steady_proceed (by decide) hstrikes with
    ⟨stop, w₁, hstop, hstop'⟩ | ⟨plan, w₁, hprepare, hprepare', honly⟩
  · -- The launch does not come as far as to its record.
    rw [hstop'] at hcalm
    cases hcalm
    rw [hstop]
    exact ⟨rfl, rfl, rfl⟩
  · rw [exec_bind_of_ok hprepare]
    rw [exec_bind_of_ok hprepare'] at hcalm
    obtain ⟨⟨w₂, hsettle⟩, hdirectory⟩ := of_exec_prepare hprepare'
    exact endsAs_exec_proceed hdirectory honly hcalm (helsewhere plan w₂ hsettle)

/-- **A run does not depend on its record,** if the program that it becomes is not the record. -/
theorem endsAs_exec_main (hstrikes : w.StrikesOnly recordKinds (exec (main tokens) w).2)
    (hcalm : exec (main tokens) w.calm = (.error (.replaced image), v))
    (helsewhere : ∀ base ∈ chosenBase? tokens w.calm,
      ¬v.machine.SamePlace image.path.encode (base.joinPath recordName).encode) :
    EndsAs image v (exec (main tokens) w) := by
  rcases hquery : Query.ofTokens tokens with _ | query
  · obtain ⟨later, hlater⟩ := begins_run_main hquery w
    rw [main_of_no_query hquery] at hcalm
    obtain ⟨hresult, henvironment, houtput⟩ :=
      endsAs_exec_run (hstrikes.earlier hlater) (exec_of_exec_exitCode_error hcalm)
        fun plan w₁ hsettle => helsewhere plan.base (chosenBase?_of_exec_settle hquery hsettle)
    rw [main_of_no_query hquery, exec_exitCode_of_replaced (Prod.ext hresult rfl)]
    exact ⟨rfl, henvironment, houtput⟩
  · rw [main, hquery] at hstrikes hcalm ⊢
    have hsteady : Steady [] (answer query) := steady_answer query
    have hsame := hsteady.exec_calm (by simp) hstrikes
    rw [hcalm] at hsame
    obtain ⟨hresult, rfl⟩ := Prod.mk.inj hsame
    exact ⟨hresult.symm, rfl, rfl⟩

end Launch

end Launcher
