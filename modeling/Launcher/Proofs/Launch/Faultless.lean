import Launcher.Proofs.Launch.Alike
import Launcher.Proofs.Launch.LastCommand

/-!
# Launches without faults

What each stage of a launch comes to if no fault is planned and nothing stands in its way. A plan is
made as soon as its parts can be had; the record is replaced by the command; and a program that has
been found is executed, since the record is not the program.

## Main definitions

* `Launcher.Machine.SamePlace` — two paths that name the same place.
* `Launcher.Launch.Undisturbed` — the run has only logged something so far.
* `Launcher.Launch.CanPlan` and `Launcher.Launch.CanTakeOver` — nothing stands in the way of a plan,
  or of the program.
* `Launcher.Launch.TakenOver` — the world that the program finds.

## Main results

* `Launcher.Launch.exec_makePlan` — the plan.
* `Launcher.Launch.exec_proceed_of_canTakeOver` — the record and the program.
-/

namespace Launcher

open Launcher.Action

namespace Machine

/-- The paths name the same place. -/
def SamePlace (m : Machine) (path path' : Bytes) : Prop :=
  ∃ target target', m.resolve path = .ok target ∧ m.resolve path' = .ok target' ∧
    target.location = target'.location

section Replaced

variable {m m' : Machine} {location : Location} {node : Node}
  (hworking : m'.workingDirectory = m.workingDirectory)
  (hreplaced : WholeFile.IsReplaced m.tree m'.tree location node)
  (hnode : ∀ mode, m.tree.get? location ≠ some (.directory mode))
include hworking hreplaced hnode

/-- The path of a file that has been replaced names the new file. -/
theorem status?_of_isReplaced (path : Path) (hzero : 0 ∉ path.toBytes)
    (hresolve : m.resolve path.toBytes = .ok ⟨location, false, false⟩) :
    m'.status? path = some node := by
  have hresolve' :=
    resolve_of_keepsDirectories hworking (hreplaced.keepsDirectories hnode) hresolve
  have hstatus := status_eq_ok.2 ⟨_, hresolve', hreplaced.placed, by simp⟩
  rw [status?_eq_toOption hzero, hstatus]
  rfl

/-- A program is still there when a file has been replaced that is not the program. -/
theorem execute_of_isReplaced (path : Path)
    (hother : ∀ target, m.resolve path.toBytes = .ok target → target.location ≠ location)
    (h : m.isProgram path = true) : m'.execute path.toBytes = .ok ⟨⟩ := by
  obtain ⟨-, program, hstatus, hexecutable, hfile⟩ := isProgram_eq_true.1 h
  obtain ⟨target, hresolve, hprogram, hslashed⟩ := status_eq_ok.1 hstatus
  refine execute_eq_ok.2 ⟨program, status_eq_ok.2 ⟨target, ?_, ?_, hslashed⟩, hexecutable, hfile⟩
  · exact resolve_of_keepsDirectories hworking (hreplaced.keepsDirectories hnode) hresolve
  · exact (hreplaced.others target.location (hother target hresolve)).trans hprogram

end Replaced

end Machine

namespace Launch

variable {settings : Settings} {tokens command : List Text} {base : Text} {plan : Plan}
  {start w w' : World}

/-! ## The plan -/

/-- The run has only set a threshold and logged something since it began. -/
def Undisturbed (start w : World) : Prop :=
  w.besides [.threshold, .log] = start.besides [.threshold, .log]

/-- A stream from which nothing comes has nothing in it. -/
theorem eq_empty_of_flush_eq {stream : Stream} (h : stream.flush = .empty) : stream = .empty := by
  obtain ⟨flushed, pending⟩ := stream
  obtain ⟨hboth, -⟩ := Stream.mk.inj h
  obtain ⟨rfl, rfl⟩ := List.append_eq_nil_iff.1 hboth
  rfl

/-- A run that has not done anything yet comes to the same end as from its beginning. -/
theorem Undisturbed.alike (h : Undisturbed start w) (hfaults : start.faults = [])
    (houtput : start.process.output = .empty) : start.Alike Eq w where
  bare_eq := World.bare_eq_of_besides_eq h
  counts := Or.inl hfaults
  environment := (World.environment_eq_of_besides_eq h).symm
  trace_eq := World.trace_eq_of_besides_eq h
  output_eq := by
    have hflush : w.process.output.flush = start.process.output.flush :=
      congrArg (fun v : World => v.process.output) h
    rw [houtput] at hflush ⊢
    exact eq_empty_of_flush_eq hflush

/-- Being the same is a likeness of environments. -/
theorem isLikeness_eq : IsLikeness Eq where
  lookup_eq := by
    rintro env env' rfl name -
    rfl
  set_port := by
    rintro env env' value rfl
    rfl

section Stage

variable {α : Type} {action : Action α} {codes : List ExitCode} {a : α}

/-- What an action that only logs comes to at the beginning, it comes to later. -/
theorem Undisturbed.exec_eq_ok (h : Undisturbed start w) (hfaults : start.faults = [])
    (houtput : start.process.output = .empty)
    (hkeeps : Keeps (World.besides [.threshold, .log]) codes action)
    (hagree : Agree Eq action action) (hvalue : (exec action start).1 = .ok a) :
    ∃ w', exec action w = (.ok a, w') ∧ Undisturbed start w' := by
  obtain ⟨w', hexec, -⟩ := hagree.exec_eq_ok (h.alike hfaults houtput)
    (Prod.ext hvalue rfl : exec action start = (.ok a, (exec action start).2))
  exact ⟨w', hexec, (hkeeps.view_eq_of_exec hexec).trans h⟩

end Stage

/-- What it takes to make a plan at the beginning of a run: a command line, a user with a name, and
an output base with a path from the root. -/
structure CanPlan (settings : Settings) (tokens : List Text) (plan : Plan) (start : World) :
    Prop where
  line : CommandLine.read tokens = .ok { options := plan.options, command := plan.command }
  user : (exec User.name start).1 = .ok plan.user
  base : ∃ chosen,
    (exec (chosenOutputBase plan.options settings plan.user) start).1 = .ok chosen ∧
      (exec (Directory.absoluteText chosen) start).1 = .ok plan.base
  directoryMode : plan.directoryMode = settings.directoryMode

/-- **A plan is made** if its parts can be had. -/
theorem exec_makePlan (hplan : CanPlan settings tokens plan start) (hfaults : start.faults = [])
    (houtput : start.process.output = .empty) (h : Undisturbed start w) :
    ∃ w', exec (makePlan settings tokens) w = (.ok plan, w') ∧ Undisturbed start w' := by
  obtain ⟨chosen, hchosen, hbase⟩ := hplan.base
  have hkeeps : Keeps (World.besides []) [] (chosenOutputBase plan.options settings plan.user) :=
    keeps_chosenOutputBase _ _ _
  obtain ⟨w₁, hname, h₁⟩ := h.exec_eq_ok hfaults houtput User.keeps_name.widen
    (User.agree_name isLikeness_eq) hplan.user
  obtain ⟨w₂, hchoose, h₂⟩ := h₁.exec_eq_ok hfaults houtput hkeeps.widen
    (agree_chosenOutputBase isLikeness_eq rfl _ _) hchosen
  obtain ⟨w₃, habsolute, h₃⟩ := h₂.exec_eq_ok hfaults houtput
    (Directory.keeps_absoluteText chosen).widen (Directory.agree_absoluteText chosen) hbase
  have hread : exec (Action.ofExcept (CommandLine.read tokens)) w =
      (.ok { options := plan.options, command := plan.command }, w) := by
    rw [hplan.line]
    rfl
  refine ⟨w₃, ?_, h₃⟩
  unfold makePlan
  rw [exec_bind_of_ok hread, exec_bind_of_ok hname, exec_bind_of_ok hchoose,
    exec_bind_of_ok habsolute, ← hplan.directoryMode]
  rfl

/-- A plan that can be made is settled, if the command line is not handed over. -/
theorem exists_exec_settle (hplan : CanPlan settings tokens plan start)
    (hread : Settings.read start.process.environment = .ok settings)
    (hrecipient : settings.recipient? = none) (hfaults : start.faults = [])
    (houtput : start.process.output = .empty) :
    ∃ w', exec (settle tokens) start = (.ok plan, w') := by
  have hquiet : Undisturbed start (start.withThreshold settings.logLevel) := rfl
  obtain ⟨w', hmake, -⟩ := exec_makePlan hplan hfaults houtput hquiet
  refine ⟨w', ?_⟩
  rw [exec_settle hread, handOver_eq_pure hrecipient, pure_bind]
  exact hmake

/-! ## The record -/

/-- The path of the record names a place of its own in an output base that is there. -/
theorem exists_resolve_record {m : Machine} (hdirectory : m.isDirectory (.text base) = true)
    (hlength : (base.joinPath recordName).encode.length < pathLimit) :
    ∃ location, m.resolve (base.joinPath recordName).encode = .ok ⟨location, false, false⟩ := by
  obtain ⟨-, target, mode, hresolve, hmode⟩ := Machine.isDirectory_eq_true.1 hdirectory
  exact ⟨_, Text.resolve_joinPath_of_resolve (by decide) isEntryName_recordName hlength hresolve
    hmode⟩

/-- No directory is at the place that the path of the record names, unless it names a directory. -/
theorem ne_directory_of_resolve_record {m : Machine} {target : Target}
    (hdirectory : m.isDirectory (.text base) = true)
    (hresolve : m.resolve (base.joinPath recordName).encode = .ok target)
    (h : m.isDirectory (.text (base.joinPath recordName)) = false) (mode : Nat) :
    m.tree.get? target.location ≠ some (.directory mode) := by
  intro hmode
  have hrecord : m.isDirectory (.text (base.joinPath recordName)) = true :=
    Machine.isDirectory_eq_true.2 ⟨zero_not_mem_record hdirectory, target, mode, hresolve, hmode⟩
  rw [h] at hrecord
  cases hrecord

/-! ## The program -/

/-- Without faults a program is executed that the machine can execute. -/
theorem exec_executeOrEnd_of_execute {program message : Text} {arguments : List Text}
    (hfaults : w.faults = []) (hgiven : CanBeGiven program arguments)
    (h : w.machine.execute program.encode = .ok ⟨⟩) :
    exec (executeOrEnd program arguments message) w =
      (.error (.replaced (w.image program arguments)),
        w.afterCall (.execute program arguments) .ok) := by
  have hcounted : (w.machine.counted (.execute program arguments)).execute program.encode =
      .ok ⟨⟩ := h
  have hrun := exec_execute hgiven w
  rw [Machine.respond_of_faults_eq_nil (by exact hfaults), hcounted] at hrun
  exact exec_bind_of_error hrun

/-- Without faults a program takes over that the machine can execute. -/
theorem exec_takeOver_of_execute {path : Text} (options : StartupOptions) (hfaults : w.faults = [])
    (hgiven : CanBeGiven path command) (h : w.machine.execute path.encode = .ok ⟨⟩) :
    ∃ log, let ready := w.readied (programEnvironment options w.process.environment) log
      exec (takeOver options path command) w =
        (.error (.replaced (ready.image path command)),
          ready.afterCall (.execute path command) .ok) := by
  obtain ⟨log, htakeOver⟩ := exec_takeOver options path command w
  exact ⟨log, htakeOver.trans (exec_executeOrEnd_of_execute hfaults hgiven h)⟩

/-! ## Proceeding -/

/-- In the world a launch with this plan can be taken over by the program at the path: the record
has a path that is not too long and no directory in its place, and the program of the command is
found at the path, which is not that of the record. -/
structure CanTakeOver (plan : Plan) (path : Text) (w : World) : Prop where
  length_lt : (plan.base.joinPath recordName).encode.length < pathLimit
  record : w.machine.isDirectory (.text (plan.base.joinPath recordName)) = false
  program : ∃ name arguments, plan.command = name :: arguments ∧ Program.path? name w = some path
  elsewhere : ¬w.machine.SamePlace path.encode (plan.base.joinPath recordName).encode

/-- Whether a program can take over is the same in worlds that are alike. -/
theorem CanTakeOver.of_alike {path : Text} (h : CanTakeOver plan path w) (halike : w.Alike Eq w') :
    CanTakeOver plan path w' where
  length_lt := h.length_lt
  record := (halike.isDirectory_eq _).trans h.record
  program := by
    obtain ⟨name, arguments, hcommand, hpath⟩ := h.program
    have hprogram : (fun candidate : Text => w'.machine.isProgram (.text candidate)) =
        fun candidate => w.machine.isProgram (.text candidate) :=
      funext fun candidate => halike.isProgram_eq (.text candidate)
    refine ⟨name, arguments, hcommand, ?_⟩
    rw [Program.path?, ← halike.environment, hprogram]
    exact hpath
  elsewhere := by
    rw [halike.machine_eq]
    exact h.elsewhere

/-- What a launch leaves that a program has taken over: the environment with the port, what was in
the buffers of the streams sent out, a trace that ends with the program, and the command in the
record. -/
structure TakenOver (plan : Plan) (path : Text) (w w' : World) : Prop where
  environment : w'.process.environment = programEnvironment plan.options w.process.environment
  output : w'.process.output = w.process.output.flush
  errors : w'.process.errors = w.process.errors.flush
  trace : ∃ calls, w'.process.trace = calls ++ [(.execute path plan.command, .ok)]
  record : w'.machine.status? (.text (plan.base.joinPath recordName)) =
    some (.file (maskMode Machine.newFileMode w.machine.umask) (Record.encode plan.command))

/-- What a launch does before a program takes over does not count, up to the tree. -/
theorem TakenOver.of_besides_eq {path : Text} (h : TakenOver plan path w w')
    (hsame : w.besides [.tree, .threshold, .log, .trace] =
      start.besides [.tree, .threshold, .log, .trace]) : TakenOver plan path start w' := by
  have hparts := congrArg (fun v : World => (v.machine.umask, v.process.environment,
    v.process.output, v.process.errors)) hsame
  obtain ⟨humask, hrest⟩ := Prod.mk.inj hparts
  obtain ⟨henvironment, hstreams⟩ := Prod.mk.inj hrest
  obtain ⟨houtput, herrors⟩ := Prod.mk.inj hstreams
  have humask' : w.machine.umask = start.machine.umask := humask
  refine ⟨?_, h.output.trans houtput, h.errors.trans herrors, h.trace, ?_⟩
  · exact h.environment.trans (congrArg (programEnvironment plan.options) henvironment)
  · rw [← humask']
    exact h.record

/-- **The program takes over,** and finds its command recorded. -/
theorem exec_proceed_of_canTakeOver {path : Text} (h : CanTakeOver plan path w)
    (hfaults : w.faults = []) (hdirectory : w.machine.isDirectory (.text plan.base) = true)
    (hzero : ∀ word ∈ plan.command, Symbol.char '\x00' ∉ word) :
    ∃ w', exec (proceed plan) w = (.error (.replaced (w'.image path plan.command)), w') ∧
      TakenOver plan path w w' := by
  obtain ⟨name, arguments, hcommand, hpath⟩ := h.program
  obtain ⟨location, hrecord⟩ := exists_resolve_record hdirectory h.length_lt
  have hzeroRecord := zero_not_mem_record hdirectory
  have hnode := ne_directory_of_resolve_record hdirectory hrecord h.record
  have hother : ∀ target, w.machine.resolve path.encode = .ok target →
      target.location ≠ location :=
    fun target htarget heq => h.elsewhere ⟨target, _, htarget, hrecord, heq⟩
  obtain ⟨log, hproceed⟩ := exists_exec_proceed plan w
  obtain ⟨w₁, hexec, hreplaced⟩ := exec_recordCommand_of_resolve (w := w.withLog log)
    plan.command hfaults hzeroRecord hrecord rfl rfl hnode
  have hkeeps : Keeps (World.besides [.tree, .log, .trace]) []
      (recordCommand plan.base plan.command) := keeps_recordCommand _ _
  have hkept := hkeeps.view_eq_of_exec hexec
  have hworking : w₁.machine.workingDirectory = w.machine.workingDirectory := by
    have h := congrArg (fun v : World => v.machine.workingDirectory) hkept
    exact h
  have henvironment : w₁.process.environment = w.process.environment :=
    World.environment_eq_of_besides_eq hkept
  have hgiven : CanBeGiven path plan.command := by
    rw [hcommand] at hzero ⊢
    exact Program.canBeGiven_of_path? hpath hzero
  obtain ⟨log', hrun⟩ := exec_takeOver_of_execute plan.options
    ((World.faults_eq_of_besides_eq hkept).trans hfaults) hgiven
    (Machine.execute_of_isReplaced hworking hreplaced hnode (.text path) hother
      (Program.isProgram_of_path? hpath))
  refine ⟨(w₁.readied (programEnvironment plan.options w₁.process.environment) log').afterCall
    (.execute path plan.command) .ok, ?_, ?_⟩
  · rw [hproceed]
    simp only [hcommand, hpath]
    rw [← hcommand, exec_bind_of_ok hexec]
    exact hrun
  · have hstreams := congrArg (fun v : World => (v.process.output, v.process.errors)) hkept
    obtain ⟨houtput, herrors⟩ := Prod.mk.inj hstreams
    refine ⟨congrArg (programEnvironment plan.options) henvironment, houtput, herrors,
      ⟨w₁.process.trace, rfl⟩, ?_⟩
    exact Machine.status?_of_isReplaced hworking hreplaced hnode (.text _) hzeroRecord
      hrecord

end Launch

end Launcher
