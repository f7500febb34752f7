import Launcher.Proofs.Machine.Effects
import Launcher.Proofs.Run.Exec

/-!
# What actions keep, and how they stop

Most of what the launcher does changes little: a view of the world is the same before and after,
however the action ends. And if an action ends the launch, it does so with few exit codes. Both are
properties of an action in every world, and both pass from the parts of an action to the whole.

## Main definitions

* `Launcher.Action.Keeps` — an action keeps a view of the world and exits with given codes only.
* `Launcher.World.besides` — a world without some of its parts: what an action keeps that changes
  nothing but these.
* `Launcher.World.Part.Among` — parts that are among others, as instances tell.
* `Launcher.World.surface` — the machine, and what has been written to the output.
* `Launcher.World.bare` and `Launcher.World.written` — the machine alone, and the output alone.
* `Launcher.World.nodeAt` and `Launcher.World.faults` — one node of the tree, and the planned
  faults.
* `Launcher.Action.Looks` and `Launcher.Action.ChangesTree` — what the effect of a call changes.

## Main results

* `Launcher.Action.Keeps.bind` — from parts to the whole.
* `Launcher.Action.Keeps.widen` — an action that changes little changes no more than others do.
* `Launcher.Action.keeps_call` — a call changes what its effect changes.
-/

namespace Launcher

/-! ## Views of a world -/

/-- An empty stream has nothing to send out. -/
@[simp] theorem Stream.flush_empty : Stream.empty.flush = .empty := rfl

/-- Once a buffer has been sent out, there is nothing left to send. -/
@[simp] theorem Stream.flush_flush (s : Stream) : s.flush.flush = s.flush := by simp [Stream.flush]

namespace World

/-- The machine without the count of its calls. -/
def bare (w : World) : Machine := { w.machine with made := [] }

/-- What the process has written to its output, sent out or not. -/
def written (w : World) : List Char := w.process.output.flushed ++ w.process.output.pending

/-- Nothing has been written to a stream that holds nothing. -/
theorem output_eq_empty {w : World} (h : w.written = []) : w.process.output = .empty := by
  obtain ⟨hflushed, hpending⟩ := List.append_eq_nil_iff.1 h
  exact congr (congrArg Stream.mk hflushed) hpending

/-- The machine, and what has been written to the output. -/
def surface (w : World) : Machine × List Char := (w.bare, w.written)

/-- The faults that are planned. -/
def faults (w : World) : List Fault := w.machine.faults

/-- The node at a location. -/
def nodeAt (location : Location) (w : World) : Option Node := w.machine.tree.get? location

/-- The parts of a world that the launcher changes. -/
inductive Part where
  | tree
  | environment
  | threshold
  | log
  | trace
  | output
  | errors
deriving DecidableEq

/-- The part is one of these. -/
class Part.IsOneOf (part : Part) (parts : List Part) : Prop where
  mem : part ∈ parts

/-- The parts are among the others. For lists that are written out this is found by instances. -/
class Part.Among (parts others : List Part) : Prop where
  subset : parts ⊆ others

/-- A part is found at the front of a list. -/
instance (part : Part) (parts : List Part) : part.IsOneOf (part :: parts) := ⟨List.mem_cons_self⟩

/-- A part is found behind the front of a list. -/
instance (part first : Part) (parts : List Part) [h : part.IsOneOf parts] :
    part.IsOneOf (first :: parts) := ⟨List.mem_cons_of_mem _ h.mem⟩

/-- No parts are among any parts. -/
instance (others : List Part) : Part.Among [] others := ⟨List.nil_subset _⟩

/-- Parts are among others if the first of them is found there and the rest are among them. -/
instance (part : Part) (parts others : List Part) [h : part.IsOneOf others]
    [hrest : Part.Among parts others] : Part.Among (part :: parts) others :=
  ⟨List.cons_subset.2 ⟨h.mem, hrest.subset⟩⟩

/-- A world without some of its parts. It has no count of calls, and what waits in the buffer of a
stream counts as sent out. -/
def besides (parts : List Part) (w : World) : World where
  machine :=
    { w.machine with
      made := []
      tree := if .tree ∈ parts then .empty else w.machine.tree }
  process :=
    { environment := if .environment ∈ parts then [] else w.process.environment
      logThreshold := if .threshold ∈ parts then 0 else w.process.logThreshold
      log := if .log ∈ parts then [] else w.process.log
      trace := if .trace ∈ parts then [] else w.process.trace
      output := if .output ∈ parts then .empty else w.process.output.flush
      errors := if .errors ∈ parts then .empty else w.process.errors.flush }

/-- What is left out twice is left out. -/
theorem ite_ite_of_subset {γ : Type} {parts parts' : List Part} (h : parts ⊆ parts') (part : Part)
    (blank kept : γ) :
    (if part ∈ parts' then blank else if part ∈ parts then blank else kept) =
      if part ∈ parts' then blank else kept := by
  split
  · rfl
  · rename_i hnot
    exact if_neg fun hmem => hnot (h hmem)

/-- More parts can be left out of what is left. -/
theorem besides_besides {parts parts' : List Part} (h : parts ⊆ parts') (w : World) :
    (w.besides parts).besides parts' = w.besides parts' := by
  simp only [besides, ite_ite_of_subset h, apply_ite Stream.flush, Stream.flush_flush,
    Stream.flush_empty]

section Besides

variable {parts : List Part} {w w' : World}

/-- Worlds that differ in few parts differ in no other parts than these. -/
theorem besides_eq_of_among {parts' : List Part} [hparts : Part.Among parts parts']
    (h : w'.besides parts = w.besides parts) : w'.besides parts' = w.besides parts' := by
  rw [← besides_besides hparts.subset, h, besides_besides hparts.subset]

/-- The surface is there as long as the tree and the output are. -/
theorem surface_eq_of_besides_eq
    [Part.Among parts [.environment, .threshold, .log, .trace, .errors]]
    (h : w'.besides parts = w.besides parts) : w'.surface = w.surface := by
  have hrest : w'.besides [.environment, .threshold, .log, .trace, .errors] = _ :=
    besides_eq_of_among h
  have hsurface := congrArg (fun v : World => (v.machine, v.process.output.flushed)) hrest
  exact hsurface

/-- The machine is there as long as the tree is. -/
theorem bare_eq_of_besides_eq
    [Part.Among parts [.environment, .threshold, .log, .trace, .output, .errors]]
    (h : w'.besides parts = w.besides parts) : w'.bare = w.bare := by
  have hrest : w'.besides [.environment, .threshold, .log, .trace, .output, .errors] = _ :=
    besides_eq_of_among h
  have hbare := congrArg (fun v : World => v.machine) hrest
  exact hbare

/-- What has been written does not depend on the tree. -/
theorem written_eq_of_besides_eq
    [Part.Among parts [.tree, .environment, .threshold, .log, .trace, .errors]]
    (h : w'.besides parts = w.besides parts) : w'.written = w.written := by
  have hrest : w'.besides [.tree, .environment, .threshold, .log, .trace, .errors] = _ :=
    besides_eq_of_among h
  have hwritten := congrArg (fun v : World => v.process.output.flushed) hrest
  exact hwritten

/-- The planned faults are none of the parts that are left out. -/
theorem faults_eq_of_besides_eq (h : w'.besides parts = w.besides parts) :
    w'.faults = w.faults := by
  have hfaults := congrArg (fun v : World => v.machine.faults) h
  exact hfaults

/-- Worlds that agree besides parts other than the environment have the same one. -/
theorem environment_eq_of_besides_eq
    [Part.Among parts [.tree, .threshold, .log, .trace, .output, .errors]]
    (h : w'.besides parts = w.besides parts) :
    w'.process.environment = w.process.environment := by
  have hrest : w'.besides [.tree, .threshold, .log, .trace, .output, .errors] = _ :=
    besides_eq_of_among h
  have henvironment := congrArg (fun v : World => v.process.environment) hrest
  exact henvironment

/-- Worlds that agree besides parts other than the trace have the same one. -/
theorem trace_eq_of_besides_eq
    [Part.Among parts [.tree, .environment, .threshold, .log, .output, .errors]]
    (h : w'.besides parts = w.besides parts) : w'.process.trace = w.process.trace := by
  have hrest : w'.besides [.tree, .environment, .threshold, .log, .output, .errors] = _ :=
    besides_eq_of_among h
  have htrace := congrArg (fun v : World => v.process.trace) hrest
  exact htrace

/-- Worlds that agree besides parts other than the errors have written the same of them. -/
theorem errors_eq_of_besides_eq
    [Part.Among parts [.tree, .environment, .threshold, .log, .trace, .output]]
    (h : w'.besides parts = w.besides parts) :
    w'.process.errors.flush = w.process.errors.flush := by
  have hrest : w'.besides [.tree, .environment, .threshold, .log, .trace, .output] = _ :=
    besides_eq_of_among h
  have herrors := congrArg (fun v : World => v.process.errors) hrest
  exact herrors

end Besides

/-- Machines that differ in the count of their calls have the same tree. -/
theorem tree_eq_of_bare_eq {w w' : World} (h : w'.bare = w.bare) :
    w'.machine.tree = w.machine.tree := by
  have htree := congrArg Machine.tree h
  exact htree

/-- Machines that differ in the count of their calls have the same node at each location. -/
theorem nodeAt_eq_of_bare_eq {w w' : World} (h : w'.bare = w.bare) (location : Location) :
    w'.nodeAt location = w.nodeAt location := by
  have hnode := congrArg (fun m : Machine => m.tree.get? location) h
  exact hnode

/-- Machines that differ in the count of their calls have the same planned faults. -/
theorem faults_eq_of_bare_eq {w w' : World} (h : w'.bare = w.bare) : w'.faults = w.faults := by
  have hfaults := congrArg (fun m : Machine => m.faults) h
  exact hfaults

end World

/-! ## Exit codes of stops -/

/-- An error of the system that ends the launch does so with the exit code and the message that were
asked for. -/
theorem Failure.of_because {code : ExitCode} {message : Text} {e : OsError} {f : Fatal}
    (h : Failure.because code message e = .fatal f) :
    f.exitCode = code.number ∧ f.message = message := by
  unfold Failure.because Fatal.ofOsError Fatal.ofErrno at h
  rcases herrno : e.errno with _ | errno
  · rw [herrno] at h
    cases h
    exact ⟨rfl, rfl⟩
  · rw [herrno] at h
    by_cases hfits : Numeral.fitsInt32 errno = true
    · simp only [hfits] at h
      cases h
      exact ⟨rfl, rfl⟩
    · simp only [hfits] at h
      cases h

/-- An error ends the launch with the exit code that was asked for if its number has 32 bits. -/
theorem Failure.exists_fatal_of_because (code : ExitCode) (message : Text) {e : OsError}
    (h : ∀ n ∈ e.errno, Numeral.fitsInt32 n = true) :
    ∃ f, Failure.because code message e = .fatal f ∧ f.exitCode = code.number := by
  obtain ⟨f, hf⟩ : ∃ f, Failure.because code message e = .fatal f := by
    unfold Failure.because Fatal.ofOsError
    rcases herrno : e.errno with _ | n
    · exact ⟨_, rfl⟩
    · have hn : Numeral.fitsInt32 n = true := h n herrno
      simp [Fatal.ofErrno, hn]
  exact ⟨f, hf, (Failure.of_because hf).1⟩

namespace Stop

/-- A stop that ends the launch does so with one of the exit codes. -/
def ExitsWith (codes : List ExitCode) (stop : Stop) : Prop :=
  ∀ f, stop = .failed (.fatal f) → ∃ code ∈ codes, f.exitCode = code.number

variable {codes : List ExitCode} {code : ExitCode}

/-- A failure that is not the end of the launch has no exit code. -/
theorem exitsWith_of_ne_fatal {failure : Failure} (h : ∀ f, failure ≠ .fatal f) :
    ExitsWith codes (.failed failure) := fun f hf => absurd (Stop.failed.inj hf) (h f)

/-- A process that has become another program has no exit code. -/
theorem exitsWith_replaced (image : Image) : ExitsWith codes (.replaced image) :=
  fun f hf => by simp at hf

/-- An action that goes on for ever has no exit code. -/
theorem exitsWith_unending : ExitsWith codes .unending := fun f hf => by simp at hf

/-- A failure with one of the codes ends the launch with it. -/
theorem exitsWith_fail (hcode : code ∈ codes) (message : Text) :
    ExitsWith codes (.failed (.fail code message)) := by
  intro f hf
  cases hf
  exact ⟨code, hcode, rfl⟩

/-- An error of the system ends the launch with the exit code that was asked for, if it does. -/
theorem exitsWith_because (hcode : code ∈ codes) (message : Text) (e : OsError) :
    ExitsWith codes (.failed (.because code message e)) := by
  intro f hf
  exact ⟨code, hcode, (Failure.of_because (Stop.failed.inj hf)).1⟩

end Stop

namespace Action

variable {α β γ : Type} {view : World → γ} {codes : List ExitCode} {action : Action α}
  {next : α → Action β}

/-! ## What is kept -/

/-- However the action ends, the view of the world is then the same as before; and if it ends the
launch, it does so with one of the exit codes. -/
structure Keeps (view : World → γ) (codes : List ExitCode) (action : Action α) : Prop where
  view_eq : ∀ w, view (exec action w).2 = view w
  exits : ∀ w stop w', exec action w = (.error stop, w') → stop.ExitsWith codes

namespace Keeps

/-- The view after an action. -/
theorem view_eq_of_exec (h : Keeps view codes action) {w w' : World} {result : Except Stop α}
    (hexec : exec action w = (result, w')) : view w' = view w := by
  have hview := h.view_eq w
  rwa [hexec] at hview

/-- An action that always comes to a value. -/
theorem of_value (hview : ∀ w, view (exec action w).2 = view w)
    (hvalue : ∀ w, ∃ a, (exec action w).1 = .ok a) : Keeps view codes action where
  view_eq := hview
  exits w stop w' h := by
    obtain ⟨a, ha⟩ := hvalue w
    rw [h] at ha
    exact absurd ha (by simp)

/-- A value changes no view. -/
theorem pure (a : α) : Keeps view codes (Pure.pure a : Action α) :=
  of_value (fun _ => rfl) fun _ => ⟨a, rfl⟩

/-- Looking at the world changes no view. -/
theorem get : Keeps view codes (MonadState.get : Action World) :=
  of_value (fun _ => rfl) fun w => ⟨w, rfl⟩

/-- Looking up a variable changes no view. -/
theorem valueOf (name : String) : Keeps view codes (Action.valueOf name) :=
  of_value (fun _ => rfl) fun w => ⟨w.process.environment.lookup name, rfl⟩

/-- A change of the process keeps a view that does not show it. -/
theorem modifyProcess {f : Process → Process}
    (h : ∀ w, view { w with process := f w.process } = view w) :
    Keeps view codes (Action.modifyProcess f) :=
  of_value h fun _ => ⟨⟨⟩, rfl⟩

/-- A stop with one of the codes changes no view. -/
theorem throw {stop : Stop} (h : stop.ExitsWith codes) :
    Keeps view codes (MonadExcept.throw stop : Action α) where
  view_eq _ := rfl
  exits w stop' w' hexec := by
    cases hexec
    exact h

/-- A failure with one of the codes changes no view. -/
theorem fail {failure : Failure} (h : Stop.ExitsWith codes (.failed failure)) :
    Keeps view codes (Action.fail failure : Action α) := throw h

/-- **What two actions keep, both of them together keep.** -/
theorem bind (hfirst : Keeps view codes action) (hnext : ∀ a, Keeps view codes (next a)) :
    Keeps view codes (action >>= next) := by
  constructor
  · intro w
    rw [exec_bind]
    rcases hmiddle : exec action w with ⟨stop | a, w'⟩
    · exact hfirst.view_eq_of_exec hmiddle
    · exact ((hnext a).view_eq w').trans (hfirst.view_eq_of_exec hmiddle)
  · intro w stop w' hexec
    rw [exec_bind] at hexec
    rcases hmiddle : exec action w with ⟨stop' | a, w''⟩
    · rw [hmiddle] at hexec
      cases hexec
      exact hfirst.exits w _ _ hmiddle
    · rw [hmiddle] at hexec
      exact (hnext a).exits w'' stop w' hexec

/-- A choice keeps a view if both its branches do. -/
theorem ite {c : Prop} [Decidable c] {first second : Action α} (hfirst : Keeps view codes first)
    (hsecond : Keeps view codes second) : Keeps view codes (if c then first else second) := by
  split
  · exact hfirst
  · exact hsecond

/-- A refusal with one of the codes may stand in front of an action that keeps a view. -/
theorem unlessRefused {c : Bool} {failure : Failure}
    (hfailure : Stop.ExitsWith codes (.failed failure)) (h : Keeps view codes action) :
    Keeps view codes (do
      if c then Action.fail failure
      action) :=
  ite (bind (fail hfailure) fun _ => h) h

/-- More exit codes may be allowed. -/
theorem mono {codes' : List ExitCode} (h : Keeps view codes action) (hsub : codes ⊆ codes') :
    Keeps view codes' action where
  view_eq := h.view_eq
  exits w stop w' hexec f hf := by
    obtain ⟨code, hcode, hnumber⟩ := h.exits w stop w' hexec f hf
    exact ⟨code, hsub hcode, hnumber⟩

/-- An action that changes few parts changes no other parts than these. -/
theorem widen {parts parts' : List World.Part} (h : Keeps (World.besides parts) codes action)
    [World.Part.Among parts parts'] : Keeps (World.besides parts') codes action :=
  ⟨fun w => World.besides_eq_of_among (h.view_eq w), h.exits⟩

/-- An action that keeps all besides parts within the process, but for its output, keeps the
surface. -/
theorem surface {parts : List World.Part} (h : Keeps (World.besides parts) codes action)
    [World.Part.Among parts [.environment, .threshold, .log, .trace, .errors]] :
    Keeps World.surface codes action :=
  ⟨fun w => World.surface_eq_of_besides_eq (h.view_eq w), h.exits⟩

/-- An action that keeps all besides parts within the process keeps the machine. -/
theorem bare {parts : List World.Part} (h : Keeps (World.besides parts) codes action)
    [World.Part.Among parts [.environment, .threshold, .log, .trace, .output, .errors]] :
    Keeps World.bare codes action :=
  ⟨fun w => World.bare_eq_of_besides_eq (h.view_eq w), h.exits⟩

/-- An action that keeps all besides parts other than the output writes nothing. -/
theorem written {parts : List World.Part} (h : Keeps (World.besides parts) codes action)
    [World.Part.Among parts [.tree, .environment, .threshold, .log, .trace, .errors]] :
    Keeps World.written codes action :=
  ⟨fun w => World.written_eq_of_besides_eq (h.view_eq w), h.exits⟩

/-- An action that keeps all besides some parts keeps the plan of faults. -/
theorem faults {parts : List World.Part} (h : Keeps (World.besides parts) codes action) :
    Keeps World.faults codes action :=
  ⟨fun w => World.faults_eq_of_besides_eq (h.view_eq w), h.exits⟩

/-- An action that keeps all besides parts within the process keeps the node at each location. -/
theorem nodeAt {parts : List World.Part} (h : Keeps (World.besides parts) codes action)
    (location : Location)
    [World.Part.Among parts [.environment, .threshold, .log, .trace, .output, .errors]] :
    Keeps (World.nodeAt location) codes action :=
  ⟨fun w => World.nodeAt_eq_of_bare_eq (h.bare.view_eq w) location, h.exits⟩

/-- Two actions that both come to their values: the first has kept its view by then. -/
theorem of_exec_bind (h : Keeps view codes action) {w w'' : World} {b : β}
    (hexec : exec (action >>= next) w = (.ok b, w'')) :
    ∃ a w', exec action w = (.ok a, w') ∧ view w' = view w ∧
      exec (next a) w' = (.ok b, w'') := by
  obtain ⟨a, w', hfirst, hnext⟩ := exec_bind_eq_ok.1 hexec
  exact ⟨a, w', hfirst, h.view_eq_of_exec hfirst, hnext⟩

/-- Behind two actions the world is as the first has left it, up to what the second changes. -/
theorem exists_exec_first (h : ∀ a, Keeps view codes (next a)) {w w' : World}
    {result : Except Stop β} (hexec : exec (action >>= next) w = (result, w')) :
    ∃ early w₁, exec action w = (early, w₁) ∧ view w' = view w₁ := by
  rcases hfirst : exec action w with ⟨stop | a, w₁⟩
  · rw [exec_bind_of_error hfirst] at hexec
    cases hexec
    exact ⟨_, _, rfl, rfl⟩
  · rw [exec_bind_of_ok hfirst] at hexec
    exact ⟨_, _, rfl, (h a).view_eq_of_exec hexec⟩

end Keeps

/-! ## Log and streams -/

/-- Logging changes the log only. -/
theorem keeps_log (level : Int) (message : Text) :
    Keeps (World.besides [.log]) codes (log level message) := by
  refine Keeps.modifyProcess fun w => ?_
  split <;> rfl

/-- Setting a variable changes the environment only. -/
theorem keeps_setVariable (name : String) (value : Text) :
    Keeps (World.besides [.environment]) codes (setVariable name value) :=
  Keeps.modifyProcess fun _ => rfl

/-- Sending the output out changes nothing of what has been written. -/
theorem keeps_flush : Keeps (World.besides []) codes flush := by
  refine Keeps.modifyProcess fun w => ?_
  simp [World.besides]

/-- A line on the output changes nothing else, and ends no launch if it cannot be written. -/
theorem keeps_printLine (keepEscapes : Bool) (line : Text) :
    Keeps (World.besides [.output]) codes (printLine keepEscapes line) := by
  refine Keeps.bind ?_ fun _ => Keeps.modifyProcess fun _ => rfl
  unfold bufferOutput
  split
  · exact Keeps.fail (Stop.exitsWith_of_ne_fatal fun _ => by simp)
  · exact Keeps.modifyProcess fun _ => rfl

/-- Printing a line as suits the output changes the output only. -/
theorem keeps_printPlain (line : Text) :
    Keeps (World.besides [.output]) codes (printPlain line) :=
  Keeps.bind Keeps.get fun _ => keeps_printLine _ _

/-- Printing an error changes the errors only. -/
theorem keeps_printError (line : Text) :
    Keeps (World.besides [.errors]) codes (printError line) :=
  Keeps.bind Keeps.get fun _ => Keeps.bind (Keeps.modifyProcess fun _ => rfl) fun _ =>
    Keeps.modifyProcess fun _ => rfl

/-- A line on the output that is written at all is written as a whole. -/
theorem output_of_exec_printLine {keepEscapes : Bool} {line : Text} {w w' : World}
    (h : exec (printLine keepEscapes line) w = (.ok ⟨⟩, w')) :
    ∃ cs, (prepared keepEscapes line ++ [Symbol.char '\n']).chars? = some cs ∧
      w'.process.output = ⟨w.written ++ cs, []⟩ := by
  obtain ⟨_, w₁, hbuffer, hflush⟩ := exec_bind_eq_ok.1 h
  unfold bufferOutput at hbuffer
  split at hbuffer
  · exact absurd (congrArg Prod.fst hbuffer) (by simp)
  · rename_i cs hcs
    cases hbuffer
    cases hflush
    exact ⟨cs, hcs, by simp [Stream.flush, Stream.write, World.written]⟩

/-! ## Calls -/

/-- The view says nothing of the trace and of the count of calls. -/
def IgnoresCalls (view : World → γ) : Prop :=
  ∀ (w : World) (made : List CallKind) (trace : List (Call × Answer)),
    view { machine := { w.machine with made }, process := { w.process with trace } } = view w

/-- Without the trace, what is left of a world says nothing of its calls. -/
theorem ignoresCalls_besides {parts : List World.Part} (h : World.Part.trace ∈ parts) :
    IgnoresCalls (World.besides parts) := fun _ _ _ => by simp [World.besides, h]

/-- The node at a location says nothing of the calls. -/
theorem ignoresCalls_nodeAt (location : Location) : IgnoresCalls (World.nodeAt location) :=
  fun _ _ _ => rfl

/-- Recording a call changes the trace at most. -/
theorem exists_trace_recorded (p : Process) (c : Call) (answer : Answer) :
    ∃ trace, p.recorded c answer = { p with trace } := by
  unfold Process.recorded
  split
  · exact ⟨_, rfl⟩
  · exact ⟨p.trace, rfl⟩

section Calls

variable {c : Call} {answer : α → Answer}
  {effect : Option Nat → Machine → Except Errno (α × Machine)}

/-- **A call changes what its effect changes,** and never stops the process. -/
theorem keeps_call (hview : IgnoresCalls view)
    (heffect : ∀ w limit a after, effect limit w.machine = .ok (a, after) →
      view { w with machine := after } = view w) : Keeps view codes (call c answer effect) := by
  refine Keeps.of_value (fun w => ?_) fun w => ?_
  · rw [exec_call]
    rcases hrespond : (w.machine.counted c).respond c effect with e | ⟨a, after⟩
    · obtain ⟨trace, htrace⟩ := exists_trace_recorded w.process c (.error e)
      show view ⟨w.machine.counted c, w.process.recorded c (.error e)⟩ = view w
      rw [htrace]
      exact hview w _ trace
    · obtain ⟨limit, heffective⟩ := Machine.exists_effect_of_respond hrespond
      obtain ⟨trace, htrace⟩ := exists_trace_recorded w.process c (answer a)
      show view ⟨after, w.process.recorded c (answer a)⟩ = view w
      rw [htrace]
      exact (heffect ⟨w.machine.counted c, { w.process with trace }⟩ limit a after
        heffective).trans (hview w _ trace)
  · rw [exec_call]
    rcases (w.machine.counted c).respond c effect with e | ⟨a, after⟩
    · exact ⟨_, rfl⟩
    · exact ⟨_, rfl⟩

/-- The effect of a call only looks at the machine. -/
def Looks (effect : Option Nat → Machine → Except Errno (α × Machine)) : Prop :=
  ∀ limit m a after, effect limit m = .ok (a, after) → after = m

/-- The effect of a call changes at most the tree. -/
def ChangesTree (effect : Option Nat → Machine → Except Errno (α × Machine)) : Prop :=
  ∀ limit m a after, effect limit m = .ok (a, after) → ∃ tree, after = { m with tree }

/-- An effect that only looks at the machine does not change more than the tree. -/
theorem Looks.changesTree (h : Looks effect) : ChangesTree effect :=
  fun limit m a after heffect => ⟨m.tree, h limit m a after heffect⟩

/-- A call that only looks at the machine keeps it as it is. -/
theorem keeps_call_of_looks (h : Looks effect) :
    Keeps (World.besides [.trace]) codes (call c answer effect) :=
  keeps_call (ignoresCalls_besides (by decide)) fun w limit a after heffect => by
    rw [h _ _ _ _ heffect]

/-- A call that changes at most the tree keeps the rest of the machine as it is. -/
theorem keeps_call_of_changesTree (h : ChangesTree effect) :
    Keeps (World.besides [.tree, .trace]) codes (call c answer effect) := by
  refine keeps_call (ignoresCalls_besides (by decide)) fun w limit a after heffect => ?_
  obtain ⟨tree, rfl⟩ := h _ _ _ _ heffect
  rfl

/-! ### What the effects of the calls change -/

/-- An effect that gives an answer and leaves the machine as it is. -/
theorem looks_of_answer (f : Option Nat → Machine → Except Errno α) :
    Looks fun limit m => (f limit m).map (·, m) := by
  intro limit m a after h
  rcases hanswer : f limit m with e | b
  · simp [hanswer, Except.map] at h
  · simp only [hanswer, Except.map, Except.ok.injEq, Prod.mk.injEq] at h
    exact h.2.symm

/-- An effect that changes the machine as far as its tree. -/
theorem changesTree_of_change {f : Machine → Except Errno Machine}
    (h : ∀ m after, f m = .ok after → ∃ tree, after = { m with tree }) :
    ChangesTree fun (_ : Option Nat) m => (f m).map ((), ·) := by
  intro _ m _ after heffect
  rcases hafter : f m with e | m'
  · simp [hafter, Except.map] at heffect
  · simp only [hafter, Except.map, Except.ok.injEq, Prod.mk.injEq] at heffect
    exact heffect.2 ▸ h m m' hafter

/-- Asking for the working directory only looks at the machine. -/
theorem looks_workingDirectory : Looks fun (_ : Option Nat) m =>
    match m.workingDirectory with
    | some directory => .ok (directory, m)
    | none => .error .noEntry := by
  intro _ m directory after h
  rcases hworking : m.workingDirectory with _ | directory'
  · simp [hworking] at h
  · simp only [hworking, Except.ok.injEq, Prod.mk.injEq] at h
    exact h.2.symm

/-- A read only looks at the machine. -/
theorem looks_read (reader : Reader) (size : Nat) : Looks fun limit m =>
    match reader with
    | .directory => .error .isDirectory
    | .file unread =>
        let n := min size (limit.getD size)
        .ok ((unread.take n, Reader.file (unread.drop n)), m) := by
  intro limit m a after h
  rcases reader with _ | unread
  · cases h
  · cases h
    rfl

/-- A close only looks at the machine. -/
theorem looks_close : Looks fun (_ : Option Nat) (m : Machine) => .ok ((), m) := by
  intro _ m _ after h
  cases h
  rfl

/-- Making a directory changes at most the tree. -/
theorem changesTree_makeDirectory (path : Bytes) (mode : Int) :
    ChangesTree fun (_ : Option Nat) m => (m.makeDirectory path mode).map ((), ·) :=
  changesTree_of_change fun _ _ h => Machine.exists_tree_of_makeDirectory h

/-- Unlinking changes at most the tree. -/
theorem changesTree_unlink (path : Bytes) :
    ChangesTree fun (_ : Option Nat) m => (m.unlink path).map ((), ·) :=
  changesTree_of_change fun _ _ h => Machine.exists_tree_of_unlink h

/-- Opening a file to write changes at most the tree. -/
theorem changesTree_openToWrite (path : Bytes) :
    ChangesTree fun (_ : Option Nat) m => m.openToWrite path :=
  fun _ _ _ _ h => Machine.exists_tree_of_openToWrite h

/-- A write changes at most the tree. -/
theorem changesTree_write (location : Location) (content : Bytes) : ChangesTree fun limit m =>
    let stored := content.take (limit.getD content.length)
    .ok (stored.length, m.store location stored) := by
  intro _ m _ after h
  cases h
  exact m.exists_tree_store location _

end Calls

/-! ### The calls themselves -/

/-- Refusing a path with a zero byte changes no view, and ends no launch. -/
theorem keeps_requireNoZero (path : Path) : Keeps view codes (requireNoZero path) := by
  unfold requireNoZero
  split
  · exact Keeps.fail (Stop.exitsWith_of_ne_fatal fun _ => by simp)
  · exact Keeps.pure _

/-- A path that is not refused has no zero byte, and nothing has changed. -/
theorem of_exec_requireNoZero {path : Path} {w w' : World}
    (h : exec (requireNoZero path) w = (.ok ⟨⟩, w')) : 0 ∉ path.toBytes ∧ w' = w := by
  unfold requireNoZero at h
  split at h
  · exact absurd (congrArg Prod.fst h) (by simp)
  · rename_i hzero
    cases h
    exact ⟨by simpa using hzero, rfl⟩

/-- Asking for the working directory leaves no trace. -/
theorem keeps_workingDirectory? : Keeps (World.besides []) codes workingDirectory? := by
  refine Keeps.of_value (fun w => ?_) fun w => ?_
  · rw [workingDirectory?, exec_call]
    rcases hrespond : (w.machine.counted .workingDirectory).respond .workingDirectory _ with
      e | ⟨directory, after⟩
    · rfl
    · obtain ⟨limit, heffect⟩ := Machine.exists_effect_of_respond hrespond
      obtain rfl := looks_workingDirectory limit _ _ _ heffect
      rfl
  · rw [workingDirectory?, exec_call]
    split
    · exact ⟨_, rfl⟩
    · exact ⟨_, rfl⟩

/-- Opening a file to read changes the trace only. -/
theorem keeps_openToRead (path : Path) :
    Keeps (World.besides [.trace]) codes (openToRead path) :=
  Keeps.bind (keeps_requireNoZero path) fun _ => keeps_call_of_looks (looks_of_answer _)

/-- A read changes the trace only. -/
theorem keeps_read (reader : Reader) (size : Nat) :
    Keeps (World.besides [.trace]) codes (read reader size) :=
  keeps_call_of_looks (looks_read reader size)

/-- A close changes the trace only. -/
theorem keeps_close : Keeps (World.besides [.trace]) codes close := keeps_call_of_looks looks_close

/-- Executing a program changes the trace only, as far as there is still a launch. -/
theorem keeps_execute (path : Text) (arguments : List Text) :
    Keeps (World.besides [.trace]) codes (execute path arguments) := by
  have hinvalid : ∀ v, Stop.ExitsWith codes (.failed (.invalid v)) :=
    fun v => Stop.exitsWith_of_ne_fatal fun _ => by simp
  refine Keeps.bind (keeps_requireNoZero _) fun _ => ?_
  refine Keeps.unlessRefused (hinvalid _) (Keeps.unlessRefused (hinvalid _)
    (Keeps.unlessRefused (hinvalid _) ?_))
  refine Keeps.bind (keeps_call_of_looks (looks_of_answer _)) fun result => ?_
  rcases result with e | ⟨⟩
  · exact Keeps.pure _
  · exact Keeps.bind Keeps.get fun _ => Keeps.throw (Stop.exitsWith_replaced _)

/-- What creating a directory keeps: every view that the effect keeps. -/
theorem keeps_makeDirectory_of_effect {path : Path} {mode : Int} (hview : IgnoresCalls view)
    (heffect : ∀ w after, Machine.makeDirectory w.machine path.toBytes mode = .ok after →
      view { w with machine := after } = view w) :
    Keeps view codes (makeDirectory path mode) := by
  refine Keeps.bind (keeps_requireNoZero path) fun _ => ?_
  refine Keeps.unlessRefused (Stop.exitsWith_of_ne_fatal fun _ => by simp) ?_
  refine keeps_call hview fun w _ _ after h => ?_
  rcases hmake : w.machine.makeDirectory path.toBytes mode with e | m'
  · rw [hmake] at h
    cases h
  · rw [hmake] at h
    cases h
    exact heffect w _ hmake

/-- Making a directory changes the tree and the trace only. -/
theorem keeps_makeDirectory (path : Path) (mode : Int) :
    Keeps (World.besides [.tree, .trace]) codes (makeDirectory path mode) := by
  refine keeps_makeDirectory_of_effect (ignoresCalls_besides (by decide)) fun w after h => ?_
  obtain ⟨tree, rfl⟩ := Machine.exists_tree_of_makeDirectory h
  rfl

/-- Creating a directory changes no other place than the one that its path names. -/
theorem keeps_nodeAt_makeDirectory {path : Path} {location : Location} (mode : Int)
    (h : ∀ m target, Machine.resolve m path.toBytes = .ok target → target.location ≠ location) :
    Keeps (World.nodeAt location) codes (makeDirectory path mode) := by
  refine keeps_makeDirectory_of_effect (ignoresCalls_nodeAt location) fun w after hmake => ?_
  obtain ⟨target, hresolve, -, rfl⟩ := Machine.makeDirectory_eq_ok.1 hmake
  exact Tree.get?_insert_of_ne _ _ (h _ _ hresolve).symm

/-- Unlinking changes the tree and the trace only. -/
theorem keeps_unlink (path : Path) :
    Keeps (World.besides [.tree, .trace]) codes (unlink path) :=
  Keeps.bind (keeps_requireNoZero path) fun _ => keeps_call_of_changesTree (changesTree_unlink _)

/-- Opening a file to write changes the tree and the trace only. -/
theorem keeps_openToWrite (path : Path) :
    Keeps (World.besides [.tree, .trace]) codes (openToWrite path) :=
  Keeps.bind (keeps_requireNoZero path) fun _ =>
    keeps_call_of_changesTree (changesTree_openToWrite _)

/-- A write changes the tree and the trace only. -/
theorem keeps_write (location : Location) (content : Bytes) :
    Keeps (World.besides [.tree, .trace]) codes (write location content) :=
  keeps_call_of_changesTree (changesTree_write location content)

end Action

end Launcher
