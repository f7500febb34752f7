import Launcher.Proofs.Run.Faults
import Launcher.Proofs.Run.Frame

/-!
# Calls that no fault strikes

Which faults strike depends on the calls that are made, on their order and on how many there were
before. An action whose calls are not struck does what it would do without faults, down to the log.
So two runs that differ in the plan of faults are the same up to the first call that is struck.

## Main definitions

* `Launcher.World.Calls` — the calls between two worlds of a process.
* `Launcher.Fault.struck` — the calls that a plan strikes.
* `Launcher.World.calm` — the world without planned faults.
* `Launcher.Action.Steady` — an action does the same without faults if none of its calls is struck.
* `Launcher.World.StrikesOnly` — between two worlds the plan strikes no calls but those of given
  kinds.
* `Launcher.Action.Begins` — the calls of an action are the first ones of a longer one.

## Main results

* `Launcher.Action.Steady.bind` — from parts to the whole.
* `Launcher.Action.steady_call` — a call does the same without faults unless it is struck.
* `Launcher.Action.Steady.exec_calm` and `Launcher.Action.Steady.exec_bind_cases` — an action that
  makes other calls than those that are struck, alone and before another one.
-/

namespace Launcher

open Launcher.Action

/-! ## Calls and their faults -/

namespace World

variable {calls later : List Call} {w w' w'' : World}

/-- Between two worlds of a process these calls have been made: they have been counted, and stand in
the trace if they leave one. -/
structure Calls (w : World) (calls : List Call) (w' : World) : Prop where
  made : w'.machine.made = (calls.map Call.kind).reverse ++ w.machine.made
  trace : w'.process.trace.map Prod.fst =
    w.process.trace.map Prod.fst ++ calls.filter Call.isTraced

/-- Nothing is called where nothing is counted. -/
theorem calls_nil (hmade : w'.machine.made = w.machine.made)
    (htrace : w'.process.trace = w.process.trace) : w.Calls [] w' :=
  ⟨hmade, by rw [htrace, List.filter_nil, List.append_nil]⟩

/-- Calls between two worlds are followed by the calls up to a third one. -/
theorem Calls.trans (h : w.Calls calls w') (h' : w'.Calls later w'') :
    w.Calls (calls ++ later) w'' where
  made := by
    rw [h'.made, h.made, List.map_append, List.reverse_append, List.append_assoc]
  trace := by rw [h'.trace, h.trace, List.filter_append, List.append_assoc]

/-- A call is counted, and stands in the trace if it leaves one. -/
theorem calls_singleton {c : Call} {answer : Answer}
    (hmade : w'.machine.made = c.kind :: w.machine.made)
    (hprocess : w'.process = w.process.recorded c answer) : w.Calls [c] w' where
  made := hmade
  trace := by
    rw [hprocess, Process.recorded]
    rcases htraced : c.isTraced
    · simp [htraced]
    · simp [htraced]

/-- The world without planned faults. -/
def calm (w : World) : World := { w with machine := { w.machine with faults := [] } }

end World

namespace Fault

/-- The calls that the plan strikes among these, which are made one after the other behind calls of
the kinds `made`. -/
def struck (plan : List Fault) (made : List CallKind) : List Call → List Call
  | [] => []
  | c :: calls =>
      let later := struck plan (c.kind :: made) calls
      if (strike? plan c ((c.kind :: made).count c.kind)).isSome then c :: later else later

variable {plan : List Fault} {made : List CallKind} {calls : List Call} {c : Call}

/-- What is struck among later calls depends on the kinds of those before them. -/
theorem struck_append (plan : List Fault) (made : List CallKind) (calls later : List Call) :
    struck plan made (calls ++ later) =
      struck plan made calls ++ struck plan ((calls.map Call.kind).reverse ++ made) later := by
  induction calls generalizing made with
  | nil => rfl
  | cons c calls ih =>
    simp only [List.cons_append, struck, ih (c.kind :: made), List.map_cons, List.reverse_cons,
      List.append_assoc]
    split
    · rfl
    · rfl

/-- A call that is struck is made, and a fault is planned for calls of its kind. -/
theorem of_mem_struck (h : c ∈ struck plan made calls) :
    c ∈ calls ∧ ∃ fault ∈ plan, fault.kind = c.kind := by
  induction calls generalizing made with
  | nil => cases h
  | cons first calls ih =>
    have hlater : c ∈ struck plan (first.kind :: made) calls →
        c ∈ first :: calls ∧ ∃ fault ∈ plan, fault.kind = c.kind :=
      fun hmem => ⟨List.mem_cons_of_mem _ (ih hmem).1, (ih hmem).2⟩
    simp only [struck] at h
    split at h
    · rename_i hstrikes
      rcases List.mem_cons.1 h with rfl | hmem
      · obtain ⟨strike, hstrike⟩ := Option.isSome_iff_exists.1 hstrikes
        obtain ⟨fault, hfault, hkind, -⟩ := exists_of_strike? hstrike
        exact ⟨List.mem_cons_self, fault, hfault, hkind⟩
      · exact hlater hmem
    · exact hlater h

end Fault

/-! ## Actions that do the same without faults -/

namespace Action

variable {α β : Type} {kinds : List CallKind} {action : Action α} {next : α → Action β}
  {w w' : World} {calls : List Call}

/-- In the world the action makes these calls and plans no faults; and it does the same without
faults if none of the calls is struck. -/
structure SteadyIn (action : Action α) (w : World) (calls : List Call) : Prop where
  made : w.Calls calls (exec action w).2
  faults_eq : (exec action w).2.faults = w.faults
  calm_eq : Fault.struck w.faults w.machine.made calls = [] →
    exec action w.calm = ((exec action w).1, (exec action w).2.calm)

/-- The action makes calls of these kinds only, and does the same without faults if none of them is
struck. -/
def Steady (kinds : List CallKind) (action : Action α) : Prop :=
  ∀ w, ∃ calls, (∀ c ∈ calls, c.kind ∈ kinds) ∧ SteadyIn action w calls

namespace Steady

/-- An action that makes no calls and takes no notice of the plan. -/
theorem of_no_calls (hmachine : ∀ w, (exec action w).2.machine = w.machine)
    (htrace : ∀ w, (exec action w).2.process.trace = w.process.trace)
    (hcalm : ∀ w, exec action w.calm = ((exec action w).1, (exec action w).2.calm)) :
    Steady kinds action := by
  intro w
  have hmade := congrArg Machine.made (hmachine w)
  have hfaults := congrArg Machine.faults (hmachine w)
  exact ⟨[], by simp, World.calls_nil hmade (htrace w), hfaults, fun _ => hcalm w⟩

/-- A value makes no call. -/
theorem pure (a : α) : Steady kinds (Pure.pure a : Action α) :=
  of_no_calls (fun _ => rfl) (fun _ => rfl) fun _ => rfl

/-- A stop makes no call. -/
theorem throw (stop : Stop) : Steady kinds (MonadExcept.throw stop : Action α) :=
  of_no_calls (fun _ => rfl) (fun _ => rfl) fun _ => rfl

/-- A failure makes no call. -/
theorem fail (failure : Failure) : Steady kinds (Action.fail failure : Action α) := throw _

/-- Looking up a variable makes no call. -/
theorem valueOf (name : String) : Steady kinds (Action.valueOf name) :=
  of_no_calls (fun _ => rfl) (fun _ => rfl) fun _ => rfl

/-- A change of the process that leaves its trace alone makes no call. -/
theorem modifyProcess {f : Process → Process} (h : ∀ p, (f p).trace = p.trace) :
    Steady kinds (Action.modifyProcess f) :=
  of_no_calls (fun _ => rfl) (fun w => h w.process) fun _ => rfl

/-- **Two actions, one after the other,** make the calls of both. -/
theorem bind (h : Steady kinds action) (hnext : ∀ a, Steady kinds (next a)) :
    Steady kinds (action >>= next) := by
  intro w
  obtain ⟨calls, hkinds, hmade, hfaults, hcalm⟩ := h w
  rcases hexec : exec action w with ⟨stop | a, w₁⟩
  · rw [hexec] at hmade hfaults hcalm
    refine ⟨calls, hkinds, ?_, ?_, fun hstruck => ?_⟩
    · rw [exec_bind_of_error hexec]
      exact hmade
    · rw [exec_bind_of_error hexec]
      exact hfaults
    · rw [exec_bind_of_error hexec, exec_bind_of_error (hcalm hstruck)]
  · obtain ⟨later, hlaterKinds, hlater⟩ := hnext a w₁
    rw [hexec] at hmade hfaults hcalm
    refine ⟨calls ++ later, fun c hc => (List.mem_append.1 hc).elim (hkinds c) (hlaterKinds c),
      ?_, ?_, fun hstruck => ?_⟩
    · rw [exec_bind_of_ok hexec]
      exact hmade.trans hlater.made
    · rw [exec_bind_of_ok hexec]
      exact hlater.faults_eq.trans hfaults
    · rw [Fault.struck_append, ← hmade.made, ← hfaults] at hstruck
      obtain ⟨hnone, hnoneLater⟩ := List.append_eq_nil_iff.1 hstruck
      rw [exec_bind_of_ok hexec, exec_bind_of_ok (hcalm (hfaults ▸ hnone))]
      exact hlater.calm_eq hnoneLater

/-- Actions that look at the world take no notice of the plan in it. -/
theorem get_bind {next : World → Action β} (hcalm : ∀ w, next w.calm = next w)
    (h : ∀ w, Steady kinds (next w)) : Steady kinds (MonadState.get >>= next) := by
  intro w
  obtain ⟨calls, hkinds, hsteady⟩ := h w w
  have hfirst : exec (MonadState.get >>= next) w = exec (next w) w := exec_bind_of_ok (exec_get w)
  have hquiet : exec (MonadState.get >>= next) w.calm = exec (next w) w.calm := by
    rw [exec_bind_of_ok (exec_get w.calm), hcalm]
  refine ⟨calls, hkinds, ?_, ?_, ?_⟩
  · rw [hfirst]
    exact hsteady.made
  · rw [hfirst]
    exact hsteady.faults_eq
  · rw [hfirst, hquiet]
    exact hsteady.calm_eq

/-- A choice is steady if both its branches are. -/
theorem ite {c : Prop} [Decidable c] {second : Action α} (h : Steady kinds action)
    (hsecond : Steady kinds second) : Steady kinds (if c then action else second) := by
  split
  · exact h
  · exact hsecond

/-- A refusal makes no call in front of an action. -/
theorem unlessRefused {c : Bool} {failure : Failure} (h : Steady kinds action) :
    Steady kinds (do
      if c then Action.fail failure
      action) :=
  ite (bind (fail failure) fun _ => h) h

/-- Fewer kinds of calls are among more. -/
theorem mono {kinds' : List CallKind} (h : Steady kinds action) (hsub : kinds ⊆ kinds') :
    Steady kinds' action := by
  intro w
  obtain ⟨calls, hkinds, hsteady⟩ := h w
  exact ⟨calls, fun c hc => hsub (hkinds c hc), hsteady⟩

end Steady

/-! ### Log and streams -/

/-- Logging makes no call. -/
theorem steady_log (level : Int) (message : Text) : Steady kinds (log level message) := by
  refine Steady.modifyProcess fun p => ?_
  split <;> rfl

/-- Setting a variable makes no call. -/
theorem steady_setVariable (name : String) (value : Text) :
    Steady kinds (setVariable name value) := Steady.modifyProcess fun _ => rfl

/-- Sending the output out makes no call that is counted. -/
theorem steady_flush : Steady kinds flush := Steady.modifyProcess fun _ => rfl

/-- Printing a line makes no call that is counted. -/
theorem steady_printLine (keepEscapes : Bool) (line : Text) :
    Steady kinds (printLine keepEscapes line) := by
  refine Steady.bind ?_ fun _ => Steady.modifyProcess fun _ => rfl
  unfold bufferOutput
  split
  · exact Steady.fail _
  · exact Steady.modifyProcess fun _ => rfl

/-- Printing a line as suits the output makes no call that is counted. -/
theorem steady_printPlain (line : Text) : Steady kinds (printPlain line) :=
  Steady.get_bind (fun _ => rfl) fun _ => steady_printLine _ _

/-- Printing an error makes no call that is counted. -/
theorem steady_printError (line : Text) : Steady kinds (printError line) :=
  Steady.get_bind (fun _ => rfl) fun _ =>
    Steady.bind (Steady.modifyProcess fun _ => rfl) fun _ => Steady.modifyProcess fun _ => rfl

/-! ### Calls -/

/-- **A call does the same without faults** unless it is struck. -/
theorem steady_call {c : Call} {answer : α → Answer}
    {effect : Option Nat → Machine → Except Errno (α × Machine)} (heffect : IgnoresFaults effect)
    (htree : ChangesTree effect) (hkind : c.kind ∈ kinds) :
    Steady kinds (call c answer effect) := by
  intro w
  refine ⟨[c], fun d hd => by rw [List.mem_singleton.1 hd]; exact hkind, ?_, ?_, fun hstruck => ?_⟩
  · rw [exec_call]
    rcases hrespond : (w.machine.counted c).respond c effect with e | ⟨a, after⟩
    · exact World.calls_singleton rfl rfl
    · obtain ⟨limit, heffective⟩ := Machine.exists_effect_of_respond hrespond
      obtain ⟨tree, rfl⟩ := htree _ _ _ _ heffective
      exact World.calls_singleton rfl rfl
  · rw [exec_call]
    rcases hrespond : (w.machine.counted c).respond c effect with e | ⟨a, after⟩
    · rfl
    · obtain ⟨limit, heffective⟩ := Machine.exists_effect_of_respond hrespond
      obtain ⟨tree, rfl⟩ := htree _ _ _ _ heffective
      rfl
  · have hstrike : Fault.strike? (w.machine.counted c).faults c
        ((w.machine.counted c).made.count c.kind) = none := by
      rcases hstrike : Fault.strike? (w.machine.counted c).faults c
        ((w.machine.counted c).made.count c.kind) with _ | strike
      · rfl
      · have hnone : Fault.struck w.faults w.machine.made [c] = [c] := by
          have hsome : (Fault.strike? w.faults c ((c.kind :: w.machine.made).count c.kind)).isSome =
            true := Option.isSome_iff_exists.2 ⟨strike, hstrike⟩
          simp only [Fault.struck, hsome, if_true]
        rw [hstruck] at hnone
        cases hnone
    have hfull : (w.machine.counted c).respond c effect = effect none (w.machine.counted c) := by
      rw [Machine.respond, hstrike]
    have hcalm : (w.calm.machine.counted c).respond c effect = _ :=
      (Machine.respond_of_faults_eq_nil rfl c effect).trans (heffect none (w.machine.counted c) [])
    rw [exec_call, exec_call, hcalm, hfull]
    rcases effect none (w.machine.counted c) with e | ⟨a, after⟩
    · rfl
    · rfl

/-- Refusing a path makes no call. -/
theorem steady_requireNoZero (path : Path) : Steady kinds (requireNoZero path) :=
  Steady.ite (Steady.fail _) (Steady.pure _)

/-- Asking for the working directory is one call. -/
theorem steady_workingDirectory? : Steady [.workingDirectory] workingDirectory? :=
  steady_call ignoresFaults_workingDirectory looks_workingDirectory.changesTree List.mem_cons_self

/-- Making a directory is one call at most. -/
theorem steady_makeDirectory (path : Path) (mode : Int) :
    Steady [.makeDirectory] (makeDirectory path mode) :=
  Steady.bind (steady_requireNoZero path) fun _ => Steady.unlessRefused
    (steady_call (ignoresFaults_makeDirectory _ mode) (changesTree_makeDirectory _ mode)
      List.mem_cons_self)

/-- Unlinking is one call at most. -/
theorem steady_unlink (path : Path) : Steady [.unlink] (unlink path) :=
  Steady.bind (steady_requireNoZero path) fun _ =>
    steady_call (ignoresFaults_unlink _) (changesTree_unlink _) List.mem_cons_self

/-- Opening a file to read is one call at most. -/
theorem steady_openToRead (path : Path) : Steady [.openFile] (openToRead path) :=
  Steady.bind (steady_requireNoZero path) fun _ =>
    steady_call (ignoresFaults_openToRead _) (looks_of_answer _).changesTree List.mem_cons_self

/-- Opening a file to write is one call at most. -/
theorem steady_openToWrite (path : Path) : Steady [.openFile] (openToWrite path) :=
  Steady.bind (steady_requireNoZero path) fun _ =>
    steady_call (ignoresFaults_openToWrite _) (changesTree_openToWrite _) List.mem_cons_self

/-- A read is one call. -/
theorem steady_read (reader : Reader) (size : Nat) : Steady [.read] (read reader size) :=
  steady_call (ignoresFaults_read reader size) (looks_read reader size).changesTree
    List.mem_cons_self

/-- A write is one call. -/
theorem steady_write (location : Location) (content : Bytes) :
    Steady [.write] (write location content) :=
  steady_call (ignoresFaults_write location content) (changesTree_write location content)
    List.mem_cons_self

/-- A close is one call. -/
theorem steady_close : Steady [.close] close :=
  steady_call ignoresFaults_close looks_close.changesTree List.mem_cons_self

/-- Executing a program is one call at most. -/
theorem steady_execute (path : Text) (arguments : List Text) :
    Steady [.execute] (execute path arguments) := by
  refine Steady.bind (steady_requireNoZero _) fun _ =>
    Steady.unlessRefused (Steady.unlessRefused (Steady.unlessRefused ?_))
  refine Steady.bind (steady_call (ignoresFaults_execute _) (looks_of_answer _).changesTree
    List.mem_cons_self) fun result => ?_
  rcases result with e | ⟨⟩
  · exact Steady.pure _
  · exact Steady.get_bind (fun _ => rfl) fun _ => Steady.throw _

end Action

/-! ## Faults that strike some calls only -/

/-- Between the two worlds of a process the plan strikes no calls but those of these kinds. -/
def World.StrikesOnly (w : World) (kinds : List CallKind) (w' : World) : Prop :=
  ∀ calls, w.Calls calls w' → ∀ c ∈ Fault.struck w.faults w.machine.made calls, c.kind ∈ kinds

namespace World.StrikesOnly

variable {w w₁ w' : World} {kinds : List CallKind} {calls : List Call}

/-- The first ones of some calls are struck in calls of these kinds only, too. -/
theorem earlier (h : w.StrikesOnly kinds w') (hmade : w₁.Calls calls w') :
    w.StrikesOnly kinds w₁ := by
  intro first hfirst c hc
  refine h (first ++ calls) (hfirst.trans hmade) c ?_
  rw [Fault.struck_append]
  exact List.mem_append_left _ hc

/-- And so are the last ones. -/
theorem later (h : w.StrikesOnly kinds w') (hmade : w.Calls calls w₁)
    (hfaults : w₁.faults = w.faults) : w₁.StrikesOnly kinds w' := by
  intro last hlast c hc
  refine h (calls ++ last) (hmade.trans hlast) c ?_
  rw [Fault.struck_append, ← hmade.made, ← hfaults]
  exact List.mem_append_right _ hc

end World.StrikesOnly

/-- A plan of faults for calls of these kinds strikes no others. -/
theorem World.strikesOnly_of_plan {w : World} {kinds : List CallKind}
    (h : ∀ fault ∈ w.faults, fault.kind ∈ kinds) (w' : World) : w.StrikesOnly kinds w' := by
  intro calls _ c hc
  obtain ⟨-, fault, hfault, hkind⟩ := Fault.of_mem_struck hc
  exact hkind ▸ h fault hfault

namespace Action

variable {α β : Type} {kinds kinds' spared : List CallKind} {action : Action α}
  {next : α → Action β} {w : World}

/-- The whole begins with the action: behind the calls of that it makes further calls at most. -/
def Begins (action : Action α) (whole : Action β) : Prop :=
  ∀ w, ∃ later, (exec action w).2.Calls later (exec whole w).2

/-- What begins with an action that begins with another one begins with that. -/
theorem Begins.trans {γ : Type} {middle : Action β} {whole : Action γ} (h : Begins action middle)
    (h' : Begins middle whole) : Begins action whole := by
  intro w
  obtain ⟨calls, hcalls⟩ := h w
  obtain ⟨later, hlater⟩ := h' w
  exact ⟨calls ++ later, hcalls.trans hlater⟩

/-- A sequence begins with its first action. -/
theorem begins_bind (kinds : List CallKind) (hnext : ∀ a, Steady kinds (next a)) :
    Begins action (action >>= next) := by
  intro w
  rcases hexec : exec action w with ⟨stop | a, w₁⟩
  · rw [exec_bind_of_error hexec]
    exact ⟨[], World.calls_nil rfl rfl⟩
  · rw [exec_bind_of_ok hexec]
    obtain ⟨later, -, hlater⟩ := hnext a w₁
    exact ⟨later, hlater.made⟩

/-- A guarded action begins with what is guarded. -/
theorem begins_tryCatch {handler : Stop → Action α} (kinds : List CallKind)
    (hhandler : ∀ stop, Steady kinds (handler stop)) : Begins action (tryCatch action handler) := by
  intro w
  rw [exec_tryCatch]
  rcases exec action w with ⟨stop | a, w₁⟩
  · obtain ⟨later, -, hlater⟩ := hhandler stop w₁
    exact ⟨later, hlater.made⟩
  · exact ⟨[], World.calls_nil rfl rfl⟩

/-- **An action none of whose calls can be struck does the same without faults.** -/
theorem Steady.exec_calm (h : Steady spared action) (hspared : ∀ kind ∈ spared, kind ∉ kinds)
    (hstrikes : w.StrikesOnly kinds (exec action w).2) :
    exec action w.calm = ((exec action w).1, (exec action w).2.calm) := by
  obtain ⟨calls, hcallKinds, hsteady⟩ := h w
  refine hsteady.calm_eq (List.eq_nil_iff_forall_not_mem.2 fun c hc => ?_)
  exact hspared c.kind (hcallKinds c (Fault.of_mem_struck hc).1)
    (hstrikes calls hsteady.made c hc)

/-- **The first of two actions does the same without faults** if none of its calls can be struck.
Either it stops, with faults and without, or the second goes on from the same value in both
worlds. -/
theorem Steady.exec_bind_cases (h : Steady spared action) (hnext : ∀ a, Steady kinds' (next a))
    (hspared : ∀ kind ∈ spared, kind ∉ kinds)
    (hstrikes : w.StrikesOnly kinds (exec (action >>= next) w).2) :
    (∃ stop w₁, exec (action >>= next) w = (.error stop, w₁) ∧
        exec (action >>= next) w.calm = (.error stop, w₁.calm)) ∨
      ∃ a w₁, exec action w = (.ok a, w₁) ∧ exec action w.calm = (.ok a, w₁.calm) ∧
        w₁.StrikesOnly kinds (exec (next a) w₁).2 := by
  have hbegins : Begins action (action >>= next) := begins_bind kinds' hnext
  obtain ⟨later, hlater⟩ := hbegins w
  have hcalm := h.exec_calm hspared (hstrikes.earlier hlater)
  rcases hexec : exec action w with ⟨stop | a, w₁⟩
  · rw [hexec] at hcalm
    exact Or.inl ⟨stop, w₁, exec_bind_of_error hexec, exec_bind_of_error hcalm⟩
  · obtain ⟨calls, -, hmade, hfaults, -⟩ := h w
    rw [hexec] at hcalm hmade hfaults
    rw [exec_bind_of_ok hexec] at hstrikes
    exact Or.inr ⟨a, w₁, rfl, hcalm, hstrikes.later hmade hfaults⟩

end Action

end Launcher
