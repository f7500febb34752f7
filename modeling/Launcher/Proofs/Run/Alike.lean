import Launcher.Proofs.Run.Frame

/-!
# Runs in worlds that are alike

Two worlds are alike if nothing that counts is different in them: the machines are the same, and the
processes have written and called the same. How many calls were made does not count where no faults
are planned, and the log and the error stream never do. The environments may differ in a way that
has to be said. Actions agree if in worlds that are alike they come to the same end, and leave
worlds that are alike; so one run tells what another one does.

## Main definitions

* `Launcher.World.Alike` — worlds that are alike, up to a relation of their environments.
* `Launcher.Action.Agree` — actions that do the same in worlds that are alike.
* `Launcher.Action.IgnoresCount` — the effect of a call does not depend on how many there were.

## Main results

* `Launcher.Action.Agree.bind` — from parts to the whole.
* `Launcher.Action.agree_call` — a call does the same in worlds that are alike.
-/

namespace Launcher

variable {E : Environment → Environment → Prop}

/-! ## Worlds that are alike -/

/-- The worlds are alike: the same machine, up to a count of calls that no fault asks for, and
processes that have written and called the same, in environments that are related. -/
structure World.Alike (E : Environment → Environment → Prop) (w w' : World) : Prop where
  bare_eq : w'.bare = w.bare
  counts : w.machine.faults = [] ∨ w'.machine.made = w.machine.made
  environment : E w.process.environment w'.process.environment
  output_eq : w'.process.output = w.process.output
  trace_eq : w'.process.trace = w.process.trace

/-- The programs that two processes become are the same, in environments that are related. -/
structure Image.Alike (E : Environment → Environment → Prop) (image image' : Image) : Prop where
  path_eq : image'.path = image.path
  arguments_eq : image'.arguments = image.arguments
  environment : E image.environment image'.environment
  output_eq : image'.output = image.output

/-- Two processes stop for the same failure, or become the same program, or both go on for ever. -/
def Stop.Alike (E : Environment → Environment → Prop) : Stop → Stop → Prop
  | .failed failure, .failed failure' => failure' = failure
  | .replaced image, .replaced image' => image.Alike E image'
  | .unending, .unending => True
  | _, _ => False

namespace World.Alike

variable {w w' : World}

/-- A machine that is alike is the same one, with a count of its own. -/
theorem machine_eq (h : w.Alike E w') :
    w'.machine = { w.machine with made := w'.machine.made } := by
  have hmachine := congrArg (fun m : Machine => { m with made := w'.machine.made }) h.bare_eq
  exact hmachine

/-- A call is counted alike. -/
theorem counted_eq (h : w.Alike E w') (c : Call) :
    w'.machine.counted c = { w.machine.counted c with made := (w'.machine.counted c).made } := by
  unfold Machine.counted
  rw [h.machine_eq]

/-- Alike worlds have the same terminal. -/
theorem terminal_eq (h : w.Alike E w') : w'.machine.terminal = w.machine.terminal := by
  rw [h.machine_eq]

/-- In alike worlds the same faults are planned. -/
theorem faults_eq (h : w.Alike E w') : w'.machine.faults = w.machine.faults := by
  rw [h.machine_eq]

/-- In alike worlds the same account is found for the user. -/
theorem account?_eq (h : w.Alike E w') : w'.machine.account? = w.machine.account? := by
  rw [h.machine_eq]
  rfl

/-- In alike worlds a path leads to the same node. -/
theorem status?_eq (h : w.Alike E w') (path : Path) :
    w'.machine.status? path = w.machine.status? path := by
  rw [h.machine_eq]
  rfl

/-- Alike worlds have the same directories. -/
theorem isDirectory_eq (h : w.Alike E w') (path : Path) :
    w'.machine.isDirectory path = w.machine.isDirectory path := by
  rw [Machine.isDirectory, h.status?_eq path, Machine.isDirectory]

/-- Alike worlds have the same programs. -/
theorem isProgram_eq (h : w.Alike E w') (path : Path) :
    w'.machine.isProgram path = w.machine.isProgram path := by
  rw [Machine.isProgram, h.status?_eq path, Machine.isProgram]

/-- A world is like itself if its environment is. -/
theorem refl (h : E w.process.environment w.process.environment) : w.Alike E w :=
  ⟨rfl, Or.inr rfl, h, rfl, rfl⟩

/-- Processes that change in the same way on machines that are alike. -/
theorem of_process {p p' : Process} (h : w.Alike E w')
    (henvironment : E p.environment p'.environment)
    (houtput : p'.output = p.output) (htrace : p'.trace = p.trace) :
    World.Alike E { w with process := p } { w' with process := p' } :=
  ⟨h.bare_eq, h.counts, henvironment, houtput, htrace⟩

end World.Alike

/-! ## Actions that agree -/

namespace Action

variable {α β : Type} {first second : Action α} {next next' : α → Action β}

/-- Two results are the same, or the stops are alike. -/
def ResultsAlike (E : Environment → Environment → Prop) : Except Stop α → Except Stop α → Prop
  | .ok a, .ok b => b = a
  | .error stop, .error stop' => stop.Alike E stop'
  | _, _ => False

/-- In worlds that are alike the actions come to the same end, and leave worlds that are alike. -/
def Agree (E : Environment → Environment → Prop) (first second : Action α) : Prop :=
  ∀ w w', w.Alike E w' → ResultsAlike E (exec first w).1 (exec second w').1 ∧
    (exec first w).2.Alike E (exec second w').2

/-- Actions that agree both stop or both come to a value. -/
theorem Agree.cases (h : Agree E first second) {w w' : World} (hw : w.Alike E w') :
    (∃ stop stop' w₁ w₁', exec first w = (.error stop, w₁) ∧ exec second w' = (.error stop', w₁') ∧
        stop.Alike E stop' ∧ w₁.Alike E w₁') ∨
      ∃ a w₁ w₁', exec first w = (.ok a, w₁) ∧ exec second w' = (.ok a, w₁') ∧ w₁.Alike E w₁' := by
  obtain ⟨hresult, hworld⟩ := h w w' hw
  rcases hfirst : exec first w with ⟨stop | a, w₁⟩
  · rcases hsecond : exec second w' with ⟨stop' | b, w₁'⟩
    · rw [hfirst, hsecond] at hresult hworld
      exact Or.inl ⟨stop, stop', w₁, w₁', rfl, rfl, hresult, hworld⟩
    · rw [hfirst, hsecond] at hresult
      exact hresult.elim
  · rcases hsecond : exec second w' with ⟨stop' | b, w₁'⟩
    · rw [hfirst, hsecond] at hresult
      exact hresult.elim
    · rw [hfirst, hsecond] at hresult hworld
      obtain rfl : b = a := hresult
      exact Or.inr ⟨b, w₁, w₁', rfl, rfl, hworld⟩

/-- The value to which one of the actions comes, the other one comes to. -/
theorem Agree.exec_eq_ok (h : Agree E first second) {w w' w₁ : World} {a : α} (hw : w.Alike E w')
    (hfirst : exec first w = (.ok a, w₁)) :
    ∃ w₁', exec second w' = (.ok a, w₁') ∧ w₁.Alike E w₁' := by
  rcases h.cases hw with ⟨stop, _, _, _, hstop, -⟩ | ⟨b, v, v', hvalue, hsecond, hworld⟩
  · rw [hfirst] at hstop
    cases hstop
  · rw [hfirst] at hvalue
    cases hvalue
    exact ⟨v', hsecond, hworld⟩

namespace Agree

/-- A value is the same in alike worlds. -/
theorem pure (a : α) : Agree E (Pure.pure a) (Pure.pure a) := fun _ _ h => ⟨rfl, h⟩

/-- A failure is the same in alike worlds. -/
theorem fail (failure : Failure) : Agree E (Action.fail failure : Action α) (Action.fail failure) :=
  fun _ _ h => ⟨rfl, h⟩

/-- **Actions whose parts agree agree.** -/
theorem bind (h : Agree E first second) (hnext : ∀ a, Agree E (next a) (next' a)) :
    Agree E (first >>= next) (second >>= next') := by
  intro w w' hw
  rcases h.cases hw with ⟨stop, stop', w₁, w₁', hfirst, hsecond, hstop, hworld⟩ |
      ⟨a, w₁, w₁', hfirst, hsecond, hworld⟩
  · rw [exec_bind_of_error hfirst, exec_bind_of_error hsecond]
    exact ⟨hstop, hworld⟩
  · rw [exec_bind_of_ok hfirst, exec_bind_of_ok hsecond]
    exact hnext a w₁ w₁' hworld

/-- Actions that look at the world may be about what is different in worlds that are alike, as long
as they agree in the end. -/
theorem get_bind {next next' : World → Action β}
    (h : ∀ w w', w.Alike E w' → Agree E (next w) (next' w')) :
    Agree E (MonadState.get >>= next) (MonadState.get >>= next') := by
  intro w w' hw
  rw [exec_bind_of_ok (exec_get w), exec_bind_of_ok (exec_get w')]
  exact h w w' hw w w' hw

/-- Actions whose stops are caught agree if what catches them does. -/
theorem tryCatch {handler handler' : Stop → Action α} (h : Agree E first second)
    (hhandler : ∀ stop stop', stop.Alike E stop' → Agree E (handler stop) (handler' stop')) :
    Agree E (MonadExcept.tryCatch first handler) (MonadExcept.tryCatch second handler') := by
  intro w w' hw
  rw [exec_tryCatch, exec_tryCatch]
  rcases h.cases hw with ⟨stop, stop', w₁, w₁', hfirst, hsecond, hstop, hworld⟩ |
      ⟨a, w₁, w₁', hfirst, hsecond, hworld⟩
  · rw [hfirst, hsecond]
    exact hhandler stop stop' hstop w₁ w₁' hworld
  · rw [hfirst, hsecond]
    exact ⟨rfl, hworld⟩

/-- Actions that only stop agree if their stops are alike. -/
theorem throw {stop stop' : Stop} (h : stop.Alike E stop') :
    Agree E (MonadExcept.throw stop : Action α) (MonadExcept.throw stop') :=
  fun _ _ hw => ⟨h, hw⟩

/-- A choice agrees if both its branches do. -/
theorem ite {c : Prop} [Decidable c] {first' second' : Action α} (h : Agree E first second)
    (h' : Agree E first' second') :
    Agree E (if c then first else first') (if c then second else second') := by
  split
  · exact h
  · exact h'

/-- Changes of the process agree if they leave alike worlds alike. -/
theorem modifyProcess {f g : Process → Process}
    (h : ∀ w w' : World, w.Alike E w' →
      World.Alike E { w with process := f w.process } { w' with process := g w'.process }) :
    Agree E (Action.modifyProcess f) (Action.modifyProcess g) :=
  fun w w' hw => ⟨rfl, h w w' hw⟩

/-- The value of a variable in which the environments agree. -/
theorem valueOf {name : String} (h : ∀ env env', E env env' → env'.lookup name = env.lookup name) :
    Agree E (Action.valueOf name) (Action.valueOf name) :=
  fun _ _ hw => ⟨h _ _ hw.environment, hw⟩

/-- A refusal in front of actions that agree is the same for both. -/
theorem unlessRefused {c : Bool} {failure : Failure} (h : Agree E first second) :
    Agree E (do
      if c then Action.fail failure
      first) (do
      if c then Action.fail failure
      second) :=
  ite (bind (fail failure) fun _ => h) h

end Agree

/-! ## Log and streams -/

/-- Records of the log do not count. -/
theorem agree_log (level : Int) (message : Text) :
    Agree E (log level message) (log level message) := by
  refine Agree.modifyProcess fun w w' h => ?_
  refine h.of_process ?_ ?_ ?_
  · split <;> split <;> exact h.environment
  · split <;> split <;> exact h.output_eq
  · split <;> split <;> exact h.trace_eq

/-- Setting a variable agrees wherever it keeps the environments related. -/
theorem agree_setVariable {name : String} {value : Text}
    (h : ∀ env env', E env env' → E (env.set name value) (env'.set name value)) :
    Agree E (setVariable name value) (setVariable name value) :=
  Agree.modifyProcess fun _ _ hw => hw.of_process (h _ _ hw.environment) hw.output_eq hw.trace_eq

/-- Sending the output out does the same in alike worlds. -/
theorem agree_flush : Agree E flush flush :=
  Agree.modifyProcess fun _ _ hw =>
    hw.of_process hw.environment (congrArg Stream.flush hw.output_eq) hw.trace_eq

/-- A line is printed, or cannot be written, alike in alike worlds. -/
theorem agree_printLine (keepEscapes : Bool) (line : Text) :
    Agree E (printLine keepEscapes line) (printLine keepEscapes line) := by
  refine Agree.bind ?_ fun _ => Agree.modifyProcess fun _ _ hw =>
    hw.of_process hw.environment (congrArg Stream.flush hw.output_eq) hw.trace_eq
  unfold bufferOutput
  split
  · exact Agree.fail _
  · rename_i cs _
    exact Agree.modifyProcess fun _ _ hw =>
      hw.of_process hw.environment (congrArg (·.write cs) hw.output_eq) hw.trace_eq

/-- A line is printed as suits the output, alike in alike worlds. -/
theorem agree_printPlain (line : Text) : Agree E (printPlain line) (printPlain line) := by
  refine Agree.get_bind fun w w' hw => ?_
  rw [hw.terminal_eq]
  exact agree_printLine _ _

/-- What is written to the error stream does not count. -/
theorem agree_printError (line : Text) : Agree E (printError line) (printError line) := by
  refine Agree.get_bind fun w w' hw => ?_
  rw [hw.terminal_eq]
  exact Agree.bind
    (Agree.modifyProcess fun _ _ hw => hw.of_process hw.environment hw.output_eq hw.trace_eq)
    fun _ => Agree.modifyProcess fun _ _ hw => hw.of_process hw.environment hw.output_eq hw.trace_eq

/-! ## Calls -/

section Calls

variable {c : Call} {answer : α → Answer}
  {effect : Option Nat → Machine → Except Errno (α × Machine)}

/-- The effect of a call does not depend on how many calls there were, and plans no faults. -/
structure IgnoresCount (effect : Option Nat → Machine → Except Errno (α × Machine)) : Prop where
  map_made : ∀ limit m made, effect limit { m with made } =
    (effect limit m).map fun (a, after) => (a, { after with made })
  faults_eq : ∀ limit m a after, effect limit m = .ok (a, after) → after.faults = m.faults

/-- What the machine responds does not depend on a count that no fault asks for. -/
theorem respond_eq_of_alike (heffect : IgnoresCount effect) {w w' : World} (h : w.Alike E w') :
    (w'.machine.counted c).respond c effect =
      ((w.machine.counted c).respond c effect).map fun (a, after) =>
        (a, { after with made := (w'.machine.counted c).made }) := by
  have hstrike : Fault.strike? (w'.machine.counted c).faults c
        ((w'.machine.counted c).made.count c.kind) =
      Fault.strike? (w.machine.counted c).faults c ((w.machine.counted c).made.count c.kind) := by
    have hfaults : (w'.machine.counted c).faults = (w.machine.counted c).faults := h.faults_eq
    rcases h.counts with hnone | hmade
    · have hnone' : (w.machine.counted c).faults = [] := hnone
      rw [hfaults, hnone']
      rfl
    · have hmade' : (w'.machine.counted c).made = (w.machine.counted c).made := by
        unfold Machine.counted
        rw [hmade]
      rw [hfaults, hmade']
  have heffective : ∀ limit, effect limit (w'.machine.counted c) =
      (effect limit (w.machine.counted c)).map fun (a, after) =>
        (a, { after with made := (w'.machine.counted c).made }) := by
    intro limit
    rw [h.counted_eq c]
    exact heffect.map_made limit (w.machine.counted c) _
  unfold Machine.respond
  rw [hstrike]
  rcases Fault.strike? (w.machine.counted c).faults c
    ((w.machine.counted c).made.count c.kind) with _ | e | limit
  · exact heffective none
  · rfl
  · exact heffective (some limit)

/-- A call lengthens the traces of alike worlds by the same entry. -/
theorem trace_recorded_of_alike {w w' : World} (h : w.Alike E w') (c : Call) (a : Answer) :
    (w'.process.recorded c a).trace = (w.process.recorded c a).trace := by
  unfold Process.recorded
  split
  · exact congrArg (· ++ [(c, a)]) h.trace_eq
  · exact h.trace_eq

/-- Recording a call leaves the environment as it is. -/
theorem environment_recorded (p : Process) (c : Call) (a : Answer) :
    (p.recorded c a).environment = p.environment := by
  unfold Process.recorded
  split <;> rfl

/-- Recording a call leaves the output as it is. -/
theorem output_recorded (p : Process) (c : Call) (a : Answer) :
    (p.recorded c a).output = p.output := by
  unfold Process.recorded
  split <;> rfl

/-- Worlds that are alike are so after a call that has changed the machine in the same way. -/
theorem alike_of_call {w w' : World} (h : w.Alike E w') (c : Call) (a : Answer) {after : Machine}
    (hcounts : after.faults = [] ∨ (w'.machine.counted c).made = after.made) :
    World.Alike E { machine := after, process := w.process.recorded c a }
      { machine := { after with made := (w'.machine.counted c).made },
        process := w'.process.recorded c a } where
  bare_eq := rfl
  counts := hcounts
  environment := by
    simp only [environment_recorded]
    exact h.environment
  output_eq := by
    simp only [output_recorded]
    exact h.output_eq
  trace_eq := trace_recorded_of_alike h c a

/-- **A call does the same in worlds that are alike.** -/
theorem agree_call (heffect : IgnoresCount effect) :
    Agree E (call c answer effect) (call c answer effect) := by
  intro w w' h
  have hcounts : (w.machine.counted c).faults = [] ∨
      (w'.machine.counted c).made = (w.machine.counted c).made := by
    refine h.counts.imp id fun hmade => ?_
    unfold Machine.counted
    rw [hmade]
  rw [exec_call, exec_call, respond_eq_of_alike heffect h]
  rcases hrespond : (w.machine.counted c).respond c effect with e | ⟨a, after⟩
  · refine ⟨rfl, ?_⟩
    have halike := alike_of_call h c (.error e) hcounts
    rw [← h.counted_eq c] at halike
    exact halike
  · obtain ⟨limit, heffective⟩ := Machine.exists_effect_of_respond hrespond
    refine ⟨rfl, alike_of_call h c (answer a) ?_⟩
    refine hcounts.imp (fun hnone => (heffect.faults_eq _ _ _ _ heffective).trans hnone)
      fun hmade => ?_
    -- An effect that does not depend on the count does not change it.
    have hown := heffect.map_made limit (w.machine.counted c) (w.machine.counted c).made
    have hsame : effect limit (w.machine.counted c) =
        (effect limit (w.machine.counted c)).map fun (a, after) =>
          (a, { after with made := (w.machine.counted c).made }) := hown
    rw [heffective] at hsame
    have hafter := congrArg Machine.made (Prod.mk.inj (Except.ok.inj hsame)).2
    exact hmade.trans hafter.symm

/-- The effect of a call that only looks does not depend on the count of calls. -/
theorem ignoresCount_of_reads {answer : Option Nat → Machine → Except Errno α}
    (h : ∀ limit m made, answer limit { m with made } = answer limit m) :
    IgnoresCount fun limit m => (answer limit m).map (·, m) where
  map_made limit m made := by
    simp only [h]
    rcases answer limit m with e | a <;> rfl
  faults_eq limit m a after hok := by rw [looks_of_answer answer limit m a after hok]

/-- The effect of a call that changes at most the tree plans no faults. -/
theorem ignoresCount_of_changesTree
    (hmade : ∀ limit m made, effect limit { m with made } =
      (effect limit m).map fun (a, after) => (a, { after with made }))
    (htree : ChangesTree effect) : IgnoresCount effect where
  map_made := hmade
  faults_eq limit m a after h := by
    obtain ⟨tree, rfl⟩ := htree limit m a after h
    rfl

end Calls

/-! ### The calls themselves -/

/-- A path with a zero byte is refused in alike worlds alike. -/
theorem agree_requireNoZero (path : Path) :
    Agree E (requireNoZero path) (requireNoZero path) :=
  Agree.ite (Agree.fail _) (Agree.pure _)

/-- The working directory is told alike in alike worlds. -/
theorem agree_workingDirectory? : Agree E workingDirectory? workingDirectory? := by
  refine agree_call (ignoresCount_of_changesTree (fun limit m made => ?_)
    looks_workingDirectory.changesTree)
  obtain ⟨_, workingDirectory, _, _, _, _, _, _⟩ := m
  rcases workingDirectory with _ | directory <;> rfl

/-- Making a directory is answered alike in alike worlds. -/
theorem agree_makeDirectory (path : Path) (mode : Int) :
    Agree E (makeDirectory path mode) (makeDirectory path mode) := by
  refine Agree.bind (agree_requireNoZero path) fun _ => Agree.unlessRefused ?_
  refine agree_call (ignoresCount_of_changesTree (fun _ m made => ?_)
    (changesTree_makeDirectory _ mode))
  rw [Machine.makeDirectory_made]
  rcases m.makeDirectory path.toBytes mode with e | after <;> rfl

/-- Unlinking is answered alike in alike worlds. -/
theorem agree_unlink (path : Path) : Agree E (unlink path) (unlink path) := by
  refine Agree.bind (agree_requireNoZero path) fun _ => ?_
  refine agree_call (ignoresCount_of_changesTree (fun _ m made => ?_) (changesTree_unlink _))
  rw [Machine.unlink_made]
  rcases m.unlink path.toBytes with e | after <;> rfl

/-- Opening a file to read is answered alike in alike worlds. -/
theorem agree_openToRead (path : Path) : Agree E (openToRead path) (openToRead path) :=
  Agree.bind (agree_requireNoZero path) fun _ =>
    agree_call (ignoresCount_of_reads fun _ _ _ => rfl)

/-- Opening a file to write is answered alike in alike worlds. -/
theorem agree_openToWrite (path : Path) : Agree E (openToWrite path) (openToWrite path) :=
  Agree.bind (agree_requireNoZero path) fun _ =>
    agree_call (ignoresCount_of_changesTree (fun _ m made => m.openToWrite_made _ made)
      (changesTree_openToWrite _))

/-- A read gives the same bytes in alike worlds. -/
theorem agree_read (reader : Reader) (size : Nat) :
    Agree E (read reader size) (read reader size) := by
  refine agree_call (ignoresCount_of_changesTree (fun limit m made => ?_)
    (looks_read reader size).changesTree)
  rcases reader with _ | unread <;> rfl

/-- A write stores the same bytes in alike worlds. -/
theorem agree_write (location : Location) (content : Bytes) :
    Agree E (write location content) (write location content) := by
  refine agree_call (ignoresCount_of_changesTree (fun limit m made => ?_)
    (changesTree_write location content))
  simp only [Machine.store_made]
  rfl

/-- A close is answered alike in alike worlds. -/
theorem agree_close : Agree E close close :=
  agree_call (ignoresCount_of_changesTree (fun _ _ _ => rfl) looks_close.changesTree)

/-- The programs that two processes become are alike, since the processes are. -/
theorem agree_execute (path : Text) (arguments : List Text) :
    Agree E (execute path arguments) (execute path arguments) := by
  refine Agree.bind (agree_requireNoZero _) fun _ =>
    Agree.unlessRefused (Agree.unlessRefused (Agree.unlessRefused ?_))
  refine Agree.bind (agree_call (ignoresCount_of_reads fun _ _ _ => rfl)) fun result => ?_
  rcases result with e | ⟨⟩
  · exact Agree.pure _
  · exact Agree.get_bind fun w w' h => Agree.throw
      ⟨rfl, rfl, h.environment, congrArg Stream.flushed h.output_eq⟩

end Action

end Launcher
