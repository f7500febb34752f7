import Launcher.Run.Call

/-!
# What actions do to a world

An action takes a world to a value or a stop, and to the world that it leaves. This module says what
that is for the ways in which actions are put together, for the primitive actions, and for calls on
the machine, whatever faults are planned.

## Main definitions

* `Launcher.Action.exec` — how an action ends, and the world that it leaves.
* `Launcher.Machine.counted` and `Launcher.Machine.respond` — a call as the machine sees it.
* `Launcher.World.afterCall` — the world after a call.
* `Launcher.World.withLog` and `Launcher.World.withThreshold` — the world with another log, or with
  another threshold of it.

## Main results

* `Launcher.Action.exec_bind` — one action after the other.
* `Launcher.Action.exec_call` — what a call does.
-/

namespace Launcher

/-- The world with another log of its process. -/
def World.withLog (w : World) (log : List LogRecord) : World :=
  { w with process := { w.process with log } }

/-- The world with another threshold of the log. -/
def World.withThreshold (w : World) (logThreshold : Int) : World :=
  { w with process := { w.process with logThreshold } }

/-! ## Putting actions together -/

namespace Action

variable {α β : Type} {action : Action α} {next : α → Action β} {w w' : World}

/-- How an action ends in a world, and the world that it leaves. -/
def exec (action : Action α) (w : World) : Except Stop α × World := action.run.run w

/-- A value comes of itself, and changes nothing. -/
@[simp] theorem exec_pure (a : α) (w : World) : exec (pure a) w = (.ok a, w) := rfl

/-- A failure stops an action, and changes nothing. -/
@[simp] theorem exec_fail (failure : Failure) (w : World) :
    exec (fail failure : Action α) w = (.error (.failed failure), w) := rfl

/-- Looking at the world gives the world, and changes nothing. -/
@[simp] theorem exec_get (w : World) : exec get w = (.ok w, w) := rfl

/-- A change of the world is made. -/
@[simp] theorem exec_modify (f : World → World) (w : World) :
    exec (modify f) w = (.ok ⟨⟩, f w) := rfl

/-- A record is added to the log if the threshold lets it pass. -/
theorem exec_log (level : Int) (message : Text) (w : World) :
    exec (log level message) w = (.ok ⟨⟩, w.withLog
      (if Level.isKept w.process.logThreshold level then w.process.log ++ [⟨level, message⟩]
        else w.process.log)) := by
  show (Except.ok _, { w with process := ite _ _ _ }) = _
  unfold World.withLog
  split <;> rfl

/-- A record of the log concerns nothing but the log. -/
theorem exists_exec_log (level : Int) (message : Text) (w : World) :
    ∃ records, exec (log level message) w = (.ok ⟨⟩, w.withLog records) :=
  ⟨_, exec_log level message w⟩

/-- **One action after the other.** The second one begins in the world that the first one leaves,
unless that one stops. -/
theorem exec_bind (action : Action α) (next : α → Action β) (w : World) :
    exec (action >>= next) w =
      match exec action w with
      | (.ok a, w') => exec (next a) w'
      | (.error stop, w') => (.error stop, w') := by
  show StateT.run (ExceptT.run (action >>= next)) w = _
  rw [ExceptT.run_bind, StateT.run_bind]
  unfold exec
  rcases StateT.run (ExceptT.run action) w with ⟨_ | _, _⟩ <;> rfl

/-- Behind an action that has come to a value the next one goes on with it. -/
theorem exec_bind_of_ok {a : α} (h : exec action w = (.ok a, w')) :
    exec (action >>= next) w = exec (next a) w' := by
  rw [exec_bind, h]

/-- Behind an action that has stopped nothing is done any more. -/
theorem exec_bind_of_error {stop : Stop} (h : exec action w = (.error stop, w')) :
    exec (action >>= next) w = (.error stop, w') := by
  rw [exec_bind, h]

/-- Two actions both come to their values, or there is none of the second. -/
theorem exec_bind_eq_ok {b : β} {w'' : World} :
    exec (action >>= next) w = (.ok b, w'') ↔
      ∃ a w', exec action w = (.ok a, w') ∧ exec (next a) w' = (.ok b, w'') := by
  rw [exec_bind]
  rcases exec action w with ⟨stop | a, w'⟩
  · simp
  · exact ⟨fun h => ⟨a, w', rfl, h⟩, fun ⟨_, _, hfirst, hnext⟩ => by cases hfirst; exact hnext⟩

/-- An action that is not refused goes on. -/
theorem exec_unlessRefused_eq_ok {c : Bool} {failure : Failure} {a : α}
    (h : exec (do
      if c then fail failure
      action) w = (.ok a, w')) : c = false ∧ exec action w = (.ok a, w') := by
  cases c
  · exact ⟨rfl, h⟩
  · exact absurd (congrArg Prod.fst h) (by simp [exec_bind])

/-- An action whose stops are caught goes on with what catches them. -/
theorem exec_tryCatch (action : Action α) (handler : Stop → Action α) (w : World) :
    exec (tryCatch action handler) w =
      match exec action w with
      | (.ok a, w') => (.ok a, w')
      | (.error stop, w') => exec (handler stop) w' := by
  have hfirst : exec action w = StateT.run action w := rfl
  show StateT.run (ExceptT.run (ExceptT.tryCatch action handler)) w = _
  unfold ExceptT.tryCatch
  rw [hfirst, ExceptT.run_mk, StateT.run_bind]
  rcases StateT.run action w with ⟨_ | _, _⟩ <;> rfl

end Action

/-! ## Calls -/

/-- The process with a call and its answer in its trace. -/
def Process.recorded (p : Process) (c : Call) (answer : Answer) : Process :=
  if c.isTraced then { p with trace := p.trace ++ [(c, answer)] } else p

namespace Machine

variable {α : Type}

/-- The machine after a call has been counted. -/
def counted (m : Machine) (c : Call) : Machine := { m with made := c.kind :: m.made }

/-- What comes of a call that has been counted, under the plan of faults. -/
def respond (m : Machine) (c : Call) (effect : Option Nat → Machine → Except Errno (α × Machine)) :
    Except Errno (α × Machine) :=
  match Fault.strike? m.faults c (m.made.count c.kind) with
  | some (.fail e) => .error e
  | some (.short limit) => effect (some limit) m
  | none => effect none m

/-- Without faults a call does what it is for. -/
theorem respond_of_faults_eq_nil {m : Machine} (h : m.faults = []) (c : Call)
    (effect : Option Nat → Machine → Except Errno (α × Machine)) :
    m.respond c effect = effect none m := by
  rw [respond, h]
  rfl

/-- What comes of a call comes of its effect, moving less or not, or else of a fault. -/
theorem exists_effect_of_respond {m : Machine} {c : Call}
    {effect : Option Nat → Machine → Except Errno (α × Machine)} {a : α} {after : Machine}
    (h : m.respond c effect = .ok (a, after)) : ∃ limit, effect limit m = .ok (a, after) := by
  unfold respond at h
  split at h
  · exact absurd h (by simp)
  · exact ⟨_, h⟩
  · exact ⟨_, h⟩

end Machine

/-- The world after a call without an effect on the machine. -/
def World.afterCall (w : World) (c : Call) (answer : Answer) : World :=
  { machine := w.machine.counted c, process := w.process.recorded c answer }

namespace Action

variable {α : Type}

/-- Recording a call changes the process only. -/
@[simp] theorem exec_record (c : Call) (answer : Answer) (w : World) :
    exec (record c answer) w = (.ok ⟨⟩, { w with process := w.process.recorded c answer }) := rfl

/-- **What a call does.** It is counted; the machine responds to it; the answer is recorded. A call
never stops the process. -/
theorem exec_call (c : Call) (answer : α → Answer)
    (effect : Option Nat → Machine → Except Errno (α × Machine)) (w : World) :
    exec (call c answer effect) w =
      match (w.machine.counted c).respond c effect with
      | .error e => (.ok (.error (.of e c.path?)), w.afterCall c (.error e))
      | .ok (a, after) => (.ok (.ok a), { w.afterCall c (answer a) with machine := after }) := by
  unfold call
  rw [exec_bind, exec_get]
  simp only [exec_bind, exec_modify]
  show exec (match (w.machine.counted c).respond c effect with
      | .error e => _
      | .ok (a, after) => _) _ = _
  rcases (w.machine.counted c).respond c effect with e | ⟨a, after⟩
  · rw [exec_bind, exec_record]
    rfl
  · rw [exec_bind, exec_modify]
    simp only [exec_bind, exec_record, exec_pure]
    rfl

/-- Without planned faults a call has its full effect, or fails for its own reasons. -/
theorem exec_call_of_faults_eq_nil {w : World} (h : w.machine.faults = []) (c : Call)
    (answer : α → Answer) (effect : Option Nat → Machine → Except Errno (α × Machine)) :
    exec (call c answer effect) w =
      match effect none (w.machine.counted c) with
      | .error e => (.ok (.error (.of e c.path?)), w.afterCall c (.error e))
      | .ok (a, after) => (.ok (.ok a), { w.afterCall c (answer a) with machine := after }) := by
  rw [exec_call, Machine.respond_of_faults_eq_nil (by exact h)]

/-- A call that comes to a value has had its effect, perhaps moving less than it was asked to. -/
theorem exists_effect_of_exec_call {c : Call} {answer : α → Answer}
    {effect : Option Nat → Machine → Except Errno (α × Machine)} {w w' : World} {a : α}
    (h : exec (call c answer effect) w = (.ok (.ok a), w')) :
    ∃ limit, effect limit (w.machine.counted c) = .ok (a, w'.machine) := by
  rw [exec_call] at h
  rcases hrespond : (w.machine.counted c).respond c effect with e | ⟨b, after⟩
  · rw [hrespond] at h
    exact absurd (congrArg Prod.fst h) (by simp)
  · rw [hrespond] at h
    cases h
    exact Machine.exists_effect_of_respond hrespond

end Action

end Launcher
