import Launcher.Proofs.Machine.Effects
import Launcher.Proofs.Run.Exec
import Launcher.Proofs.Text.Decoding

/-!
# Actions and the working directory

Only the lookup of a path that does not begin at the root, and the question for the working
directory itself, depend on the working directory. An action that does neither does the same in
every working directory, and also where it has been deleted.

## Main definitions

* `Launcher.World.inDirectory` — the world with another working directory.
* `Launcher.Action.IgnoresDirectory` — an action does the same in every working directory.

## Main results

* `Launcher.Action.IgnoresDirectory.bind` — from parts to the whole.
* `Launcher.Action.ignoresDirectory_call` — a call whose effect does not depend on the working
  directory.
* `Launcher.Action.ignoresDirectory_makeDirectory` and its like — the calls on paths from the root.
-/

namespace Launcher

/-- The world with another working directory, or with none. -/
def World.inDirectory (w : World) (directory : Option Text) : World :=
  { w with machine := w.machine.inDirectory directory }

/-- The path begins at the root. -/
def Path.IsFromRoot (path : Path) : Prop := path.toBytes.head? = some slashByte

/-- A text that begins with a separator is a path from the root. -/
theorem Path.isFromRoot_text {t : Text} (h : t.head? = some slash) : (Path.text t).IsFromRoot :=
  Text.head?_encode_of_head? h

/-- A path from the root names the same node in every working directory. -/
theorem Machine.status?_inDirectory {path : Path} (hroot : path.IsFromRoot) (m : Machine)
    (directory : Option Text) : (m.inDirectory directory).status? path = m.status? path := by
  unfold status?
  rw [(isUnnoticedAlong_inDirectory hroot directory).status_change]

namespace Action

variable {α β : Type} {action first second : Action α} {next : α → Action β} {path : Path}
  {w : World}

/-- **The action does the same in every working directory:** it comes to the same end and leaves the
same world, but for the working directory. -/
def IgnoresDirectory (action : Action α) (w : World) : Prop :=
  ∀ directory, exec action (w.inDirectory directory) =
    ((exec action w).1, (exec action w).2.inDirectory directory)

/-! ## Putting actions together -/

namespace IgnoresDirectory

/-- A value does not depend on the working directory. -/
theorem pure (a : α) (w : World) : IgnoresDirectory (Pure.pure a) w := fun _ => rfl

/-- A failure does not depend on the working directory. -/
theorem fail (failure : Failure) (w : World) :
    IgnoresDirectory (Action.fail failure : Action α) w := fun _ => rfl

/-- A stop does not depend on the working directory. -/
theorem throw (stop : Stop) (w : World) :
    IgnoresDirectory (MonadExcept.throw stop : Action α) w := fun _ => rfl

/-- A change of the process does not depend on the working directory. -/
theorem modifyProcess (f : Process → Process) (w : World) :
    IgnoresDirectory (Action.modifyProcess f) w := fun _ => rfl

/-- The value of a variable does not depend on the working directory. -/
theorem valueOf (name : String) (w : World) : IgnoresDirectory (Action.valueOf name) w :=
  fun _ => rfl

/-- **One action after the other ignores the working directory** if each of them does, where it
begins. -/
theorem bind (h : IgnoresDirectory first w)
    (hnext : ∀ a w', exec first w = (.ok a, w') → IgnoresDirectory (next a) w') :
    IgnoresDirectory (first >>= next) w := by
  intro directory
  rcases hfirst : exec first w with ⟨stop | a, w'⟩
  · have hmoved := h directory
    rw [hfirst] at hmoved
    rw [exec_bind_of_error hfirst, exec_bind_of_error hmoved]
  · have hmoved := h directory
    rw [hfirst] at hmoved
    rw [exec_bind_of_ok hfirst, exec_bind_of_ok hmoved]
    exact hnext a w' hfirst directory

/-- What looks at the world ignores the working directory if what it goes on with does not depend on
it. -/
theorem get_bind {next : World → Action β}
    (hsame : ∀ directory, next (w.inDirectory directory) = next w)
    (h : IgnoresDirectory (next w) w) : IgnoresDirectory (MonadState.get >>= next) w := by
  intro directory
  rw [exec_bind_of_ok (exec_get _), exec_bind_of_ok (exec_get w), hsame]
  exact h directory

/-- Catching stops ignores the working directory if what catches them does. -/
theorem tryCatch {handler : Stop → Action α} (h : IgnoresDirectory action w)
    (hhandler : ∀ stop w', IgnoresDirectory (handler stop) w') :
    IgnoresDirectory (MonadExcept.tryCatch action handler) w := by
  intro directory
  have hmoved := h directory
  rw [exec_tryCatch, exec_tryCatch, hmoved]
  rcases exec action w with ⟨stop | a, w'⟩
  · exact hhandler stop w' directory
  · rfl

/-- A choice ignores the working directory if both its branches do. -/
theorem ite {c : Prop} [Decidable c] (h : IgnoresDirectory first w)
    (h' : IgnoresDirectory second w) : IgnoresDirectory (if c then first else second) w := by
  split
  · exact h
  · exact h'

/-- A refusal may stand in front of an action that ignores the working directory. -/
theorem unlessRefused {c : Bool} {failure : Failure} (h : IgnoresDirectory action w) :
    IgnoresDirectory (do
      if c then Action.fail failure
      action) w :=
  ite (bind (fail failure w) fun _ _ hfail => by cases hfail) h

end IgnoresDirectory

/-! ## Log and streams -/

/-- The log does not depend on the working directory. -/
theorem ignoresDirectory_log (level : Int) (message : Text) (w : World) :
    IgnoresDirectory (log level message) w := IgnoresDirectory.modifyProcess _ w

/-- A line is printed in every working directory alike. -/
theorem ignoresDirectory_printLine (keepEscapes : Bool) (line : Text) (w : World) :
    IgnoresDirectory (printLine keepEscapes line) w := by
  refine IgnoresDirectory.bind ?_ fun _ w' _ => IgnoresDirectory.modifyProcess _ w'
  unfold bufferOutput
  split
  · exact IgnoresDirectory.fail _ w
  · exact IgnoresDirectory.modifyProcess _ w

/-- A line is printed as suits the output, in every working directory alike. -/
theorem ignoresDirectory_printPlain (line : Text) (w : World) :
    IgnoresDirectory (printPlain line) w :=
  IgnoresDirectory.get_bind (fun _ => rfl) (ignoresDirectory_printLine _ _ w)

/-- An error is printed in every working directory alike. -/
theorem ignoresDirectory_printError (line : Text) (w : World) :
    IgnoresDirectory (printError line) w :=
  IgnoresDirectory.get_bind (fun _ => rfl)
    (IgnoresDirectory.bind (IgnoresDirectory.modifyProcess _ w) fun _ w' _ =>
      IgnoresDirectory.modifyProcess _ w')

/-! ## Calls -/

/-- **A call ignores the working directory** if its effect does. -/
theorem ignoresDirectory_call (c : Call) (answer : α → Answer)
    {effect : Option Nat → Machine → Except Errno (α × Machine)}
    (heffect : ∀ limit (m : Machine) directory, effect limit (m.inDirectory directory) =
      (effect limit m).map fun (a, after) => (a, after.inDirectory directory)) (w : World) :
    IgnoresDirectory (call c answer effect) w := by
  intro directory
  have hrespond : ((w.inDirectory directory).machine.counted c).respond c effect =
      ((w.machine.counted c).respond c effect).map fun (a, after) =>
        (a, after.inDirectory directory) := by
    -- The plan and the count of calls are the same, so the same fault strikes if any does.
    have hstrike : Fault.strike? ((w.inDirectory directory).machine.counted c).faults c
          (((w.inDirectory directory).machine.counted c).made.count c.kind) =
        Fault.strike? (w.machine.counted c).faults c
          ((w.machine.counted c).made.count c.kind) := rfl
    unfold Machine.respond
    rw [hstrike]
    rcases Fault.strike? (w.machine.counted c).faults c
      ((w.machine.counted c).made.count c.kind) with _ | e | limit
    · exact heffect none (w.machine.counted c) directory
    · rfl
    · exact heffect (some limit) (w.machine.counted c) directory
  rw [exec_call, exec_call, hrespond]
  rcases (w.machine.counted c).respond c effect with e | ⟨a, after⟩
  · rfl
  · rfl

/-- A call that only looks ignores the working directory if its answer does. -/
theorem ignoresDirectory_call_of_reads (c : Call) (answer : α → Answer)
    {seen : Machine → Except Errno α}
    (hseen : ∀ (m : Machine) directory, seen (m.inDirectory directory) = seen m) (w : World) :
    IgnoresDirectory (call c answer fun _ m => (seen m).map (·, m)) w := by
  refine ignoresDirectory_call c answer (fun _ m directory => ?_) w
  rw [hseen]
  rcases seen m with e | a <;> rfl

/-- A path is refused in every working directory alike. -/
theorem ignoresDirectory_requireNoZero (path : Path) (w : World) :
    IgnoresDirectory (requireNoZero path) w :=
  IgnoresDirectory.ite (IgnoresDirectory.fail _ w) (IgnoresDirectory.pure _ w)

/-- A path from the root is made a directory in every working directory alike. -/
theorem ignoresDirectory_makeDirectory (hroot : path.IsFromRoot) (mode : Int) (w : World) :
    IgnoresDirectory (makeDirectory path mode) w := by
  refine IgnoresDirectory.bind (ignoresDirectory_requireNoZero path w) fun _ w' _ =>
    IgnoresDirectory.unlessRefused (ignoresDirectory_call _ _ (fun _ m directory => ?_) w')
  rw [Machine.makeDirectory_of_isUnnoticed (Machine.isUnnoticedAlong_inDirectory hroot directory)]
  rcases m.makeDirectory path.toBytes mode with e | after <;> rfl

/-- A path from the root is unlinked in every working directory alike. -/
theorem ignoresDirectory_unlink (hroot : path.IsFromRoot) (w : World) :
    IgnoresDirectory (unlink path) w := by
  refine IgnoresDirectory.bind (ignoresDirectory_requireNoZero path w) fun _ w' _ =>
    ignoresDirectory_call _ _ (fun _ m directory => ?_) w'
  rw [Machine.unlink_of_isUnnoticed (Machine.isUnnoticedAlong_inDirectory hroot directory)]
  rcases m.unlink path.toBytes with e | after <;> rfl

/-- A path from the root is opened to read in every working directory alike. -/
theorem ignoresDirectory_openToRead (hroot : path.IsFromRoot) (w : World) :
    IgnoresDirectory (openToRead path) w :=
  IgnoresDirectory.bind (ignoresDirectory_requireNoZero path w) fun _ w' _ =>
    ignoresDirectory_call_of_reads _ _ (fun m directory =>
      Machine.openToRead_of_isUnnoticed (Machine.isUnnoticedAlong_inDirectory hroot directory) m) w'

/-- A path from the root is opened to write in every working directory alike. -/
theorem ignoresDirectory_openToWrite (hroot : path.IsFromRoot) (w : World) :
    IgnoresDirectory (openToWrite path) w :=
  IgnoresDirectory.bind (ignoresDirectory_requireNoZero path w) fun _ w' _ =>
    ignoresDirectory_call _ _ (fun _ m directory =>
      Machine.openToWrite_of_isUnnoticed
        (Machine.isUnnoticedAlong_inDirectory hroot directory) m) w'

/-- An open file is read in every working directory alike. -/
theorem ignoresDirectory_read (reader : Reader) (size : Nat) (w : World) :
    IgnoresDirectory (read reader size) w := by
  refine ignoresDirectory_call _ _ (fun limit m directory => ?_) w
  rcases reader with _ | unread <;> rfl

/-- An open file is written in every working directory alike. -/
theorem ignoresDirectory_write (location : Location) (content : Bytes) (w : World) :
    IgnoresDirectory (write location content) w := by
  refine ignoresDirectory_call _ _ (fun limit m directory => ?_) w
  -- The location is known already, so it does not matter along which path nothing is noticed.
  have hunnoticed : Machine.IsUnnoticedAlong [slashByte] fun m => m.inDirectory directory :=
    Machine.isUnnoticedAlong_inDirectory rfl directory
  exact congrArg (fun after => Except.ok (_, after))
    (Machine.store_of_isUnnoticed hunnoticed m location _)

/-- An open file is closed in every working directory alike. -/
theorem ignoresDirectory_close (w : World) : IgnoresDirectory close w :=
  ignoresDirectory_call _ _ (fun _ _ _ => rfl) w

/-- A program whose path begins at the root is executed in every working directory alike. -/
theorem ignoresDirectory_execute {program : Text} (hroot : program.head? = some slash)
    (arguments : List Text) (w : World) : IgnoresDirectory (execute program arguments) w := by
  refine IgnoresDirectory.bind (ignoresDirectory_requireNoZero _ w) fun _ w₁ _ =>
    IgnoresDirectory.unlessRefused
      (IgnoresDirectory.unlessRefused (IgnoresDirectory.unlessRefused ?_))
  refine IgnoresDirectory.bind (ignoresDirectory_call_of_reads _ _ (fun m directory =>
    Machine.execute_of_isUnnoticed (Machine.isUnnoticedAlong_inDirectory
      (Path.isFromRoot_text hroot) directory) m) w₁) fun result w₂ _ => ?_
  rcases result with e | ⟨⟩
  · exact IgnoresDirectory.pure _ w₂
  · -- What the process becomes is made of the process alone.
    exact fun _ => rfl

end Action

end Launcher
