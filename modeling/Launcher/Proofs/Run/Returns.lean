import Launcher.Proofs.Run.Faults
import Launcher.Proofs.Run.Writing

/-!
# Actions that come to a value

Calls report the errors of the system as values. An action that is made of calls with arguments that
the system can be given comes to a value in every world, whatever faults are planned.

## Main definitions

* `Launcher.Action.Returns` — an action comes to a value in every world.

## Main results

* `Launcher.Action.Returns.bind` — from parts to the whole.
* `Launcher.Action.returns_call` — a call comes to a value.
* `Launcher.Action.returns_makeDirectory` and its like — so do the calls themselves, unless they are
  refused.
-/

namespace Launcher.Action

variable {α β : Type} {action : Action α} {next : α → Action β} {path : Path}

/-- In every world the action comes to a value. -/
def Returns (action : Action α) : Prop := ∀ w, ∃ a w', exec action w = (.ok a, w')

namespace Returns

/-- A value comes to itself. -/
theorem pure (a : α) : Returns (Pure.pure a : Action α) := fun w => ⟨a, w, rfl⟩

/-- Looking at the world comes to the world. -/
theorem get : Returns (MonadState.get : Action World) := fun w => ⟨w, w, rfl⟩

/-- **One action after the other comes to a value** if each of them does. -/
theorem bind (h : Returns action) (hnext : ∀ a, Returns (next a)) : Returns (action >>= next) := by
  intro w
  obtain ⟨a, w₁, hfirst⟩ := h w
  rw [exec_bind_of_ok hfirst]
  exact hnext a w₁

/-- A choice comes to a value if both its branches do. -/
theorem ite {c : Prop} [Decidable c] {second : Action α} (h : Returns action)
    (hsecond : Returns second) : Returns (if c then action else second) := by
  split
  · exact h
  · exact hsecond

/-- An action that is not refused comes to the value that it comes to. -/
theorem unlessRefused {c : Bool} {failure : Failure} (hc : c = false) (h : Returns action) :
    Returns (do
      if c then Action.fail failure
      action) := by
  subst hc
  exact h

end Returns

/-- Logging always goes on. -/
theorem returns_log (level : Int) (message : Text) : Returns (log level message) := by
  intro w
  obtain ⟨log, hlog⟩ := exists_exec_log level message w
  exact ⟨_, _, hlog⟩

/-- A line without stray bytes can be written. -/
theorem returns_printLine {line : Text} (h : line.IsWritable) (keepEscapes : Bool) :
    Returns (printLine keepEscapes line) := by
  intro w
  obtain ⟨cs, hcs⟩ := Text.exists_chars?_of_isWritable (Text.isWritable_append.2
    ⟨isWritable_prepared h keepEscapes, Text.isWritable_map_char ['\n']⟩)
  exact ⟨_, _, exec_printLine_of_chars? hcs w⟩

/-- **A call comes to a value,** whatever faults are planned. -/
theorem returns_call (c : Call) (answer : α → Answer)
    (effect : Option Nat → Machine → Except Errno (α × Machine)) :
    Returns (call c answer effect) := by
  intro w
  rcases exec_call_cases c answer effect w with ⟨e, hexec⟩ | ⟨_, _, _, -, -, hexec⟩
  · exact ⟨_, _, hexec⟩
  · exact ⟨_, _, hexec⟩

/-- A path without a zero byte is not refused in any world. -/
theorem returns_requireNoZero (hzero : 0 ∉ path.toBytes) : Returns (requireNoZero path) :=
  fun w => ⟨_, w, exec_requireNoZero hzero w⟩

/-- Making a directory is answered, if its path has no zero byte and its mode fits. -/
theorem returns_makeDirectory {mode : Int} (hzero : 0 ∉ path.toBytes)
    (hfits : Numeral.fitsInt32 mode = true) : Returns (makeDirectory path mode) := by
  have hrefused : (!Numeral.fitsInt32 mode) = false := by rw [hfits]; rfl
  exact Returns.bind (returns_requireNoZero hzero) fun _ =>
    Returns.unlessRefused hrefused (returns_call _ _ _)

/-- Unlinking is answered, if its path has no zero byte. -/
theorem returns_unlink (hzero : 0 ∉ path.toBytes) : Returns (unlink path) :=
  Returns.bind (returns_requireNoZero hzero) fun _ => returns_call _ _ _

/-- Opening a file to read is answered, if its path has no zero byte. -/
theorem returns_openToRead (hzero : 0 ∉ path.toBytes) : Returns (openToRead path) :=
  Returns.bind (returns_requireNoZero hzero) fun _ => returns_call _ _ _

end Launcher.Action
