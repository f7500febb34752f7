import Launcher.OptionToken
import Launcher.Proofs.Run.Writing

/-!
# How actions stop

Nothing but the execution of a program replaces the process. Everything else either comes to a value
or fails, and where it ends the launch there is a message to be seen.

## Main definitions

* `Launcher.Stop.IsSaid` — a failure, with a message if it ends the launch.
* `Launcher.Action.Says` — an action that stops in no other way.

## Main results

* `Launcher.Action.Says.bind` — from parts to the whole.
* `Launcher.Action.says_call` — a call never stops the process.
-/

namespace Launcher

open Launcher.Action

/-- What a launch that ends says begins with a character of its own if its message does. -/
theorem Fatal.isVisible_render {f : Fatal} (h : f.message.IsVisible) : f.render.IsVisible := by
  unfold Fatal.render
  rcases f.reason with _ | reason
  · exact h
  · have herror : Text.IsVisible (lit "Error: ") := ⟨'E', _, rfl, by decide⟩
    exact ((herror.append _).append _).append _

/-- The message of a value that is not acceptable can be seen. -/
theorem InvalidValue.isVisible_message (v : InvalidValue) : v.message.IsVisible := by
  cases v <;> exact ⟨_, _, rfl, by decide⟩

/-- The message of a refused option can be seen. -/
theorem OptionError.isVisible_message (e : OptionError) : e.message.IsVisible := by
  cases e <;> exact ⟨_, _, rfl, by decide⟩

namespace Stop

/-- The process has failed, and has not become another program. If the launch ends, its message can
be seen. -/
inductive IsSaid : Stop → Prop
  | fatal {f : Fatal} (h : f.message.IsVisible) : IsSaid (.failed (.fatal f))
  | unexpected {failure : Failure} (h : ∀ f, failure ≠ .fatal f) : IsSaid (.failed failure)

variable {message : Text}

/-- What has failed has come to an end. -/
theorem IsSaid.ne_unending {stop : Stop} (h : stop.IsSaid) : stop ≠ .unending := by
  rintro rfl
  cases h

/-- A failure with a message that can be seen is said. -/
theorem isSaid_fail (code : ExitCode) (h : message.IsVisible) :
    IsSaid (.failed (.fail code message)) := .fatal h

/-- An error is said behind a message that can be seen. -/
theorem isSaid_because (code : ExitCode) (h : message.IsVisible) (e : OsError) :
    IsSaid (.failed (.because code message e)) := by
  rcases hfailure : Failure.because code message e with f | e' | v | _ | _
  · exact .fatal ((Failure.of_because hfailure).2.symm ▸ h)
  · exact .unexpected fun _ => by simp
  · exact .unexpected fun _ => by simp
  · exact .unexpected fun _ => by simp
  · exact .unexpected fun _ => by simp

end Stop

namespace Action

variable {α β : Type} {action : Action α} {next : α → Action β} {path : Path}

/-- An action that stops in no other way than by failing, and says why. -/
def Says (action : Action α) : Prop :=
  ∀ w stop w', exec action w = (.error stop, w') → stop.IsSaid

namespace Says

/-- An action that always comes to a value does not stop. -/
theorem of_value (h : ∀ w, ∃ a, (exec action w).1 = .ok a) : Says action := by
  intro w stop w' hexec
  obtain ⟨a, ha⟩ := h w
  rw [hexec] at ha
  cases ha

/-- A value does not stop. -/
theorem pure (a : α) : Says (Pure.pure a : Action α) := of_value fun _ => ⟨a, rfl⟩

/-- Looking at the world does not stop. -/
theorem get : Says (MonadState.get : Action World) := of_value fun w => ⟨w, rfl⟩

/-- Looking up a variable does not stop. -/
theorem valueOf (name : String) : Says (Action.valueOf name) :=
  of_value fun w => ⟨w.process.environment.lookup name, rfl⟩

/-- A change of the process does not stop. -/
theorem modifyProcess (f : Process → Process) : Says (Action.modifyProcess f) :=
  of_value fun _ => ⟨⟨⟩, rfl⟩

/-- A failure that is said stops with being said. -/
theorem fail {failure : Failure} (h : Stop.IsSaid (.failed failure)) :
    Says (Action.fail failure : Action α) := by
  intro w stop w' hexec
  cases hexec
  exact h

/-- **What two actions say, both of them together say.** -/
theorem bind (hfirst : Says action) (hnext : ∀ a, Says (next a)) : Says (action >>= next) := by
  intro w stop w' hexec
  rw [exec_bind] at hexec
  rcases hmiddle : exec action w with ⟨stop' | a, w''⟩
  · rw [hmiddle] at hexec
    cases hexec
    exact hfirst w _ _ hmiddle
  · rw [hmiddle] at hexec
    exact hnext a w'' stop w' hexec

/-- A choice says why it stops if both its branches do. -/
theorem ite {c : Prop} [Decidable c] {first second : Action α} (hfirst : Says first)
    (hsecond : Says second) : Says (if c then first else second) := by
  split
  · exact hfirst
  · exact hsecond

/-- A refusal that is said may stand in front of an action that says why it stops. -/
theorem unlessRefused {c : Bool} {failure : Failure} (hfailure : Stop.IsSaid (.failed failure))
    (h : Says action) :
    Says (do
      if c then Action.fail failure
      action) :=
  ite (bind (fail hfailure) fun _ => h) h

end Says

/-! ## Calls, log and output -/

/-- Logging does not stop. -/
theorem says_log (level : Int) (message : Text) : Says (log level message) :=
  Says.modifyProcess _

/-- A call never stops the process. -/
theorem says_call (c : Call) (answer : α → Answer)
    (effect : Option Nat → Machine → Except Errno (α × Machine)) :
    Says (call c answer effect) := by
  refine Says.of_value fun w => ?_
  rw [exec_call]
  rcases (w.machine.counted c).respond c effect with e | ⟨a, after⟩
  · exact ⟨_, rfl⟩
  · exact ⟨_, rfl⟩

/-- A path with a zero byte is refused with an exception of its own. -/
theorem says_requireNoZero (path : Path) : Says (requireNoZero path) :=
  Says.ite (Says.fail (.unexpected fun _ => by simp)) (Says.pure _)

/-- Making a directory stops only over its path or its mode, and says so. -/
theorem says_makeDirectory (path : Path) (mode : Int) : Says (makeDirectory path mode) :=
  Says.bind (says_requireNoZero path) fun _ =>
    Says.unlessRefused (.unexpected fun _ => by simp) (says_call _ _ _)

/-- Unlinking stops only over its path, and says so. -/
theorem says_unlink (path : Path) : Says (unlink path) :=
  Says.bind (says_requireNoZero path) fun _ => says_call _ _ _

/-- Opening a file to read stops only over its path, and says so. -/
theorem says_openToRead (path : Path) : Says (openToRead path) :=
  Says.bind (says_requireNoZero path) fun _ => says_call _ _ _

/-- Opening a file to write stops only over its path, and says so. -/
theorem says_openToWrite (path : Path) : Says (openToWrite path) :=
  Says.bind (says_requireNoZero path) fun _ => says_call _ _ _

/-- A line that cannot be written to the output is no end of a launch. -/
theorem says_printLine (keepEscapes : Bool) (line : Text) : Says (printLine keepEscapes line) := by
  refine Says.bind ?_ fun _ => Says.modifyProcess _
  unfold bufferOutput
  split
  · exact Says.fail (.unexpected fun _ => by simp)
  · exact Says.modifyProcess _

/-- Printing stops only over a line that cannot be written, and says so. -/
theorem says_printPlain (line : Text) : Says (printPlain line) :=
  Says.bind Says.get fun _ => says_printLine _ line

/-- Printing an error does not stop. -/
theorem says_printError (line : Text) : Says (printError line) :=
  Says.bind Says.get fun _ => Says.bind (Says.modifyProcess _) fun _ => Says.modifyProcess _

end Action

end Launcher
