import Launcher.Proofs.Run.Exec
import Launcher.Screen

/-!
# The terminal as the launcher sees it

What the launcher makes of a terminal depends on the terminal and on the environment alone.

## Main definitions

* `Launcher.Screen.showsColours` and `Launcher.Screen.width` — what is made of a terminal.

## Main results

* `Launcher.Screen.exec_isInteractive` and `Launcher.Screen.exec_columns` — the actions ask for
  that.
-/

namespace Launcher.Screen

open Launcher.Action

/-- Whether both streams are attached to a terminal that shows colours. -/
def showsColours (terminal : Terminal) (environment : Environment) : Bool :=
  !(dumbTypes.any (lit · == (environment.lookup "TERM").getD []) ||
      (environment.lookup "EMACS").getD [] == lit "t") &&
    (terminal.output && terminal.errors)

/-- The width of a line, unless it has been asked for by a numeral that is too long. -/
def width (terminal : Terminal) (environment : Environment) : Except InvalidValue Int :=
  match terminal.columns with
  | some columns => .ok columns
  | none =>
      match environment.lookup "COLUMNS" with
      | none | some [] => .ok defaultColumns
      | some text =>
          match Numeral.int32 text with
          | .error e => .error (.longNumeral e.digits)
          | .ok value => .ok (value.getD defaultColumns)

/-- Whether the terminal is interactive is told from the terminal and the environment, and nothing
changes. -/
theorem exec_isInteractive (w : World) :
    exec isInteractive w =
      (.ok (showsColours w.machine.terminal w.process.environment), w) := by
  have htype : exec (Action.valueOf "TERM") w =
      (.ok (w.process.environment.lookup "TERM"), w) := rfl
  have hemacs : exec (Action.valueOf "EMACS") w =
      (.ok (w.process.environment.lookup "EMACS"), w) := rfl
  unfold isInteractive showsColours
  rw [exec_bind_of_ok htype, exec_bind_of_ok hemacs]
  simp only []
  rcases dumbTypes.any (lit · == (w.process.environment.lookup "TERM").getD []) ||
    (w.process.environment.lookup "EMACS").getD [] == lit "t"
  · rfl
  · rfl

/-- The number of columns is told from the terminal and the environment, or is refused, and nothing
changes. -/
theorem exec_columns (w : World) :
    exec columns w =
      ((width w.machine.terminal w.process.environment).mapError fun v =>
        .failed (.invalid v), w) := by
  have hgiven : exec (Action.valueOf "COLUMNS") w =
      (.ok (w.process.environment.lookup "COLUMNS"), w) := rfl
  unfold columns width
  rw [exec_bind_of_ok (exec_get w)]
  rcases w.machine.terminal.columns with _ | columns
  · simp only []
    rw [exec_bind_of_ok hgiven]
    rcases w.process.environment.lookup "COLUMNS" with _ | _ | ⟨a, text⟩
    · rfl
    · rfl
    · rcases hvalue : Numeral.int32 (a :: text) with e | value
      · simp only [hvalue]
        rfl
      · simp only [hvalue]
        rfl
  · rfl

end Launcher.Screen
