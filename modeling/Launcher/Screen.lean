import Launcher.Run.Call
import Launcher.Text.Numeral

/-!
# The terminal as the launcher sees it

Both answers are guesses: whether colours may be used, and how wide a line may be. In doubt there
are no colours, since escape sequences in a file are worse than plain text on a terminal.

## Main definitions

* `Launcher.Screen.isInteractive` and `Launcher.Screen.columns`.
-/

namespace Launcher.Screen

/-- The types of terminals that cannot show colours or move the cursor. -/
def dumbTypes : List String := ["", "9term", "dumb", "emacs", "symbolics", "xterm-mono"]

/-- The width assumed where nothing is known. -/
def defaultColumns : Int := 80

/-- Whether both streams are attached to a terminal that shows colours. -/
def isInteractive : Action Bool := do
  let type := (← Action.valueOf "TERM").getD []
  let emacs := (← Action.valueOf "EMACS").getD []
  if dumbTypes.any (lit · == type) || emacs == lit "t" then return false
  let terminal := (← get).machine.terminal
  return terminal.output && terminal.errors

/-- The width of a line: that of the terminal, or what the variable `COLUMNS` says if it is a strict
decimal numeral. -/
def columns : Action Int := do
  if let some columns := (← get).machine.terminal.columns then return columns
  match ← Action.valueOf "COLUMNS" with
  | none | some [] => return defaultColumns
  | some text =>
      match Numeral.int32 text with
      | .error e => Action.fail (.invalid (.longNumeral e.digits))
      | .ok value => return value.getD defaultColumns

end Launcher.Screen
