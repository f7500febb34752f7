import Launcher.Run.Call
import Launcher.Text.Json
import Launcher.Text.Numeral
import Launcher.Text.ShellWord

/-!
# Reports

Without a command the launcher reports what it knows about its host: to a person in rows of a label
and a value, or to a program in one line of JSON.

## Main definitions

* `Launcher.StatusOf` and `Launcher.Status` — what is reported.
* `Launcher.Report.rows` — the rows for a person.
* `Launcher.Report.payload` — the value for a program.
* `Launcher.Report.emit` — the report on the output.
* `Launcher.Report.emitJson` — the report for a program, of any strings.
-/

namespace Launcher

/-- What is known about a host, in texts of some kind. -/
structure StatusOf (τ : Type) where
  user : τ
  outputBase : τ
  interactive : Bool
  columns : Int
  commandPort : Option Int
  lastCommand : Option (List τ)
deriving DecidableEq, Repr

/-- What the launcher knows about its host. -/
abbrev Status := StatusOf Text

/-- The status in code points. -/
def StatusOf.wide (status : Status) : StatusOf (List CodePoint) where
  user := status.user.map Symbol.wide
  outputBase := status.outputBase.map Symbol.wide
  interactive := status.interactive
  columns := status.columns
  commandPort := status.commandPort
  lastCommand := status.lastCommand.map fun words => words.map (·.map Symbol.wide)

namespace Report

/-! ### For a person -/

/-- The labels, from top to bottom. -/
def labels : List Text :=
  [lit "user", lit "output base", lit "interactive", lit "columns", lit "command port",
   lit "last command"]

/-- The values behind the labels. -/
def values (status : Status) : List Text :=
  [status.user,
   status.outputBase,
   if status.interactive then lit "yes" else lit "no",
   decimal status.columns,
   (status.commandPort.map decimal).getD (lit "none"),
   (status.lastCommand.map ShellWord.join).getD (lit "none")]

/-- Labels and values, from top to bottom. -/
def entries (status : Status) : List (Text × Text) := labels.zip (values status)

/-- The width of the column of labels: that of the longest one with its colon. -/
def labelWidth : Nat := (labels.map List.length).foldr max 0 + 1

/-- The mark of a cut. -/
def ellipsis : Text := lit "..."

/-- A line cut to the width, with the mark at its end. A width without room for more than the mark
cuts nothing. -/
def truncate (line : Text) (width : Int) : Text :=
  if width ≤ ellipsis.length ∨ line.length ≤ width then line
  else line.take (width - ellipsis.length).toNat ++ ellipsis

/-- A label with its colon, padded to the width of its column, and the value behind it. -/
def row (label value : Text) : Text :=
  let head := label ++ lit ":"
  head ++ List.replicate (labelWidth - head.length) (.char ' ') ++ lit " " ++ value

/-- The line with its label in colour. -/
def coloured (line : Text) : Text :=
  EscapeSequence.boldBlue ++ line.take labelWidth ++ EscapeSequence.reset ++ line.drop labelWidth

/-- The rows of a report, cut to the columns of the terminal. -/
def rows (status : Status) : List Text :=
  (entries status).map fun (label, value) => truncate (row label value) status.columns

/-! ### For a program -/

/-- The fields of a report in the order of their names. -/
def payload (status : StatusOf (List CodePoint)) : Json :=
  .object
    [("command_port", (status.commandPort.map .number).getD .null),
     ("interactive", .bool status.interactive),
     ("last_command", (status.lastCommand.map fun words => .array (words.map .string)).getD .null),
     ("output_base", .string status.outputBase),
     ("status", .string (CodePoint.ofString "ok")),
     ("terminal_columns", .number status.columns),
     ("user", .string status.user)]

/-- The value of what the launcher knows about its host. -/
def json (status : Status) : Json := payload status.wide

/-! ### On the output -/

/-- Whether the report has a number that cannot be written. -/
def hasLongNumber {τ : Type} (status : StatusOf τ) : Bool :=
  Numeral.isLong status.columns || status.commandPort.any Numeral.isLong

/-- Writes lines to the output. -/
def printAll (keepEscapes : Bool) : List Text → Action Unit
  | [] => pure ()
  | line :: lines => do
      Action.printLine keepEscapes line
      printAll keepEscapes lines

/-- Writes the report for a program. -/
def emitJson (status : StatusOf (List CodePoint)) : Action Unit := do
  if hasLongNumber status then Action.fail (.invalid .longNumber)
  Action.printPlain (payload status).line

/-- Writes the report. Without colour, escape sequences in the values go as well. -/
def emit (asJson colour : Bool) (status : Status) : Action Unit := do
  if hasLongNumber status then Action.fail (.invalid .longNumber)
  if asJson then Action.printPlain (json status).line
  else printAll colour (if colour then (rows status).map coloured else rows status)

end Report

end Launcher
