import Launcher.Failure
import Launcher.Log.Level
import Launcher.Run.World
import Launcher.Text.Numeral
import Launcher.Unicode.UpperCase

/-!
# Settings from the environment

Some of the launcher's behaviour is set by variables of the environment. An empty value counts as
none.

## Main definitions

* `Launcher.Settings` and `Launcher.Settings.read`.
-/

namespace Launcher

/-- What the environment sets. -/
structure Settings where
  outputBase : Option Text
  /-- The permission bits of directories that are created. -/
  directoryMode : Int
  logLevel : Int
  /-- The program that takes over the command line. -/
  delegate : Option Text
  /-- Whether the command line has been taken over already. -/
  delegated : Bool
deriving DecidableEq, Repr

namespace Settings

/-- The variable that marks a command line as taken over. -/
def delegatedVariable : String := "LAUNCHKIT_DELEGATED"

/-- The permission bits of directories if nothing is set. -/
def defaultMode : Int := 0o755

/-- The level of the log if nothing is set. -/
def defaultLevel : Int := Level.warning

/-- The value of a variable, unless it is empty. -/
def given? (env : Environment) (name : String) : Option Text :=
  (env.lookup name).filter (!·.isEmpty)

/-- The permission bits that a value stands for: a free octal numeral. -/
def readMode : Option Text → Except InvalidValue Int
  | none => .ok defaultMode
  | some value =>
      match Numeral.free? .octal value with
      | some mode => .ok mode
      | none => .error (.directoryMode value)

/-- The upper case of a text. Stray bytes have none. -/
def upperCase (t : Text) : Text :=
  t.flatMap fun
    | .char c => (Unicode.upper c).map .char
    | .raw b => [.raw b]

/-- The level that a value stands for: its name in letters of any case. -/
def readLevel : Option Text → Except InvalidValue Int
  | none => .ok defaultLevel
  | some value =>
      match (upperCase value).chars?.bind (Level.ofName? <| String.ofList ·) with
      | some level => .ok level
      | none => .error (.logLevel value)

/-- The settings of an environment. -/
def read (env : Environment) : Except InvalidValue Settings := do
  let directoryMode ← readMode (given? env "LAUNCHKIT_DIR_MODE")
  let logLevel ← readLevel (given? env "LAUNCHKIT_LOG_LEVEL")
  return {
    outputBase := given? env "LAUNCHKIT_OUTPUT_BASE"
    directoryMode
    logLevel
    delegate := given? env "LAUNCHKIT_DELEGATE"
    delegated := (given? env delegatedVariable).isSome }

end Settings

end Launcher
