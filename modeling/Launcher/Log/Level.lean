import Launcher.Text.Basic

/-!
# Levels of the log

Records carry a level, which is an integer. Some levels have names. A record is kept if its level is
positive and not below the threshold of the log.
-/

namespace Launcher.Level

/-- The levels with the names under which they are shown. -/
def shown : List (Int × String) :=
  [(50, "CRITICAL"), (40, "ERROR"), (30, "WARNING"), (20, "INFO"), (10, "DEBUG"), (0, "NOTSET")]

/-- Other names by which a level may be asked for. -/
def synonyms : List (String × Int) := [("FATAL", 50), ("WARN", 30)]

/-- The level of diagnostic detail. -/
def debug : Int := 10

/-- The level of normal events. -/
def info : Int := 20

/-- The level of what is wrong but does not matter. -/
def warning : Int := 30

/-- The level of failures. -/
def error : Int := 40

/-- The text that shows a level. -/
def name (level : Int) : Text :=
  match shown.lookup level with
  | some name => lit name
  | none => lit "Level " ++ decimal level

/-- The level of a name. -/
def ofName? (name : String) : Option Int :=
  match shown.find? fun (_, other) => other = name with
  | some (level, _) => some level
  | none => synonyms.lookup name

/-- Whether a log with this threshold keeps records of the level. -/
def isKept (threshold level : Int) : Bool := 0 < level && threshold ≤ level

end Launcher.Level
