import Launcher.CommandLine

/-!
# The grammar of command lines

A command line is a sequence of occurrences of options and a tail with the command. This module says
what these are and how they are spelled, without saying how they are read.

## Main definitions

* `Launcher.Occurrence` — an occurrence of an option, with `tokens` and `outcome`.
* `Launcher.Tail` — what follows the options, with `tokens` and `command`.
* `Launcher.StartupOptions.ofSettings` — what a sequence of settings amounts to.
* `Launcher.CommandLine.Passes` — a list of tokens begins with occurrences.
* `Launcher.CommandLine.IsSplit` — a list of tokens is split into occurrences and a tail.
* `Launcher.CommandLine.Refused` — a list of tokens begins with neither.
-/

namespace Launcher

/-! ## Names of options -/

/-- An option with a value. -/
inductive ValueOption where
  | outputBase
  | commandPort
deriving DecidableEq

/-- An option without a value. -/
inductive Flag where
  | batch
  | json
deriving DecidableEq

/-- The name of an option of either kind. -/
inductive OptionName where
  | valued (option : ValueOption)
  | flag (flag : Flag)
deriving DecidableEq

/-- The token that names an option with a value. -/
def ValueOption.key : ValueOption → Text
  | outputBase => Setting.outputBaseKey
  | commandPort => Setting.commandPortKey

/-- The token that names a flag. -/
def Flag.key : Flag → Text
  | batch => Setting.batchKey
  | json => Setting.jsonKey

/-- The token that names an option. -/
def OptionName.key : OptionName → Text
  | valued option => option.key
  | flag f => f.key

/-- What stands between a name and a value in one token. -/
def equalsSign : Symbol := .char '='

/-- The token is a name of the option, with or without a value behind an equals sign. -/
def OptionName.Names (name : OptionName) (token : Text) : Prop :=
  token = name.key ∨ ∃ value, token = name.key ++ equalsSign :: value

/-! ## Occurrences -/

/-- What a value does: it must not be empty, and a port must be one. -/
def ValueOption.outcome (option : ValueOption) (value : Text) : Except Failure Setting :=
  if value = [] then .error (OptionError.missingValue option.key).toFailure
  else
    match option with
    | outputBase => .ok (.outputBase value)
    | commandPort => (Port.read Setting.commandPortKey value).map .commandPort

/-- What a flag does. -/
def Flag.setting : Flag → Setting
  | batch => .batch
  | json => .json

/-- An occurrence of an option: with its value in the same token, with its value in the next token,
or without a value. -/
inductive Occurrence where
  | joined (option : ValueOption) (value : Text)
  | apart (option : ValueOption) (value : Text)
  | flag (flag : Flag)
deriving DecidableEq

namespace Occurrence

/-- The tokens that spell an occurrence. -/
def tokens : Occurrence → List Text
  | joined option value => [option.key ++ equalsSign :: value]
  | apart option value => [option.key, value]
  | flag f => [f.key]

/-- The option of an occurrence. -/
def optionName : Occurrence → OptionName
  | joined option _ => .valued option
  | apart option _ => .valued option
  | flag f => .flag f

/-- What an occurrence does. -/
def outcome : Occurrence → Except Failure Setting
  | joined option value => option.outcome value
  | apart option value => option.outcome value
  | flag f => .ok f.setting

/-- The value in an occurrence, with its option. -/
def value? : Occurrence → Option (ValueOption × Text)
  | joined option value => some (option, value)
  | apart option value => some (option, value)
  | flag _ => none

end Occurrence

/-! ## Tails -/

/-- What follows the options: nothing, a command behind the end of the options, or a command whose
program cannot be taken for an option. -/
inductive Tail where
  | nothing
  | marked (command : List Text)
  | plain (program : Text) (arguments : List Text)
deriving DecidableEq

namespace Tail

/-- The tokens that spell a tail. -/
def tokens : Tail → List Text
  | nothing => []
  | marked command => CommandLine.endOfOptions :: command
  | plain program arguments => program :: arguments

/-- The command of a tail. -/
def command : Tail → List Text
  | nothing => []
  | marked command => command
  | plain program arguments => program :: arguments

/-- The program of a command without the end of the options in front begins with no dash. -/
def IsProper : Tail → Prop
  | plain program _ => CommandLine.isDashed program = false
  | _ => True

end Tail

/-! ## Command lines -/

namespace Setting

/-- The output base that a setting gives. -/
def path? : Setting → Option Text
  | outputBase path => some path
  | _ => none

/-- The port that a setting gives. -/
def port? : Setting → Option Int
  | commandPort port => some port
  | _ => none

/-- A setting is in order: an output base is not empty, and a port is one. -/
def IsInOrder : Setting → Prop
  | outputBase path => path ≠ []
  | commandPort port => Port.least ≤ port ∧ port ≤ Port.greatest
  | batch => True
  | json => True

end Setting

/-- What a sequence of settings amounts to: the last output base and the last port, and the flags
that occur at all. -/
def StartupOptions.ofSettings (settings : List Setting) : StartupOptions where
  outputBase := (settings.filterMap Setting.path?).getLast?
  commandPort := (settings.filterMap Setting.port?).getLast?
  batch := decide (.batch ∈ settings)
  json := decide (.json ∈ settings)

namespace CommandLine

/-- The tokens are those of the occurrences, one after the other, and then the rest; the occurrences
make the settings. -/
structure Passes (tokens : List Text) (occurrences : List Occurrence) (settings : List Setting)
    (rest : List Text) : Prop where
  spelled : tokens = occurrences.flatMap Occurrence.tokens ++ rest
  accepted : occurrences.map Occurrence.outcome = settings.map .ok

/-- The tokens are split into occurrences that make the settings and a tail. -/
structure IsSplit (tokens : List Text) (occurrences : List Occurrence) (settings : List Setting)
    (tail : Tail) : Prop extends Passes tokens occurrences settings tail.tokens where
  proper : tail.IsProper

/-- The tokens begin neither with an acceptable occurrence nor as a tail does, for a reason: the
value of an option is missing, empty or unacceptable, a flag has a value, or a dashed token names no
option. -/
inductive Refused : List Text → Failure → Prop where
  | bareKey (option : ValueOption) :
      Refused [option.key] (OptionError.missingValue option.key).toFailure
  | value (occurrence : Occurrence) (later : List Text) (e : Failure) :
      occurrence.outcome = .error e → Refused (occurrence.tokens ++ later) e
  | flagWithValue (flag : Flag) (value : Text) (later : List Text) :
      Refused ((flag.key ++ equalsSign :: value) :: later)
        (OptionError.flagWithValue (flag.key ++ equalsSign :: value) flag.key).toFailure
  | unknown (token : Text) (later : List Text) :
      isDashed token = true → token ≠ endOfOptions → (∀ name : OptionName, ¬name.Names token) →
      Refused (token :: later) (OptionError.unknown token).toFailure

end CommandLine

end Launcher
