import Launcher.OptionToken

/-!
# Command lines

A command line is a sequence of startup options followed by a command. The command starts at the
first token that does not begin with a dash, or behind the token `--`. Among several occurrences of
an option the last one counts.

## Main definitions

* `Launcher.Setting` — one occurrence of a startup option.
* `Launcher.StartupOptions` — what all occurrences amount to.
* `Launcher.CommandLine.read` — the options and the command of a list of tokens.
-/

namespace Launcher

/-- An occurrence of a startup option. -/
inductive Setting where
  | outputBase (path : Text)
  | commandPort (port : Int)
  | batch
  | json
deriving DecidableEq, Repr

/-- The startup options of a command line. -/
structure StartupOptions where
  outputBase : Option Text
  commandPort : Option Int
  batch : Bool
  json : Bool
deriving DecidableEq, Repr

/-- The startup options and the command behind them. -/
structure CommandLine where
  options : StartupOptions
  command : List Text
deriving DecidableEq, Repr

namespace StartupOptions

/-- No option given. -/
def none : StartupOptions :=
  { outputBase := Option.none, commandPort := Option.none, batch := false, json := false }

/-- The options after one more occurrence. -/
def apply (options : StartupOptions) : Setting → StartupOptions
  | .outputBase path => { options with outputBase := some path }
  | .commandPort port => { options with commandPort := some port }
  | .batch => { options with batch := true }
  | .json => { options with json := true }

end StartupOptions

namespace Setting

/-- The option that names the output base. -/
def outputBaseKey : Text := lit "--output_base"

/-- The option that names the command port. -/
def commandPortKey : Text := lit "--command_port"

/-- The flag for runs without a user. -/
def batchKey : Text := lit "--batch"

/-- The flag for reports to other programs. -/
def jsonKey : Text := lit "--json"

/-- Whether the token is the bare name of an option, whose value is then the next token. -/
def takesNext (token : Text) : Bool := token == outputBaseKey || token == commandPortKey

/-- The value that a token gives to the option `key`, if the token is about it. It must not be
missing or empty. -/
def value? (token : Text) (next : Option Text) (key : Text) : Except OptionError (Option Text) :=
  match OptionToken.value? token next key with
  | some [] => .error (.missingValue key)
  | some value => .ok (some value)
  | none => if token = key then .error (.missingValue key) else .ok none

/-- The occurrence that a token makes, together with the next one where the value stands there. -/
def read (token : Text) (next : Option Text) : Except Failure Setting := do
  if let some path ← refused (value? token next outputBaseKey) then return .outputBase path
  if let some text ← refused (value? token next commandPortKey) then
    return .commandPort (← Port.read commandPortKey text)
  if ← refused (OptionToken.isFlag token batchKey) then return .batch
  if ← refused (OptionToken.isFlag token jsonKey) then return .json
  throw (OptionError.unknown token).toFailure
where
  refused {α : Type} : Except OptionError α → Except Failure α := Except.mapError (·.toFailure)

end Setting

namespace CommandLine

/-- The token that ends the options. -/
def endOfOptions : Text := lit "--"

/-- Whether a token may be an option. -/
def isDashed (token : Text) : Bool := token.head? == some (.char '-')

/-- Reads tokens, with the options of the tokens before them. -/
def readFrom (options : StartupOptions) : List Text → Except Failure CommandLine
  | [] => .ok { options, command := [] }
  | token :: rest =>
      if token = endOfOptions then .ok { options, command := rest }
      else if !isDashed token then .ok { options, command := token :: rest }
      else
        match Setting.read token rest.head? with
        | .error e => .error e
        | .ok setting =>
            if Setting.takesNext token then
              match rest with
              | [] => .ok { options := options.apply setting, command := [] }
              | _ :: later => readFrom (options.apply setting) later
            else readFrom (options.apply setting) rest

/-- The command line of a list of tokens. -/
def read (tokens : List Text) : Except Failure CommandLine := readFrom .none tokens

end CommandLine

end Launcher
