import Launcher.Failure

/-!
# Option tokens

An option of a command line is a token that starts with the name of the option. Its value stands
behind an equals sign in the same token, or in the next token. A flag has no value.

## Main definitions

* `Launcher.OptionToken.value?` — the value given to an option.
* `Launcher.OptionToken.isFlag` — whether a token is a flag.
* `Launcher.Port` — the ports that can be given as values.
-/

namespace Launcher

/-- Why a command line is refused. -/
inductive OptionError where
  | flagWithValue (token key : Text)
  | missingValue (key : Text)
  | invalidPort (key value : Text)
  | unknown (token : Text)
deriving DecidableEq, Repr

namespace OptionError

/-- The message of a refusal. -/
def message : OptionError → Text
  | flagWithValue token key =>
      lit "In argument '" ++ token ++ lit "': option '" ++ key ++ lit "' does not take a value."
  | missingValue key => lit "Startup option '" ++ key ++ lit "' requires a value."
  | invalidPort key value =>
      lit "Invalid argument to " ++ key ++ lit ": '" ++ value ++
        lit "' (must be a valid port number)."
  | unknown token => lit "Unknown startup option '" ++ token ++ lit "'."

/-- A refused command line ends the launch. -/
def toFailure (e : OptionError) : Failure := .fail .badArguments e.message

end OptionError

namespace OptionToken

/-- The value that a token gives to the option `key`: what follows the equals sign, or the next
token if this one is the bare name. -/
def value? (token : Text) (next : Option Text) (key : Text) : Option Text :=
  match token.dropStart? key with
  | none => none
  | some [] => next
  | some (.char '=' :: value) => some value
  | some _ => none

/-- Whether a token is the flag `key`. A flag with a value is refused. -/
def isFlag (token key : Text) : Except OptionError Bool :=
  match token.dropStart? key with
  | none => .ok false
  | some (.char '=' :: _) => .error (.flagWithValue token key)
  | some rest => .ok rest.isEmpty

end OptionToken

namespace Port

/-- The least port. -/
def least : Int := 1

/-- The greatest port. -/
def greatest : Int := 65535

/-- The port of a strict decimal numeral, or `none` if it is no such numeral or no port. -/
def read? (text : Text) : Except Failure (Option Int) :=
  match Numeral.int32 text with
  | .error e => .error (.invalid (.longNumeral e.digits))
  | .ok (some n) => .ok (if least ≤ n ∧ n ≤ greatest then some n else none)
  | .ok none => .ok none

/-- The port given to the option `key`. A text that stands for a port is converted once more, as a
free numeral. -/
def read (key text : Text) : Except Failure Int := do
  match ← read? text with
  | some _ =>
      match Numeral.free? .decimal text with
      | some port => return port
      | none => throw (.invalid (.notNumeral text))
  | none => throw (OptionError.invalidPort key text).toFailure

end Port

end Launcher
