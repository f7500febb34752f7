import Launcher.OsError

/-!
# Failures

What can go wrong is one of five things: the launcher ends on purpose, with an exit code and a
message; the system refuses a call; a value is not acceptable; a number is out of the range of the
system; or a text cannot be written to the output.

## Main definitions

* `Launcher.InvalidValue` — the values that are not acceptable.
* `Launcher.Fatal` — the end of a launch.
* `Launcher.Failure` — any of them.
-/

namespace Launcher

/-- The exit codes, on which calling scripts branch. -/
inductive ExitCode where
  | success
  | badArguments
  | environment
  | internal
deriving DecidableEq, Repr

/-- The number of an exit code. -/
def ExitCode.number : ExitCode → Int
  | success => 0
  | badArguments => 2
  | environment => 36
  | internal => 37

/-! ### Values that are not acceptable -/

/-- Why a value is not acceptable. -/
inductive InvalidValue where
  /-- A path or an argument for the system holds a zero byte. -/
  | zeroByte
  /-- A program was to be executed without any argument, not even its own name. -/
  | noArguments
  /-- A program was to be executed with an empty name as its first argument. -/
  | emptyFirstArgument
  /-- A decimal numeral has too many digits to be read. -/
  | longNumeral (digits : Nat)
  /-- A text is no free decimal numeral. -/
  | notNumeral (text : Text)
  /-- An integer has too many digits to be written. -/
  | longNumber
  /-- The mode for new directories is no octal numeral. -/
  | directoryMode (value : Text)
  /-- The name of a log level is unknown. -/
  | logLevel (value : Text)
deriving DecidableEq, Repr

namespace InvalidValue

/-- The message of a value that is not acceptable. -/
def message : InvalidValue → Text
  | zeroByte => lit "embedded null byte"
  | noArguments => lit "execv() arg 2 must not be empty"
  | emptyFirstArgument => lit "execv() arg 2 first element cannot be empty"
  | longNumeral digits =>
      conversion ++ lit ": value has " ++ decimal digits ++ lit " digits" ++ advice
  | notNumeral text => lit "invalid literal for int() with base 10: " ++ text.quoted.take 200
  | longNumber => conversion ++ advice
  | directoryMode value => lit "LAUNCHKIT_DIR_MODE must be an octal mode, got " ++ value.quoted
  | logLevel value => lit "LAUNCHKIT_LOG_LEVEL must be a logging level name, got " ++ value.quoted
where
  conversion : Text :=
    lit "Exceeds the limit (" ++ decimal Numeral.maxDigits ++
      lit " digits) for integer string conversion"
  advice : Text := lit "; use sys.set_int_max_str_digits() to increase the limit"

end InvalidValue

/-- The decimal text of an integer, unless it has too many digits. -/
def writtenDecimal (n : Int) : Except InvalidValue Text :=
  if Numeral.isLong n then .error .longNumber else .ok (decimal n)

/-! ### The end of a launch -/

/-- The end of a launch: its exit code, what went wrong, and, if the system was the reason, the
number and the text of its error as they were at that moment. -/
structure Fatal where
  exitCode : Int
  message : Text
  errno : Option Int
  reason : Option Text
deriving DecidableEq, Repr

/-- Any failure. -/
inductive Failure where
  | fatal (f : Fatal)
  | system (e : OsError)
  | invalid (v : InvalidValue)
  | outOfRange
  | unwritable
deriving DecidableEq, Repr

namespace Fatal

/-- The line that is written when the launch ends. -/
def render (f : Fatal) : Text :=
  match f.reason with
  | none => f.message
  | some reason => lit "Error: " ++ f.message ++ lit ": " ++ reason

/-- The end for a reason of the launcher's own. -/
def plain (exitCode : Int) (message : Text) : Fatal :=
  { exitCode, message, errno := none, reason := none }

/-- The end because a call failed with this number. The numbers of the system have 32 bits. -/
def ofErrno (exitCode : Int) (message : Text) (errno : Int) : Except Failure Fatal :=
  if Numeral.fitsInt32 errno then
    .ok { exitCode, message, errno := some errno, reason := some (lit (Errno.describe errno)) }
  else .error .outOfRange

/-- The end because of an error of the system. An error without a number gives its own text as the
reason, unless that is empty. -/
def ofOsError (exitCode : Int) (message : Text) (e : OsError) : Except Failure Fatal :=
  match e.errno with
  | some errno => ofErrno exitCode message errno
  | none =>
      let text := e.render
      .ok { exitCode, message, errno := none, reason := if text.isEmpty then none else some text }

end Fatal

namespace Failure

/-- Fails for good with an exit code and a message. -/
def fail (code : ExitCode) (message : Text) : Failure := .fatal (.plain code.number message)

/-- The failure that an error of the system leads to, with what went wrong. -/
def because (code : ExitCode) (message : Text) (e : OsError) : Failure :=
  match Fatal.ofOsError code.number message e with
  | .ok f => .fatal f
  | .error failure => failure

end Failure

end Launcher
