import Launcher.CommandLine
import Launcher.Directory
import Launcher.HelpPage
import Launcher.Program
import Launcher.Query
import Launcher.Record
import Launcher.Report
import Launcher.Screen
import Launcher.Settings
import Launcher.User
import Launcher.WholeFile

/-!
# A run of the launcher

The order of work is: settings, level of the log, delegate, command line, user, output base, and
then the report or the program of the command. Whatever fails on the way ends the run with a line on
the error stream and an exit code.

## Main definitions

* `Launcher.Launch.run` — the work itself.
* `Launcher.Launch.main` — the work with its questions and its ends.
-/

namespace Launcher.Launch

/-- The name of the file that keeps the last command. -/
def recordName : Text := lit "last_command"

/-- The variable that tells the program its port. -/
def portVariable : String := "LAUNCHKIT_COMMAND_PORT"

/-- Hands the command line over to the delegate, unless that has happened already. -/
def handOver (settings : Settings) (tokens : List Text) : Action Unit := do
  let some delegate := settings.delegate | return
  if settings.delegated then return
  Action.log Level.info (lit "Handing off to " ++ delegate)
  Action.setVariable Settings.delegatedVariable (lit "1")
  let e ← Program.becomeInstead delegate (lit Product.title :: tokens)
  Action.fail (.because .environment (lit "could not execute delegate '" ++ delegate ++ lit "'") e)

/-- The output base that the options ask for, or else the settings, or else the user's own. -/
def chosenOutputBase (options : StartupOptions) (settings : Settings) (user : Text) :
    Action Text := do
  match options.outputBase.or settings.outputBase with
  | some base => return base
  | none => User.defaultOutputBase user

/-- Creates the output base and gives its path from the root. -/
def prepareOutputBase (options : StartupOptions) (settings : Settings) (user : Text) :
    Action Text := do
  let base ← Directory.absoluteText (← chosenOutputBase options settings user)
  match ← Directory.create (.text base) settings.directoryMode with
  | .ok () => return base
  | .error e =>
      Action.fail (.because .environment
        (lit "could not create output base directory '" ++ base ++ lit "'") e)

/-- Reports what is known about the host. -/
def report (options : StartupOptions) (user base : Text) : Action Unit := do
  let interactive := (← Screen.isInteractive) && !options.batch
  let record ← WholeFile.read? (.text (base.joinPath recordName))
  let status : Status := {
    user
    outputBase := base
    interactive
    columns := ← Screen.columns
    commandPort := options.commandPort
    lastCommand := record.map Record.decode }
  Report.emit options.json (interactive && !options.json) status

/-- Records the command and becomes its program. A record that cannot be written does not matter. -/
def start (options : StartupOptions) (base program : Text) (command : List Text) :
    Action Unit := do
  let some path ← Program.find? program
    | Action.exit .environment (lit "Cannot find executable '" ++ program ++ lit "'.")
  let recordPath := base.joinPath recordName
  if let .error e ← WholeFile.replace (.text recordPath) (Record.encode command) then
    Action.log Level.warning
      (lit "Could not record command in " ++ recordPath ++ lit ": " ++ e.render)
  if let some port := options.commandPort then Action.setVariable portVariable (decimal port)
  let e ← Program.become path command
  Action.fail (.because .environment (lit "execv of '" ++ path ++ lit "' failed") e)

/-- The work of the launcher on the tokens of its command line. -/
def run (tokens : List Text) : Action Unit := do
  let settings ← match Settings.read (← get).process.environment with
    | .ok settings => pure settings
    | .error v => Action.exit .environment v.message
  Action.modifyProcess fun p => { p with logThreshold := settings.logLevel }
  handOver settings tokens
  let { options, command } ← Action.ofExcept (CommandLine.read tokens)
  let user ← User.name
  let base ← prepareOutputBase options settings user
  Action.log Level.debug (lit "Using output base " ++ base)
  match command with
  | [] => report options user base
  | program :: _ => start options base program command

/-- An action with its unexpected failures turned into an internal error of the launcher. -/
def expectingFatal (action : Action Unit) : Action Unit :=
  tryCatch action fun
    | .failed (.fatal f) => throw (.failed (.fatal f))
    | .failed _ => do
        Action.log Level.error (lit "Launcher failed unexpectedly")
        Action.exit .internal (lit "Internal launcher error.")
    | stop => throw stop

/-- Says on the error stream why the launch ends, and gives the exit code. -/
def terminate (f : Fatal) : Action Int := do
  Action.log Level.debug (lit "Terminating with exit code " ++ decimal f.exitCode)
  Action.printError f.render
  return f.exitCode

/-- The exit code of an action, which is zero unless the action ends the launch. -/
def exitCode (action : Action Unit) : Action Int :=
  tryCatch (do action; return ExitCode.success.number) fun
    | .failed (.fatal f) => terminate f
    | stop => throw stop

/-- Answers a question about the program itself, and gives the exit code. -/
def answer : Query → Action Int
  | .version => do
      Action.printPlain HelpPage.versionText
      return ExitCode.success.number
  | .help => do
      let columns := (← get).machine.terminal.columns
      let width := HelpPage.width (HelpPage.columns (← Action.valueOf "COLUMNS") columns)
      Action.printPlain (HelpPage.text width)
      return ExitCode.success.number
  | .misuse option => do
      Action.printError (lit "Error: Option '" ++ option ++ lit "' does not take a value.")
      return ExitCode.badArguments.number

/-- A whole run of the launcher on the tokens behind its name: the exit code, unless the process
becomes another program. -/
def main (tokens : List Text) : Action Int :=
  match Query.ofTokens tokens with
  | some query => answer query
  | none => exitCode (expectingFatal (run tokens))

end Launcher.Launch
