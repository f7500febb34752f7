import Launcher.Product
import Launcher.Run.Call

/-!
# The user and the user's directories

## Main definitions

* `Launcher.User.name` — the name of the user who runs the launcher.
* `Launcher.User.home` — the user's home directory.
* `Launcher.User.defaultOutputBase` — the directory in which the launcher keeps its own files.
-/

namespace Launcher.User

/-- The name of the user: the variable `USER` if it is set to anything, or else the name of the
account. -/
def name : Action Text := do
  if let some name ← Action.valueOf "USER" then
    if !name.isEmpty then return name
  let name : Text := ((← get).machine.account?.map (·.name)).getD []
  if name.isEmpty then
    Action.exit .environment (lit "$USER is not set, and unable to look up name of current user")
  Action.log Level.debug
    (lit "Resolved user name " ++ name.quoted ++ lit " from the account database")
  return name

/-- A directory without the separators at its end; the root if nothing else is left. -/
def trimmed (directory : Text) : Text :=
  let text := (directory.reverse.dropWhile (· == slash)).reverse
  if text.isEmpty then [slash] else text

/-- The home directory: the variable `HOME` if it is set, or else that of the account. A user
without an account has none, and `~` stands for it. -/
def home : Action Text := do
  match ← Action.valueOf "HOME" with
  | some directory => return trimmed directory
  | none =>
      match (← get).machine.account? with
      | some account => return trimmed account.home
      | none => return lit "~"

/-- The output base of a user who has chosen none. -/
def defaultOutputBase (user : Text) : Action Text := do
  return (((← home).joinPath (lit ".cache")).joinPath (lit Product.title)).joinPath user

end Launcher.User
