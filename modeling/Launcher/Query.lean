import Launcher.Text.Basic

/-!
# Questions about the program itself

Before the startup options are read, the tokens in front of the command are searched for a question
about the program itself. Only the spelling of each token counts here, not its role: the search ends
at the token `--` and at the first token that is no option.

## Main definitions

* `Launcher.Query.ofTokens` — the question that the tokens ask.
-/

namespace Launcher

/-- A question about the program itself, or a wrong way to ask one. -/
inductive Query where
  | help
  | version
  /-- The option of a question was given a value. -/
  | misuse (option : Text)
deriving DecidableEq, Repr

namespace Query

/-- The question that one token asks: a long option by its name in front of an equals sign, a bundle
of short options by any `h` among its letters. -/
def ofToken (token : Text) : Option Query :=
  match token with
  | .char '-' :: .char '-' :: _ =>
      let name := token.takeWhile (· != .char '=')
      let hasValue := name.length < token.length
      if name = lit "--version" then some (if hasValue then .misuse name else .version)
      else if name = lit "--help" then some (if hasValue then .misuse name else .help)
      else none
  | .char '-' :: letters => if letters.contains (.char 'h') then some .help else none
  | _ => none

/-- Whether the search goes on behind the token. -/
def isOption (token : Text) : Bool :=
  token.head? == some (.char '-') && token != lit "-" && token != lit "--"

/-- Whether the question is a misuse. -/
def isMisuse : Query → Bool
  | misuse _ => true
  | help | version => false

/-- The question that the tokens ask. A misuse anywhere counts before all questions, and of these
the first one counts. -/
def ofTokens (tokens : List Text) : Option Query :=
  let questions := (tokens.takeWhile isOption).filterMap ofToken
  (questions.find? isMisuse).or questions.head?

end Query

end Launcher
