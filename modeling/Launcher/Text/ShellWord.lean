import Launcher.Text.Basic

/-!
# Shell words

A command is shown so that it can be pasted into a POSIX shell: each word is quoted where it must
be, and blanks separate the words.

## Main definitions

* `Launcher.ShellWord.quote` — one word.
* `Launcher.ShellWord.join` — a list of words.
-/

namespace Launcher.ShellWord

/-- Symbols that are left without quotes: to a shell they mean themselves, though an equals or a
percent sign not in every place. -/
def isPlain : Symbol → Bool
  | .char c => c.isAlphanum || (lit "_@%+=:,./-").contains (.char c)
  | .raw _ => false

/-- A symbol inside a single-quoted word. A single quote ends the quoting, stands between double
quotes, and opens the quoting again. -/
def inside (s : Symbol) : Text :=
  if s = .char '\x27' then lit "'\"'\"'" else [s]

/-- One word as a shell reads it back. -/
def quote (word : Text) : Text :=
  if word.isEmpty then lit "''"
  else if word.all isPlain then word
  else lit "'" ++ word.flatMap inside ++ lit "'"

/-- The words of a command line. -/
def join (words : List Text) : Text := [.char ' '].intercalate (words.map quote)

/-- Words are quoted if they hold blanks, nothing or a quote. -/
example : join [lit "a b", [], lit "it's", lit "x"] = lit "'a b' '' 'it'\"'\"'s' x" := by decide

end Launcher.ShellWord
