import Launcher.Proofs.Text.ShellReader
import Launcher.Report

/-!
# The command in a report

A report for a person shows the last command on one line. Each word of it is quoted where it has to
be, so that a shell reads the words of the command from the line. Of the symbols to which a shell
may give another meaning, it meets only equals and percent signs outside quotes. So a command that
begins with a word like `A=1` is read as its words, but the first of them is taken for an
assignment.

## Main definitions

* `Launcher.Report.value?` — the value that a report shows behind a label.

## Main results

* `Launcher.Report.command_reads_back` — a shell reads the shown command as the command.
* `Launcher.Report.not_every_special_is_quoted` — an equals sign stands outside quotes.
-/

namespace Launcher.Report

/-- The value that a report for a person shows behind a label, before its row is cut. -/
def value? (status : Status) (label : Text) : Option Text := (entries status).lookup label

/-- The value beside `last command` is the command as one line, or `none`. -/
theorem value?_lastCommand (status : Status) :
    value? status (lit "last command") =
      some ((status.lastCommand.map ShellWord.join).getD (lit "none")) := rfl

/-- **A shell reads the shown command as the command.** Taken apart as a shell does it, the value of
the last row is the list of the words of the command. Of the symbols that are special to a shell,
only equals and percent signs of the words stand in it outside quotes. No other command is shown in
the same way. -/
theorem command_reads_back {status : Status} {words : List Text}
    (h : status.lastCommand = some words) :
    ∃ shown, value? status (lit "last command") = some shown ∧
      ShellWord.words? shown = some words ∧
      (∀ s ∈ ShellWord.exposed shown, s ∈ ShellWord.specials →
        (s = .char '=' ∨ s = .char '%') ∧ ∃ word ∈ words, s ∈ word) ∧
      ∀ (other : Status) (words' : List Text), other.lastCommand = some words' → words' ≠ words →
        value? other (lit "last command") ≠ some shown := by
  have hvalue : ∀ {other : Status} {words' : List Text}, other.lastCommand = some words' →
      value? other (lit "last command") = some (ShellWord.join words') := by
    intro other words' hother
    rw [value?_lastCommand, hother]
    rfl
  refine ⟨ShellWord.join words, hvalue h, ShellWord.words?_join words, fun s hs hspecial => ?_,
    fun other words' hother hne hsame => ?_⟩
  · obtain ⟨hplain, hword⟩ := ShellWord.of_mem_exposed_join hs
    exact ⟨ShellWord.eq_of_isPlain hplain hspecial, hword⟩
  · rw [hvalue hother] at hsame
    exact hne (ShellWord.join_injective (Option.some.inj hsame))

/-- A command with an empty word, both kinds of quotes, a pattern, a line feed and a stray byte. -/
def bristling : List Text :=
  [lit "sh", [], lit "it's \x22$x\x22 *\n", [.char 'é', .raw (Fin.last 127)]]

/-- A report on it. -/
def quotation : Status where
  user := lit "me"
  outputBase := lit "/b"
  interactive := false
  columns := 80
  commandPort := none
  lastCommand := some bristling

/-- All of its words are read again. -/
theorem command_reads_back_quotation :
    quotation.lastCommand = some bristling ∧
      ∃ shown, value? quotation (lit "last command") = some shown ∧
        shown = lit "sh '' 'it'\x22'\x22's \x22$x\x22 *\n' 'é" ++ [.raw (Fin.last 127)] ++ lit "'" ∧
        ShellWord.words? shown = some bristling := by
  have h : quotation.lastCommand = some bristling := rfl
  obtain ⟨shown, hshown, hwords, -⟩ := command_reads_back h
  refine ⟨h, shown, hshown, ?_, hwords⟩
  exact Option.some.inj (hshown.symm.trans (by decide))

/-- A command whose first word looks like an assignment, and a report on it. -/
def assigning : Status :=
  { quotation with lastCommand := some [lit "A=1", lit "printenv", lit "A"] }

/-- Not every symbol that is special to a shell stands in quotes: a word like an assignment has
none. -/
theorem not_every_special_is_quoted :
    ¬∀ (status : Status) (words : List Text), status.lastCommand = some words →
      ∀ shown ∈ value? status (lit "last command"),
        ∀ s ∈ ShellWord.exposed shown, s ∉ ShellWord.specials := by
  intro hclaim
  have hshown : value? assigning (lit "last command") = some (lit "A=1 printenv A") := by decide
  have hexposed : Symbol.char '=' ∈ ShellWord.exposed (lit "A=1 printenv A") := by decide
  exact hclaim assigning _ rfl _ hshown _ hexposed (by decide)

end Launcher.Report
