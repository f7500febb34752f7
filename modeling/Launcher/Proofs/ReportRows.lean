import Launcher.Proofs.Report
import Launcher.Proofs.Run.Returns
import Launcher.Proofs.Text.Numeral

/-!
# Rows of a report that can be written

The rows of a report for a person hold what is shown as it is, so a row can be written if its value
has no stray bytes, or has them behind the place where the row is cut. A report for a program can
always be written, since its line spells such bytes out.

## Main definitions

* `Launcher.Report.commandRow` — the row of the last command, the last of a report.
* `Launcher.Report.numbers` — the numbers of a report.
* `Launcher.Report.CanBeWritten` — nothing of a report stands in its own way.

## Main results

* `Launcher.Report.isWritable_row` — a row can be written if its value can.
* `Launcher.Report.isWritable_commandRow` — the row of a command without stray bytes.
* `Launcher.Report.returns_emit` and `Launcher.Report.exec_emit_of_not_canBeWritten` — what comes of
  a report that can be written, and of one that cannot.
-/

namespace Launcher

open Launcher.Action

/-! ## Texts without stray bytes -/

/-- What is printable can be written. -/
theorem Text.isWritable_of_isPrintable {t : Text} (h : t.IsPrintable) : t.IsWritable := by
  obtain ⟨cs, rfl⟩ := exists_map_char_of_isPrintable h
  exact isWritable_map_char cs

namespace ShellWord

/-- Quoting puts no stray bytes into a word. -/
theorem isWritable_quote {word : Text} (h : word.IsWritable) : (quote word).IsWritable := by
  unfold quote
  split
  · exact Text.isWritable_lit "''"
  · split
    · exact h
    · refine Text.isWritable_append.2 ⟨Text.isWritable_append.2 ⟨Text.isWritable_lit "'", ?_⟩,
        Text.isWritable_lit "'"⟩
      intro a ha
      obtain ⟨symbol, hsymbol, ha⟩ := List.mem_flatMap.1 ha
      unfold inside at ha
      split at ha
      · exact Text.isWritable_lit _ a ha
      · exact List.mem_singleton.1 ha ▸ h symbol hsymbol

/-- A command line of words without stray bytes has none. -/
theorem isWritable_join {words : List Text} (h : ∀ word ∈ words, word.IsWritable) :
    (join words).IsWritable := by
  refine Text.isWritable_intercalate (Text.isWritable_map_char [' ']) fun text htext => ?_
  obtain ⟨word, hword, rfl⟩ := List.mem_map.1 htext
  exact isWritable_quote (h word hword)

end ShellWord

namespace Report

variable {line label value : Text} {status : Status}

/-! ## Rows -/

/-- The longest labels have twelve symbols. -/
theorem labelWidth_eq : labelWidth = 13 := by decide

/-- A row can be written if its label and its value can be. -/
theorem isWritable_row (hlabel : label.IsWritable) (hvalue : value.IsWritable) :
    (row label value).IsWritable := by
  have hhead := Text.isWritable_append.2 ⟨hlabel, Text.isWritable_lit ":"⟩
  have hpadding := Text.isWritable_replicate (labelWidth - (label ++ lit ":").length) ' '
  have hpadded := Text.isWritable_append.2 ⟨hhead, hpadding⟩
  exact Text.isWritable_append.2
    ⟨Text.isWritable_append.2 ⟨hpadded, Text.isWritable_lit " "⟩, hvalue⟩

/-- A line that can be written can be cut. -/
theorem isWritable_truncate (h : line.IsWritable) (width : Int) :
    (truncate line width).IsWritable := by
  unfold truncate
  split
  · exact h
  · exact Text.isWritable_append.2
      ⟨fun a ha => h a (List.mem_of_mem_take ha), Text.isWritable_lit "..."⟩

/-- Colour does not matter to whether a line can be written. -/
theorem isWritable_coloured : (coloured line).IsWritable ↔ line.IsWritable := by
  have hline : line.IsWritable ↔
      Text.IsWritable (line.take labelWidth) ∧ Text.IsWritable (line.drop labelWidth) := by
    rw [← Text.isWritable_append, List.take_append_drop]
  have hbold : EscapeSequence.boldBlue.IsWritable := Text.isWritable_lit _
  have hreset : EscapeSequence.reset.IsWritable := Text.isWritable_lit _
  unfold coloured
  simp only [Text.isWritable_append, hbold, hreset, true_and, and_true, hline]

/-- The row that shows the last command. -/
def commandRow (status : Status) : Text :=
  truncate (row (lit "last command") ((status.lastCommand.map ShellWord.join).getD (lit "none")))
    status.columns

/-- The rows above the last one. -/
def upperRows (status : Status) : List Text := (rows status).take 5

/-- The last row of a report shows the last command. -/
theorem rows_eq (status : Status) : rows status = upperRows status ++ [commandRow status] := rfl

/-- The rows above the last one can be written if the user and the output base can. -/
theorem isWritable_upperRows (huser : status.user.IsWritable)
    (hbase : status.outputBase.IsWritable) : ∀ row ∈ upperRows status, Text.IsWritable row := by
  have hdecimal : ∀ n, (decimal n).IsWritable := fun n =>
    Text.isWritable_of_isPrintable (isPrintable_decimal n)
  have hinteractive : Text.IsWritable (if status.interactive then lit "yes" else lit "no") := by
    split
    · exact Text.isWritable_lit _
    · exact Text.isWritable_lit _
  have hport : ((status.commandPort.map decimal).getD (lit "none")).IsWritable := by
    rcases status.commandPort with _ | port
    · exact Text.isWritable_lit _
    · exact hdecimal port
  have hshown : ∀ {label value : Text}, label.IsWritable → value.IsWritable →
      (truncate (row label value) status.columns).IsWritable := fun hlabel hvalue =>
    isWritable_truncate (isWritable_row hlabel hvalue) _
  intro row hrow
  simp only [upperRows, rows, entries, labels, values, List.zip_cons_cons, List.zip_nil_right,
    List.map_cons, List.map_nil, List.take_succ_cons, List.take_zero, List.mem_cons,
    List.not_mem_nil, or_false] at hrow
  rcases hrow with rfl | rfl | rfl | rfl | rfl
  · exact hshown (Text.isWritable_lit _) huser
  · exact hshown (Text.isWritable_lit _) hbase
  · exact hshown (Text.isWritable_lit _) hinteractive
  · exact hshown (Text.isWritable_lit _) (hdecimal _)
  · exact hshown (Text.isWritable_lit _) hport

/-- **A command without stray bytes can be shown** at any width. -/
theorem isWritable_commandRow {words : List Text} (hcommand : status.lastCommand = some words)
    (h : ∀ word ∈ words, word.IsWritable) : (commandRow status).IsWritable := by
  rw [commandRow, hcommand]
  exact isWritable_truncate
    (isWritable_row (Text.isWritable_lit _) (ShellWord.isWritable_join h)) _

/-! ## Reports -/

/-- The numbers of a report. -/
def numbers {τ : Type} (status : StatusOf τ) : List Int :=
  status.columns :: status.commandPort.toList

/-- **A report has no number that is too long** if each is less than the power of ten that has one
digit too many. -/
theorem hasLongNumber_eq_false_iff {τ : Type} {status : StatusOf τ} :
    hasLongNumber status = false ↔ ∀ n ∈ numbers status, n.natAbs < 10 ^ Numeral.maxDigits := by
  rcases hport : status.commandPort with _ | port
  · simp [hasLongNumber, numbers, hport, Numeral.isLong_eq_false_iff]
  · simp [hasLongNumber, numbers, hport, Numeral.isLong_eq_false_iff]

/-- Code points do not change the numbers. -/
theorem hasLongNumber_wide (status : Status) :
    hasLongNumber status.wide = hasLongNumber status := rfl

/-- One number that is too long is enough. -/
theorem hasLongNumber_of_mem {τ : Type} {status : StatusOf τ} {n : Int} (hn : n ∈ numbers status)
    (h : 10 ^ Numeral.maxDigits ≤ n.natAbs) : hasLongNumber status = true := by
  rw [← Bool.not_eq_false, hasLongNumber_eq_false_iff]
  exact fun hnumbers => Nat.not_lt.2 h (hnumbers n hn)

/-- A report with a number that is too long fails before anything is written. -/
theorem exec_emit_of_hasLongNumber (h : hasLongNumber status = true) (asJson colour : Bool)
    (w : World) :
    exec (emit asJson colour status) w = (.error (.failed (.invalid .longNumber)), w) := by
  unfold emit
  rw [h]
  rfl

/-- So does a report for a program, of any strings. -/
theorem exec_emitJson_of_hasLongNumber {status : StatusOf (List CodePoint)}
    (h : hasLongNumber status = true) (w : World) :
    exec (emitJson status) w = (.error (.failed (.invalid .longNumber)), w) := by
  unfold emitJson
  rw [h]
  rfl

/-- Nothing of the report stands in its own way: it has no number that is too long, and it is for a
program, or all its rows can be written. -/
structure CanBeWritten (asJson : Bool) (status : Status) : Prop where
  numbers : hasLongNumber status = false
  rows : asJson = true ∨ ∀ row ∈ rows status, Text.IsWritable row

/-- Lines are printed if each of them can be written. -/
theorem returns_printAll {lines : List Text} (h : ∀ line ∈ lines, Text.IsWritable line)
    (keepEscapes : Bool) : Returns (printAll keepEscapes lines) := by
  induction lines with
  | nil => exact Returns.pure _
  | cons line lines ih =>
    obtain ⟨hline, hlines⟩ := List.forall_mem_cons.1 h
    exact Returns.bind (returns_printLine hline keepEscapes) fun _ => ih hlines

/-- **A report for a program is written** if it has no number that is too long. -/
theorem returns_emitJson {status : StatusOf (List CodePoint)} (h : hasLongNumber status = false) :
    Returns (emitJson status) := by
  have hline := Text.isWritable_of_isPrintable (Json.isPrintable_line (payload status))
  exact Returns.unlessRefused h (Returns.bind Returns.get fun _ => returns_printLine hline _)

/-- **A report that can be written is written.** -/
theorem returns_emit {asJson : Bool} (h : CanBeWritten asJson status) (colour : Bool) :
    Returns (emit asJson colour status) := by
  rcases h.rows with rfl | hrows
  · rw [emit_true]
    exact returns_emitJson h.numbers
  · cases asJson with
    | true =>
      rw [emit_true]
      exact returns_emitJson h.numbers
    | false =>
      refine Returns.unlessRefused h.numbers ?_
      refine returns_printAll (fun line hline => ?_) colour
      cases colour with
      | false => exact hrows line hline
      | true =>
        obtain ⟨row, hrow, rfl⟩ := List.mem_map.1 hline
        exact isWritable_coloured.2 (hrows row hrow)

/-- A line that cannot be written ends the lines. -/
theorem exec_printAll_of_not_isWritable {lines : List Text}
    (h : ∀ line ∈ lines, Text.IsWritable line) (hline : ¬line.IsWritable) (keepEscapes : Bool)
    (w : World) :
    ∃ w', exec (printAll keepEscapes (lines ++ [line])) w = (.error (.failed .unwritable), w') := by
  induction lines generalizing w with
  | nil =>
    exact ⟨w, exec_bind_of_error (exec_printLine_of_not_isWritable hline keepEscapes w)⟩
  | cons first lines ih =>
    obtain ⟨hfirst, hlines⟩ := List.forall_mem_cons.1 h
    obtain ⟨_, w₁, hprint⟩ := returns_printLine hfirst keepEscapes w
    obtain ⟨w₂, hrest⟩ := ih hlines w₁
    exact ⟨w₂, (exec_bind_of_ok hprint).trans hrest⟩

/-- **A report that cannot be written fails unexpectedly,** if the user and the output base are not
to blame. -/
theorem exec_emit_of_not_canBeWritten {asJson : Bool} (huser : status.user.IsWritable)
    (hbase : status.outputBase.IsWritable) (h : ¬CanBeWritten asJson status) (colour : Bool)
    (w : World) :
    ∃ failure w', exec (emit asJson colour status) w = (.error (.failed failure), w') ∧
      ∀ f, failure ≠ .fatal f := by
  unfold emit
  rcases hnumbers : hasLongNumber status
  · obtain ⟨hjson, hunwritable⟩ := not_or.1 fun hrows => h ⟨hnumbers, hrows⟩
    obtain rfl := Bool.eq_false_iff.2 hjson
    have hupper := isWritable_upperRows huser hbase
    have hlast : ¬(commandRow status).IsWritable := by
      intro hlast
      refine hunwritable fun row hrow => ?_
      rw [rows_eq] at hrow
      rcases List.mem_append.1 hrow with hrow | hrow
      · exact hupper row hrow
      · exact List.mem_singleton.1 hrow ▸ hlast
    have hfails : ∃ w', exec (printAll colour
        (if colour then (rows status).map coloured else rows status)) w =
          (.error (.failed .unwritable), w') := by
      cases colour with
      | false => exact exec_printAll_of_not_isWritable hupper hlast false w
      | true =>
        simp only [if_true, rows_eq, List.map_append, List.map_cons, List.map_nil]
        refine exec_printAll_of_not_isWritable (fun line hline => ?_)
          (mt isWritable_coloured.1 hlast) true w
        obtain ⟨row, hrow, rfl⟩ := List.mem_map.1 hline
        exact isWritable_coloured.2 (hupper row hrow)
    obtain ⟨w', hfails⟩ := hfails
    exact ⟨_, w', hfails, fun f => by simp⟩
  · exact ⟨_, w, rfl, fun f => by simp⟩

end Report

end Launcher
