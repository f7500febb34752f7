import Launcher.Proofs.Run.Frame
import Launcher.Proofs.Text.Json
import Launcher.Report

/-!
# Reports on the output

What a report leaves alone, and what stands on the output behind it.

## Main definitions

* `Launcher.Report.column` and `Launcher.Report.text` — lines, and the text of a report.

## Main results

* `Launcher.Report.keeps_emit` — a report changes nothing but the output.
* `Launcher.Report.output_of_exec_emitJson` — the line of a report for a program.
* `Launcher.Report.text_of_exec_emit` — the text of a report is what is written.
-/

namespace Launcher.Report

open Launcher.Action

variable {codes : List ExitCode}

/-- Printing lines changes the output only, and ends no launch. -/
theorem keeps_printAll (keepEscapes : Bool) (lines : List Text) :
    Keeps (World.besides [.output]) codes (printAll keepEscapes lines) := by
  induction lines with
  | nil => exact Keeps.pure _
  | cons line lines ih => exact Keeps.bind (keeps_printLine _ _) fun _ => ih

/-- A report changes nothing but the output, and ends no launch if it cannot be written. -/
theorem keeps_emit (asJson colour : Bool) (status : Status) :
    Keeps (World.besides [.output]) codes (emit asJson colour status) :=
  Keeps.unlessRefused (Stop.exitsWith_of_ne_fatal fun _ => by simp)
    (Keeps.ite (keeps_printPlain _) (keeps_printAll _ _))

/-- **A report for a program is one line of JSON,** whatever the terminal. -/
theorem output_of_exec_emitJson {status : StatusOf (List CodePoint)} {w w' : World}
    (h : exec (emitJson status) w = (.ok ⟨⟩, w')) :
    ∃ cs : List Char, (payload status).line = cs.map .char ∧
      w'.process.output = ⟨w.written ++ (cs ++ ['\n']), []⟩ := by
  obtain ⟨-, hprint⟩ := exec_unlessRefused_eq_ok h
  obtain ⟨cs, hcs, houtput⟩ := output_of_exec_printLine hprint
  have hplain := Json.isPrintable_line (payload status)
  have hprepared : prepared w.machine.terminal.output (payload status).line =
      (payload status).line := by
    unfold prepared
    rw [EscapeSequence.strip_of_isPrintable hplain, ite_self]
  obtain ⟨line, hline⟩ := Text.exists_map_char_of_isPrintable hplain
  refine ⟨line, hline, ?_⟩
  rw [hprepared, hline] at hcs
  have hall : line.map Symbol.char ++ [Symbol.char '\n'] = (line ++ ['\n']).map .char := by simp
  rw [hall, Text.chars?_map_char] at hcs
  rw [houtput, ← Option.some.inj hcs]

/-- The report for a program is that of the code points, whatever colour is asked for. -/
theorem emit_true (colour : Bool) (status : Status) :
    emit true colour status = emitJson status.wide := rfl

/-- So it is one line of JSON, too. -/
theorem output_of_exec_emit {colour : Bool} {status : Status} {w w' : World}
    (h : exec (emit true colour status) w = (.ok ⟨⟩, w')) :
    ∃ cs : List Char, (json status).line = cs.map .char ∧
      w'.process.output = ⟨w.written ++ (cs ++ ['\n']), []⟩ :=
  output_of_exec_emitJson (emit_true colour status ▸ h)

/-- Lines one below the other, as they are written. -/
def column (keepEscapes : Bool) (lines : List Text) : Text :=
  lines.flatMap fun line => prepared keepEscapes line ++ [.char '\n']

/-- The text of a report: one line of JSON for a program, or the rows for a person, in colour if the
session is interactive. -/
def text (asJson : Bool) (status : Status) : Text :=
  if asJson then (json status).line ++ [.char '\n']
  else
    column status.interactive
      (if status.interactive then (rows status).map coloured else rows status)

/-- Lines that are written follow each other. -/
theorem output_of_exec_printAll {keepEscapes : Bool} {lines : List Text} {front : List Char}
    {w w' : World} (houtput : w.process.output = ⟨front, []⟩)
    (h : exec (printAll keepEscapes lines) w = (.ok ⟨⟩, w')) :
    ∃ cs, (column keepEscapes lines).chars? = some cs ∧
      w'.process.output = ⟨front ++ cs, []⟩ := by
  induction lines generalizing w front with
  | nil =>
    cases h
    exact ⟨[], rfl, by rw [List.append_nil, houtput]⟩
  | cons line lines ih =>
    obtain ⟨_, w₁, hline, h⟩ := exec_bind_eq_ok.1 h
    obtain ⟨cs, hcs, houtput₁⟩ := output_of_exec_printLine hline
    have hfront : w.written = front := by
      rw [World.written, houtput, List.append_nil]
    rw [hfront] at houtput₁
    obtain ⟨cs', hcs', houtput'⟩ := ih houtput₁ h
    exact ⟨cs ++ cs', Text.chars?_append hcs hcs', by rw [houtput', List.append_assoc]⟩

/-- **The text of a report is what is written,** if nothing else has been written before. -/
theorem text_of_exec_emit {asJson : Bool} {status : Status} {w w' : World}
    (hwritten : w.written = [])
    (h : exec (emit asJson (status.interactive && !asJson) status) w = (.ok ⟨⟩, w')) :
    ∃ cs, (text asJson status).chars? = some cs ∧ w'.process.output = ⟨cs, []⟩ := by
  cases asJson with
  | true =>
    obtain ⟨line, hline, houtput⟩ := output_of_exec_emit h
    rw [hwritten, List.nil_append] at houtput
    refine ⟨line ++ ['\n'], ?_, houtput⟩
    exact Text.chars?_append (by rw [hline, Text.chars?_map_char]) rfl
  | false =>
    have hempty : w.process.output = ⟨[], []⟩ := World.output_eq_empty hwritten
    obtain ⟨-, hprint⟩ := exec_unlessRefused_eq_ok h
    rw [Bool.not_false, Bool.and_true] at hprint
    exact output_of_exec_printAll hempty hprint

end Launcher.Report
