import Launcher.Proofs.ReportRows

/-!
# Reports with and without colour

In colour the labels of a report stand between escape sequences of the launcher, and the values stay
as they are; without colour all sequences in the rows are cut out. Nothing but escape sequences is
between the two. The coloured part of a row holds no ESC, so no sequence of a value begins in it;
the escapes of the launcher are sequences on their own; and no sequence goes beyond the end of a
row. A row that cannot be written ends both reports.

## Main definitions

* `Launcher.Report.HasPlainLabel` — the part of a line that is coloured holds no ESC.
* `Launcher.Report.GoesUpTo` — how many lines are written before one cannot be.
* `Launcher.Report.Emits` — how a report for a person ends, and what is then on the output.

## Main results

* `Launcher.Report.strip_coloured` and `Launcher.Report.strip_column_coloured` — the escapes of the
  launcher and those of the values are cut out together.
* `Launcher.Report.exists_exec_printAll` — lines are written up to one that cannot be.
* `Launcher.Report.colour_adds_escapes` — colour adds nothing but escapes.
-/

namespace Launcher.Report

open Launcher.Action EscapeSequence

variable {line label value : Text} {lines : List Text} {status : Status} {w : World} {n : Nat}

/-! ## Lines in colour -/

/-- The part of a line that is coloured holds no ESC. -/
def HasPlainLabel (line : Text) : Prop := .char '\x1b' ∉ line.take labelWidth

/-- **The escapes around a label are cut out** with those of the value, as if they had not been
there. -/
theorem strip_coloured (h : HasPlainLabel line) : strip (coloured line) = strip line := by
  have hbold : boldBlue = lit "\x1b[34m" ++ lit "\x1b[1m" := by decide
  calc strip (coloured line)
      = strip (lit "\x1b[34m" ++ (lit "\x1b[1m" ++
          (line.take labelWidth ++ (reset ++ line.drop labelWidth)))) := by
        simp only [coloured, hbold, List.append_assoc]
    _ = strip (line.take labelWidth ++ (reset ++ line.drop labelWidth)) := by
        rw [strip_append (by decide), strip_append (by decide)]
    _ = line.take labelWidth ++ strip (line.drop labelWidth) := by
        rw [strip_append_of_not_mem h, strip_append (by decide)]
    _ = strip line := by
        rw [← strip_append_of_not_mem h, List.take_append_drop]

/-- **No sequence goes beyond the end of a line,** so lines are cut one by one. -/
theorem strip_column (lines : List Text) : strip (column true lines) = column false lines := by
  have hnewline : Bars (.char '\n') := by decide
  induction lines with
  | nil => rfl
  | cons line lines ih =>
    calc strip (column true (line :: lines))
        = strip (line ++ .char '\n' :: column true lines) := by simp [column, prepared]
      _ = strip line ++ .char '\n' :: strip (column true lines) := by
          rw [strip_append_cons hnewline, strip_cons_of_ne (by decide)]
      _ = column false (line :: lines) := by
          rw [ih]
          simp [column, prepared]

/-- **Lines in colour without escapes** are the lines without colour. -/
theorem strip_column_coloured (h : ∀ line ∈ lines, HasPlainLabel line) :
    strip (column true (lines.map coloured)) = column false lines := by
  rw [strip_column]
  induction lines with
  | nil => rfl
  | cons line lines ih =>
    obtain ⟨hline, hlines⟩ := List.forall_mem_cons.1 h
    have hprepared : prepared false (coloured line) = prepared false line := strip_coloured hline
    have hrest : column false (lines.map coloured) = column false lines := ih hlines
    simp only [column, List.map_cons, List.flatMap_cons, hprepared] at hrest ⊢
    rw [hrest]

/-! ## Labels of rows -/

/-- The labels are the same whatever is reported. -/
theorem map_fst_entries (status : Status) : (entries status).map Prod.fst = labels := rfl

/-- With its colon, every label fits into its column, and it holds no ESC. -/
theorem of_mem_entries {entry : Text × Text} (h : entry ∈ entries status) :
    entry.1.length < labelWidth ∧ .char '\x1b' ∉ entry.1 := by
  have hlabels : ∀ label ∈ labels, label.length < labelWidth ∧ .char '\x1b' ∉ label := by decide
  rw [← map_fst_entries status] at hlabels
  exact hlabels _ (List.mem_map_of_mem h)

/-- A label with its colon, padded to the width of its column. -/
def labelColumn (label : Text) : Text :=
  label ++ lit ":" ++ List.replicate (labelWidth - (label ++ lit ":").length) (.char ' ')

/-- A label that fits fills its column. -/
theorem length_labelColumn (h : label.length < labelWidth) :
    (labelColumn label).length = labelWidth := by
  have hcolon : (lit ":").length = 1 := rfl
  simp only [labelColumn, List.length_append, List.length_replicate, hcolon]
  omega

/-- A row is the column of its label, a space and its value. -/
theorem row_eq (label value : Text) :
    row label value = labelColumn label ++ (lit " " ++ value) := by
  simp only [row, labelColumn, List.append_assoc]

/-- The row of a label without escapes has a plain label. -/
theorem hasPlainLabel_row (hlength : label.length < labelWidth) (hlabel : .char '\x1b' ∉ label) :
    HasPlainLabel (row label value) := by
  rw [HasPlainLabel, row_eq, List.take_left' (length_labelColumn hlength)]
  have hcolon : Symbol.char '\x1b' ∉ lit ":" := by decide
  simp [labelColumn, hlabel, hcolon]

/-- A line is cut without an ESC coming into its label: what is there is either of the label or of
the mark of the cut. -/
theorem HasPlainLabel.truncate (h : HasPlainLabel line) (width : Int) :
    HasPlainLabel (truncate line width) := by
  unfold Report.truncate
  split
  · exact h
  · intro hmem
    rw [List.take_append, List.take_take, Nat.min_comm, ← List.take_take] at hmem
    rcases List.mem_append.1 hmem with hline | hmark
    · exact h (List.mem_of_mem_take hline)
    · exact absurd (List.mem_of_mem_take hmark) (by decide)

/-- **No ESC stands in the coloured part of a row,** wherever the row is cut. -/
theorem hasPlainLabel_of_mem_rows (h : line ∈ rows status) : HasPlainLabel line := by
  obtain ⟨entry, hentry, rfl⟩ := List.mem_map.1 h
  obtain ⟨hlength, hlabel⟩ := of_mem_entries hentry
  exact (hasPlainLabel_row hlength hlabel).truncate _

/-! ## Lines up to one that cannot be written -/

/-- The first `n` lines can be written, and the next one, if there is one, cannot. -/
structure GoesUpTo (lines : List Text) (n : Nat) : Prop where
  le : n ≤ lines.length
  earlier : ∀ line ∈ lines.take n, Text.IsWritable line
  next : ∀ line, lines[n]? = some line → ¬line.IsWritable

/-- Some line is the first that cannot be written, or there is none. -/
theorem exists_goesUpTo (lines : List Text) : ∃ n, GoesUpTo lines n := by
  induction lines with
  | nil => exact ⟨0, Nat.le_refl 0, by simp, by simp⟩
  | cons line lines ih =>
    obtain ⟨n, hle, hearlier, hnext⟩ := ih
    by_cases hline : line.IsWritable
    · exact ⟨n + 1, by simpa using hle, by simpa using ⟨hline, hearlier⟩, by simpa using hnext⟩
    · exact ⟨0, Nat.zero_le _, by simp, by simpa using hline⟩

/-- Lines in colour go as far as without. -/
theorem GoesUpTo.map_coloured (h : GoesUpTo lines n) : GoesUpTo (lines.map coloured) n where
  le := by simpa using h.le
  earlier := by
    rw [← List.map_take]
    intro line hline
    obtain ⟨row, hrow, rfl⟩ := List.mem_map.1 hline
    exact isWritable_coloured.2 (h.earlier row hrow)
  next := by
    intro line hline
    rw [List.getElem?_map] at hline
    obtain ⟨row, hrow, rfl⟩ := Option.map_eq_some_iff.1 hline
    exact mt isWritable_coloured.1 (h.next row hrow)

/-- How the lines end of which the first `n` are written. -/
def endOf (lines : List Text) (n : Nat) : Except Stop Unit :=
  if n = lines.length then .ok ⟨⟩ else .error (.failed .unwritable)

/-- **Lines are written up to one that cannot be.** -/
theorem exists_exec_printAll (h : GoesUpTo lines n) (keepEscapes : Bool) (w : World) :
    ∃ cs w', exec (printAll keepEscapes lines) w = (endOf lines n, w') ∧
      w'.written = w.written ++ cs ∧ cs.map .char = column keepEscapes (lines.take n) := by
  induction lines generalizing w n with
  | nil =>
    obtain rfl : n = 0 := Nat.le_zero.1 h.le
    exact ⟨[], w, rfl, (List.append_nil _).symm, rfl⟩
  | cons line lines ih =>
    cases n with
    | zero =>
      have hline : ¬line.IsWritable := h.next line rfl
      refine ⟨[], w, ?_, (List.append_nil _).symm, rfl⟩
      rw [printAll, exec_bind_of_error (exec_printLine_of_not_isWritable hline keepEscapes w)]
      rfl
    | succ n =>
      obtain ⟨hline, hearlier⟩ := List.forall_mem_cons.1 h.earlier
      obtain ⟨cs, hcs⟩ := Text.exists_chars?_of_isWritable (Text.isWritable_append.2
        ⟨isWritable_prepared hline keepEscapes, Text.isWritable_map_char ['\n']⟩)
      have hprint := exec_printLine_of_chars? hcs w
      have hrest : GoesUpTo lines n :=
        ⟨Nat.le_of_succ_le_succ h.le, hearlier, fun next hnext => h.next next hnext⟩
      obtain ⟨later, w', hexec, hwritten, hlater⟩ := ih hrest
        { w with process := { w.process with output := (w.process.output.write cs).flush } }
      refine ⟨cs ++ later, w', ?_, ?_, ?_⟩
      · rw [printAll, exec_bind_of_ok hprint, hexec]
        simp [endOf]
      · rw [hwritten]
        simp [World.written, Stream.flush, Stream.write]
      · rw [List.map_append, ← Text.chars?_eq_some_iff.1 hcs, hlater]
        rfl

/-! ## Reports for a person -/

/-- A report for a person, with or without colour, ends in this way with the text behind what has
been written before: the text of its first `n` rows. -/
structure Emits (colour : Bool) (status : Status) (w : World) (n : Nat) (result : Except Stop Unit)
    (text : List Char) : Prop where
  exec : ∃ w', exec (emit false colour status) w = (result, w') ∧ w'.written = w.written ++ text
  rows : text.map .char =
    column colour (((rows status).take n).map fun row => if colour then coloured row else row)

/-- The lines of a report that are printed. -/
theorem exists_emits (h : GoesUpTo (rows status) n) (hnumbers : hasLongNumber status = false)
    (colour : Bool) (w : World) : ∃ text, Emits colour status w n (endOf (rows status) n) text := by
  have hemit : exec (emit false colour status) w =
      exec (printAll colour (if colour then (rows status).map coloured else rows status)) w := by
    unfold emit
    rw [hnumbers]
    rfl
  cases colour with
  | false =>
    obtain ⟨text, w', hexec, hwritten, htext⟩ := exists_exec_printAll h false w
    exact ⟨text, ⟨w', hemit.trans hexec, hwritten⟩, by simpa using htext⟩
  | true =>
    obtain ⟨text, w', hexec, hwritten, htext⟩ := exists_exec_printAll h.map_coloured true w
    have hend : endOf ((rows status).map coloured) n = endOf (rows status) n := by simp [endOf]
    rw [hend] at hexec
    exact ⟨text, ⟨w', hemit.trans hexec, hwritten⟩, by rw [htext, ← List.map_take]; rfl⟩

/-- **Colour adds nothing but escapes.** In colour and without, a report for a person ends in the
same way behind the same rows, the first of which cannot be written if it fails; and what is written
in colour, with all escape sequences cut out, is what is written without. A report with a number
that is too long fails in the same way, with nothing written.

**Proof sketch.** Colour does not matter to whether a row can be written, so both reports end behind
the same row. The end of a line bars sequences, so rows are cut one by one (`strip_column`); and a
row in colour is cut like the row without, since no ESC stands in the coloured part
(`strip_coloured`, `hasPlainLabel_of_mem_rows`). -/
theorem colour_adds_escapes (status : Status) (w : World) :
    ∃ n result on off, Emits true status w n result on ∧ Emits false status w n result off ∧
      strip (on.map .char) = off.map .char ∧
      (hasLongNumber status = false →
        GoesUpTo (rows status) n ∧ result = endOf (rows status) n) ∧
      (hasLongNumber status = true → n = 0 ∧ result = .error (.failed (.invalid .longNumber))) := by
  rcases hnumbers : hasLongNumber status
  · obtain ⟨n, hn⟩ := exists_goesUpTo (rows status)
    obtain ⟨on, hon⟩ := exists_emits hn hnumbers true w
    obtain ⟨off, hoff⟩ := exists_emits hn hnumbers false w
    refine ⟨n, _, on, off, hon, hoff, ?_, fun _ => ⟨hn, rfl⟩, by simp⟩
    have hplain : ∀ row ∈ (rows status).take n, HasPlainLabel row :=
      fun row hrow => hasPlainLabel_of_mem_rows (List.mem_of_mem_take hrow)
    rw [hon.rows, hoff.rows]
    simpa using strip_column_coloured hplain
  · have hemits : ∀ colour, Emits colour status w 0 (.error (.failed (.invalid .longNumber))) [] :=
      fun colour => ⟨⟨w, exec_emit_of_hasLongNumber hnumbers false colour w,
        (List.append_nil _).symm⟩, rfl⟩
    exact ⟨0, _, [], [], hemits true, hemits false, rfl, by simp, by simp⟩

end Launcher.Report
