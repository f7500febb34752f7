import Launcher.Proofs.Report.Colour
import Launcher.Proofs.Report.Lossless

/-!
# The layout of a report for a person

A report for a person has six rows in a fixed order. A full row is a label with its colon, padded to
the width of its column, a space and the value; what is shown of it is cut to the columns of the
terminal, with a mark at its end, unless there is no room for more than the mark. Cutting a row
again changes nothing. Colour does not move anything: without the escapes of the launcher the same
text is left.

Escape sequences in the texts of a report would be cut out where there is no colour. The command is
shown as one line, and a sequence may come about where two of its words meet.

## Main definitions

* `Launcher.Report.IsRow` and `Launcher.Report.IsCut` — a full row, and what is shown of it.
* `Launcher.Report.shownTexts` — the texts that a report shows as they are.
* `Launcher.Report.IsLaidOut` — how a report for a person is laid out.

## Main results

* `Launcher.Report.isCut_truncate` and `Launcher.Report.truncate_truncate` — what is shown of a
  line.
* `Launcher.Report.laid_out_in_columns` — the layout of a report.
* `Launcher.Report.not_every_report_is_laid_out` — reports that are not laid out so.
-/

namespace Launcher.Report

open Launcher.Action EscapeSequence

variable {line label value : Text} {lines : List Text} {status : Status} {width : Int}

/-! ## Full rows -/

/-- **A full row:** a label with its colon, spaces up to the width of the column of labels, a space
and the value. -/
structure IsRow (label value full : Text) : Prop where
  spelled : ∃ spaces : Nat, full =
    label ++ lit ":" ++ List.replicate spaces (.char ' ') ++ lit " " ++ value
  length : full.length = 14 + value.length

/-- Rows are full rows, if their labels fit into the column of labels. -/
theorem isRow_row (h : label.length < labelWidth) (value : Text) :
    IsRow label value (row label value) where
  spelled := ⟨_, rfl⟩
  length := by
    have hspace : (lit " ").length = 1 := rfl
    rw [row_eq, List.length_append, List.length_append, length_labelColumn h, hspace,
      labelWidth_eq]
    omega

/-! ## Cutting -/

/-- **What is shown of a line** at a width: the line itself, if it fits or if the width has no room
for more than the mark of a cut; else as much of it as leaves room for the mark, and the mark. -/
structure IsCut (width : Int) (line shown : Text) : Prop where
  narrow : width ≤ 3 → shown = line
  length : 3 < width → (shown.length : Int) = min (line.length : Int) width
  whole : 3 < width → (line.length : Int) ≤ width → shown = line
  cut : 3 < width → width < line.length → shown = line.take (width - 3).toNat ++ lit "..."

/-- A line that fits is not cut. -/
theorem truncate_of_le (h : width ≤ 3 ∨ (line.length : Int) ≤ width) : truncate line width = line :=
  if_pos h

/-- A line that does not fit is cut. -/
theorem truncate_of_lt (h : 3 < width) (hline : width < line.length) :
    truncate line width = line.take (width - 3).toNat ++ lit "..." := by
  have hnot : ¬(width ≤ 3 ∨ (line.length : Int) ≤ width) := by omega
  exact if_neg hnot

/-- A line that is cut fills the width. -/
theorem length_truncate_of_lt (h : 3 < width) (hline : width < line.length) :
    ((truncate line width).length : Int) = width := by
  have hmark : (lit "...").length = 3 := rfl
  rw [truncate_of_lt h hline, List.length_append, List.length_take, hmark]
  omega

/-- **A line is cut as it should be.** -/
theorem isCut_truncate (line : Text) (width : Int) : IsCut width line (truncate line width) where
  narrow h := truncate_of_le (Or.inl h)
  length h := by
    by_cases hline : (line.length : Int) ≤ width
    · rw [truncate_of_le (Or.inr hline), Int.min_eq_left hline]
    · rw [length_truncate_of_lt h (by omega), Int.min_eq_right (by omega)]
  whole _ hline := truncate_of_le (Or.inr hline)
  cut := truncate_of_lt

/-- **A line that has been cut is not cut again.** -/
theorem truncate_truncate (line : Text) (width : Int) :
    truncate (truncate line width) width = truncate line width := by
  by_cases hfits : width ≤ 3 ∨ (line.length : Int) ≤ width
  · rw [truncate_of_le hfits, truncate_of_le hfits]
  · have hlength : ((truncate line width).length : Int) = width :=
      length_truncate_of_lt (by omega) (by omega)
    exact truncate_of_le (Or.inr (by omega))

/-! ## Rows without sequences -/

/-- A row of a value without sequences has none. -/
theorem isFree_row (hlabel : .char '\x1b' ∉ label) (hvalue : IsFree value) :
    IsFree (row label value) := by
  have hcolon : Symbol.char '\x1b' ∉ lit ":" := by decide
  have hspace : Symbol.char '\x1b' ∉ lit " " := by decide
  have hcolumn : Symbol.char '\x1b' ∉ labelColumn label := by simp [labelColumn, hlabel, hcolon]
  rw [row_eq]
  exact (hvalue.append_left hspace).append_left hcolumn

/-- **A line without sequences is cut without one coming about:** the mark of the cut ends none. -/
theorem isFree_truncate (h : IsFree line) (width : Int) : IsFree (truncate line width) := by
  unfold truncate
  split
  · exact h
  · exact (h.of_infix (List.take_prefix _ _).isInfix).append_right (by decide)

/-- The texts that a report for a person shows as they are: the user, the output base and the last
command on one line. -/
def shownTexts (status : Status) : List Text :=
  status.user :: status.outputBase :: (status.lastCommand.map ShellWord.join).toList

/-- The text is made of characters, and there is no escape sequence in it. -/
structure IsPlain (t : Text) : Prop where
  isWritable : t.IsWritable
  isFree : IsFree t

/-- What is printable is plain. -/
theorem isPlain_of_isPrintable {t : Text} (h : t.IsPrintable) : IsPlain t := by
  have hescape : .char '\x1b' ∉ t := fun hmem => absurd (h _ hmem) (by decide)
  refine ⟨Text.isWritable_of_isPrintable h, ?_⟩
  simpa using isFree_nil.append_left hescape

/-- The values of a report are plain if the texts are that it shows as they are. -/
theorem isPlain_of_mem_entries (h : ∀ t ∈ shownTexts status, IsPlain t) {entry : Text × Text}
    (hentry : entry ∈ entries status) : IsPlain entry.2 := by
  have hdecimal : ∀ n, IsPlain (decimal n) :=
    fun n => isPlain_of_isPrintable (isPrintable_decimal n)
  have hnone : IsPlain (lit "none") := isPlain_of_isPrintable (by decide)
  have hinteractive : IsPlain (if status.interactive then lit "yes" else lit "no") := by
    split
    · exact isPlain_of_isPrintable (by decide)
    · exact isPlain_of_isPrintable (by decide)
  have hport : IsPlain ((status.commandPort.map decimal).getD (lit "none")) := by
    rcases status.commandPort with _ | port
    · exact hnone
    · exact hdecimal port
  have hcommand : IsPlain ((status.lastCommand.map ShellWord.join).getD (lit "none")) := by
    rcases hlast : status.lastCommand with _ | words
    · exact hnone
    · exact h _ (by simp [shownTexts, hlast])
  simp only [entries, labels, values, List.zip_cons_cons, List.zip_nil_right, List.mem_cons,
    List.not_mem_nil, or_false] at hentry
  rcases hentry with rfl | rfl | rfl | rfl | rfl | rfl
  · exact h _ (by simp [shownTexts])
  · exact h _ (by simp [shownTexts])
  · exact hinteractive
  · exact hdecimal _
  · exact hport
  · exact hcommand

/-- **The rows of a report are plain** if its texts are, wherever they are cut. -/
theorem isPlain_of_mem_rows (h : ∀ t ∈ shownTexts status, IsPlain t) (hline : line ∈ rows status) :
    IsPlain line := by
  obtain ⟨entry, hentry, rfl⟩ := List.mem_map.1 hline
  have hvalue := isPlain_of_mem_entries h hentry
  have hlabel : entry.1.IsWritable := by
    have hlabels : ∀ label ∈ labels, Text.IsPrintable label := by decide
    rw [← map_fst_entries status] at hlabels
    exact Text.isWritable_of_isPrintable (hlabels _ (List.mem_map_of_mem hentry))
  exact ⟨isWritable_truncate (isWritable_row hlabel hvalue.isWritable) _,
    isFree_truncate (isFree_row (of_mem_entries hentry).2 hvalue.isFree) _⟩

/-! ## Lines on the output -/

/-- Lines that can be written are lines of characters. -/
theorem exists_chars_of_isWritable (h : ∀ line ∈ lines, Text.IsWritable line) :
    ∃ written : List (List Char), written.map (·.map .char) = lines := by
  induction lines with
  | nil => exact ⟨[], rfl⟩
  | cons line lines ih =>
    obtain ⟨hline, hlines⟩ := List.forall_mem_cons.1 h
    obtain ⟨cs, hcs⟩ := Text.exists_chars?_of_isWritable hline
    obtain ⟨written, rfl⟩ := ih hlines
    exact ⟨cs :: written, by rw [List.map_cons, Text.chars?_eq_some_iff.1 hcs]⟩

/-- Lines of characters, each with its end. -/
def block (lines : List (List Char)) : List Char := lines.flatMap (· ++ ['\n'])

/-- Lines that are prepared as they are stand on the output as they are. -/
theorem eq_block {keepEscapes : Bool} {text : List Char} {written : List (List Char)}
    (hprepared : ∀ line ∈ written, prepared keepEscapes (line.map .char) = line.map .char)
    (h : text.map .char = column keepEscapes (written.map (·.map .char))) :
    text = block written := by
  have hcolumn : column keepEscapes (written.map (·.map .char)) = (block written).map .char := by
    clear h
    induction written with
    | nil => rfl
    | cons line written ih =>
      obtain ⟨hline, hwritten⟩ := List.forall_mem_cons.1 hprepared
      have hrest := ih hwritten
      simp only [column, block, List.map_cons, List.flatMap_cons, hline, List.map_append] at hrest ⊢
      rw [hrest]
      rfl
  rw [hcolumn] at h
  exact Text.map_char_inj.1 h

/-- **How a report for a person is laid out:** one line for each label, which shows the full row of
the label and its value as it is cut to the columns, and would not be cut again. Without colour
these lines are written. In colour the labels of these lines are coloured, and without escape
sequences the lines are left. -/
structure IsLaidOut (status : Status) (lines : List (List Char)) : Prop where
  length : lines.length = labels.length
  row : ∀ (i : Nat) (label value : Text), (entries status)[i]? = some (label, value) →
    ∃ (line : List Char) (full : Text), lines[i]? = some line ∧ IsRow label value full ∧
      IsCut status.columns full (line.map .char) ∧
      truncate (line.map .char) status.columns = line.map .char
  plain : ∀ w, ∃ w', exec (emit false false status) w = (.ok ⟨⟩, w') ∧
    w'.written = w.written ++ block lines
  coloured : ∀ w, ∃ inColour w', exec (emit false true status) w = (.ok ⟨⟩, w') ∧
    w'.written = w.written ++ block inColour ∧
    (inColour.map fun line : List Char => line.map Symbol.char) =
      (lines.map fun line => Report.coloured (line.map .char)) ∧
    (inColour.map fun line => strip (line.map .char)) = lines.map fun line => line.map .char

/-- All rows of a report are written if they can be. -/
theorem goesUpTo_length (h : ∀ line ∈ rows status, Text.IsWritable line) :
    GoesUpTo (rows status) (rows status).length where
  le := Nat.le_refl _
  earlier line hline := h line (List.mem_of_mem_take hline)
  next := by simp

/-- The lines of a report whose rows are plain, with or without colour. -/
theorem exists_exec_emit_block (colour : Bool) {written : List (List Char)}
    (hnumbers : hasLongNumber status = false) (hrows : ∀ line ∈ rows status, IsPlain line)
    (hwritten : (written.map fun line : List Char => line.map Symbol.char) =
      (rows status).map fun row => if colour then coloured row else row) (w : World) :
    ∃ w', exec (emit false colour status) w = (.ok ⟨⟩, w') ∧
      w'.written = w.written ++ block written := by
  obtain ⟨text, ⟨w', hexec, htext⟩, hlines⟩ :=
    exists_emits (goesUpTo_length fun line hline => (hrows line hline).isWritable) hnumbers colour w
  rw [List.take_length, ← hwritten] at hlines
  have hprepared : ∀ line ∈ written, prepared colour (line.map .char) = line.map .char := by
    intro line hline
    have hrow := List.mem_map_of_mem (f := fun line : List Char => line.map Symbol.char) hline
    rw [hwritten] at hrow
    cases colour with
    | true => rfl
    | false =>
      obtain ⟨row, hrow, hshown⟩ := List.mem_map.1 hrow
      rw [← hshown]
      exact strip_of_isFree (hrows row hrow).isFree
  rw [eq_block hprepared hlines] at htext
  exact ⟨w', hexec.trans (by rw [endOf, if_pos rfl]), htext⟩

/-- **The layout of a report** whose numbers can be written and whose texts are plain. Its six rows
stand in a fixed order. Each shows a label with its colon, padded to thirteen symbols, a space and
the value, cut to the columns of the terminal with a mark at its end; it would not be cut again; and
with colour on it is the same text between the escapes of the launcher.

**Proof sketch.** A plain value makes a plain row, and no sequence comes about where the row is cut,
since the mark has no final character (`isPlain_of_mem_rows`). So every row can be written, and
without colour nothing is cut out of it. In colour the row is left when the escapes are cut out
(`strip_coloured`). -/
theorem laid_out_in_columns
    (hnumbers : ∀ n ∈ numbers status, n.natAbs < 10 ^ Numeral.maxDigits)
    (htexts : ∀ t ∈ shownTexts status, IsPlain t) :
    (entries status).map Prod.fst = labels ∧ ∃ lines, IsLaidOut status lines := by
  have hwritable := hasLongNumber_eq_false_iff.2 hnumbers
  have hrows : ∀ line ∈ rows status, IsPlain line := fun line => isPlain_of_mem_rows htexts
  obtain ⟨lines, hlines⟩ :=
    exists_chars_of_isWritable fun line hline => (hrows line hline).isWritable
  have hcoloured : ∀ line ∈ (rows status).map coloured, Text.IsWritable line := by
    intro line hline
    obtain ⟨row, hrow, rfl⟩ := List.mem_map.1 hline
    exact isWritable_coloured.2 (hrows row hrow).isWritable
  obtain ⟨inColour, hinColour⟩ := exists_chars_of_isWritable hcoloured
  refine ⟨map_fst_entries status, lines, ?_, ?_, ?_, fun w => ?_⟩
  · have hlength := congrArg List.length hlines
    rwa [List.length_map] at hlength
  · intro i label value hentry
    have hrow : (rows status)[i]? = some (truncate (row label value) status.columns) := by
      rw [rows, List.getElem?_map, hentry]
      rfl
    rw [← hlines, List.getElem?_map] at hrow
    obtain ⟨line, hline, hshown⟩ := Option.map_eq_some_iff.1 hrow
    have hlabel : label.length < labelWidth := (of_mem_entries (List.mem_of_getElem? hentry)).1
    refine ⟨line, row label value, hline, isRow_row hlabel value, ?_, ?_⟩
    · rw [hshown]
      exact isCut_truncate _ _
    · rw [hshown]
      exact truncate_truncate _ _
  · exact exists_exec_emit_block false hwritable hrows (by simpa using hlines)
  · obtain ⟨w', hexec, hwritten⟩ :=
      exists_exec_emit_block true hwritable hrows (by simpa using hinColour) w
    refine ⟨inColour, w', hexec, hwritten, ?_, ?_⟩
    · rw [hinColour, ← hlines, List.map_map]
      rfl
    · have hstrip : ∀ row ∈ rows status, strip (coloured row) = row := fun row hrow =>
        (strip_coloured (hasPlainLabel_of_mem_rows hrow)).trans
          (strip_of_isFree (hrows row hrow).isFree)
      calc (inColour.map fun line => strip (line.map .char))
          = ((inColour.map fun line : List Char => line.map Symbol.char).map strip) := by
            rw [List.map_map]
            rfl
        _ = (rows status).map fun row => strip (coloured row) := by
            rw [hinColour, List.map_map]
            rfl
        _ = rows status := (List.map_congr_left hstrip).trans (List.map_id' _)
        _ = lines.map fun line => line.map .char := hlines.symm

/-- A report on ten columns, with a text that begins like a sequence. -/
def tight : Status where
  user := lit "\x1b[1"
  outputBase := lit "/base"
  interactive := true
  columns := 10
  commandPort := none
  lastCommand := some [lit "true", lit "a b"]

/-- Ten columns end inside the labels, and the report is laid out all the same. -/
theorem laid_out_in_columns_tight :
    (∀ n ∈ numbers tight, n.natAbs < 10 ^ Numeral.maxDigits) ∧
      (∀ t ∈ shownTexts tight, IsPlain t) ∧ ∃ lines, IsLaidOut tight lines := by
  have hnumbers : ∀ n ∈ numbers tight, n.natAbs < 10 ^ Numeral.maxDigits := by decide +kernel
  have htexts : ∀ t ∈ shownTexts tight, IsPlain t := by
    refine List.forall_mem_cons.2 ⟨⟨Text.isWritable_lit _, by decide⟩, fun t ht => ?_⟩
    exact isPlain_of_isPrintable
      ((by decide : ∀ t ∈ (shownTexts tight).tail, Text.IsPrintable t) t ht)
  exact ⟨hnumbers, htexts, (laid_out_in_columns hnumbers htexts).2⟩

/-! ## Reports that are not laid out so -/

/-- A report on a command whose first word begins a sequence that its second word ends. -/
def joining : Status where
  user := lit "user"
  outputBase := lit "/base"
  interactive := false
  columns := 80
  commandPort := none
  lastCommand := some [lit "\x1b[", lit "m"]

/-- The row of the command has lost the sequence that comes about between its words. -/
theorem not_isLaidOut_joining (lines : List (List Char)) : ¬IsLaidOut joining lines := by
  intro hlaid
  obtain ⟨w', hexec, hwritten⟩ := hlaid.plain blank
  obtain ⟨line, full, hline, hfull, hcut, -⟩ :=
    hlaid.row 5 (lit "last command") (lit "'\x1b[' m") (by decide)
  have hvalue : (lit "'\x1b[' m").length = 6 := rfl
  have hshown : line.map .char = full := by
    refine hcut.whole (by decide) ?_
    rw [hfull.length, hvalue]
    decide
  have hescape : '\x1b' ∈ block lines := by
    obtain ⟨spaces, hspelled⟩ := hfull.spelled
    have hmem : Symbol.char '\x1b' ∈ line.map Symbol.char := by
      rw [hshown, hspelled]
      exact List.mem_append_right _ (by decide)
    obtain ⟨c, hc, hescape⟩ := List.mem_map.1 hmem
    obtain rfl := Symbol.char.inj hescape
    exact List.mem_flatMap.2 ⟨line, List.mem_of_getElem? hline, List.mem_append_left _ hc⟩
  have hnone : '\x1b' ∉ (exec (emit false false joining) blank).2.written := by decide +kernel
  rw [hexec] at hnone
  exact hnone (hwritten ▸ List.mem_append_right _ hescape)

/-- A number that is too long leaves nothing of a report. -/
theorem not_isLaidOut_endless (lines : List (List Char)) : ¬IsLaidOut endless lines := by
  intro hlaid
  obtain ⟨w', hexec, -⟩ := hlaid.plain blank
  rw [exec_emit_of_hasLongNumber hasLongNumber_endless] at hexec
  cases hexec

/-- Not every report is laid out so whose texts are plain one by one, nor every one that shows plain
texts on any number of columns. -/
theorem not_every_report_is_laid_out :
    (¬∀ status : Status, (∀ n ∈ numbers status, n.natAbs < 10 ^ Numeral.maxDigits) →
      (∀ t ∈ status.user :: status.outputBase :: status.lastCommand.getD [], IsPlain t) →
        ∃ lines, IsLaidOut status lines) ∧
    ¬∀ status : Status, (∀ t ∈ shownTexts status, IsPlain t) → ∃ lines, IsLaidOut status lines := by
  constructor
  · intro hclaim
    have hnumbers : ∀ n ∈ numbers joining, n.natAbs < 10 ^ Numeral.maxDigits := by decide +kernel
    have htexts : ∀ s ∈ ["user", "/base", "\x1b[", "m"], IsFree (lit s) := by decide
    obtain ⟨lines, hlaid⟩ := hclaim joining hnumbers fun t ht => by
      obtain ⟨s, hs, rfl⟩ : ∃ s ∈ ["user", "/base", "\x1b[", "m"], lit s = t := List.mem_map.1 ht
      exact ⟨Text.isWritable_lit s, htexts s hs⟩
    exact not_isLaidOut_joining lines hlaid
  · intro hclaim
    have htexts : ∀ t ∈ shownTexts endless, Text.IsPrintable t := by decide
    obtain ⟨lines, hlaid⟩ := hclaim endless fun t ht => isPlain_of_isPrintable (htexts t ht)
    exact not_isLaidOut_endless lines hlaid

end Launcher.Report
