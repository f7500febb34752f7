import Launcher.HelpPage
import Launcher.Proofs.Run.Frame
import Launcher.Proofs.Text.EscapeSequence

/-!
# What is written

A line goes to the output if it holds no stray bytes, and to the error stream in any case. On the
way escape sequences may be cut out of it. The pages of the program about itself can always be
written, and a message that begins with an ordinary character is not cut away.

## Main definitions

* `Launcher.Text.IsWritable` — a text without stray bytes.
* `Launcher.Text.IsVisible` — a text that begins with a character of its own.
* `Launcher.World.Said` — a line has been written to the error stream.

## Main results

* `Launcher.HelpPage.isWritable_text` — the help page can be written.
* `Launcher.Action.exec_printPlain_of_isWritable` — what can be written is written.
* `Launcher.Action.exec_printLine_of_not_isWritable` — what holds a stray byte is not.
* `Launcher.Action.exec_printError_of_isVisible` — what is written to the error stream.
-/

namespace Launcher

/-! ## Texts without stray bytes -/

namespace Text

variable {s t : Text}

/-- The text is made of characters. -/
def IsWritable (t : Text) : Prop := ∀ a ∈ t, ∃ c, a = .char c

/-- A text of characters tells its characters. -/
theorem map_char_inj {cs cs' : List Char} : cs.map Symbol.char = cs'.map .char ↔ cs = cs' :=
  List.map_inj_right fun _ _ => Symbol.char.inj

/-- Characters can be written. -/
theorem isWritable_map_char (cs : List Char) : IsWritable (cs.map .char) := by
  intro a ha
  obtain ⟨c, -, rfl⟩ := List.mem_map.1 ha
  exact ⟨c, rfl⟩

/-- Literals can be written. -/
theorem isWritable_lit (s : String) : IsWritable (lit s) := isWritable_map_char s.toList

/-- Texts can be written together exactly if each of them can be. -/
theorem isWritable_append : IsWritable (s ++ t) ↔ IsWritable s ∧ IsWritable t :=
  List.forall_mem_append

/-- A character that is repeated can be written. -/
theorem isWritable_replicate (n : Nat) (c : Char) : IsWritable (List.replicate n (.char c)) :=
  fun _ ha => ⟨c, List.eq_of_mem_replicate ha⟩

/-- Texts are put together with texts between them. -/
theorem isWritable_intercalate {texts : List Text} (hs : IsWritable s)
    (htexts : ∀ text ∈ texts, IsWritable text) : IsWritable (s.intercalate texts) := by
  induction texts with
  | nil => exact fun a ha => absurd ha (by simp)
  | cons first rest ih =>
    obtain ⟨hfirst, hrest⟩ := List.forall_mem_cons.1 htexts
    cases rest with
    | nil => simpa using hfirst
    | cons second rest =>
      rw [List.intercalate_cons_cons]
      exact isWritable_append.2 ⟨isWritable_append.2 ⟨hfirst, hs⟩, ih hrest⟩

/-- The characters of a text without stray bytes. -/
theorem exists_chars?_of_isWritable (h : IsWritable t) : ∃ cs, t.chars? = some cs := by
  induction t with
  | nil => exact ⟨[], rfl⟩
  | cons a t ih =>
    obtain ⟨⟨c, rfl⟩, ht⟩ := List.forall_mem_cons.1 h
    obtain ⟨cs, hcs⟩ := ih ht
    exact ⟨[c] ++ cs, chars?_append (chars?_map_char [c]) hcs⟩

/-- A text whose characters are known has no stray bytes. -/
theorem isWritable_of_chars? {cs : List Char} (h : t.chars? = some cs) : IsWritable t := by
  induction t generalizing cs with
  | nil => exact fun a ha => absurd ha (by simp)
  | cons a t ih =>
    unfold chars? at h ih
    rw [List.mapM_cons] at h
    cases a with
    | raw b => cases h
    | char c =>
      obtain ⟨_, -, h⟩ := Option.bind_eq_some_iff.1 h
      obtain ⟨rest, hrest, -⟩ := Option.bind_eq_some_iff.1 h
      exact List.forall_mem_cons.2 ⟨⟨c, rfl⟩, ih hrest⟩

/-- The text begins with a character that begins no escape sequence. -/
def IsVisible (t : Text) : Prop := ∃ c rest, t = .char c :: rest ∧ c ≠ '\x1b'

/-- What can be seen of a text can be seen with more text behind it. -/
theorem IsVisible.append (h : IsVisible s) (t : Text) : IsVisible (s ++ t) := by
  obtain ⟨c, rest, rfl, hc⟩ := h
  exact ⟨c, rest ++ t, rfl, hc⟩

end Text

/-! ## The pages about the program -/

namespace HelpPage

/-- Literal lines can be written together. -/
theorem isWritable_joinLines (lines : List String) :
    Text.IsWritable (joinLines (lines.map lit)) := by
  refine Text.isWritable_intercalate (Text.isWritable_replicate 1 '\n') fun text htext => ?_
  obtain ⟨line, -, rfl⟩ := List.mem_map.1 htext
  exact Text.isWritable_lit line

/-- The text of a help block can be written on any width. -/
theorem isWritable_blockText (width : Nat) (block : Block) :
    Text.IsWritable (block.text width) := by
  cases block with
  | fixed lines => exact isWritable_joinLines lines
  | filled indent green paragraph =>
    have hmargin := Text.isWritable_replicate indent ' '
    have hbody := Text.isWritable_append.2 ⟨Text.isWritable_replicate 1 '\n', hmargin⟩
    have hlines : ∀ text ∈ (fill (width - indent) paragraph).map fun line => line.map Symbol.char,
        Text.IsWritable text := fun text htext => by
      obtain ⟨line, -, rfl⟩ := List.mem_map.1 htext
      exact Text.isWritable_map_char line
    have hfilled := Text.isWritable_intercalate hbody hlines
    refine Text.isWritable_append.2 ⟨hmargin, ?_⟩
    split
    · exact Text.isWritable_append.2 ⟨Text.isWritable_append.2
        ⟨Text.isWritable_lit "\x1b[32m", hfilled⟩, Text.isWritable_lit "\x1b[0m"⟩
    · exact hfilled

/-- **The help page can be written.** -/
theorem isWritable_text (width : Nat) : Text.IsWritable (text width) := by
  refine Text.isWritable_intercalate (Text.isWritable_replicate 2 '\n') fun page hpage => ?_
  obtain ⟨block, -, rfl⟩ := List.mem_map.1 hpage
  exact isWritable_blockText width block

/-- What is said about the version can be written. -/
theorem isWritable_versionText : Text.IsWritable versionText := isWritable_joinLines [_, _]

end HelpPage

/-! ## Lines that are written -/

/-- Between two worlds of a process one line has been written to the error stream, and it is not
empty. -/
def World.Said (w w' : World) : Prop :=
  ∃ message : List Char, message ≠ [] ∧
    w'.process.errors = ⟨w.process.errors.flush.flushed ++ (message ++ ['\n']), []⟩

namespace Action

variable {line : Text} {w : World}

/-- A line that can be written can be written without its escapes. -/
theorem isWritable_prepared (h : line.IsWritable) (keepEscapes : Bool) :
    (prepared keepEscapes line).IsWritable := by
  unfold prepared
  split
  · exact h
  · exact fun a ha => h a (EscapeSequence.mem_of_mem_strip ha)

/-- A line that can be seen can be seen without its escapes. -/
theorem isVisible_prepared (h : line.IsVisible) (keepEscapes : Bool) :
    (prepared keepEscapes line).IsVisible := by
  unfold prepared
  split
  · exact h
  · obtain ⟨c, rest, rfl, hc⟩ := h
    exact ⟨c, _, EscapeSequence.strip_cons_of_ne (by simpa using hc) rest, hc⟩

/-- A line whose characters are known is written to the output. -/
theorem exec_printLine_of_chars? {keepEscapes : Bool} {cs : List Char}
    (h : (prepared keepEscapes line ++ [Symbol.char '\n']).chars? = some cs) (w : World) :
    exec (printLine keepEscapes line) w = (.ok ⟨⟩, { w with process :=
      { w.process with output := (w.process.output.write cs).flush } }) := by
  have hbuffer : exec (bufferOutput (prepared keepEscapes line ++ [Symbol.char '\n'])) w =
      (.ok ⟨⟩, { w with process := { w.process with output := w.process.output.write cs } }) := by
    rw [bufferOutput]
    split
    · rename_i hnone
      cases h.symm.trans hnone
    · rename_i cs' hcs'
      cases h.symm.trans hcs'
      rfl
  rw [printLine, exec_bind_of_ok hbuffer]
  rfl

/-- **What can be written to the output is written.** -/
theorem exec_printPlain_of_isWritable (h : line.IsWritable) (w : World) :
    ∃ cs w', (prepared w.machine.terminal.output line ++ [Symbol.char '\n']).chars? = some cs ∧
      exec (printPlain line) w = (.ok ⟨⟩, w') ∧ w'.process.output = ⟨w.written ++ cs, []⟩ := by
  obtain ⟨cs, hcs⟩ := Text.exists_chars?_of_isWritable (Text.isWritable_append.2
    ⟨isWritable_prepared h w.machine.terminal.output, Text.isWritable_map_char ['\n']⟩)
  have hprint : exec (printPlain line) w = (.ok ⟨⟩, { w with process :=
      { w.process with output := (w.process.output.write cs).flush } }) := by
    rw [printPlain, exec_bind_of_ok (exec_get w)]
    exact exec_printLine_of_chars? hcs w
  refine ⟨cs, _, hcs, hprint, ?_⟩
  simp [Stream.flush, Stream.write, World.written]

/-- **A line with a stray byte is not written to the output,** whether escape sequences are cut out
of it or not. -/
theorem exec_printLine_of_not_isWritable (h : ¬line.IsWritable) (keepEscapes : Bool) (w : World) :
    exec (printLine keepEscapes line) w = (.error (.failed .unwritable), w) := by
  have hprepared : ¬(prepared keepEscapes line).IsWritable := by
    intro hwritable
    refine h fun a ha => ?_
    cases a with
    | char c => exact ⟨c, rfl⟩
    | raw b =>
      refine hwritable _ ?_
      unfold prepared
      split
      · exact ha
      · exact EscapeSequence.mem_strip_of_bars ⟨rfl, rfl, rfl⟩ (by simp) ha
  have hbuffer : exec (bufferOutput (prepared keepEscapes line ++ [Symbol.char '\n'])) w =
      (.error (.failed .unwritable), w) := by
    rw [bufferOutput]
    split
    · rfl
    · rename_i cs hcs
      exact absurd (Text.isWritable_append.1 (Text.isWritable_of_chars? hcs)).1 hprepared
  rw [printLine, exec_bind_of_error hbuffer]

/-- **A line for the error stream is written there,** with stray bytes spelled out. A message that
begins with a character of its own leaves something to be seen. -/
theorem exec_printError_of_isVisible (h : line.IsVisible) (w : World) :
    ∃ w', exec (printError line) w = (.ok ⟨⟩, w') ∧ w.Said w' := by
  obtain ⟨c, rest, hline, -⟩ := isVisible_prepared h w.machine.terminal.errors
  have hmessage : (prepared w.machine.terminal.errors line).spelled ≠ [] := by
    rw [hline]
    simp [Text.spelled, Symbol.spelled]
  refine ⟨_, rfl, _, hmessage, ?_⟩
  simp [Stream.flush, Stream.write, Text.spelled, Symbol.spelled]

end Action

end Launcher
