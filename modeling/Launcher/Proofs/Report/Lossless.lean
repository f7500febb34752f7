import Mathlib.Data.List.Basic
import Launcher.Proofs.ReportRows
import Launcher.Proofs.Text.JsonReader

/-!
# What a report for a program says

A report for a program is one line of JSON, the same on any terminal. Whoever reads that line as
JSON has the status again: an object with a field for each part of it, code point for code point. So
different statuses have different lines. Only integers with too many digits have no line at all.

The strings of a status are any code points here, with all second halves of characters among them.
The launcher itself has only those of stray bytes.

## Main definitions

* `Launcher.Report.Holds` — the fields of an object are those of a status.

## Main results

* `Launcher.Report.Holds.unique` — the fields of an object tell the status.
* `Launcher.Report.line_payload_injective` — different statuses have different lines.
* `Launcher.Report.says_all_in_one_line` — the line of a report says all of its status.
* `Launcher.Report.not_every_status_has_line` — a status without a line.
-/

namespace Launcher.Report

open Launcher.Action

variable {status : StatusOf (List CodePoint)} {fields : List (String × Json)}

/-- The fields of an object are those of a status, in the order of their names, and a mark that all
is well. -/
structure Holds (fields : List (String × Json)) (status : StatusOf (List CodePoint)) :
    Prop where
  length : fields.length = 7
  sorted : (fields.map Prod.fst).Pairwise (· < ·)
  mark : fields.lookup "status" = some (.string (CodePoint.ofString "ok"))
  user : fields.lookup "user" = some (.string status.user)
  outputBase : fields.lookup "output_base" = some (.string status.outputBase)
  interactive : fields.lookup "interactive" = some (.bool status.interactive)
  columns : fields.lookup "terminal_columns" = some (.number status.columns)
  commandPort : fields.lookup "command_port" =
    some (match status.commandPort with
      | none => .null
      | some port => .number port)
  lastCommand : fields.lookup "last_command" =
    some (match status.lastCommand with
      | none => .null
      | some words => .array (words.map .string))

/-- The value of a status is an object with its fields. -/
theorem exists_holds (status : StatusOf (List CodePoint)) :
    ∃ fields, payload status = .object fields ∧ Holds fields status := by
  have hnames : ["command_port", "interactive", "last_command", "output_base", "status",
      "terminal_columns", "user"].Pairwise (· < ·) := by decide
  refine ⟨_, rfl, ?_⟩
  constructor
  case sorted => exact hnames
  case commandPort => cases status.commandPort <;> rfl
  case lastCommand => cases status.lastCommand <;> rfl
  all_goals rfl

/-- **The fields of an object tell the status.** -/
theorem Holds.unique {status' : StatusOf (List CodePoint)} (h : Holds fields status)
    (h' : Holds fields status') : status = status' := by
  have huser := Json.string.inj (Option.some.inj (h.user.symm.trans h'.user))
  have hbase := Json.string.inj (Option.some.inj (h.outputBase.symm.trans h'.outputBase))
  have hinteractive := Json.bool.inj (Option.some.inj (h.interactive.symm.trans h'.interactive))
  have hcolumns := Json.number.inj (Option.some.inj (h.columns.symm.trans h'.columns))
  have hport := Option.some.inj (h.commandPort.symm.trans h'.commandPort)
  have hcommand := Option.some.inj (h.lastCommand.symm.trans h'.lastCommand)
  obtain ⟨user, base, interactive, columns, port, command⟩ := status
  obtain ⟨user', base', interactive', columns', port', command'⟩ := status'
  obtain rfl : port = port' := by
    rcases port with _ | n
    · rcases port' with _ | n'
      · rfl
      · cases hport
    · rcases port' with _ | n'
      · cases hport
      · exact congrArg some (Json.number.inj hport)
  obtain rfl : command = command' := by
    rcases command with _ | words
    · rcases command' with _ | words'
      · rfl
      · cases hcommand
    · rcases command' with _ | words'
      · cases hcommand
      · have hwords : words.map Json.string = words'.map Json.string := Json.array.inj hcommand
        exact congrArg some ((List.map_inj_right fun _ _ => Json.string.inj).1 hwords)
  rw [StatusOf.mk.injEq]
  exact ⟨huser, hbase, hinteractive, hcolumns, rfl, rfl⟩

/-- **Different statuses have different lines.** -/
theorem line_payload_injective {status' : StatusOf (List CodePoint)}
    (h : (payload status).line = (payload status').line) : status = status' := by
  have hread := congrArg Json.read? h
  rw [Json.read?_line, Json.read?_line] at hread
  obtain ⟨fields, hfields, hholds⟩ := exists_holds status
  obtain ⟨fields', hfields', hholds'⟩ := exists_holds status'
  rw [hfields, hfields'] at hread
  obtain rfl := Json.object.inj (Option.some.inj hread)
  exact hholds.unique hholds'

/-! ## The statuses of the launcher -/

/-- A symbol is told by its code point. -/
theorem wide_injective : Function.Injective Symbol.wide := by
  intro s s' h
  cases s with
  | char c =>
    cases s' with
    | char c' => rw [CodePoint.char.inj h]
    | raw b => cases h
  | raw b =>
    cases s' with
    | char c => cases h
    | raw b' =>
      have hnumber : 0x80 + b.val = 0x80 + b'.val := congrArg Fin.val (CodePoint.half.inj h)
      rw [Fin.ext (Nat.add_left_cancel hnumber)]

/-- A status of the launcher is told by its code points. -/
theorem eq_of_wide_eq {status status' : Status} (h : status.wide = status'.wide) :
    status = status' := by
  have htexts : Function.Injective (List.map Symbol.wide) := List.map_injective_iff.2 wide_injective
  have hcommands : Function.Injective (Option.map (List.map (List.map Symbol.wide))) :=
    Option.map_injective (List.map_injective_iff.2 htexts)
  obtain ⟨user, base, interactive, columns, port, command⟩ := status
  obtain ⟨user', base', interactive', columns', port', command'⟩ := status'
  obtain ⟨huser, hbase, hinteractive, hcolumns, hport, hcommand⟩ := StatusOf.mk.inj h
  rw [StatusOf.mk.injEq]
  exact ⟨htexts huser, htexts hbase, hinteractive, hcolumns, hport, hcommands hcommand⟩

/-! ## The line -/

/-- **The line of a report says all of its status,** if its integers can be written. The report is
always written, as one line of printable ASCII that does not depend on the terminal. What is read
from this line is an object with the fields of the status, in the order of their names, and no other
status is reported by the same line. A report of the launcher for a program is such a report,
whatever colour is asked for, and different statuses of the launcher are different statuses.

**Proof sketch.** Every code point is written in printable characters, so the output takes the line
and no escape sequence is found in it (`output_of_exec_emitJson`, `returns_emitJson`). What is read
from the line of a value is that value (`Json.read?_line`), and its fields tell the status
(`Holds.unique`). -/
theorem says_all_in_one_line (hnumbers : ∀ n ∈ numbers status, n.natAbs < 10 ^ Numeral.maxDigits) :
    ∃ line : List Char, (∀ c ∈ line, 0x20 ≤ c.toNat ∧ c.toNat ≤ 0x7F) ∧
      (∀ w, ∃ w', exec (emitJson status) w = (.ok ⟨⟩, w') ∧
        w'.process.output = ⟨w.written ++ (line ++ ['\n']), []⟩) ∧
      (∃ fields, Json.read? (line.map .char) = some (.object fields) ∧ Holds fields status) ∧
      (∀ status' w w', exec (emitJson status') w = (.ok ⟨⟩, w') →
        w'.written = w.written ++ (line ++ ['\n']) → status' = status) ∧
      ∀ narrow : Status, narrow.wide = status →
        (∀ colour, emit true colour narrow = emitJson status) ∧
          ∀ narrow' : Status, narrow'.wide = status → narrow' = narrow := by
  have hprintable := Json.isPrintable_line (payload status)
  obtain ⟨line, hline⟩ := Text.exists_map_char_of_isPrintable hprintable
  obtain ⟨fields, hfields, hholds⟩ := exists_holds status
  refine ⟨line, fun c hc => ?_, fun w => ?_, ⟨fields, ?_, hholds⟩, ?_, ?_⟩
  · have hmem : Symbol.char c ∈ (payload status).line := hline ▸ List.mem_map_of_mem hc
    obtain ⟨hlow, hhigh⟩ : 0x20 ≤ c.toNat ∧ c.toNat < 0x7F := hprintable _ hmem
    exact ⟨hlow, Nat.le_of_lt hhigh⟩
  · obtain ⟨⟨⟩, w', hexec⟩ := returns_emitJson (hasLongNumber_eq_false_iff.2 hnumbers) w
    obtain ⟨cs, hcs, houtput⟩ := output_of_exec_emitJson hexec
    obtain rfl := Text.map_char_inj.1 (hcs.symm.trans hline)
    exact ⟨w', hexec, houtput⟩
  · rw [← hline, Json.read?_line, hfields]
  · intro status' w w' hexec hwritten
    obtain ⟨cs, hcs, houtput⟩ := output_of_exec_emitJson hexec
    rw [World.written, houtput, List.append_nil] at hwritten
    obtain rfl : cs = line := (List.append_inj' (List.append_cancel_left hwritten) rfl).1
    exact line_payload_injective (hcs.trans hline.symm)
  · rintro narrow rfl
    exact ⟨fun colour => emit_true colour narrow, fun narrow' => eq_of_wide_eq⟩

/-- A status with all that needs an escape: controls, quotes, a character above `U+FFFF` with a
second half behind it, and other second halves. -/
def motley : StatusOf (List CodePoint) where
  user := CodePoint.ofString "\x1b[1m\"\\😀" ++ [.half 0xFF]
  outputBase := CodePoint.ofString "\n\x7fé" ++ [.half 0, .half 0x3FF]
  interactive := true
  columns := -3
  commandPort := some 8080
  lastCommand := some [[], CodePoint.ofString "a b"]

/-- A process that has written nothing, on a machine with an empty tree. -/
def blank : World where
  machine :=
    { tree := .empty, workingDirectory := none, userId := 1000, accounts := [], umask := 0o022
      terminal := ⟨false, false, none⟩, faults := [], made := [] }
  process := .fresh [] Level.warning

/-- The line of such a report says all of it. -/
theorem says_all_in_one_line_motley :
    (∀ n ∈ numbers motley, n.natAbs < 10 ^ Numeral.maxDigits) ∧
      ∃ line : List Char,
        (∃ w', exec (emitJson motley) blank = (.ok ⟨⟩, w') ∧
          w'.process.output = ⟨line ++ ['\n'], []⟩) ∧
        ∃ fields, Json.read? (line.map .char) = some (.object fields) ∧ Holds fields motley := by
  have hnumbers : ∀ n ∈ numbers motley, n.natAbs < 10 ^ Numeral.maxDigits := by decide +kernel
  obtain ⟨line, -, hemit, hread, -⟩ := says_all_in_one_line hnumbers
  exact ⟨hnumbers, line, hemit blank, hread⟩

/-- A report on columns with one digit more than can be written. -/
def endless : Status where
  user := lit "user"
  outputBase := lit "/base"
  interactive := false
  columns := 10 ^ Numeral.maxDigits
  commandPort := none
  lastCommand := none

/-- The number of columns of this report is too long to be written. -/
theorem hasLongNumber_endless : hasLongNumber endless = true := by
  have hpower : ∀ n : Nat, 10 ^ n ≤ (10 ^ n : Int).natAbs := fun n => by simp [Int.natAbs_pow]
  exact hasLongNumber_of_mem List.mem_cons_self (hpower _)

/-- Not every status has a line: an integer with one digit too many has none. -/
theorem not_every_status_has_line :
    ¬∀ (status : StatusOf (List CodePoint)) (w : World),
      ∃ w', exec (emitJson status) w = (.ok ⟨⟩, w') := by
  intro hclaim
  obtain ⟨w', hexec⟩ := hclaim endless.wide blank
  have hlong : hasLongNumber endless.wide = true :=
    (hasLongNumber_wide endless).trans hasLongNumber_endless
  rw [exec_emitJson_of_hasLongNumber hlong] at hexec
  cases hexec

end Launcher.Report
