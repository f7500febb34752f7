import Launcher.Proofs.Run.Faults
import Launcher.Proofs.WholeFile

/-!
# One round of reading

A file is read in rounds of one read each. What strikes the read decides the round: an interruption
lets the next round do the same, any other error is the end, and so is a read that gives nothing;
else the next round goes on with what is left. Behind the last round the file is closed.

## Main definitions

* `Launcher.Strike.most?` — the most bytes that a call may move.
* `Launcher.World.nextRead` — the number of the next read.
* `Launcher.WholeFile.Round` — what a round can come to.
* `Launcher.WholeFile.ClosedAs` — what comes of a file that has been read, by what closing it
  answers.

## Main results

* `Launcher.Action.exec_read_of_fail`, `exec_read_of_most?` and `exec_read_directory_of_most?` — one
  read.
* `Launcher.WholeFile.round` — a round comes to one of these.
* `Launcher.WholeFile.exec_readOn_of_interrupted` and its like — what each of them means for the
  reading.
* `Launcher.WholeFile.exists_exec_closing` — the close behind the last round.
-/

namespace Launcher

open Launcher.Action

/-! ## One read -/

/-- The most bytes that are moved by a call that is asked to move so many, unless it fails. -/
def Strike.most? (size : Nat) : Option Strike → Option Nat
  | none => some size
  | some (.short limit) => some (min size limit)
  | some (.fail _) => none

/-- Only what makes a call fail leaves it no bytes to move at all. -/
theorem Strike.most?_eq_none_iff {size : Nat} {strike : Option Strike} :
    most? size strike = none ↔ ∃ e, strike = some (.fail e) := by
  rcases strike with _ | e | limit <;> simp [most?]

/-- A call that does not fail is asked to move so many bytes, or cut short. -/
theorem Strike.most?_eq_some_iff {size n : Nat} {strike : Option Strike} :
    most? size strike = some n ↔
      strike = none ∧ n = size ∨ ∃ limit, strike = some (.short limit) ∧ n = min size limit := by
  rcases strike with _ | e | limit <;> simp [most?, eq_comm]

/-- The number that the next read has among the reads on its machine. -/
def World.nextRead (w : World) : Nat := w.machine.made.count .read + 1

section Read

variable {w : World} {size : Nat}

/-- What strikes a read is decided by its number. -/
theorem strike?_counted_read (w : World) (size : Nat) :
    Fault.strike? (w.machine.counted (.read size)).faults (.read size)
        ((w.machine.counted (.read size)).made.count (Call.read size).kind) =
      Fault.strike? w.faults (.read size) w.nextRead :=
  congrArg (Fault.strike? w.faults (.read size)) List.count_cons_self

/-- A read is counted as one more. -/
@[simp] theorem nextRead_afterCall_read (w : World) (size : Nat) (answer : Answer) :
    (w.afterCall (.read size) answer).nextRead = w.nextRead + 1 :=
  congrArg (· + 1) List.count_cons_self

/-- A read fails. -/
theorem Action.exec_read_of_fail {e : Errno} (reader : Reader)
    (h : Fault.strike? w.faults (.read size) w.nextRead = some (.fail e)) :
    exec (Action.read reader size) w =
      (.ok (.error (.of e none)), w.afterCall (.read size) (.error e)) := by
  rw [Action.read, exec_call, Machine.respond, strike?_counted_read, h]
  rfl

/-- A read gives as many bytes of a file as it may. -/
theorem Action.exec_read_of_most? {n : Nat} (unread : Bytes)
    (h : Strike.most? size (Fault.strike? w.faults (.read size) w.nextRead) = some n) :
    exec (Action.read (.file unread) size) w =
      (.ok (.ok (unread.take n, .file (unread.drop n))),
        w.afterCall (.read size) (.count (unread.take n).length)) := by
  rw [Action.read, exec_call, Machine.respond, strike?_counted_read]
  obtain ⟨hstrike, rfl⟩ | ⟨limit, hstrike, rfl⟩ := Strike.most?_eq_some_iff.1 h
  · rw [hstrike]
    simp only [Option.getD_none, Nat.min_self]
    rfl
  · rw [hstrike]
    rfl

/-- A directory cannot be read. -/
theorem Action.exec_read_directory_of_most? {n : Nat}
    (h : Strike.most? size (Fault.strike? w.faults (.read size) w.nextRead) = some n) :
    exec (Action.read .directory size) w =
      (.ok (.error (.of .isDirectory none)), w.afterCall (.read size) (.error .isDirectory)) := by
  rw [Action.read, exec_call, Machine.respond, strike?_counted_read]
  obtain ⟨hstrike, -⟩ | ⟨limit, hstrike, -⟩ := Strike.most?_eq_some_iff.1 h
  · rw [hstrike]
    rfl
  · rw [hstrike]
    rfl

end Read

namespace WholeFile

variable {fuel : Nat} {reader : Reader} {unread : Bytes} {chunks : List Bytes} {w : World}

/-! ## One round -/

/-- What strikes the reads on a machine. -/
def strikesReads (plan : List Fault) : Nat → Option Strike := Fault.strike? plan (.read chunkSize)

/-- What a round of reading can come to, by what strikes the read and what is left of the file. -/
inductive Round (strike : Option Strike) : Reader → Prop
  | interrupted {reader : Reader} (h : strike = some (.fail .interrupted)) : Round strike reader
  | failed {reader : Reader} {e : Errno} (h : strike = some (.fail e)) (hne : e ≠ .interrupted) :
      Round strike reader
  | directory {n : Nat} (h : Strike.most? chunkSize strike = some n) : Round strike .directory
  | ended {n : Nat} {unread : Bytes} (h : Strike.most? chunkSize strike = some n)
      (hnone : unread.take n = []) : Round strike (.file unread)
  | chunk {n : Nat} {unread : Bytes} (h : Strike.most? chunkSize strike = some n)
      (hsome : unread.take n ≠ []) : Round strike (.file unread)

/-- **A round comes to one of these.** -/
theorem round (strike : Option Strike) (reader : Reader) : Round strike reader := by
  rcases hmost : Strike.most? chunkSize strike with _ | n
  · obtain ⟨e, rfl⟩ := Strike.most?_eq_none_iff.1 hmost
    by_cases hinterrupted : e = .interrupted
    · exact .interrupted (hinterrupted ▸ rfl)
    · exact .failed rfl hinterrupted
  · rcases reader with _ | unread
    · exact .directory hmost
    · by_cases hchunk : unread.take n = []
      · exact .ended hmost hchunk
      · exact .chunk hmost hchunk

/-- An interrupted read is made again. -/
theorem exec_readOn_of_interrupted (fuel : Nat) (reader : Reader) (chunks : List Bytes)
    (h : strikesReads w.faults w.nextRead = some (.fail .interrupted)) :
    exec (readOn (fuel + 1) reader chunks) w =
      exec (readOn fuel reader chunks) (w.afterCall (.read chunkSize) (.error .interrupted)) := by
  rw [readOn, exec_bind_of_ok (exec_read_of_fail reader h)]
  rfl

/-- Any other error is the end of the reading. -/
theorem exec_readOn_of_failed (fuel : Nat) (reader : Reader) (chunks : List Bytes) {e : Errno}
    (h : strikesReads w.faults w.nextRead = some (.fail e)) (hne : e ≠ .interrupted) :
    exec (readOn (fuel + 1) reader chunks) w =
      (.ok (.error (.of e none)), w.afterCall (.read chunkSize) (.error e)) := by
  rw [readOn, exec_bind_of_ok (exec_read_of_fail reader h)]
  simp only [if_neg (mt OsError.errno_of_eq_some_iff.1 hne)]
  rfl

/-- A directory cannot be read. -/
theorem exec_readOn_directory_of_most? (fuel : Nat) (chunks : List Bytes) {n : Nat}
    (h : Strike.most? chunkSize (strikesReads w.faults w.nextRead) = some n) :
    exec (readOn (fuel + 1) .directory chunks) w =
      (.ok (.error (.of .isDirectory none)),
        w.afterCall (.read chunkSize) (.error .isDirectory)) := by
  rw [readOn, exec_bind_of_ok (exec_read_directory_of_most? h)]
  rfl

/-- A read that gives nothing is the last one. -/
theorem exec_readOn_of_ended (fuel : Nat) (chunks : List Bytes) {n : Nat}
    (h : Strike.most? chunkSize (strikesReads w.faults w.nextRead) = some n)
    (hnone : unread.take n = []) :
    exec (readOn (fuel + 1) (.file unread) chunks) w =
      (.ok (.ok chunks.reverse.flatten), w.afterCall (.read chunkSize) (.count 0)) := by
  have hread := exec_read_of_most? unread h
  rw [hnone] at hread
  rw [readOn, exec_bind_of_ok hread]
  rfl

/-- Else the reading goes on with what is left. -/
theorem exec_readOn_of_chunk (fuel : Nat) (chunks : List Bytes) {n : Nat}
    (h : Strike.most? chunkSize (strikesReads w.faults w.nextRead) = some n)
    (hsome : unread.take n ≠ []) :
    exec (readOn (fuel + 1) (.file unread) chunks) w =
      exec (readOn fuel (.file (unread.drop n)) (unread.take n :: chunks))
        (w.afterCall (.read chunkSize) (.count (unread.take n).length)) := by
  rw [readOn, exec_bind_of_ok (exec_read_of_most? unread h)]
  rcases hchunk : unread.take n with _ | ⟨byte, chunk⟩
  · exact absurd hchunk hsome
  · rfl

/-! ## The close behind the reads -/

/-- What comes of a file that has been read, by what closing it answers: a failure to close it
counts most. -/
inductive ClosedAs (read : Option Bytes) : Answer → Except Stop (Option Bytes) → Prop
  | closed : ClosedAs read .ok (.ok read)
  | notClosed (e : Errno) : ClosedAs read (.error e) (.error (.failed (.system (.of e none))))

/-- A file that has been read is closed by one call. -/
theorem exists_exec_closing (read : Option Bytes) (w : World) :
    ∃ closed result, exec (closing read) w = (result, w.afterCall .close closed) ∧
      ClosedAs read closed result := by
  unfold closing
  rcases exec_close_cases w with ⟨e, hclose⟩ | hclose
  · rw [exec_bind_of_ok hclose]
    exact ⟨_, _, rfl, .notClosed e⟩
  · rw [exec_bind_of_ok hclose]
    exact ⟨_, _, rfl, .closed⟩

end WholeFile

end Launcher
