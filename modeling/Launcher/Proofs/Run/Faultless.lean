import Launcher.Proofs.Run.Exec

/-!
# Calls where no fault is planned

Without planned faults a call on a path without zero bytes does what the machine does, no more and
no less. Each statement gives the outcome of one call by the effect on the machine alone.

## Main results

* `Launcher.Action.exec_openToRead`, `exec_read_file`, `exec_close` — calls that only look.
* `Launcher.Action.exec_makeDirectory`, `exec_unlink`, `exec_openToWrite`, `exec_write` — calls that
  change the tree.
-/

namespace Launcher.Action

variable {path : Path} {w : World}

/-- A path without a zero byte is not refused. -/
theorem exec_requireNoZero (hzero : 0 ∉ path.toBytes) (w : World) :
    exec (requireNoZero path) w = (.ok ⟨⟩, w) := by
  unfold requireNoZero
  rw [if_neg (by simpa using hzero)]
  rfl

/-! ## Calls that only look -/

/-- Without faults, opening a file to read is answered as the tree has it. -/
theorem exec_openToRead (path : Path) (hfaults : w.machine.faults = []) (hzero : 0 ∉ path.toBytes) :
    exec (openToRead path) w =
      match w.machine.openToRead path.toBytes with
      | .error e =>
          (.ok (.error (.of e (some path))), w.afterCall (.openToRead path) (.error e))
      | .ok reader => (.ok (.ok reader), w.afterCall (.openToRead path) .ok) := by
  have hcounted : (w.machine.counted (.openToRead path)).openToRead path.toBytes =
      w.machine.openToRead path.toBytes := rfl
  unfold openToRead
  rw [exec_bind_of_ok (exec_requireNoZero hzero w), exec_call_of_faults_eq_nil hfaults, hcounted]
  rcases w.machine.openToRead path.toBytes with e | reader <;> rfl

/-- A read gives as many bytes as it is asked for, while there are any. -/
theorem exec_read_file (hfaults : w.machine.faults = []) (unread : Bytes) (size : Nat) :
    exec (Action.read (.file unread) size) w =
      (.ok (.ok (unread.take size, .file (unread.drop size))),
        w.afterCall (.read size) (.count (unread.take size).length)) := by
  rw [Action.read, exec_call_of_faults_eq_nil hfaults]
  simp only [Option.getD_none, Nat.min_self]
  rfl

/-- A directory cannot be read. -/
theorem exec_read_directory (hfaults : w.machine.faults = []) (size : Nat) :
    exec (Action.read .directory size) w =
      (.ok (.error (.of .isDirectory none)), w.afterCall (.read size) (.error .isDirectory)) := by
  rw [Action.read, exec_call_of_faults_eq_nil hfaults]
  rfl

/-- Without faults, a close succeeds. -/
theorem exec_close (hfaults : w.machine.faults = []) :
    exec close w = (.ok (.ok ⟨⟩), w.afterCall .close .ok) := by
  rw [close, exec_call_of_faults_eq_nil hfaults]
  rfl

/-! ## Calls that change the tree -/

/-- Without faults, making a directory is answered as the tree has it. -/
theorem exec_makeDirectory (path : Path) {mode : Int} (hfaults : w.machine.faults = [])
    (hzero : 0 ∉ path.toBytes) (hfits : Numeral.fitsInt32 mode = true) :
    exec (makeDirectory path mode) w =
      match (w.machine.counted (.makeDirectory path mode)).makeDirectory path.toBytes mode with
      | .error e =>
          (.ok (.error (.of e (some path))), w.afterCall (.makeDirectory path mode) (.error e))
      | .ok after =>
          (.ok (.ok ⟨⟩), { w.afterCall (.makeDirectory path mode) .ok with machine := after }) := by
  unfold makeDirectory
  rw [exec_bind_of_ok (exec_requireNoZero hzero w), if_neg (by simp [hfits]),
    exec_call_of_faults_eq_nil hfaults]
  rcases (w.machine.counted (.makeDirectory path mode)).makeDirectory path.toBytes mode
    with e | after
  · rfl
  · rfl

/-- Without faults, unlinking is answered as the tree has it. -/
theorem exec_unlink (path : Path) (hfaults : w.machine.faults = []) (hzero : 0 ∉ path.toBytes) :
    exec (unlink path) w =
      match (w.machine.counted (.unlink path)).unlink path.toBytes with
      | .error e => (.ok (.error (.of e (some path))), w.afterCall (.unlink path) (.error e))
      | .ok after => (.ok (.ok ⟨⟩), { w.afterCall (.unlink path) .ok with machine := after }) := by
  unfold unlink
  rw [exec_bind_of_ok (exec_requireNoZero hzero w), exec_call_of_faults_eq_nil hfaults]
  rcases (w.machine.counted (.unlink path)).unlink path.toBytes with e | after <;> rfl

/-- Without faults, opening a file to write is answered as the tree has it. -/
theorem exec_openToWrite (path : Path) (hfaults : w.machine.faults = [])
    (hzero : 0 ∉ path.toBytes) :
    exec (openToWrite path) w =
      match (w.machine.counted (.openToWrite path)).openToWrite path.toBytes with
      | .error e => (.ok (.error (.of e (some path))), w.afterCall (.openToWrite path) (.error e))
      | .ok (location, after) =>
          (.ok (.ok location), { w.afterCall (.openToWrite path) .ok with machine := after }) := by
  unfold openToWrite
  rw [exec_bind_of_ok (exec_requireNoZero hzero w), exec_call_of_faults_eq_nil hfaults]
  rcases (w.machine.counted (.openToWrite path)).openToWrite path.toBytes with e | ⟨location, after⟩
  · rfl
  · rfl

/-- A write stores all that it is given. -/
theorem exec_write (hfaults : w.machine.faults = []) (location : Location) (content : Bytes) :
    exec (write location content) w =
      (.ok (.ok content.length),
        { w.afterCall (.write content.length) (.count content.length) with
          machine := (w.machine.counted (.write content.length)).store location content }) := by
  rw [write, exec_call_of_faults_eq_nil hfaults]
  simp only [Option.getD_none, List.take_length]

end Launcher.Action
