import Launcher.Proofs.Run.Faultless
import Launcher.Proofs.Run.Frame
import Launcher.WholeFile

/-!
# Reading and replacing whole files

What `Launcher.WholeFile` gives and changes. Where no fault is planned, reading gives the content of
the file that the path names, however many chunks it takes, and replacing puts the new file there.

## Main definitions

* `Launcher.Node.content?` — the content of a file.
* `Launcher.WholeFile.readOpened`, `closing`, `writeNew` and `verdict` — the stages of reading and
  of replacing.
* `Launcher.WholeFile.IsReplaced` — a tree in which nothing but a file has been replaced.

## Main results

* `Launcher.WholeFile.keeps_read?` — reading changes nothing.
* `Launcher.WholeFile.exec_read?` — reading without faults.
* `Launcher.WholeFile.exec_replace` — replacing without faults.
-/

namespace Launcher

open Launcher.Action

/-- The content of a file. -/
def Node.content? : Node → Option Bytes
  | .directory _ => none
  | .file _ content => some content

namespace WholeFile

variable {path : Path} {codes : List ExitCode} {w : World}

/-! ## Reading -/

/-- Reading on in an open file changes nothing but the trace, and ends no launch. -/
theorem keeps_readOn (fuel : Nat) (reader : Reader) (chunks : List Bytes) :
    Keeps (World.besides [.trace]) codes (readOn fuel reader chunks) := by
  induction fuel generalizing reader chunks with
  | zero => exact Keeps.throw Stop.exitsWith_unending
  | succ fuel ih =>
    refine Keeps.bind (keeps_read reader chunkSize) fun result => ?_
    rcases result with e | ⟨_ | ⟨byte, chunk⟩, rest⟩
    · exact Keeps.ite (ih _ _) (Keeps.pure _)
    · exact Keeps.pure _
    · exact ih _ _

/-- Closes a file that has been read, and gives what came of the reading. -/
def closing (read : Option Bytes) : Action (Option Bytes) := do
  match ← Action.close with
  | .error e => Action.fail (.system e)
  | .ok () => return read

/-- Reads a file that has been opened, and closes it. -/
def readOpened (path : Path) (reader : Reader) : Action (Option Bytes) := do
  match ← readOn (readLimit (← get).machine reader) reader [] with
  | .error e =>
      Action.log Level.debug (lit "Cannot read " ++ path.quoted ++ lit ": " ++ e.render)
      closing none
  | .ok content => closing (some content)

/-- A file is opened, and read if it can be opened. -/
theorem read?_eq (path : Path) :
    read? path = (do
      match ← Action.openToRead path with
      | .error e =>
          Action.log Level.debug (lit "Cannot open " ++ path.quoted ++ lit ": " ++ e.render)
          return none
      | .ok reader => readOpened path reader) := by
  refine bind_congr fun opened => ?_
  rcases opened with e | reader
  · rfl
  · refine bind_congr fun w => bind_congr fun read => ?_
    rcases read with e | content
    · rfl
    · rfl

/-- Closing what has been read changes nothing but the trace, and ends no launch. -/
theorem keeps_closing (read : Option Bytes) :
    Keeps (World.besides [.trace]) codes (closing read) := by
  refine Keeps.bind keeps_close fun closed => ?_
  rcases closed with e | ⟨⟩
  · exact Keeps.fail (Stop.exitsWith_of_ne_fatal fun _ => by simp)
  · exact Keeps.pure _

/-- Reading changes nothing, whatever comes of it. -/
theorem keeps_read? (path : Path) :
    Keeps (World.besides [.log, .trace]) codes (read? path) := by
  rw [read?_eq]
  refine Keeps.bind (keeps_openToRead path).widen fun opened => ?_
  rcases opened with e | reader
  · exact Keeps.bind (keeps_log _ _).widen fun _ => Keeps.pure _
  · refine Keeps.bind Keeps.get fun _ => Keeps.bind (keeps_readOn _ _ _).widen fun result => ?_
    rcases result with e | content
    · exact Keeps.bind (keeps_log _ _).widen fun _ => (keeps_closing _).widen
    · exact (keeps_closing _).widen

/-- Where bytes have been read, fewer are left. -/
theorem length_drop_lt {unread : Bytes} {n : Nat} (h : unread.take n ≠ []) :
    (unread.drop n).length < unread.length := by
  have hpositive := List.length_pos_iff.2 h
  rw [List.length_take] at hpositive
  rw [List.length_drop]
  omega

/-- **Chunk after chunk gives the whole content** where no fault strikes. The fuel that is asked for
is more than enough, since every read but the last gives a byte at least. -/
theorem exec_readOn (fuel : Nat) (unread : Bytes) (chunks : List Bytes)
    (hfaults : w.machine.faults = []) (hfuel : unread.length < fuel) :
    ∃ w', exec (readOn fuel (.file unread) chunks) w =
      (.ok (.ok (chunks.reverse.flatten ++ unread)), w') := by
  induction fuel generalizing w unread chunks with
  | zero => omega
  | succ fuel ih =>
    rw [readOn, exec_bind_of_ok (exec_read_file hfaults unread chunkSize)]
    rcases hchunk : unread.take chunkSize with _ | ⟨byte, chunk⟩
    · have hunread : unread = [] := by simpa [chunkSize] using hchunk
      exact ⟨_, by rw [hunread, List.append_nil]; rfl⟩
    · have hless : (unread.drop chunkSize).length < unread.length :=
        length_drop_lt (by rw [hchunk]; simp)
      obtain ⟨w', hrest⟩ := ih (w := w.afterCall (.read chunkSize) (.count (byte :: chunk).length))
        (unread.drop chunkSize) ((byte :: chunk) :: chunks) hfaults (by omega)
      refine ⟨w', hrest.trans ?_⟩
      rw [List.reverse_cons, List.flatten_append, List.append_assoc, List.flatten_singleton,
        ← hchunk, List.take_append_drop]

/-- A directory cannot be read. -/
theorem exec_readOn_directory (fuel : Nat) (chunks : List Bytes) (hfaults : w.machine.faults = []) :
    ∃ e w', exec (readOn (fuel + 1) .directory chunks) w = (.ok (.error e), w') := by
  rw [readOn, exec_bind_of_ok (exec_read_directory hfaults chunkSize)]
  exact ⟨_, _, rfl⟩

/-- Reading plans no faults. -/
theorem faults_of_exec_readOn {fuel : Nat} {reader : Reader} {chunks : List Bytes} {w' : World}
    {result : Except Stop (Except OsError Bytes)}
    (h : exec (readOn fuel reader chunks) w = (result, w')) (hfaults : w.machine.faults = []) :
    w'.machine.faults = [] := by
  have hkeeps : Keeps (World.besides [.trace]) [] (readOn fuel reader chunks) := keeps_readOn _ _ _
  exact (hkeeps.faults.view_eq_of_exec h).trans hfaults

/-- What is read after a file has been opened: the file is closed, and its content is the answer. -/
theorem exec_read?_of_open {reader : Reader} {result : Except OsError Bytes} {w₁ w₂ : World}
    (hopen : exec (openToRead path) w = (.ok (.ok reader), w₁))
    (hread : exec (readOn (readLimit w₁.machine reader) reader []) w₁ = (.ok result, w₂))
    (hfaults : w₂.machine.faults = []) :
    ∃ w', exec (read? path) w = (.ok result.toOption, w') := by
  unfold read?
  rw [exec_bind_of_ok hopen]
  simp only []
  rw [exec_bind_of_ok (exec_get w₁), exec_bind_of_ok hread]
  rcases result with e | content
  · simp only []
    obtain ⟨log, hlog⟩ := exists_exec_log Level.debug
      (lit "Cannot read " ++ path.quoted ++ lit ": " ++ e.render) w₂
    rw [exec_bind_of_ok hlog, exec_bind_of_ok (exec_close (w := w₂.withLog log) hfaults)]
    exact ⟨_, rfl⟩
  · simp only []
    rw [exec_bind_of_ok (exec_close hfaults)]
    exact ⟨_, rfl⟩

/-- **Reading without faults gives the content of the file that the path names,** if it names
one. -/
theorem exec_read? (path : Path) (hfaults : w.machine.faults = []) (hzero : 0 ∉ path.toBytes) :
    ∃ w', exec (read? path) w = (.ok ((w.machine.status? path).bind Node.content?), w') := by
  have hstatus := Machine.status?_eq_toOption (m := w.machine) hzero
  have hopen := exec_openToRead path hfaults hzero
  unfold Machine.openToRead at hopen
  rcases hnode : w.machine.status path.toBytes with e | ⟨mode⟩ | ⟨mode, content⟩
  · rw [hnode] at hopen
    unfold read?
    rw [exec_bind_of_ok hopen]
    simp only []
    obtain ⟨log, hlog⟩ := exists_exec_log Level.debug
      (lit "Cannot open " ++ path.quoted ++ lit ": " ++ (OsError.of e (some path)).render)
      (w.afterCall (.openToRead path) (.error e))
    rw [exec_bind_of_ok hlog, hstatus, hnode]
    exact ⟨_, rfl⟩
  · rw [hnode] at hopen
    obtain ⟨e, w₂, hread⟩ := exec_readOn_directory (w := w.afterCall (.openToRead path) .ok)
      (Fault.lastNumber w.machine.faults (.read chunkSize)) [] hfaults
    obtain ⟨w', hdone⟩ := exec_read?_of_open hopen hread (faults_of_exec_readOn hread hfaults)
    rw [hstatus, hnode]
    exact ⟨w', hdone⟩
  · rw [hnode] at hopen
    obtain ⟨w₂, hread⟩ := exec_readOn (w := w.afterCall (.openToRead path) .ok)
      (readLimit w.machine (.file content)) content [] hfaults
      (Nat.lt_succ_of_le (Nat.le_add_right _ _))
    obtain ⟨w', hdone⟩ := exec_read?_of_open hopen hread (faults_of_exec_readOn hread hfaults)
    rw [hstatus, hnode]
    exact ⟨w', hdone⟩

/-! ## Replacing -/

/-- What came of a new file, by what came of writing and of closing it. -/
def verdict (path : Path) (content : Bytes) (written : Except OsError Nat)
    (closed : Except OsError Unit) : Action (Except OsError Unit) := do
  match written, closed with
  | .error e, _ => return .error e
  | .ok _, .error e => return .error e
  | .ok n, .ok () =>
      if n = content.length then return .ok ()
      Action.log Level.debug
        (lit "Short write to " ++ path.quoted ++ lit ": " ++ decimal n ++ lit " of " ++
          decimal content.length ++ lit " bytes")
      return .error (.shortWrite n content.length)

/-- Replacing once nothing is at the path any more: a new file is opened, written and closed. -/
def writeNew (path : Path) (content : Bytes) : Action (Except OsError Unit) := do
  match ← Action.openToWrite path with
  | .error e => return .error e
  | .ok location =>
      let written ← Action.write location content
      let closed ← Action.close
      verdict path content written closed

/-- What was there is removed, unless nothing was; then the new file is written. -/
theorem replace_eq (path : Path) (content : Bytes) :
    replace path content = (do
      match ← Action.unlink path with
      | .error e =>
          if e.errno ≠ some (Errno.noEntry.number : Int) then return .error e
          writeNew path content
      | .ok () => writeNew path content) := by
  refine congrArg (Bind.bind (Action.unlink path)) (funext fun removed => ?_)
  rcases removed with e | ⟨⟩
  · rfl
  · rfl

/-- Judging a write changes nothing but the log, and ends no launch. -/
theorem keeps_verdict (path : Path) (content : Bytes) (written : Except OsError Nat)
    (closed : Except OsError Unit) :
    Keeps (World.besides [.log]) codes (verdict path content written closed) := by
  unfold verdict
  rcases written with e | n
  · exact Keeps.pure _
  · rcases closed with e | ⟨⟩
    · exact Keeps.pure _
    · exact Keeps.ite (Keeps.pure _) (Keeps.bind (keeps_log _ _) fun _ => Keeps.pure _)

/-- What came of a new file is only said. -/
theorem exists_exec_verdict (path : Path) (content : Bytes) (written : Except OsError Nat)
    (closed : Except OsError Unit) (w : World) :
    ∃ replaced log,
      exec (verdict path content written closed) w = (.ok replaced, w.withLog log) := by
  unfold verdict
  rcases written with e | n
  · exact ⟨_, w.process.log, rfl⟩
  · rcases closed with e | ⟨⟩
    · exact ⟨_, w.process.log, rfl⟩
    · by_cases hall : n = content.length
      · simp only [if_pos hall]
        exact ⟨_, w.process.log, rfl⟩
      · simp only [if_neg hall]
        obtain ⟨log, hlog⟩ := exists_exec_log Level.debug (lit "Short write to " ++ path.quoted ++
          lit ": " ++ decimal n ++ lit " of " ++ decimal content.length ++ lit " bytes") w
        exact ⟨_, log, exec_bind_of_ok hlog⟩

/-- Writing a new file changes the tree, the log and the trace at most, and ends no launch. -/
theorem keeps_writeNew (path : Path) (content : Bytes) :
    Keeps (World.besides [.tree, .log, .trace]) codes (writeNew path content) := by
  refine Keeps.bind (keeps_openToWrite path).widen fun opened => ?_
  rcases opened with e | location
  · exact Keeps.pure _
  · exact Keeps.bind (keeps_write location content).widen fun written =>
      Keeps.bind keeps_close.widen fun closed => (keeps_verdict _ _ _ _).widen

/-- Replacing a file changes the tree, the log and the trace at most, and ends no launch. -/
theorem keeps_replace (path : Path) (content : Bytes) :
    Keeps (World.besides [.tree, .log, .trace]) codes (replace path content) := by
  rw [replace_eq]
  refine Keeps.bind (keeps_unlink path).widen fun removed => ?_
  rcases removed with e | ⟨⟩
  · exact Keeps.ite (Keeps.pure _) (keeps_writeNew path content)
  · exact keeps_writeNew path content

/-- The tree has a new file at the location and is otherwise the same. -/
structure IsReplaced (before after : Tree) (location : Location) (node : Node) : Prop where
  placed : after.get? location = some node
  others : ∀ other, other ≠ location → after.get? other = before.get? other

/-- Directories stay directories where a file is replaced. -/
theorem IsReplaced.keepsDirectories {before after : Tree} {location : Location} {node : Node}
    (h : IsReplaced before after location node)
    (hnode : ∀ mode, before.get? location ≠ some (.directory mode)) :
    before.KeepsDirectories after := by
  intro here mode hmode
  have hne : here ≠ location := fun e => hnode mode (e ▸ hmode)
  exact ⟨mode, (h.others here hne).trans hmode⟩

/-- **A new file is written without faults** where the path names a place of its own and nothing is
there. -/
theorem exec_writeNew {target : Target} (content : Bytes) (hfaults : w.machine.faults = [])
    (hzero : 0 ∉ path.toBytes) (hresolve : w.machine.resolve path.toBytes = .ok target)
    (hnameless : target.nameless = false) (hslashed : target.slashed = false)
    (hnone : w.machine.tree.get? target.location = none) :
    ∃ w', exec (writeNew path content) w = (.ok (.ok ⟨⟩), w') ∧
      IsReplaced w.machine.tree w'.machine.tree target.location
        (.file (maskMode Machine.newFileMode w.machine.umask) content) := by
  have hopen := exec_openToWrite path hfaults hzero
  rw [Machine.openToWrite_of_none (by exact hresolve) hnameless hslashed (by exact hnone)] at hopen
  have hfile := Tree.get?_insert_self w.machine.tree target.location
    (.file (maskMode Machine.newFileMode w.machine.umask) [])
  unfold writeNew
  rw [exec_bind_of_ok hopen]
  simp only []
  rw [exec_bind_of_ok (exec_write (by exact hfaults) _ _),
    exec_bind_of_ok (exec_close (by
      rw [Machine.store_of_file (by exact hfile)]
      exact hfaults))]
  simp only [verdict, if_true]
  refine ⟨_, rfl, ?_⟩
  show IsReplaced _ (Machine.store _ target.location content).tree _ _
  rw [Machine.store_of_file (by exact hfile)]
  refine ⟨Tree.get?_insert_self _ _ _, fun other hne => ?_⟩
  exact (Tree.get?_insert_of_ne _ _ hne).trans (Tree.get?_insert_of_ne _ _ hne)

/-- **A file is replaced without faults** where the path names a place of its own at which there is
no directory. -/
theorem exec_replace {target : Target} (path : Path) (content : Bytes)
    (hfaults : w.machine.faults = []) (hzero : 0 ∉ path.toBytes)
    (hresolve : w.machine.resolve path.toBytes = .ok target)
    (hnameless : target.nameless = false) (hslashed : target.slashed = false)
    (hnode : ∀ mode, w.machine.tree.get? target.location ≠ some (.directory mode)) :
    ∃ w', exec (replace path content) w = (.ok (.ok ⟨⟩), w') ∧
      IsReplaced w.machine.tree w'.machine.tree target.location
        (.file (maskMode Machine.newFileMode w.machine.umask) content) := by
  have hunlink := exec_unlink path hfaults hzero
  rw [replace_eq]
  rcases hold : w.machine.tree.get? target.location with _ | ⟨mode⟩ | ⟨mode, old⟩
  · rw [Machine.unlink_eq_noEntry (by exact hresolve) hnameless (by exact hold)] at hunlink
    rw [exec_bind_of_ok hunlink]
    exact exec_writeNew (w := w.afterCall (.unlink path) (.error .noEntry)) content hfaults hzero
      hresolve hnameless hslashed hold
  · exact absurd hold (hnode mode)
  · have hremoved := (Machine.unlink_eq_ok (m := w.machine.counted (.unlink path))).2
      ⟨target, mode, old, hresolve, hnameless, hslashed, hold, rfl⟩
    rw [hremoved] at hunlink
    rw [exec_bind_of_ok hunlink]
    have hkeeps := Tree.keepsDirectories_erase_of_file hold
    obtain ⟨w', hexec, hplaced, hothers⟩ := exec_writeNew
      (w := { w.afterCall (.unlink path) .ok with
        machine := { w.machine.counted (.unlink path) with
          tree := w.machine.tree.erase target.location } })
      content hfaults hzero
      (Machine.resolve_of_keepsDirectories (m := w.machine) rfl hkeeps hresolve)
      hnameless hslashed (Tree.get?_erase_self _ _)
    exact ⟨w', hexec, hplaced, fun other hne =>
      (hothers other hne).trans (Tree.get?_erase_of_ne _ hne)⟩

end WholeFile

end Launcher
