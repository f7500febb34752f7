import Launcher.Proofs.Directory
import Launcher.Proofs.WholeFile.Replacing
import Launcher.Proofs.WholeFile.Rounds

/-!
# Files that are read or written in part

Whatever faults strike, what is read of a file is a beginning of its content, and a file that is
replaced is left as it was, or removed, or holds a beginning of the new content. The calls tell
whether it holds the whole of it.

## Main definitions

* `Launcher.World.contentAt` — the content of the file at a location.
* `Launcher.WritesWhole` and `Launcher.ReadsWhole` — calls that write all that they are given, and a
  plan under which no read comes back empty too early.
* `Launcher.WholeFile.Leaves` — what may be left of a file that is replaced.

## Main results

* `Launcher.Directory.keeps_contentAt_create` — creating directories touches no file.
* `Launcher.WholeFile.exists_take_of_exec_read?` — what is read.
* `Launcher.WholeFile.leaves_of_exec_replace` — what is written.
-/

namespace Launcher

open Launcher.Action

/-! ## The content of a file -/

/-- The content of the file at the location, if there is one. -/
def World.contentAt (location : Location) (w : World) : Option Bytes :=
  (w.nodeAt location).bind Node.content?

/-- Machines that differ in the count of their calls hold the same content. -/
theorem World.contentAt_eq_of_bare_eq {w w' : World} (h : w'.bare = w.bare) (location : Location) :
    w'.contentAt location = w.contentAt location :=
  congrArg (·.bind Node.content?) (World.nodeAt_eq_of_bare_eq h location)

/-- An action that does not touch the tree keeps the content of each file. -/
theorem Action.Keeps.contentAt {α : Type} {codes : List ExitCode} {action : Action α}
    {parts : List World.Part} (h : Keeps (World.besides parts) codes action) (location : Location)
    [World.Part.Among parts [.environment, .threshold, .log, .trace, .output, .errors]] :
    Keeps (World.contentAt location) codes action :=
  ⟨fun w => World.contentAt_eq_of_bare_eq (h.bare.view_eq w) location, h.exits⟩

namespace Directory

variable {location : Location} {codes : List ExitCode}

/-- A new directory has no content, and is where nothing was. -/
theorem keeps_contentAt_makeDirectory (path : Path) (mode : Int) :
    Keeps (World.contentAt location) codes (makeDirectory path mode) := by
  refine keeps_makeDirectory_of_effect (fun _ _ _ => rfl) fun w after hmake => ?_
  obtain ⟨target, -, hnone, rfl⟩ := Machine.makeDirectory_eq_ok.1 hmake
  have hafter : ∀ node : Node, node.content? = none →
      ((w.machine.tree.insert target.location node).get? location).bind Node.content? =
        (w.machine.tree.get? location).bind Node.content? := by
    intro node hnode
    by_cases hsame : location = target.location
    · rw [hsame, Tree.get?_insert_self, hnone]
      exact hnode
    · rw [Tree.get?_insert_of_ne _ _ hsame]
  exact hafter _ rfl

/-- **Creating directories touches no file.** -/
theorem keeps_contentAt_create (path : Path) (mode : Int) :
    Keeps (World.contentAt location) codes (create path mode) := by
  have hone : ∀ path, Keeps (World.contentAt location) codes (createOne path mode) := by
    intro path
    refine Keeps.bind (keeps_contentAt_makeDirectory path mode) fun result => ?_
    rcases result with e | ⟨⟩
    · exact Keeps.ite (Keeps.bind Keeps.get fun _ => Keeps.ite (Keeps.pure _) (Keeps.pure _))
        (Keeps.pure _)
    · exact Keeps.pure _
  unfold create
  induction path.chain with
  | nil => exact Keeps.pure _
  | cons path paths ih =>
    refine Keeps.bind (hone path) fun result => ?_
    rcases result with e | ⟨⟩
    · exact Keeps.bind ((keeps_log _ _).contentAt location) fun _ => Keeps.pure _
    · exact ih

end Directory

/-- Every write among the calls stores all that it is given. -/
def WritesWhole (calls : List (Call × Answer)) : Prop :=
  ∀ length answer, (.write length, answer) ∈ calls → answer = .count length

/-- If every write among some calls stores all that it is given, so does every write among fewer
calls. -/
theorem WritesWhole.mono {calls calls' : List (Call × Answer)} (h : WritesWhole calls)
    (hsub : calls' ⊆ calls) : WritesWhole calls' :=
  fun length answer hmem => h length answer (hsub hmem)

/-! ## Reading -/

/-- No planned fault makes a read come back empty, as it does at the end of a file. -/
def ReadsWhole (faults : List Fault) : Prop :=
  ∀ fault ∈ faults, fault.kind = .read → fault.strike ≠ .short 0

namespace WholeFile

variable {path : Path} {location : Location} {content : Bytes} {w w' : World}

/-- A directory cannot be read, whatever faults are planned. -/
theorem exec_readOn_directory_ne_ok (fuel : Nat) (chunks : List Bytes) (w w' : World) :
    exec (readOn fuel .directory chunks) w ≠ (.ok (.ok content), w') := by
  induction fuel generalizing w with
  | zero => exact fun h => by cases h
  | succ fuel ih =>
    cases round (strikesReads w.faults w.nextRead) .directory with
    | interrupted hstrike =>
      rw [exec_readOn_of_interrupted fuel _ chunks hstrike]
      exact ih _
    | failed hstrike hne =>
      rw [exec_readOn_of_failed fuel _ chunks hstrike hne]
      exact fun h => by cases h
    | directory hmost =>
      rw [exec_readOn_directory_of_most? fuel chunks hmost]
      exact fun h => by cases h

/-- Where no read comes back empty too early, a read that does not fail may give a byte. -/
theorem most_pos_of_readsWhole {n : Nat} (hwhole : ReadsWhole w.faults)
    (hmost : Strike.most? chunkSize (strikesReads w.faults w.nextRead) = some n) : 0 < n := by
  obtain ⟨-, rfl⟩ | ⟨limit, hstrike, rfl⟩ := Strike.most?_eq_some_iff.1 hmost
  · decide
  · obtain ⟨fault, hmem, hkind, hlimit⟩ := Fault.exists_of_strike? hstrike
    have hne : limit ≠ 0 := fun hzero => hwhole fault hmem hkind (hzero ▸ hlimit)
    exact Nat.lt_min.2 ⟨by decide, Nat.pos_of_ne_zero hne⟩

/-- **Chunk after chunk gives a beginning of the content,** and the whole of it unless a read comes
back empty too early. -/
theorem exists_take_of_exec_readOn {fuel : Nat} {unread : Bytes} {chunks : List Bytes}
    (h : exec (readOn fuel (.file unread) chunks) w = (.ok (.ok content), w')) :
    ∃ n, content = chunks.reverse.flatten ++ unread.take n ∧
      (ReadsWhole w.faults → unread.take n = unread) := by
  induction fuel generalizing w unread chunks with
  | zero => cases h
  | succ fuel ih =>
    cases round (strikesReads w.faults w.nextRead) (.file unread) with
    | interrupted hstrike =>
      rw [exec_readOn_of_interrupted fuel _ chunks hstrike] at h
      exact ih (w := w.afterCall (.read chunkSize) (.error .interrupted)) h
    | failed hstrike hne =>
      rw [exec_readOn_of_failed fuel _ chunks hstrike hne] at h
      cases h
    | ended hmost hnone =>
      rw [exec_readOn_of_ended fuel chunks hmost hnone] at h
      cases h
      refine ⟨0, by simp, fun hwhole => ?_⟩
      -- Nothing has been read though a byte may have been, so nothing was left.
      rcases List.take_eq_nil_iff.1 hnone with hzero | rfl
      · exact absurd hzero (Nat.ne_of_gt (most_pos_of_readsWhole hwhole hmost))
      · rfl
    | @chunk most _ hmost hsome =>
      rw [exec_readOn_of_chunk fuel chunks hmost hsome] at h
      obtain ⟨n, rfl, hwhole⟩ :=
        ih (w := w.afterCall (.read chunkSize) (.count (unread.take most).length)) h
      refine ⟨most + n, ?_, fun hfaults => ?_⟩
      · rw [List.take_add, List.reverse_cons, List.flatten_append, List.flatten_singleton,
          List.append_assoc]
      · rw [List.take_add, hwhole hfaults, List.take_append_drop]

/-- A file that is read after it has been opened. -/
theorem exec_readOn_of_exec_readOpened {reader : Reader}
    (h : exec (readOpened path reader) w = (.ok (some content), w')) :
    ∃ w₁, exec (readOn (readLimit w.machine reader) reader []) w = (.ok (.ok content), w₁) := by
  have hclosing : ∀ {read w₁}, exec (closing read) w₁ = (.ok (some content), w') →
      read = some content := by
    intro read w₁ hclose
    obtain ⟨_, _, hclosing, hclosed⟩ := exists_exec_closing read w₁
    cases hclosing.symm.trans hclose
    cases hclosed
    rfl
  unfold readOpened at h
  rw [exec_bind_of_ok (exec_get w)] at h
  obtain ⟨read, w₁, hread, hclose⟩ := exec_bind_eq_ok.1 h
  rcases read with e | content'
  · obtain ⟨_, w₂, -, hclose⟩ := exec_bind_eq_ok.1 hclose
    cases hclosing hclose
  · cases hclosing hclose
    exact ⟨w₁, hread⟩

/-- **What is read of a file is a beginning of its content.** -/
theorem exists_take_of_exec_read?
    (hlocation : ∀ m target, Machine.resolve m path.toBytes = .ok target →
      target.location = location)
    (h : exec (read? path) w = (.ok (some content), w')) :
    ∃ old n, w.contentAt location = some old ∧ content = old.take n ∧
      (ReadsWhole w.faults → content = old) := by
  rw [read?_eq] at h
  rcases exec_openToRead_cases path w with ⟨failure, hexec⟩ | ⟨e, hexec⟩ | ⟨reader, -, hopen, hexec⟩
  · rw [exec_bind_of_error hexec] at h
    cases h
  · rw [exec_bind_of_ok hexec] at h
    obtain ⟨_, w₁, -, hnone⟩ := exec_bind_eq_ok.1 h
    cases hnone
  · rw [exec_bind_of_ok hexec] at h
    obtain ⟨w₁, hread⟩ := exec_readOn_of_exec_readOpened h
    obtain ⟨node, hstatus, hreader⟩ := bind_eq_ok.1 hopen
    obtain ⟨target, hresolve, hnode, -⟩ := Machine.status_eq_ok.1 hstatus
    rw [hlocation _ _ hresolve] at hnode
    rcases node with mode | ⟨mode, old⟩
    · cases hreader
      exact absurd hread (exec_readOn_directory_ne_ok _ _ _ _)
    · cases hreader
      obtain ⟨n, htake, hwhole⟩ := exists_take_of_exec_readOn hread
      refine ⟨old, n, ?_, htake, fun hfaults => htake.trans (hwhole hfaults)⟩
      rw [World.contentAt, World.nodeAt, hnode]
      rfl

/-! ## Replacing -/

/-- What may be left of the content of a file that is replaced: what was there before, nothing, or a
beginning of the new content. -/
inductive Leaves (content : Bytes) (whole : Prop) (before : Option Bytes) : Option Bytes → Prop
  | kept : Leaves content whole before before
  | removed : Leaves content whole before none
  | written (n : Nat) (h : whole → content.take n = content) :
      Leaves content whole before (some (content.take n))

namespace Leaves

variable {whole whole' : Prop} {before after : Option Bytes}

/-- What is left of the content stays possible when less is asked for the whole content to be
there. -/
theorem mono (h : Leaves content whole before after) (hwhole : whole' → whole) :
    Leaves content whole' before after := by
  cases h with
  | kept => exact .kept
  | removed => exact .removed
  | written n h => exact .written n fun hw => h (hwhole hw)

end Leaves

/-- A write that stores all that it is given stores the whole content. -/
theorem Replaces.eq_of_writesWhole {calls : List (Call × Answer)} {outcome : Except OsError Unit}
    {n : Nat} (h : Replaces path content calls outcome (some n)) (hwhole : WritesWhole calls) :
    n = content.length := by
  cases h with
  | opened h fills =>
    cases fills with
    | notWritten e closed => cases hwhole content.length (.error e) (by simp)
    | notClosed h e => exact Answer.count.inj (hwhole content.length (.count n) (by simp))
    | cutShort h => exact Answer.count.inj (hwhole content.length (.count n) (by simp))
    | filled => rfl

/-- **What is left of a file that is replaced,** whatever faults strike. -/
theorem leaves_of_exec_replace
    (hlocation : ∀ m target, Machine.resolve m path.toBytes = .ok target →
      target.location = location)
    {result : Except Stop (Except OsError Unit)}
    (h : exec (replace path content) w = (result, w')) :
    ∃ calls, w.Makes calls w' ∧
      Leaves content (WritesWhole calls) (w.contentAt location) (w'.contentAt location) := by
  rcases exec_replace_cases path content w
    with hexec | ⟨calls, outcome, stored, w₁, hexec, hreplaced⟩
  · cases hexec.symm.trans h
    exact ⟨[], World.makes_of_trace_eq rfl, .kept⟩
  · cases hexec.symm.trans h
    refine ⟨calls, hreplaced.makes, ?_⟩
    rcases stored with _ | n
    · rw [World.contentAt, World.contentAt, World.nodeAt, World.nodeAt]
      rcases hreplaced.removes rfl location with hsame | hnone
      · rw [hsame]
        exact .kept
      · rw [hnone]
        exact .removed
    · obtain ⟨bits, hstatus⟩ := hreplaced.holds n rfl
      obtain ⟨target, hresolve, hfile⟩ := Machine.exists_resolve_of_status? hstatus
      have hheld : w'.contentAt location = some (content.take n) := by
        rw [World.contentAt, World.nodeAt, ← hlocation _ _ hresolve, hfile]
        rfl
      rw [hheld]
      exact .written n fun hwhole => by
        rw [hreplaced.replaces.eq_of_writesWhole hwhole, List.take_length]

end WholeFile

end Launcher
