import Launcher.Proofs.Machine.Growth
import Launcher.Proofs.Run.Returns
import Launcher.Proofs.Run.Trace
import Launcher.Proofs.WholeFile

/-!
# Replacing a file, whatever the calls answer

A file is replaced by four calls: the old one is removed, and a new one is opened, written and
closed. Each of them can be struck by a fault, and a write can be cut short. What the calls answer
decides how the replacement ends and what the new file holds, and nothing but that file is touched.

## Main definitions

* `Launcher.WholeFile.Fills` — how a file that has been opened is written and closed.
* `Launcher.WholeFile.Replaces` — how a file is replaced.
* `Launcher.WholeFile.ReplacedBy` — what calls that replace a file do to a world.

## Main results

* `Launcher.WholeFile.exists_replacedBy_replace` — replacing a file is replacing it by some calls.
* `Launcher.WholeFile.replace_ends` — how it ends.
-/

namespace Launcher.WholeFile

open Launcher.Action

/-! ## Calls and what they come to -/

/-- **How a file that has been opened is written and closed:** the calls with their answers, what
they come to, and the number of bytes that the file holds then. An error of the write counts before
one of the close, and one of the close before a write that has been cut short, which has no
number. -/
inductive Fills (content : Bytes) : List (Call × Answer) → Except OsError Unit → Nat → Prop
  | notWritten (e : Errno) (closed : Answer) :
      Fills content [(.write content.length, .error e), (.close, closed)] (.error (.of e none)) 0
  | notClosed {n : Nat} (h : n ≤ content.length) (e : Errno) :
      Fills content [(.write content.length, .count n), (.close, .error e)] (.error (.of e none)) n
  | cutShort {n : Nat} (h : n < content.length) :
      Fills content [(.write content.length, .count n), (.close, .ok)]
        (.error (.note (lit "short write: " ++ decimal n ++ lit " of " ++ decimal content.length ++
          lit " bytes"))) n
  | filled :
      Fills content [(.write content.length, .count content.length), (.close, .ok)] (.ok ⟨⟩)
        content.length

/-- **How a file is replaced:** the calls with their answers, what they come to, and the number of
bytes that the new file holds, if it has been opened. It does not matter whether the old file has
been removed or was not there; any other error of its removal is the end. -/
inductive Replaces (path : Path) (content : Bytes) :
    List (Call × Answer) → Except OsError Unit → Option Nat → Prop
  | kept {e : Errno} (h : e ≠ .noEntry) :
      Replaces path content [(.unlink path, .error e)] (.error (.of e (some path))) none
  | notOpened {removed : Answer} (h : removed = .ok ∨ removed = .error .noEntry) (e : Errno) :
      Replaces path content [(.unlink path, removed), (.openToWrite path, .error e)]
        (.error (.of e (some path))) none
  | opened {removed : Answer} (h : removed = .ok ∨ removed = .error .noEntry)
      {calls : List (Call × Answer)} {outcome : Except OsError Unit} {n : Nat}
      (fills : Fills content calls outcome n) :
      Replaces path content ((.unlink path, removed) :: (.openToWrite path, .ok) :: calls) outcome
        (some n)

variable {path : Path} {content : Bytes} {calls : List (Call × Answer)}
  {outcome : Except OsError Unit} {w : World}

/-- A file has been written without an error if and only if all of it has been written, and it has
been closed. -/
theorem Fills.eq_ok_iff {n : Nat} (h : Fills content calls outcome n) :
    outcome = .ok ⟨⟩ ↔
      calls = [(.write content.length, .count content.length), (.close, .ok)] := by
  cases h with
  | notWritten e closed => simp
  | notClosed h e => simp
  | cutShort h => simp [Nat.ne_of_lt h]
  | filled => simp

/-- The calls come to a file that has been replaced if and only if the old one has been removed or
was not there, and the new one has been opened, written as a whole, and closed. -/
theorem Replaces.eq_ok_iff {stored : Option Nat} (h : Replaces path content calls outcome stored) :
    outcome = .ok ⟨⟩ ↔ ∃ removed, (removed = .ok ∨ removed = .error .noEntry) ∧
      calls = [(.unlink path, removed), (.openToWrite path, .ok),
        (.write content.length, .count content.length), (.close, .ok)] := by
  cases h with
  | kept h => simp
  | notOpened h e => simp
  | @opened removed h calls outcome n fills =>
    rw [fills.eq_ok_iff]
    constructor
    · rintro rfl
      exact ⟨removed, h, rfl⟩
    · rintro ⟨_, -, hcalls⟩
      simpa using (List.cons.inj hcalls).2

/-- A file that has been opened is written once and closed once, whatever comes of it, and these are
the last calls. -/
theorem Replaces.eq_of_opened_mem {stored : Option Nat}
    (h : Replaces path content calls outcome stored)
    (hopened : (.openToWrite path, .ok) ∈ calls) :
    ∃ removed written closed, calls = [(.unlink path, removed), (.openToWrite path, .ok),
      (.write content.length, written), (.close, closed)] := by
  cases h with
  | kept h => simp at hopened
  | notOpened h e => simp at hopened
  | @opened removed h calls outcome n fills => cases fills <;> exact ⟨_, _, _, rfl⟩

/-- A file that has been replaced holds all of its new content. -/
theorem Replaces.stored_eq {stored : Option Nat} (h : Replaces path content calls outcome stored)
    (hok : outcome = .ok ⟨⟩) : stored = some content.length := by
  cases h with
  | kept h => cases hok
  | notOpened h e => cases hok
  | opened h fills =>
    cases fills with
    | filled => rfl
    | notWritten e closed => cases hok
    | notClosed h e => cases hok
    | cutShort h => cases hok

/-- **What calls that replace a file do to a world.** They are made, and come to what their answers
say; they touch nothing but the file that the path names; as long as the file has not been opened,
it can only have been removed; and once it has been opened it holds a beginning of the new
content. -/
structure ReplacedBy (path : Path) (content : Bytes) (calls : List (Call × Answer))
    (outcome : Except OsError Unit) (stored : Option Nat) (w w' : World) : Prop where
  makes : w.Makes calls w'
  replaces : Replaces path content calls outcome stored
  refiles : w.bare.Refiles path w'.bare
  removes : stored = none → ∀ location,
    w'.machine.tree.get? location = w.machine.tree.get? location ∨
      w'.machine.tree.get? location = none
  holds : ∀ n ∈ stored, ∃ bits, w'.machine.status? path = some (.file bits (content.take n))

/-! ## Writing and closing -/

/-- A write that has failed, or has stored some bytes, and the close behind it. -/
theorem exists_fills_close {written : Except OsError Nat} {answer : Answer} {n : Nat} (path : Path)
    (hwritten : (∃ e, written = .error (.of e none) ∧ answer = .error e ∧ n = 0) ∨
      written = .ok n ∧ answer = .count n ∧ n ≤ content.length) (w : World) :
    ∃ closed outcome w', exec (do
        let closed ← Action.close
        verdict path content written closed) w = (.ok outcome, w') ∧
      w.Makes [(.close, closed)] w' ∧ w'.bare = w.bare ∧
      Fills content [(.write content.length, answer), (.close, closed)] outcome n := by
  rcases exec_close_cases w with ⟨e, hclose⟩ | hclose
  · rw [exec_bind_of_ok hclose]
    rcases hwritten with ⟨e', rfl, rfl, rfl⟩ | ⟨rfl, rfl, hn⟩
    · exact ⟨_, _, _, rfl, rfl, rfl, .notWritten e' _⟩
    · exact ⟨_, _, _, rfl, rfl, rfl, .notClosed hn e⟩
  · rw [exec_bind_of_ok hclose]
    rcases hwritten with ⟨e', rfl, rfl, rfl⟩ | ⟨rfl, rfl, hn⟩
    · exact ⟨_, _, _, rfl, rfl, rfl, .notWritten e' _⟩
    · unfold verdict
      by_cases hall : n = content.length
      · subst hall
        simp only [if_true]
        exact ⟨_, _, _, rfl, rfl, rfl, .filled⟩
      · simp only [if_neg hall]
        obtain ⟨log, hlog⟩ := exists_exec_log Level.debug (lit "Short write to " ++ path.quoted ++
          lit ": " ++ decimal n ++ lit " of " ++ decimal content.length ++ lit " bytes")
          (w.afterCall .close .ok)
        rw [exec_bind_of_ok hlog]
        exact ⟨_, _, _, rfl, rfl, rfl, .cutShort (Nat.lt_of_le_of_ne hn hall)⟩

/-- **A file that has been opened is written and closed.** Then it holds a beginning of the
content. -/
theorem exists_fills {location : Location} {bits : Nat} (path : Path) (content : Bytes)
    (hnames : w.bare.Names path location)
    (hfile : w.machine.tree.get? location = some (.file bits [])) :
    ∃ calls outcome n w', exec (do
        let written ← Action.write location content
        let closed ← Action.close
        verdict path content written closed) w = (.ok outcome, w') ∧
      w.Makes calls w' ∧ Fills content calls outcome n ∧ w.bare.Refiles path w'.bare ∧
      w'.machine.tree.get? location = some (.file bits (content.take n)) := by
  rcases exec_write_cases location content w with ⟨e, hwrite⟩ | ⟨limit, -, hwrite⟩
  · obtain ⟨closed, outcome, w', hexec, hmakes, hbare, hfills⟩ :=
      exists_fills_close path (Or.inl ⟨e, rfl, rfl, rfl⟩)
        (w.afterCall (.write content.length) (.error e))
    refine ⟨_, outcome, 0, w', (exec_bind_of_ok hwrite).trans hexec,
      (World.makes_afterCall rfl _ w).trans hmakes, hfills, ?_, ?_⟩
    · rw [hbare]
      exact refl w.bare
    · rw [World.tree_eq_of_bare_eq hbare]
      exact hfile
  · generalize hstored : content.take (limit.getD content.length) = stored at hwrite
    have hprefix : stored <+: content := hstored ▸ List.take_prefix _ _
    obtain ⟨closed, outcome, w', hexec, hmakes, hbare, hfills⟩ :=
      exists_fills_close path (Or.inr ⟨rfl, rfl, hprefix.length_le⟩)
        { w.afterCall (.write content.length) (.count stored.length) with
          machine := (w.machine.counted (.write content.length)).store location stored }
    have hwritten : w.Makes [(.write content.length, .count stored.length)]
        { w.afterCall (.write content.length) (.count stored.length) with
          machine := (w.machine.counted (.write content.length)).store location stored } := rfl
    refine ⟨_, outcome, stored.length, w', (exec_bind_of_ok hwrite).trans hexec,
      hwritten.trans hmakes, hfills, ?_, ?_⟩
    · rw [hbare]
      show w.bare.Refiles path
        { (w.machine.counted (.write content.length)).store location stored with made := [] }
      rw [← Machine.store_made]
      exact Machine.refiles_store stored hnames
    · rw [World.tree_eq_of_bare_eq hbare]
      show ((w.machine.counted (.write content.length)).store location
        stored).tree.get? location = _
      rw [Machine.store_of_file (by exact hfile), ← List.prefix_iff_eq_take.1 hprefix]
      exact Tree.get?_insert_self _ _ _

/-! ## The replacement -/

/-- **The new file is opened, written and closed,** once nothing stands in its way. -/
theorem exists_replaces_writeNew (content : Bytes) (hzero : 0 ∉ path.toBytes) (w : World) :
    ∃ calls outcome stored w', exec (writeNew path content) w = (.ok outcome, w') ∧
      w.Makes calls w' ∧ w.bare.Refiles path w'.bare ∧
      (∀ removed, removed = .ok ∨ removed = .error .noEntry →
        Replaces path content ((.unlink path, removed) :: calls) outcome stored) ∧
      (stored = none → w'.machine.tree = w.machine.tree) ∧
      ∀ n ∈ stored, ∃ bits, w'.machine.status? path = some (.file bits (content.take n)) := by
  unfold writeNew
  rcases exec_openToWrite_cases hzero w with ⟨e, hopen⟩ | ⟨location, after, heffect, hopen⟩
  · rw [exec_bind_of_ok hopen]
    exact ⟨_, _, none, _, rfl, rfl, refl w.bare, fun _ h => .notOpened h e, fun _ => rfl, by simp⟩
  · have hopened : w.bare.openToWrite path.toBytes = .ok (location, { after with made := [] }) := by
      show Machine.openToWrite { w.machine.counted (.openToWrite path) with made := [] } _ = _
      rw [Machine.openToWrite_made, heffect]
      rfl
    obtain ⟨hrefiles, hnames⟩ := Machine.refiles_of_openToWrite hopened
    obtain ⟨target, node, hresolve, -, hslashed, hnode, rfl, hafter⟩ :=
      Machine.openToWrite_eq_ok.1 hopened
    obtain ⟨bits, rfl⟩ := Machine.exists_mode_of_emptied hnode
    have hfile : after.tree.get? target.location = some (.file bits []) := by
      have htree : after.tree = w.bare.tree.insert target.location (.file bits []) :=
        congrArg Machine.tree hafter
      rw [htree]
      exact Tree.get?_insert_self _ _ _
    obtain ⟨calls, outcome, n, w', hexec, hmakes, hfills, hrefiles', hfile'⟩ := exists_fills
      (w := { w.afterCall (.openToWrite path) .ok with machine := after }) path content hnames hfile
    have hmakes₀ : w.Makes [(.openToWrite path, .ok)]
        { w.afterCall (.openToWrite path) .ok with machine := after } := rfl
    have hall : w.bare.Refiles path w'.bare := IsTrans.trans _ _ _ hrefiles hrefiles'
    refine ⟨_, outcome, some n, w', (exec_bind_of_ok hopen).trans hexec, hmakes₀.trans hmakes, hall,
      fun _ h => .opened h hfills, fun hnone => (nomatch hnone), fun n' hn => ⟨bits, ?_⟩⟩
    obtain rfl : n = n' := Option.some.inj hn
    have hstatus : w'.bare.status? path = some (.file bits (content.take n)) :=
      Machine.status?_of_extends hzero hresolve hslashed hall.toExtends hfile'
    exact hstatus

/-- **Replacing a file is replacing it by some calls,** whatever faults are planned. -/
theorem exists_replacedBy_replace (content : Bytes) (hzero : 0 ∉ path.toBytes) (w : World) :
    ∃ calls outcome stored w', exec (replace path content) w = (.ok outcome, w') ∧
      ReplacedBy path content calls outcome stored w w' := by
  rw [replace_eq]
  rcases exec_unlink_cases path w with ⟨failure, hexec⟩ | ⟨-, ⟨e, hexec⟩ | ⟨after, heffect, hexec⟩⟩
  · obtain ⟨_, _, hreturns⟩ := returns_unlink hzero w
    cases hexec.symm.trans hreturns
  · have hunlink := World.makes_afterCall (c := .unlink path) rfl (.error e) w
    rw [exec_bind_of_ok hexec]
    by_cases hentry : e = .noEntry
    · subst hentry
      obtain ⟨calls, outcome, stored, w', hwrite, hmakes, hrefiles, hreplaces, hsame, hholds⟩ :=
        exists_replaces_writeNew content hzero (w.afterCall (.unlink path) (.error .noEntry))
      exact ⟨_, outcome, stored, w', hwrite, hunlink.trans hmakes, hreplaces _ (Or.inr rfl),
        hrefiles, fun hnone location => Or.inl (congrArg (·.get? location) (hsame hnone)), hholds⟩
    · simp only [ne_eq, mt OsError.errno_of_eq_some_iff.1 hentry, not_false_eq_true, if_true]
      exact ⟨_, _, none, _, rfl, hunlink, .kept hentry, refl w.bare,
        fun _ location => Or.inl rfl, by simp⟩
  · have hunlink : w.Makes [(.unlink path, .ok)]
        { w.afterCall (.unlink path) .ok with machine := after } := rfl
    have hunlinked : w.bare.unlink path.toBytes = .ok { after with made := [] } := by
      show Machine.unlink { w.machine.counted (.unlink path) with made := [] } _ = _
      rw [Machine.unlink_made, heffect]
      rfl
    obtain ⟨calls, outcome, stored, w', hwrite, hmakes, hrefiles, hreplaces, hsame, hholds⟩ :=
      exists_replaces_writeNew content hzero
        { w.afterCall (.unlink path) .ok with machine := after }
    refine ⟨_, outcome, stored, w', (exec_bind_of_ok hexec).trans hwrite, hunlink.trans hmakes,
      hreplaces _ (Or.inl rfl), IsTrans.trans _ _ _ (Machine.refiles_of_unlink hunlinked) hrefiles,
      fun hnone location => ?_, hholds⟩
    obtain ⟨target, _, _, -, -, -, -, rfl⟩ := Machine.unlink_eq_ok.1 heffect
    rw [hsame hnone]
    by_cases hlocation : location = target.location
    · rw [hlocation]
      exact Or.inr (Tree.get?_erase_self _ _)
    · exact Or.inl (Tree.get?_erase_of_ne _ hlocation)

/-- A file is replaced by some calls, or its path is refused. -/
theorem exec_replace_cases (path : Path) (content : Bytes) (w : World) :
    exec (replace path content) w = (.error (.failed (.invalid .zeroByte)), w) ∨
      ∃ calls outcome stored w', exec (replace path content) w = (.ok outcome, w') ∧
        ReplacedBy path content calls outcome stored w w' := by
  rcases exec_requireNoZero_cases path w with ⟨-, hstop⟩ | ⟨hzero, -⟩
  · have hunlink : exec (unlink path) w = (.error (.failed (.invalid .zeroByte)), w) :=
      exec_bind_of_error hstop
    rw [replace_eq]
    exact Or.inl (exec_bind_of_error hunlink)
  · exact Or.inr (exists_replacedBy_replace content hzero w)

/-- **How the replacement of a file ends,** whatever faults are planned. It comes to an outcome, by
calls whose answers decide what that is, which bytes the new file holds, and that nothing else is
touched. The file has been replaced if and only if the old one has been removed or was not there,
and the new one has been opened, has been written as a whole and has been closed; then it holds the
whole content. A file that has been opened is closed once, whatever comes of it. -/
theorem replace_ends (path : Path) (content : Bytes) (hzero : 0 ∉ path.toBytes) (w : World) :
    ∃ calls outcome stored w', exec (replace path content) w = (.ok outcome, w') ∧
      ReplacedBy path content calls outcome stored w w' ∧
      (outcome = .ok ⟨⟩ ↔ ∃ removed, (removed = .ok ∨ removed = .error .noEntry) ∧
        calls = [(.unlink path, removed), (.openToWrite path, .ok),
          (.write content.length, .count content.length), (.close, .ok)]) ∧
      (outcome = .ok ⟨⟩ → ∃ bits, w'.machine.status? path = some (.file bits content)) ∧
      ((.openToWrite path, .ok) ∈ calls →
        ∃ removed written closed, calls = [(.unlink path, removed), (.openToWrite path, .ok),
          (.write content.length, written), (.close, closed)]) := by
  obtain ⟨calls, outcome, stored, w', hexec, hreplaced⟩ := exists_replacedBy_replace content hzero w
  refine ⟨calls, outcome, stored, w', hexec, hreplaced, hreplaced.replaces.eq_ok_iff, fun hok => ?_,
    hreplaced.replaces.eq_of_opened_mem⟩
  obtain ⟨bits, hstatus⟩ := hreplaced.holds _ (hreplaced.replaces.stored_eq hok)
  exact ⟨bits, by rwa [List.take_length] at hstatus⟩

/-- A process on a machine with a note, of which removals say that it is not there and into which a
write stores two bytes at most. -/
def hampered : World where
  machine :=
    { tree := Tree.empty.plant (Location.ofPath (lit "/note").encode)
        (.file 0o644 (lit "an old note").encode)
      workingDirectory := some (lit "/"), userId := 1000, accounts := [], umask := 0o022
      terminal := ⟨false, false, none⟩
      faults := [⟨.unlink, none, none, .fail .noEntry⟩, ⟨.write, none, none, .short 2⟩]
      made := [] }
  process := .fresh [] Level.warning

/-- The note that could not be removed is emptied, and then it holds what has been written, with no
byte of the old one. -/
theorem replace_ends_hampered :
    0 ∉ (Path.text (lit "/note")).toBytes ∧
    ∃ w', exec (replace (.text (lit "/note")) (lit "new!").encode) hampered =
        (.ok (.error (.note (lit "short write: 2 of 4 bytes"))), w') ∧
      hampered.Makes [(.unlink (.text (lit "/note")), .error .noEntry),
        (.openToWrite (.text (lit "/note")), .ok), (.write 4, .count 2), (.close, .ok)] w' ∧
      ∃ bits, w'.machine.status? (.text (lit "/note")) = some (.file bits (lit "ne").encode) := by
  have hzero : 0 ∉ (Path.text (lit "/note")).toBytes := by decide
  obtain ⟨calls, outcome, stored, w', hexec, hreplaced, -⟩ :=
    replace_ends (.text (lit "/note")) (lit "new!").encode hzero hampered
  have htrace : (exec (replace (.text (lit "/note")) (lit "new!").encode)
      hampered).2.process.trace = [(.unlink (.text (lit "/note")), .error .noEntry),
        (.openToWrite (.text (lit "/note")), .ok), (.write 4, .count 2), (.close, .ok)] := by
    decide +kernel
  rw [hexec] at htrace
  obtain rfl := hreplaced.makes.symm.trans htrace
  cases hreplaced.replaces with
  | opened h fills =>
    cases fills with
    | cutShort h => exact ⟨hzero, w', hexec, htrace, hreplaced.holds 2 rfl⟩

end Launcher.WholeFile
