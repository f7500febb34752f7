import Launcher.Proofs.Directory.Parents
import Launcher.Proofs.WholeFile.Replacing

/-!
# Replacing a file is all or nothing

Where no faults are planned, a file is either replaced as a whole or nothing is touched. The old
file is removed before the new one is opened, so this rests on the two calls asking for the same:
what lets a file be removed lets another one be opened at its place. What bars a file from a path is
told by the spelling of the path, and by what is there.

## Main definitions

* `Launcher.Machine.HasParent` — the directory in which a path names an entry is there.
* `Launcher.Machine.Bars` — what bars a file from a path.
* `Launcher.Machine.TakesFile` — a path leads to a place that can take a file.

## Main results

* `Launcher.Machine.not_bars_iff` — a path that nothing bars leads to a place that can take a file.
* `Launcher.WholeFile.replace_all_or_nothing` — a file is replaced unless something bars it.
-/

namespace Launcher

open Launcher.Action

variable {m : Machine} {path : Path} {w : World}

namespace Machine

/-! ## What bars a file -/

/-- The names of the path before the last one lead to a directory. -/
def HasParent (m : Machine) (path : Path) : Prop :=
  ∃ start, m.start path.toBytes = .ok start ∧
    m.Reaches start (Location.names path.toBytes).dropLast

/-- **What bars a file from a path.** -/
inductive Bars (m : Machine) (path : Path) : Prop
  | empty (h : path.toBytes = [])
  | tooLong (h : pathLimit ≤ path.toBytes.length)
  /-- The working directory from which the path is looked up has been deleted. -/
  | adrift (h : path.toBytes.head? ≠ some slashByte) (hdeleted : m.workingDirectory = none)
  | noNames (h : Location.names path.toBytes = [])
  | dots {name : Bytes} (h : (Location.names path.toBytes).getLast? = some name)
      (hdots : name = Location.dot ∨ name = Location.dotDot)
  | slashed (h : path.toBytes.getLast? = some slashByte)
  | longName {name : Bytes} (h : name ∈ Location.names path.toBytes)
      (hlong : nameLimit < name.length)
  | directory (h : m.isDirectory path = true)
  | noParent (h : ¬m.HasParent path)

/-- The path leads to a place that can take a file: it names it by an entry of its own, and there is
no directory. -/
structure TakesFile (m : Machine) (path : Path) (target : Target) : Prop where
  resolve_eq : m.resolve path.toBytes = .ok target
  nameless : target.nameless = false
  slashed : target.slashed = false
  noDirectory : IsNoDirectory (m.tree.get? target.location)

/-- A path has a last name, other than `.` and `..`, if its place is not nameless. -/
theorem targetOf_nameless {bytes : Bytes} {location : Location} :
    (targetOf bytes location).nameless = false ↔
      ∃ name, (Location.names bytes).getLast? = some name ∧ name ≠ Location.dot ∧
        name ≠ Location.dotDot := by
  unfold targetOf
  rcases (Location.names bytes).getLast? with _ | name
  · simp
  · simp

/-- Nothing bars a file from a path that leads to a place that can take one. -/
theorem TakesFile.not_bars {target : Target} (h : m.TakesFile path target) : ¬m.Bars path := by
  obtain ⟨hresolve, hnameless, hslashed, hnoDirectory⟩ := h
  obtain ⟨hne, hlength, start, location, hstart, hwalk, rfl⟩ := resolve_eq_ok.1 hresolve
  obtain ⟨last, hlast, hdot, hdotDot⟩ := targetOf_nameless.1 hnameless
  intro hbars
  cases hbars with
  | empty h => exact hne h
  | tooLong h => exact Nat.not_lt.2 h hlength
  | adrift h hdeleted =>
    rw [Machine.start, if_neg h, hdeleted] at hstart
    cases hstart
  | noNames h =>
    rw [h] at hlast
    cases hlast
  | dots h hdots =>
    obtain rfl := Option.some.inj (hlast.symm.trans h)
    exact hdots.elim hdot hdotDot
  | slashed h => simp [targetOf, h] at hslashed
  | longName h hlong => exact Nat.not_lt.2 (Tree.length_le_of_walk hwalk _ h) hlong
  | directory h =>
    obtain ⟨-, target, bits, hresolve', hdirectory⟩ := isDirectory_eq_true.1 h
    obtain rfl := Except.ok.inj (hresolve'.symm.trans hresolve)
    exact hnoDirectory bits hdirectory
  | noParent h =>
    -- The walk comes by the directory before it takes its last step.
    rw [← List.dropLast_append_getLast? _ hlast] at hwalk
    obtain ⟨here, hfront, hstep⟩ := Tree.exists_walk_of_walk_append hwalk
    obtain ⟨bits, hdirectory⟩ := Tree.exists_mode_of_walk_cons hstep
    exact h ⟨start, hstart, here, bits, hfront, hdirectory⟩

/-- A path from which nothing bars a file leads to a place that can take one. -/
theorem exists_takesFile_of_not_bars (hzero : 0 ∉ path.toBytes) (h : ¬m.Bars path) :
    ∃ target, m.TakesFile path target := by
  obtain ⟨start, hstart, here, bits, hwalk, hdirectory⟩ : m.HasParent path :=
    not_not.1 fun hparent => h (.noParent hparent)
  obtain ⟨name, hname⟩ : ∃ name, (Location.names path.toBytes).getLast? = some name :=
    Option.ne_none_iff_exists'.1 fun hnone => h (.noNames (List.getLast?_eq_none_iff.1 hnone))
  have hdots : name ≠ Location.dot ∧ name ≠ Location.dotDot :=
    not_or.1 fun hdots => h (.dots hname hdots)
  have hshort : ¬(name ≠ Location.dot ∧ name ≠ Location.dotDot ∧ nameLimit < name.length) :=
    fun hlong => h (.longName (List.mem_of_getLast? hname) hlong.2.2)
  have hall : m.tree.walk start (Location.names path.toBytes) =
      .ok (Location.ofPath.step here name) := by
    rw [← List.dropLast_append_getLast? _ hname, Tree.walk_append _ hwalk,
      Tree.walk_cons_of_directory name [] hdirectory, if_neg hshort]
    rfl
  have hresolve : m.resolve path.toBytes =
      .ok (targetOf path.toBytes (Location.ofPath.step here name)) :=
    resolve_eq_ok.2 ⟨fun hempty => h (.empty hempty),
      Nat.not_le.1 fun hlong => h (.tooLong hlong), start, _, hstart, hall, rfl⟩
  refine ⟨_, hresolve, targetOf_nameless.2 ⟨name, hname, hdots⟩, ?_, fun bits hnode => ?_⟩
  · exact beq_eq_false_iff_ne.2 fun hslash => h (.slashed hslash)
  · exact h (.directory (isDirectory_eq_true.2 ⟨hzero, _, bits, hresolve, hnode⟩))

/-- **Nothing bars a file from a path** exactly if the path leads to a place that can take one. -/
theorem not_bars_iff (hzero : 0 ∉ path.toBytes) :
    ¬m.Bars path ↔ ∃ target, m.TakesFile path target :=
  ⟨exists_takesFile_of_not_bars hzero, fun ⟨_, h⟩ => h.not_bars⟩

/-- Calls that are counted bar nothing and let nothing in. -/
theorem Bars.counted (hzero : 0 ∉ path.toBytes) (h : m.Bars path) (call : Call) :
    (m.counted call).Bars path := by
  by_contra hnot
  obtain ⟨target, htakes⟩ := (not_bars_iff hzero).1 hnot
  have htakes' : m.TakesFile path target :=
    ⟨htakes.resolve_eq, htakes.nameless, htakes.slashed, htakes.noDirectory⟩
  exact htakes'.not_bars h

/-- A file is removed only from a place that can take another. -/
theorem Bars.exists_unlink_eq_error (h : m.Bars path) :
    ∃ e, m.unlink path.toBytes = .error e := by
  rcases heffect : m.unlink path.toBytes with e | after
  · exact ⟨e, rfl⟩
  · obtain ⟨target, bits, content, hresolve, hnameless, hslashed, hfile, -⟩ :=
      unlink_eq_ok.1 heffect
    have htakes : m.TakesFile path target :=
      ⟨hresolve, hnameless, hslashed, hfile ▸ isNoDirectory_file bits content⟩
    exact absurd h htakes.not_bars

/-- A file is opened for writing only at a place that can take it. -/
theorem Bars.exists_openToWrite_eq_error (h : m.Bars path) :
    ∃ e, m.openToWrite path.toBytes = .error e := by
  rcases heffect : m.openToWrite path.toBytes with e | ⟨location, after⟩
  · exact ⟨e, rfl⟩
  · obtain ⟨target, node, hresolve, hnameless, hslashed, hnode, -, -⟩ :=
      openToWrite_eq_ok.1 heffect
    have hnoDirectory : IsNoDirectory (m.tree.get? target.location) := by
      intro bits hdirectory
      rw [hdirectory] at hnode
      cases hnode
    have htakes : m.TakesFile path target := ⟨hresolve, hnameless, hslashed, hnoDirectory⟩
    exact absurd h htakes.not_bars

end Machine

/-! ## All or nothing -/

namespace WholeFile

/-- **Where something bars the file, neither call succeeds,** and nothing is touched. -/
theorem exec_replace_of_bars (content : Bytes) (hfaults : w.machine.faults = [])
    (hzero : 0 ∉ path.toBytes) (hbars : w.machine.Bars path) :
    ∃ e w', exec (replace path content) w = (.ok (.error e), w') ∧
      w'.machine.tree = w.machine.tree := by
  have hbars₁ := hbars.counted hzero (.unlink path)
  obtain ⟨e, hunlink⟩ := hbars₁.exists_unlink_eq_error
  obtain ⟨e', hopen⟩ := (hbars₁.counted hzero (.openToWrite path)).exists_openToWrite_eq_error
  have hexec := exec_unlink path hfaults hzero
  rw [hunlink] at hexec
  rw [replace_eq, exec_bind_of_ok hexec]
  by_cases hentry : (OsError.of e (some path)).errno ≠ some (Errno.noEntry.number : Int)
  · simp only [if_pos hentry]
    exact ⟨_, _, rfl, rfl⟩
  · have hexec' := exec_openToWrite (w := w.afterCall (.unlink path) (.error e)) path hfaults hzero
    have hopen' : ((w.afterCall (.unlink path) (.error e)).machine.counted
        (.openToWrite path)).openToWrite path.toBytes = .error e' := hopen
    rw [hopen'] at hexec'
    simp only [if_neg hentry, writeNew]
    rw [exec_bind_of_ok hexec']
    exact ⟨_, _, rfl, rfl⟩

/-- **A file is replaced where nothing bars it,** whatever was there. -/
theorem exec_replace_of_takesFile {target : Target} (content : Bytes)
    (hfaults : w.machine.faults = []) (hzero : 0 ∉ path.toBytes)
    (htakes : w.machine.TakesFile path target) :
    ∃ w', exec (replace path content) w = (.ok (.ok ⟨⟩), w') ∧
      IsReplaced w.machine.tree w'.machine.tree target.location
        (.file (maskMode Machine.newFileMode w.machine.umask) content) ∧
      w'.machine.status? path =
        some (.file (maskMode Machine.newFileMode w.machine.umask) content) := by
  obtain ⟨w', hexec, hreplaced⟩ := exec_replace path content hfaults hzero htakes.resolve_eq
    htakes.nameless htakes.slashed htakes.noDirectory
  obtain ⟨_, _, _, w'', hexec', hrefiles⟩ := exists_replacedBy_replace content hzero w
  cases hexec.symm.trans hexec'
  have hresolve : w.bare.resolve path.toBytes = .ok target := htakes.resolve_eq
  have hstatus : w'.bare.status? path = _ := Machine.status?_of_extends hzero hresolve
    htakes.slashed hrefiles.refiles.toExtends hreplaced.placed
  exact ⟨w', hexec, hreplaced, hstatus⟩

/-- **Replacing a file is all or nothing** where no faults are planned. It fails exactly if
something bars the file from the path, and then the tree is as before. Otherwise the path names a
file with the content and with the bits of `0o755` that are not in the mask, whatever was there
before, and nothing else has changed. -/
theorem replace_all_or_nothing (path : Path) (content : Bytes) (hfaults : w.machine.faults = [])
    (hzero : 0 ∉ path.toBytes) :
    ∃ outcome w', exec (replace path content) w = (.ok outcome, w') ∧
      ((∃ e, outcome = .error e) ↔ w.machine.Bars path) ∧
      ((∃ e, outcome = .error e) → w'.machine.tree = w.machine.tree) ∧
      (outcome = .ok ⟨⟩ → ∃ location bits, w.machine.Names path location ∧
        w'.machine.status? path = some (.file bits content) ∧
        IsReplaced w.machine.tree w'.machine.tree location (.file bits content) ∧
        ∀ i, bits.testBit i = (Nat.testBit 0o755 i && !w.machine.umask.testBit i)) := by
  by_cases hbars : w.machine.Bars path
  · obtain ⟨e, w', hexec, htree⟩ := exec_replace_of_bars content hfaults hzero hbars
    exact ⟨.error e, w', hexec, ⟨fun _ => hbars, fun _ => ⟨e, rfl⟩⟩, fun _ => htree,
      fun hok => nomatch hok⟩
  · obtain ⟨target, htakes⟩ := (Machine.not_bars_iff hzero).1 hbars
    obtain ⟨w', hexec, hreplaced, hstatus⟩ :=
      exec_replace_of_takesFile content hfaults hzero htakes
    exact ⟨.ok ⟨⟩, w', hexec, ⟨fun ⟨_, herror⟩ => (nomatch herror), fun h => absurd h hbars⟩,
      fun ⟨_, herror⟩ => (nomatch herror), fun _ => ⟨target.location, _,
        ⟨target, htakes.resolve_eq, rfl⟩, hstatus, hreplaced, testBit_maskMode _ _⟩⟩

/-- A program is replaced; but not by a path that ends in a separator, and a directory is not. -/
theorem replace_all_or_nothing_home :
    (∃ w' location, exec (replace (.text (lit "../bin/true")) (lit "new").encode)
        Directory.atHome = (.ok (.ok ⟨⟩), w') ∧
      w'.machine.status? (.text (lit "../bin/true")) = some (.file 0o755 (lit "new").encode) ∧
      IsReplaced Directory.atHome.machine.tree w'.machine.tree location
        (.file 0o755 (lit "new").encode)) ∧
    ∀ path ∈ [Path.text (lit "../bin/true/"), .text (lit "../home")],
      ∃ e w', exec (replace path (lit "new").encode) Directory.atHome = (.ok (.error e), w') ∧
        w'.machine.tree = Directory.atHome.machine.tree := by
  constructor
  · obtain ⟨outcome, w', hexec, -, -, hreplaced⟩ := replace_all_or_nothing
      (w := Directory.atHome) (.text (lit "../bin/true")) (lit "new").encode rfl (by decide)
    have hok : (exec (replace (.text (lit "../bin/true")) (lit "new").encode)
        Directory.atHome).1 = .ok (.ok ⟨⟩) := by decide +kernel
    rw [hexec] at hok
    obtain rfl := Except.ok.inj hok
    obtain ⟨location, bits, -, hstatus, hplaced, hbits⟩ := hreplaced rfl
    obtain rfl : bits = maskMode 0o755 0o022 :=
      Nat.eq_of_testBit_eq fun i => (hbits i).trans (testBit_maskMode _ _ i).symm
    exact ⟨w', location, hexec, hstatus, hplaced⟩
  · intro path hpath
    have hbars : 0 ∉ path.toBytes ∧ Directory.atHome.machine.Bars path := by
      rcases List.mem_pair.1 hpath with rfl | rfl
      · exact ⟨by decide, .slashed (by decide)⟩
      · exact ⟨by decide, .directory (by decide)⟩
    obtain ⟨outcome, w', hexec, hbarred, htree, -⟩ := replace_all_or_nothing
      (w := Directory.atHome) path (lit "new").encode rfl hbars.1
    obtain ⟨e, rfl⟩ := hbarred.2 hbars.2
    exact ⟨e, w', hexec, htree ⟨e, rfl⟩⟩

end WholeFile

end Launcher
