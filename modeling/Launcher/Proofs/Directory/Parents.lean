import Launcher.Proofs.Directory.Attempts
import Launcher.Proofs.Run.Faultless

/-!
# Creating a directory with its parents

Where no faults are planned, a directory is created with all that are missing on the way to it
unless a file stands in the way or a limit of the system is passed. What stands in the way is told
from the tree as it is before, by the spelling of the path alone: `.` and `..` are resolved name by
name, and it does not matter that the directories that they come by are yet to be created.

## Main definitions

* `Launcher.Location.along` — the place that a path spells, seen from a start.
* `Launcher.Path.Fits` — paths within the limits of the system.
* `Launcher.Machine.IsFileAt` and `Launcher.Machine.IsClear` — what stands in the way of a path.
* `Launcher.Machine.Provides` — the directories of given paths have been created where they were
  missing, and nothing else.

## Main results

* `Launcher.Path.isChain_names` — the names of the prefixes of a path grow one by one.
* `Launcher.Directory.exists_exec_createOne_of_isClear` and
  `Launcher.Directory.exec_createOne_of_not_isClear` — one directory.
* `Launcher.Directory.exists_exec_createAll_append` — directories with nothing in their way.
* `Launcher.Directory.create_parents` — a directory with its parents.
-/

namespace Launcher

open Launcher.Action

variable {start : Location} {front names : List Bytes} {path : Path} {mode : Int} {m : Machine}
  {w : World}

/-! ## The names of prefixes -/

/-- The names go on by at most one name. -/
def Continues (front names : List Bytes) : Prop := names = front ∨ ∃ name, names = front ++ [name]

/-- A list of bytes without a slash is one name at most. -/
theorem continues_append_names {piece : Bytes} (h : slashByte ∉ piece) :
    Continues front (front ++ Location.names piece) := by
  by_cases hempty : piece = []
  · exact Or.inl (by rw [hempty, Location.names_nil, List.append_nil])
  · exact Or.inr ⟨piece, by rw [Location.names_of_not_mem h hempty]⟩

/-- Reading on behind a slash, or at the start, the names of the beginnings grow one by one. -/
theorem isChain_names_go (done piece : Bytes) {passed : Bytes} (rest : Bytes)
    (hpassed : passed.reverse = done ++ piece) (hpiece : slashByte ∉ piece)
    (hdone : ∀ more, Location.names (done ++ more) = front ++ Location.names more) :
    List.IsChain Continues (front :: (beginnings.go slashByte passed rest).map Location.names) := by
  induction rest generalizing front done piece passed with
  | nil =>
    rw [beginnings.go, List.map_singleton, hpassed, hdone]
    exact List.isChain_cons_cons.2 ⟨continues_append_names hpiece, List.IsChain.singleton _⟩
  | cons a rest ih =>
    rw [beginnings.go]
    by_cases ha : a = slashByte
    · subst ha
      rw [if_pos rfl, List.map_cons, List.isChain_cons_cons, hpassed, hdone]
      refine ⟨continues_append_names hpiece, ih (done ++ piece ++ [slashByte]) []
        (by simp [hpassed]) (by simp) fun more => ?_⟩
      rw [List.append_assoc, List.singleton_append, Location.names_append_cons, hdone]
    · rw [if_neg ha]
      exact ih done (piece ++ [a]) (by simp [hpassed])
        (by simpa [hpiece] using fun h => ha h.symm) hdone

/-- **The names of the prefixes of a path grow one by one,** from none on. -/
theorem Path.isChain_names (path : Path) :
    List.IsChain Continues ([] :: path.chain.map fun start => Location.names start.toBytes) := by
  have hbytes : (path.chain.map fun start => Location.names start.toBytes) =
      (beginnings slashByte path.toBytes).map Location.names := by
    rw [← map_toBytes_chain, List.map_map]
    rfl
  rw [hbytes]
  rcases path.toBytes with _ | ⟨a, rest⟩
  · exact List.isChain_cons_cons.2 ⟨Or.inl rfl, List.IsChain.singleton _⟩
  · by_cases ha : a = slashByte
    · subst ha
      exact isChain_names_go [slashByte] [] rest rfl (by simp)
        fun more => Location.names_append_cons [] more
    · exact isChain_names_go [] [a] rest rfl (by simpa using fun h => ha h.symm)
        fun more => rfl

/-! ## What stands in the way -/

/-- The place that a path spells, seen from a start. -/
def Location.along (start : Location) (path : Bytes) : Location :=
  (Location.names path).foldl Location.ofPath.step start

/-- The path is within the limits of the system. -/
structure Path.Fits (path : Path) : Prop where
  length_lt : path.toBytes.length < pathLimit
  length_le : ∀ name ∈ Location.names path.toBytes, name.length ≤ nameLimit

/-- Whether a path fits is decided by measuring it and its names. -/
instance (path : Path) : Decidable path.Fits :=
  decidable_of_iff (path.toBytes.length < pathLimit ∧
      ∀ name ∈ Location.names path.toBytes, name.length ≤ nameLimit)
    ⟨fun h => ⟨h.1, h.2⟩, fun h => ⟨h.length_lt, h.length_le⟩⟩

namespace Machine

/-- There is a file at the place that the path spells. -/
def IsFileAt (m : Machine) (start : Location) (path : Path) : Prop :=
  ∃ bits content, m.tree.get? (start.along path.toBytes) = some (.file bits content)

/-- Whether a path leads to a file is decided by looking at its node. -/
instance (m : Machine) (start : Location) (path : Path) : Decidable (m.IsFileAt start path) :=
  match h : m.tree.get? (start.along path.toBytes) with
  | some (.file bits content) => .isTrue ⟨bits, content, h⟩
  | some (.directory _) => .isFalse fun ⟨_, _, hfile⟩ => by rw [h] at hfile; cases hfile
  | none => .isFalse fun ⟨_, _, hfile⟩ => by rw [h] at hfile; cases hfile

/-- Nothing stands in the way of the path: it is within the limits, and there is no file. -/
structure IsClear (m : Machine) (start : Location) (path : Path) : Prop where
  fits : path.Fits
  noFile : ¬m.IsFileAt start path

/-- Whether a path is clear is decided by its limits and by the node at its place. -/
instance (m : Machine) (start : Location) (path : Path) : Decidable (m.IsClear start path) :=
  decidable_of_iff (path.Fits ∧ ¬m.IsFileAt start path)
    ⟨fun h => ⟨h.1, h.2⟩, fun h => ⟨h.fits, h.noFile⟩⟩

/-- The path is one for which a directory can be asked, and is looked up from the start. -/
structure IsLookedUp (m : Machine) (start : Location) (path : Path) : Prop where
  start_eq : m.start path.toBytes = .ok start
  ne_nil : path.toBytes ≠ []
  zero_not_mem : 0 ∉ path.toBytes

/-- From the start the names lead to a directory. -/
def Reaches (m : Machine) (start : Location) (names : List Bytes) : Prop :=
  ∃ here bits, m.tree.walk start names = .ok here ∧ m.tree.get? here = some (.directory bits)

end Machine

/-- A walk that comes to an end has met no name that is too long. -/
theorem Tree.length_le_of_walk {tree : Tree} {here there : Location}
    (h : tree.walk here names = .ok there) : ∀ name ∈ names, name.length ≤ nameLimit := by
  induction names generalizing here with
  | nil => simp
  | cons name names ih =>
    obtain ⟨bits, hbits⟩ := exists_mode_of_walk_cons h
    rw [walk_cons_of_directory name names hbits] at h
    split at h
    · cases h
    · rename_i hlength
      refine List.forall_mem_cons.2 ⟨?_, ih h⟩
      by_cases hdot : name = Location.dot
      · subst hdot
        decide
      · by_cases hdotDot : name = Location.dotDot
        · subst hdotDot
          decide
        · exact Nat.not_lt.1 fun hlong => hlength ⟨hdot, hdotDot, hlong⟩

namespace Machine

/-- A path within its length is looked up by its names. -/
theorem resolve_of_length_lt {bytes : Bytes} (hstart : m.start bytes = .ok start) (hne : bytes ≠ [])
    (hlength : bytes.length < pathLimit) :
    m.resolve bytes = (m.tree.walk start (Location.names bytes)).map (targetOf bytes) := by
  unfold resolve
  simp only [List.isEmpty_iff, hne, Nat.not_le.2 hlength, if_false, hstart, ok_bind]
  rcases m.tree.walk start (Location.names bytes) with e | here <;> rfl

/-- Where the directory before it is there, a path within the limits names the place that it
spells. -/
theorem resolve_of_fits (h : m.IsLookedUp start path) (hreaches : m.Reaches start front)
    (hcontinues : Continues front (Location.names path.toBytes)) (hfits : path.Fits) :
    m.resolve path.toBytes = .ok (targetOf path.toBytes (start.along path.toBytes)) := by
  obtain ⟨here, bits, hwalk, hdirectory⟩ := hreaches
  rw [resolve_of_length_lt h.start_eq h.ne_nil hfits.length_lt, Location.along]
  rcases hcontinues with hsame | ⟨name, hnext⟩
  · rw [hsame, hwalk, ← Tree.eq_foldl_of_walk hwalk]
    rfl
  · have hlength := hfits.length_le name (by simp [hnext])
    rw [hnext, Tree.walk_append _ hwalk, Tree.walk_cons_of_directory name [] hdirectory,
      if_neg fun hlong => Nat.not_lt.2 hlength hlong.2.2, List.foldl_append,
      ← Tree.eq_foldl_of_walk hwalk]
    rfl

/-- Where the directory before it is there, a path beyond the limits is too long. -/
theorem resolve_of_not_fits (h : m.IsLookedUp start path) (hreaches : m.Reaches start front)
    (hcontinues : Continues front (Location.names path.toBytes)) (hfits : ¬path.Fits) :
    m.resolve path.toBytes = .error .nameTooLong := by
  by_cases hlength : path.toBytes.length < pathLimit
  · obtain ⟨here, bits, hwalk, hdirectory⟩ := hreaches
    have hfront := Tree.length_le_of_walk hwalk
    rw [resolve_of_length_lt h.start_eq h.ne_nil hlength]
    rcases hcontinues with hsame | ⟨name, hnext⟩
    · exact absurd ⟨hlength, hsame ▸ hfront⟩ hfits
    · -- The names before the last one are those of directories, so the last one is too long.
      have hlong : nameLimit < name.length := by
        refine Nat.not_le.1 fun hshort => hfits ⟨hlength, ?_⟩
        rw [hnext]
        simpa [or_imp, forall_and] using ⟨hfront, hshort⟩
      have hdots : name ≠ Location.dot ∧ name ≠ Location.dotDot := by
        constructor <;> rintro rfl <;> exact absurd hlong (by decide)
      rw [hnext, Tree.walk_append _ hwalk, Tree.walk_cons_of_directory name [] hdirectory,
        if_pos ⟨hdots.1, hdots.2, hlong⟩]
      rfl
  · unfold resolve
    simp [h.ne_nil, Nat.not_lt.1 hlength]

end Machine

/-! ## What stays -/

namespace Machine

variable {after : Machine}

/-- A directory that a path names is where its names lead. -/
theorem IsLookedUp.reaches (h : m.IsLookedUp start path) (hdirectory : m.isDirectory path = true) :
    m.Reaches start (Location.names path.toBytes) := by
  obtain ⟨-, target, bits, hresolve, hnode⟩ := isDirectory_eq_true.1 hdirectory
  obtain ⟨-, -, start', here, hstart', hwalk, rfl⟩ := resolve_eq_ok.1 hresolve
  obtain rfl : start = start' := Except.ok.inj (h.start_eq.symm.trans hstart')
  exact ⟨here, bits, hwalk, hnode⟩

/-- Where a path is looked up depends on the working directory alone. -/
theorem IsLookedUp.of_extends (h : m.IsLookedUp start path) (hextends : m.Extends after) :
    after.IsLookedUp start path where
  start_eq := by rw [← h.start_eq, Machine.start, Machine.start, hextends.workingDirectory]
  ne_nil := h.ne_nil
  zero_not_mem := h.zero_not_mem

/-- What is a directory remains one. -/
theorem isDirectory_of_extends (h : m.isDirectory path = true) (hextends : m.Extends after) :
    after.isDirectory path = true := by
  obtain ⟨hzero, target, bits, hresolve, hnode⟩ := isDirectory_eq_true.1 h
  obtain ⟨bits', hnode'⟩ := hextends.directories target.location bits hnode
  exact isDirectory_eq_true.2 ⟨hzero, target, bits',
    resolve_of_keepsDirectories hextends.workingDirectory hextends.directories hresolve, hnode'⟩

/-- Directories that are created put nothing in the way of others. -/
theorem IsClear.of_furnishes {paths : List Path} (h : m.IsClear start path)
    (hfurnishes : m.Furnishes mode paths after) : after.IsClear start path where
  fits := h.fits
  noFile := by
    rintro ⟨bits, content, hfile⟩
    rcases hfurnishes.node (start.along path.toBytes) with hsame | ⟨-, hdirectory, -⟩
    · exact h.noFile ⟨bits, content, hsame ▸ hfile⟩
    · rw [hfile] at hdirectory
      cases hdirectory

/-- Directories that are created take nothing out of the way of others. -/
theorem not_isClear_of_furnishes {paths : List Path} (h : ¬m.IsClear start path)
    (hfurnishes : m.Furnishes mode paths after) : ¬after.IsClear start path := by
  rintro ⟨hfits, hnoFile⟩
  refine h ⟨hfits, fun ⟨bits, content, hfile⟩ => hnoFile ⟨bits, content, ?_⟩⟩
  rcases hfurnishes.node (start.along path.toBytes) with hsame | ⟨hnone, -⟩
  · exact hsame.trans hfile
  · rw [hfile] at hnone
    cases hnone

/-- The directories of the paths have been created where they were missing: each of them is there,
and where anything has changed, there was nothing and now there is one of them. -/
structure Provides (mode : Int) (paths : List Path) (before after : Machine) : Prop
    extends Furnishes mode paths before after where
  isDirectory : ∀ path ∈ paths, after.isDirectory path = true

/-- One more directory, in front. -/
theorem Provides.cons {middle : Machine} {paths : List Path}
    (hfirst : m.Furnishes mode [path] middle) (hdirectory : middle.isDirectory path = true)
    (h : middle.Provides mode paths after) : m.Provides mode (path :: paths) after where
  toFurnishes := IsTrans.trans _ _ _ (hfirst.mono (by simp)) (h.toFurnishes.mono (by simp))
  isDirectory := by
    rw [List.forall_mem_cons]
    exact ⟨isDirectory_of_extends hdirectory h.toExtends, h.isDirectory⟩

end Machine

/-! ## One directory -/

namespace Directory

/-- A run without planned faults that has come to a directory. -/
structure IsAt (start : Location) (front : List Bytes) (w : World) : Prop where
  faults_eq : w.faults = []
  reaches : w.machine.Reaches start front

/-- **A directory with nothing in its way is created, or is there.** -/
theorem exists_exec_createOne_of_isClear (hat : IsAt start front w)
    (hfits : Numeral.fitsInt32 mode = true) (h : w.machine.IsLookedUp start path)
    (hcontinues : Continues front (Location.names path.toBytes))
    (hclear : w.machine.IsClear start path) :
    ∃ w', exec (createOne path mode) w = (.ok (.ok ⟨⟩), w') ∧ w'.faults = [] := by
  have hresolve := Machine.resolve_of_fits h hat.reaches hcontinues hclear.fits
  rcases hnode : w.machine.tree.get? (start.along path.toBytes) with _ | ⟨bits⟩ | ⟨bits, content⟩
  · -- Nothing is there, so the directory is created.
    have hmake : (w.machine.counted (.makeDirectory path mode)).makeDirectory path.toBytes mode =
        .ok _ := Machine.makeDirectory_eq_ok.2 ⟨_, hresolve, hnode, rfl⟩
    have hexec := exec_makeDirectory path hat.faults_eq h.zero_not_mem hfits
    rw [hmake] at hexec
    exact ⟨_, exec_createOne_of_created hexec, hat.faults_eq⟩
  · -- A directory is there.
    have hdirectory : w.machine.isDirectory path = true :=
      Machine.isDirectory_eq_true.2 ⟨h.zero_not_mem, _, bits, hresolve, hnode⟩
    exact ⟨_, exec_createOne_of_isDirectory hat.faults_eq hfits hdirectory, hat.faults_eq⟩
  · exact absurd ⟨bits, content, hnode⟩ hclear.noFile

/-- **What stands in the way of a directory is an obstacle:** a limit that is passed, or else a
file. -/
theorem exec_createOne_of_not_isClear (hat : IsAt start front w)
    (hfits : Numeral.fitsInt32 mode = true) (h : w.machine.IsLookedUp start path)
    (hcontinues : Continues front (Location.names path.toBytes))
    (hobstacle : ¬w.machine.IsClear start path) :
    ∃ e answer, exec (createOne path mode) w =
        (.ok (.error (.of e (some path))), w.afterCall (.makeDirectory path mode) answer) ∧
      (path.Fits → e = .notDirectory) ∧ (¬path.Fits → e = .nameTooLong) := by
  have hexec := exec_makeDirectory path hat.faults_eq h.zero_not_mem hfits
  by_cases hlimits : path.Fits
  · -- The call says that something is there, and it is no directory.
    have hresolve := Machine.resolve_of_fits h hat.reaches hcontinues hlimits
    obtain ⟨bits, content, hnode⟩ : w.machine.IsFileAt start path :=
      Classical.byContradiction fun hnone => hobstacle ⟨hlimits, hnone⟩
    have hmake : (w.machine.counted (.makeDirectory path mode)).makeDirectory path.toBytes mode =
        .error .alreadyExists := Machine.makeDirectory_of_isSome mode hresolve (hnode ▸ rfl)
    have hdirectory : w.machine.isDirectory path = false := by
      rw [Bool.eq_false_iff]
      intro htrue
      obtain ⟨-, target, bits', hresolve', hnode'⟩ := Machine.isDirectory_eq_true.1 htrue
      obtain rfl := Except.ok.inj (hresolve.symm.trans hresolve')
      exact absurd (hnode.symm.trans hnode') (by simp)
    rw [hmake] at hexec
    exact ⟨_, _, exec_createOne_of_error hexec fun _ => hdirectory, fun _ => rfl,
      fun hnot => absurd hlimits hnot⟩
  · have hresolve := Machine.resolve_of_not_fits h hat.reaches hcontinues hlimits
    have hmake : (w.machine.counted (.makeDirectory path mode)).makeDirectory path.toBytes mode =
        .error .nameTooLong := Machine.makeDirectory_of_resolve_eq_error mode hresolve
    rw [hmake] at hexec
    exact ⟨_, _, exec_createOne_of_error hexec (fun he => absurd he (by decide)),
      fun hfit => absurd hfit hlimits, fun _ => rfl⟩

/-! ## Directories one after the other -/

/-- **Directories with nothing in their way are created one after the other,** and then the run goes
on with others. -/
theorem exists_exec_createAll_append {paths : List Path} (later : List Path)
    (hfits : Numeral.fitsInt32 mode = true) (hat : IsAt start front w)
    (hchain : List.IsChain Continues
      (front :: (paths ++ later).map fun path => Location.names path.toBytes))
    (hclear : ∀ path ∈ paths, w.machine.IsLookedUp start path ∧ w.machine.IsClear start path) :
    ∃ w' front', exec (createAll mode (paths ++ later)) w = exec (createAll mode later) w' ∧
      IsAt start front' w' ∧
      List.IsChain Continues (front' :: later.map fun path => Location.names path.toBytes) ∧
      w.machine.Provides mode paths w'.machine := by
  induction paths generalizing w front with
  | nil => exact ⟨w, front, rfl, hat, hchain, refl w.machine, by simp⟩
  | cons path paths ih =>
    obtain ⟨⟨hlooked, hpath⟩, hpaths⟩ := List.forall_mem_cons.1 hclear
    rw [List.cons_append, List.map_cons, List.isChain_cons_cons] at hchain
    obtain ⟨w₁, hexec, hfaults⟩ :=
      exists_exec_createOne_of_isClear hat hfits hlooked hchain.1 hpath
    have hfurnishes := furnishes_of_exec_createOne hexec
    have hdirectory := isDirectory_of_exec_createOne hexec
    have hat₁ : IsAt start (Location.names path.toBytes) w₁ :=
      ⟨hfaults, (hlooked.of_extends hfurnishes.toExtends).reaches hdirectory⟩
    obtain ⟨w', front', hrest, hat', hchain', hprovides⟩ := ih hat₁ hchain.2 fun other hother =>
      ⟨(hpaths other hother).1.of_extends hfurnishes.toExtends,
        (hpaths other hother).2.of_furnishes hfurnishes⟩
    refine ⟨w', front', ?_, hat', hchain', hprovides.cons hfurnishes hdirectory⟩
    rw [List.cons_append, createAll, exec_bind_of_ok hexec]
    exact hrest

/-- Directories with nothing in their way are all created. -/
theorem exec_createAll_of_isClear {paths : List Path} (hfits : Numeral.fitsInt32 mode = true)
    (hat : IsAt start front w)
    (hchain : List.IsChain Continues
      (front :: paths.map fun path => Location.names path.toBytes))
    (hclear : ∀ path ∈ paths, w.machine.IsLookedUp start path ∧ w.machine.IsClear start path) :
    ∃ w', exec (createAll mode paths) w = (.ok (.ok ⟨⟩), w') ∧
      w.machine.Provides mode paths w'.machine := by
  obtain ⟨w', -, hexec, -, -, hprovides⟩ :=
    exists_exec_createAll_append [] hfits hat (by rwa [List.append_nil]) hclear
  rw [List.append_nil] at hexec
  exact ⟨w', hexec, hprovides⟩

/-- **The first directory with something in its way gives the error,** and those before it are
created. -/
theorem exec_createAll_of_not_isClear {shorter longer : List Path}
    (hfits : Numeral.fitsInt32 mode = true) (hat : IsAt start front w)
    (hchain : List.IsChain Continues
      (front :: (shorter ++ path :: longer).map fun path => Location.names path.toBytes))
    (hclear : ∀ path ∈ shorter, w.machine.IsLookedUp start path ∧ w.machine.IsClear start path)
    (hlooked : w.machine.IsLookedUp start path) (hobstacle : ¬w.machine.IsClear start path) :
    ∃ e w', exec (createAll mode (shorter ++ path :: longer)) w =
        (.ok (.error (.of e (some path))), w') ∧
      w.machine.Provides mode shorter w'.machine ∧
      (path.Fits → e = .notDirectory) ∧ (¬path.Fits → e = .nameTooLong) := by
  obtain ⟨w₁, front₁, hexec, hat₁, hchain₁, hprovides⟩ :=
    exists_exec_createAll_append (path :: longer) hfits hat hchain hclear
  rw [List.map_cons, List.isChain_cons_cons] at hchain₁
  obtain ⟨e, answer, hone, herror⟩ := exec_createOne_of_not_isClear hat₁ hfits
    (hlooked.of_extends hprovides.toExtends) hchain₁.1
    (Machine.not_isClear_of_furnishes hobstacle hprovides.toFurnishes)
  obtain ⟨log, hlog⟩ := exists_exec_log Level.debug
    (lit "Failed to create " ++ path.quoted ++ lit ": " ++ (OsError.of e (some path)).render)
    (w₁.afterCall (.makeDirectory path mode) answer)
  refine ⟨e, (w₁.afterCall (.makeDirectory path mode) answer).withLog log, ?_,
    ⟨⟨⟨hprovides.directories, hprovides.workingDirectory, hprovides.umask⟩, hprovides.node⟩,
      hprovides.isDirectory⟩, herror⟩
  rw [hexec, createAll, exec_bind_of_ok hone, exec_bind_of_ok hlog]
  rfl

/-! ## A directory with its parents -/

/-- What does not hold of all elements of a list fails first for one of them. -/
theorem exists_first {α : Type} {P : α → Prop} {l : List α} (h : ¬∀ a ∈ l, P a) :
    ∃ front a later, l = front ++ a :: later ∧ (∀ b ∈ front, P b) ∧ ¬P a := by
  classical
  push Not at h
  obtain ⟨a, ha, hnot⟩ := h
  obtain ⟨first, hfirst⟩ := Option.isSome_iff_exists.1
    (List.find?_isSome (p := fun b => decide ¬P b).2 ⟨a, ha, by simpa using hnot⟩)
  obtain ⟨hP, front, later, hsplit, hfront⟩ := List.find?_eq_some_iff_append.1 hfirst
  exact ⟨front, first, later, hsplit, by simpa using hfront, by simpa using hP⟩

/-- The prefixes of a path are looked up where the path is. -/
theorem isLookedUp_of_mem_chain {other : Path} (h : m.IsLookedUp start path)
    (hother : other ∈ path.chain) : m.IsLookedUp start other := by
  obtain ⟨hhead, -⟩ := exists_append_of_mem_beginnings (Path.toBytes_mem_beginnings hother)
  refine ⟨?_, fun hempty => ?_, zero_not_mem_of_mem_chain h.zero_not_mem hother⟩
  · rw [← h.start_eq, Machine.start, Machine.start, hhead]
  · rw [hempty] at hhead
    exact h.ne_nil (List.head?_eq_none_iff.1 hhead.symm)

/-- The prefixes of a path within the limits are within them. -/
theorem fits_of_mem_chain {other : Path} (h : path.Fits) (hother : other ∈ path.chain) :
    other.Fits := by
  obtain ⟨-, rest, hpath, hrest⟩ :=
    exists_append_of_mem_beginnings (Path.toBytes_mem_beginnings hother)
  obtain ⟨hlength, hnames⟩ := h
  rw [hpath, List.length_append] at hlength
  refine ⟨by omega, fun name hname => hnames name ?_⟩
  rcases hrest with rfl | hslash
  · rwa [hpath, List.append_nil]
  · obtain ⟨tail, rfl⟩ := List.head?_eq_some_iff.1 hslash
    rw [hpath, Location.names_append_cons]
    exact List.mem_append_left _ hname

/-- **A directory is created with its parents** where no faults are planned, exactly if the path is
within the limits of the system and no prefix of it spells a file. Then all prefixes are
directories, and where anything has changed, there was nothing and now there is one of them, with
the bits of the mode that are among the lowest ten and not in the mask. Otherwise the first prefix
that spells a file or passes a limit gives the error, and those before it have been created in this
way.

**Proof sketch.** The names of the prefixes grow one by one (`Path.isChain_names`), so each prefix
is looked up in the directory before it, which has been created or was there, and leads to the place
that it spells. Directories that are created put nothing in the way of others and take nothing out
of it, so what stands in the way is told from the tree as it was. -/
theorem create_parents (path : Path) {bits : Nat} (hfaults : w.faults = [])
    (hfits : Numeral.fitsInt32 mode = true) (hne : path.toBytes ≠ []) (hzero : 0 ∉ path.toBytes)
    (hstart : w.machine.start path.toBytes = .ok start)
    (hdirectory : w.machine.tree.get? start = some (.directory bits)) :
    ∃ outcome w', exec (create path mode) w = (.ok outcome, w') ∧
      (outcome = .ok ⟨⟩ ↔
        path.Fits ∧ ∀ other ∈ path.prefixes, ¬w.machine.IsFileAt start other) ∧
      (outcome = .ok ⟨⟩ → w.machine.Provides mode path.prefixes w'.machine) ∧
      (∀ shorter first longer, path.prefixes = shorter ++ first :: longer →
        (∀ other ∈ shorter, w.machine.IsClear start other) →
        (first.Fits → w.machine.IsFileAt start first →
          outcome = .error (.of .notDirectory (some first)) ∧
            w.machine.Provides mode shorter w'.machine) ∧
        (¬first.Fits →
          outcome = .error (.of .nameTooLong (some first)) ∧
            w.machine.Provides mode shorter w'.machine)) ∧
      ∀ i, (w.machine.bitsOf mode).testBit i =
        (decide (i < 10) && mode.testBit i && !w.machine.umask.testBit i) := by
  have hchain := path.isChain_names
  have hlooked : ∀ other ∈ path.chain, w.machine.IsLookedUp start other :=
    fun _ => isLookedUp_of_mem_chain ⟨hstart, hne, hzero⟩
  have hself : path ∈ path.chain := by
    rw [Path.chain_eq_prefixes]
    cases path <;> simp [Path.prefixes]
  have hat : IsAt start [] w := ⟨hfaults, start, bits, rfl, hdirectory⟩
  obtain ⟨outcome, w', hexec⟩ := returns_create hfits hzero w
  rw [← Path.chain_eq_prefixes]
  -- What comes of a first prefix that is not clear, however it is found.
  have hobstacle : ∀ shorter first longer, path.chain = shorter ++ first :: longer →
      (∀ other ∈ shorter, w.machine.IsClear start other) → ¬w.machine.IsClear start first →
      ∃ e, outcome = .error (.of e (some first)) ∧ w.machine.Provides mode shorter w'.machine ∧
        (first.Fits → e = .notDirectory) ∧ (¬first.Fits → e = .nameTooLong) := by
    intro shorter first longer hsplit hclear hnot
    rw [hsplit] at hchain hlooked
    obtain ⟨e, w₁, hexec₁, hprovides, herror⟩ := exec_createAll_of_not_isClear hfits hat hchain
      (fun other hother => ⟨hlooked other (by simp [hother]), hclear other hother⟩)
      (hlooked first (by simp)) hnot
    rw [create, hsplit, hexec₁] at hexec
    cases hexec
    exact ⟨e, rfl, hprovides, herror⟩
  have hfirst : outcome = .ok ⟨⟩ → ∀ other ∈ path.chain, w.machine.IsClear start other := by
    intro hok
    by_contra hnot
    obtain ⟨shorter, first, longer, hsplit, hclear, hfirst⟩ := exists_first hnot
    obtain ⟨e, herror, -⟩ := hobstacle shorter first longer hsplit hclear hfirst
    rw [hok] at herror
    cases herror
  have hall : (∀ other ∈ path.chain, w.machine.IsClear start other) →
      outcome = .ok ⟨⟩ ∧ w.machine.Provides mode path.chain w'.machine := by
    intro hclear
    obtain ⟨w₁, hexec₁, hprovides⟩ := exec_createAll_of_isClear hfits hat hchain fun other hother =>
      ⟨hlooked other hother, hclear other hother⟩
    cases hexec.symm.trans hexec₁
    exact ⟨rfl, hprovides⟩
  refine ⟨outcome, w', hexec, ⟨fun hok => ?_, fun hnone => ?_⟩,
    fun hok => (hall (hfirst hok)).2, fun shorter first longer hsplit hclear => ⟨?_, ?_⟩,
    Machine.testBit_bitsOf_eq _ _⟩
  · exact ⟨(hfirst hok path hself).fits, fun other hother => (hfirst hok other hother).noFile⟩
  · obtain ⟨hlimits, hnoFile⟩ := hnone
    exact (hall fun other hother =>
      ⟨fits_of_mem_chain hlimits hother, hnoFile other hother⟩).1
  · intro hlimits hfile
    obtain ⟨e, herror, hprovides, hnotDirectory, -⟩ :=
      hobstacle shorter first longer hsplit hclear fun h => h.noFile hfile
    exact ⟨hnotDirectory hlimits ▸ herror, hprovides⟩
  · intro hlimits
    obtain ⟨e, herror, hprovides, -, htooLong⟩ :=
      hobstacle shorter first longer hsplit hclear fun h => hlimits h.fits
    exact ⟨htooLong hlimits ▸ herror, hprovides⟩

/-- A process in a directory, on a machine with one program. -/
def atHome : World where
  machine :=
    { tree := (Tree.empty.plant (Location.ofPath (lit "/bin/true").encode) (.file 0o755 [])).plant
        (Location.ofPath (lit "/home").encode) (.directory 0o755)
      workingDirectory := some (lit "/home"), userId := 1000, accounts := [], umask := 0o022
      terminal := ⟨false, false, none⟩, faults := [], made := [] }
  process := .fresh [] Level.warning

/-- A path that comes back from a directory that is missing is created with it; one that goes on
behind a program is not. -/
theorem create_parents_home :
    (∃ w', exec (create (.text (lit "gone/../new")) 0o755) atHome = (.ok (.ok ⟨⟩), w') ∧
      atHome.machine.Provides 0o755
        [.text (lit "gone"), .text (lit "gone/.."), .text (lit "gone/../new")] w'.machine) ∧
    ∃ w', exec (create (.text (lit "../bin/true/new")) 0o755) atHome =
        (.ok (.error (.of .notDirectory (some (.text (lit "../bin/true"))))), w') ∧
      atHome.machine.Provides 0o755 [.text (lit ".."), .text (lit "../bin")] w'.machine := by
  have hstart : ∀ bytes : Bytes, bytes.head? ≠ some slashByte →
      atHome.machine.start bytes = .ok (Location.ofPath (lit "/home").encode) := by
    intro bytes hhead
    rw [Machine.start, if_neg hhead]
    rfl
  have hhome : atHome.machine.tree.get? (Location.ofPath (lit "/home").encode) =
      some (.directory 0o755) := by decide
  have hmode : Numeral.fitsInt32 0o755 = true := by decide
  constructor
  · obtain ⟨outcome, w', hexec, hok, hprovides, -⟩ := create_parents (w := atHome)
      (.text (lit "gone/../new")) rfl hmode (by decide) (by decide) (hstart _ (by decide)) hhome
    obtain rfl := hok.2 (by decide)
    exact ⟨w', hexec, hprovides rfl⟩
  · obtain ⟨outcome, w', hexec, -, -, hblocked, -⟩ := create_parents (w := atHome)
      (.text (lit "../bin/true/new")) rfl hmode (by decide) (by decide) (hstart _ (by decide)) hhome
    obtain ⟨rfl, hprovides⟩ := (hblocked [.text (lit ".."), .text (lit "../bin")]
      (.text (lit "../bin/true")) [.text (lit "../bin/true/new")] (by decide)
      (by decide)).1 (by decide) (by decide)
    exact ⟨w', hexec, hprovides⟩

end Directory

end Launcher
