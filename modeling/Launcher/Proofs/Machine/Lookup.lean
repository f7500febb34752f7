import Launcher.Machine.Basic
import Launcher.Proofs.Except
import Launcher.Proofs.Text.Pieces

/-!
# Looking up paths

A path that names a place at all names the one that its spelling says, seen from where the lookup
begins, and it goes on naming that place while the directories of the tree stay directories.

## Main definitions

* `Launcher.Tree.KeepsDirectories` — what a directory was, a directory is.

## Main results

* `Launcher.Tree.walk_append` — a walk along two sequences of names.
* `Launcher.Tree.eq_foldl_of_walk` — the place where a walk ends.
* `Launcher.Tree.walk_of_keepsDirectories` — a walk in a tree that keeps its directories.
* `Launcher.Machine.resolve_eq_ok` — what it takes for a path to name a place.
* `Launcher.Machine.exists_directory_of_resolve` — what a path leads through.
* `Launcher.Machine.resolve_entry` — the entry of a directory.
-/

namespace Launcher

/-! ## The names of a path -/

namespace Location

/-- The empty path has no names. -/
@[simp] theorem names_nil : names [] = [] := rfl

/-- A separator ends the names before it. -/
theorem names_append_cons (p q : Bytes) : names (p ++ slashByte :: q) = names p ++ names q := by
  rw [names, pieces_append_cons, List.filter_append]
  rfl

/-- A word without separators is one name. -/
theorem names_of_not_mem {name : Bytes} (hslash : slashByte ∉ name) (hne : name ≠ []) :
    names name = [name] := by
  rw [names, pieces_of_not_mem hslash]
  simp [hne]

/-- Without `..` a path leads nowhere above the place where it begins. -/
theorem length_le_length_foldl_step {names : List Bytes} (h : dotDot ∉ names) (here : Location) :
    here.length ≤ (names.foldl ofPath.step here).length := by
  induction names generalizing here with
  | nil => exact Nat.le_refl _
  | cons name names ih =>
    have hname : name ≠ dotDot := fun e => h (e ▸ List.mem_cons_self)
    have hrest : dotDot ∉ names := fun hm => h (List.mem_cons_of_mem name hm)
    have hstep : here.length ≤ (ofPath.step here name).length := by
      unfold ofPath.step
      rw [if_neg hname]
      split
      · exact Nat.le_refl _
      · simp
    exact Nat.le_trans hstep (ih hrest _)

end Location

/-! ## Walking through a tree -/

namespace Tree

variable {tree before after : Tree} {here there : Location} {names : List Bytes}

/-- Every directory of one tree is a directory of the other. -/
def KeepsDirectories (before after : Tree) : Prop :=
  ∀ here mode, before.get? here = some (.directory mode) →
    ∃ mode', after.get? here = some (.directory mode')

/-- A walk that takes a step is at a directory. -/
theorem exists_mode_of_walk_cons {name : Bytes} (h : tree.walk here (name :: names) = .ok there) :
    ∃ mode, tree.get? here = some (.directory mode) := by
  rw [walk] at h
  split at h
  · exact absurd h (by simp)
  · exact absurd h (by simp)
  · exact ⟨_, ‹_›⟩

/-- The first step of a walk. -/
theorem walk_cons_of_directory {mode : Nat} (name : Bytes) (names : List Bytes)
    (h : tree.get? here = some (.directory mode)) :
    tree.walk here (name :: names) =
      if name ≠ Location.dot ∧ name ≠ Location.dotDot ∧ nameLimit < name.length then
        .error .nameTooLong
      else tree.walk (Location.ofPath.step here name) names := by
  rw [walk, h]
  unfold Location.ofPath.step
  by_cases hdot : name = Location.dot
  · simp [hdot]
  · by_cases hdotDot : name = Location.dotDot
    · simp [hdotDot, Location.dot, Location.dotDot]
    · by_cases hlength : nameLimit < name.length <;> simp [hdot, hdotDot, hlength]

/-- **A walk ends where the names lead,** one after the other. -/
theorem eq_foldl_of_walk (h : tree.walk here names = .ok there) :
    there = names.foldl Location.ofPath.step here := by
  induction names generalizing here with
  | nil => exact (Except.ok.inj h).symm
  | cons name names ih =>
    obtain ⟨mode, hmode⟩ := exists_mode_of_walk_cons h
    rw [walk_cons_of_directory name names hmode] at h
    split at h
    · exact absurd h (by simp)
    · exact ih h

/-- A walk along two sequences of names goes along the second from the end of the first. -/
theorem walk_append (more : List Bytes) (h : tree.walk here names = .ok there) :
    tree.walk here (names ++ more) = tree.walk there more := by
  induction names generalizing here with
  | nil => rw [← Except.ok.inj h, List.nil_append]
  | cons name names ih =>
    obtain ⟨mode, hmode⟩ := exists_mode_of_walk_cons h
    rw [walk_cons_of_directory name names hmode] at h
    rw [List.cons_append, walk_cons_of_directory name _ hmode]
    split at h
    · exact absurd h (by simp)
    · rw [if_neg ‹_›]
      exact ih h

/-- A walk along two sequences of names comes by the end of the first. -/
theorem exists_walk_of_walk_append {more : List Bytes}
    (h : tree.walk here (names ++ more) = .ok there) :
    ∃ middle, tree.walk here names = .ok middle ∧ tree.walk middle more = .ok there := by
  induction names generalizing here with
  | nil => exact ⟨here, rfl, h⟩
  | cons name names ih =>
    rw [List.cons_append] at h
    obtain ⟨mode, hmode⟩ := exists_mode_of_walk_cons h
    rw [walk_cons_of_directory name _ hmode] at h
    rw [walk_cons_of_directory name names hmode]
    split at h
    · exact absurd h (by simp)
    · rw [if_neg ‹_›]
      exact ih h

/-- **A walk is the same while directories stay directories.** -/
theorem walk_of_keepsDirectories (hkeeps : KeepsDirectories before after)
    (h : before.walk here names = .ok there) : after.walk here names = .ok there := by
  induction names generalizing here with
  | nil => exact h
  | cons name names ih =>
    obtain ⟨mode, hmode⟩ := exists_mode_of_walk_cons h
    obtain ⟨mode', hmode'⟩ := hkeeps here mode hmode
    rw [walk_cons_of_directory name names hmode] at h
    rw [walk_cons_of_directory name names hmode']
    split at h
    · exact absurd h (by simp)
    · rw [if_neg ‹_›]
      exact ih h

/-- A new node takes the place of no directory. -/
theorem keepsDirectories_insert_of_none (h : tree.get? there = none) (node : Node) :
    KeepsDirectories tree (tree.insert there node) := by
  intro here mode hmode
  have hne : here ≠ there := fun e => by simp [e, h] at hmode
  exact ⟨mode, by rw [get?_insert_of_ne tree node hne, hmode]⟩

/-- With a file no directory goes. -/
theorem keepsDirectories_erase_of_file {mode : Nat} {content : Bytes}
    (h : tree.get? there = some (.file mode content)) :
    KeepsDirectories tree (tree.erase there) := by
  intro here mode hmode
  have hne : here ≠ there := fun e => by simp [e, h] at hmode
  exact ⟨mode, by rw [get?_erase_of_ne tree hne, hmode]⟩

end Tree

/-! ## Looking up on a machine -/

namespace Machine

variable {m m' : Machine} {path : Bytes} {target : Target}

/-- The place that names, behind a start, lead to. -/
def targetOf (path : Bytes) (location : Location) : Target where
  location
  nameless := (Location.names path).getLast?.all fun name =>
    name == Location.dot || name == Location.dotDot
  slashed := path.getLast? == some slashByte

/-- **A path names a place** if it is neither empty nor too long, can be looked up from somewhere,
and the walk along its names from there comes to an end. -/
theorem resolve_eq_ok :
    m.resolve path = .ok target ↔
      path ≠ [] ∧ path.length < pathLimit ∧
        ∃ start location, m.start path = .ok start ∧
          m.tree.walk start (Location.names path) = .ok location ∧
          target = targetOf path location := by
  unfold resolve
  by_cases hempty : path = []
  · simp [hempty]
  · by_cases hlong : pathLimit ≤ path.length
    · simp [hempty, hlong, Nat.not_lt.2 hlong]
    · have hshort : path.length < pathLimit := Nat.not_le.1 hlong
      simp only [List.isEmpty_iff, hempty, hlong, if_false, bind_eq_ok]
      constructor
      · rintro ⟨start, hstart, location, hwalk, htarget⟩
        exact ⟨hempty, hshort, start, location, hstart, hwalk, (Except.ok.inj htarget).symm⟩
      · rintro ⟨-, -, start, location, hstart, hwalk, rfl⟩
        exact ⟨start, hstart, location, hwalk, rfl⟩

/-- A path from the root is looked up from there. -/
theorem start_of_head?_eq_slashByte (m : Machine) (h : path.head? = some slashByte) :
    m.start path = .ok [] := by
  rw [start, if_pos h]

/-- The place that a path from the root names is the one that it spells. -/
theorem location_of_resolve (hhead : path.head? = some slashByte)
    (h : m.resolve path = .ok target) : target.location = Location.ofPath path := by
  obtain ⟨-, -, start, location, hstart, hwalk, rfl⟩ := resolve_eq_ok.1 h
  rw [start_of_head?_eq_slashByte m hhead] at hstart
  cases hstart
  exact Tree.eq_foldl_of_walk hwalk

/-- **A path goes on naming its place** while directories stay directories. -/
theorem resolve_of_keepsDirectories (hworking : m'.workingDirectory = m.workingDirectory)
    (hkeeps : m.tree.KeepsDirectories m'.tree) (h : m.resolve path = .ok target) :
    m'.resolve path = .ok target := by
  obtain ⟨hempty, hlong, start, location, hstart, hwalk, htarget⟩ := resolve_eq_ok.1 h
  have hstart' : m'.start path = .ok start := by
    rw [← hstart, Machine.start, Machine.start, hworking]
  exact resolve_eq_ok.2 ⟨hempty, hlong, start, location, hstart',
    Tree.walk_of_keepsDirectories hkeeps hwalk, htarget⟩

/-- A path names a node if it names its place, and names no file as if it were a directory. -/
theorem status_eq_ok {node : Node} :
    m.status path = .ok node ↔
      ∃ target, m.resolve path = .ok target ∧ m.tree.get? target.location = some node ∧
        (target.slashed = true → node.isDirectory = true) := by
  unfold status
  rw [bind_eq_ok]
  refine exists_congr fun target => and_congr_right fun _ => ?_
  rcases hnode : m.tree.get? target.location with _ | other
  · simp
  · rcases hslashed : target.slashed
    · simp
    · by_cases hdirectory : other.isDirectory = true
      · simp only [hdirectory, Bool.not_true, Bool.and_false, Bool.false_eq_true, if_false,
          Except.ok.injEq, Option.some.injEq, forall_const]
        exact ⟨fun h => ⟨h, h ▸ hdirectory⟩, fun h => h.1⟩
      · simp only [hdirectory, Bool.not_false, Bool.and_true, if_true, reduceCtorEq,
          Option.some.injEq, forall_const, false_iff, not_and]
        rintro rfl
        exact hdirectory

/-- The node that a path without zero bytes names. -/
theorem status?_eq_toOption {p : Path} (hzero : 0 ∉ p.toBytes) :
    m.status? p = (m.status p.toBytes).toOption := by
  simp [status?, hzero]

/-- The node that a path names is at the place that it names. -/
theorem exists_resolve_of_status? {p : Path} {node : Node} (h : m.status? p = some node) :
    ∃ target, m.resolve p.toBytes = .ok target ∧ m.tree.get? target.location = some node := by
  unfold status? at h
  split at h
  · cases h
  · obtain ⟨target, hresolve, hnode, -⟩ := status_eq_ok.1 (eq_ok_of_toOption h)
    exact ⟨target, hresolve, hnode⟩

/-- A path names a program if it names a file that somebody may execute. -/
theorem isProgram_eq_true {p : Path} :
    m.isProgram p = true ↔
      0 ∉ p.toBytes ∧ ∃ node, m.status p.toBytes = .ok node ∧ node.isExecutable = true ∧
        node.isDirectory = false := by
  unfold isProgram status?
  by_cases hzero : 0 ∈ p.toBytes
  · simp [hzero]
  · rcases m.status p.toBytes with e | node
    · simp [hzero]
    · simp [hzero]

/-- A path names a directory if it names a place at which there is one. -/
theorem isDirectory_eq_true {p : Path} :
    m.isDirectory p = true ↔
      0 ∉ p.toBytes ∧ ∃ target mode, m.resolve p.toBytes = .ok target ∧
        m.tree.get? target.location = some (.directory mode) := by
  unfold isDirectory status? status
  by_cases hzero : 0 ∈ p.toBytes
  · simp [hzero]
  · rcases hresolve : m.resolve p.toBytes with e | target
    · simp [hzero]
    · rcases hnode : m.tree.get? target.location with _ | ⟨mode⟩ | ⟨mode, content⟩
      · simp [hzero, hnode]
      · simp [hzero, hnode, Node.isDirectory]
      · rcases hslashed : target.slashed <;>
          simp [hzero, hnode, hslashed, Node.isDirectory]

/-- **A path leads through directories:** where its names go on behind those of another path, there
is a directory. -/
theorem exists_directory_of_resolve {part name : Bytes} {more : List Bytes}
    (hnames : Location.names path = Location.names part ++ name :: more)
    (hstart : m.start part = m.start path) (hne : part ≠ []) (hlength : part.length < pathLimit)
    (h : m.resolve path = .ok target) :
    ∃ target' mode, m.resolve part = .ok target' ∧
      m.tree.get? target'.location = some (.directory mode) := by
  obtain ⟨-, -, start, location, hlookup, hwalk, -⟩ := resolve_eq_ok.1 h
  rw [hnames] at hwalk
  obtain ⟨middle, hfirst, hrest⟩ := Tree.exists_walk_of_walk_append hwalk
  obtain ⟨mode, hmode⟩ := Tree.exists_mode_of_walk_cons hrest
  exact ⟨targetOf part middle, mode,
    resolve_eq_ok.2 ⟨hne, hlength, start, middle, hstart.trans hlookup, hfirst, rfl⟩, hmode⟩

/-! ### Entries of directories -/

/-- A name that an entry of a directory can have. -/
structure IsEntryName (name : Bytes) : Prop where
  slash_not_mem : slashByte ∉ name
  ne_nil : name ≠ []
  ne_dot : name ≠ Location.dot
  ne_dotDot : name ≠ Location.dotDot
  length_le : name.length ≤ nameLimit

/-- **The path of an entry names a place in the directory,** if it is not too long. -/
theorem resolve_entry {directory name : Bytes} {mode : Nat} (hname : IsEntryName name)
    (hnames : Location.names path = Location.names directory ++ [name])
    (hstart : m.start path = m.start directory) (hne : path ≠ [])
    (hlength : path.length < pathLimit) (hlast : path.getLast? ≠ some slashByte)
    (hdirectory : m.resolve directory = .ok target)
    (hmode : m.tree.get? target.location = some (.directory mode)) :
    m.resolve path = .ok ⟨target.location ++ [name], false, false⟩ := by
  obtain ⟨-, -, start, location, hlookup, hwalk, rfl⟩ := resolve_eq_ok.1 hdirectory
  refine resolve_eq_ok.2 ⟨hne, hlength, start, location ++ [name], hstart.trans hlookup, ?_, ?_⟩
  · have hlong : ¬(name ≠ Location.dot ∧ name ≠ Location.dotDot ∧ nameLimit < name.length) :=
      fun h => Nat.not_lt.2 hname.length_le h.2.2
    have hmode' : m.tree.get? location = some (.directory mode) := hmode
    rw [hnames, Tree.walk_append _ hwalk, Tree.walk_cons_of_directory name [] hmode', if_neg hlong,
      Location.ofPath.step, if_neg hname.ne_dot, if_neg hname.ne_dotDot]
    rfl
  · simp [targetOf, hnames, hname.ne_dot, hname.ne_dotDot, hlast]

end Machine

/-! ## Entries of directories that are texts -/

namespace Text

/-- A slash at the front of a text is spelled by its byte. -/
@[simp] theorem encode_slash_cons (t : Text) : encode (slash :: t) = slashByte :: encode t := rfl

/-- A text that begins with a separator does so in bytes. -/
theorem head?_encode_of_head? {t : Text} (h : t.head? = some slash) :
    t.encode.head? = some slashByte := by
  obtain ⟨rest, rfl⟩ := List.head?_eq_some_iff.1 h
  rfl

variable {directory name : Text}

/-- The bytes of the path of an entry: the name behind a separator, and before it the directory,
with the same names. -/
theorem exists_encode_joinPath (hdirectory : directory ≠ []) (hname : name.head? ≠ some slash) :
    ∃ front, (directory.joinPath name).encode = front ++ slashByte :: name.encode ∧
      Location.names front = Location.names directory.encode := by
  unfold joinPath
  rw [if_neg hname]
  by_cases hslash : directory.getLast? = some slash
  · obtain ⟨front, rfl⟩ := List.getLast?_eq_some_iff.1 hslash
    have hlast : encode (front ++ [slash]) = encode front ++ slashByte :: [] := encode_append _ _
    refine ⟨encode front, ?_, ?_⟩
    · rw [if_pos (by simp), encode_append, hlast, List.append_assoc]
      rfl
    · rw [hlast, Location.names_append_cons, Location.names_nil, List.append_nil]
  · refine ⟨directory.encode, ?_, rfl⟩
    rw [if_neg (by simp [hdirectory, hslash]), encode_append, encode_slash_cons]

/-- The path of an entry begins with the directory. -/
theorem exists_joinPath_eq_append (directory : Text) (hname : name.head? ≠ some slash) :
    ∃ rest, directory.joinPath name = directory ++ rest := by
  unfold joinPath
  rw [if_neg hname]
  split
  · exact ⟨name, rfl⟩
  · exact ⟨slash :: name, rfl⟩

/-- An entry of a directory begins at the root if the directory does. -/
theorem head?_joinPath {directory : Text} (hroot : directory.head? = some slash)
    (hname : name.head? ≠ some slash) : (directory.joinPath name).head? = some slash := by
  obtain ⟨rest, hjoined⟩ := exists_joinPath_eq_append directory hname
  obtain ⟨tail, rfl⟩ := List.head?_eq_some_iff.1 hroot
  rw [hjoined]
  rfl

/-- The path of an entry is not empty, unless both of its parts are. -/
theorem joinPath_ne_nil (h : directory ≠ [] ∨ name ≠ []) : directory.joinPath name ≠ [] := by
  unfold joinPath
  split
  · rename_i hhead
    rintro rfl
    cases hhead
  · split
    · intro hboth
      obtain ⟨hdirectory, hname⟩ := List.append_eq_nil_iff.1 hboth
      exact h.elim (· hdirectory) (· hname)
    · simp

/-- The names of the path of an entry. -/
theorem names_encode_joinPath (hdirectory : directory ≠ []) (hname : name.head? ≠ some slash)
    (hentry : Machine.IsEntryName name.encode) :
    Location.names (directory.joinPath name).encode =
      Location.names directory.encode ++ [name.encode] := by
  obtain ⟨front, hpath, hnames⟩ := exists_encode_joinPath hdirectory hname
  rw [hpath, Location.names_append_cons, hnames,
    Location.names_of_not_mem hentry.slash_not_mem hentry.ne_nil]

/-- The place that the path of an entry spells. -/
theorem ofPath_encode_joinPath (hdirectory : directory ≠ []) (hname : name.head? ≠ some slash)
    (hentry : Machine.IsEntryName name.encode) :
    Location.ofPath (directory.joinPath name).encode =
      Location.ofPath directory.encode ++ [name.encode] := by
  rw [Location.ofPath, names_encode_joinPath hdirectory hname hentry, List.foldl_append]
  show Location.ofPath.step _ name.encode = _
  rw [Location.ofPath.step, if_neg hentry.ne_dot, if_neg hentry.ne_dotDot]
  rfl

/-- **The path of an entry names its place in the directory.** -/
theorem resolve_joinPath_of_resolve {m : Machine} {target : Target} {mode : Nat}
    (hname : name.head? ≠ some slash) (hentry : Machine.IsEntryName name.encode)
    (hlength : (directory.joinPath name).encode.length < pathLimit)
    (hdirectory : m.resolve directory.encode = .ok target)
    (hmode : m.tree.get? target.location = some (.directory mode)) :
    m.resolve (directory.joinPath name).encode =
      .ok ⟨target.location ++ [name.encode], false, false⟩ := by
  have hencode : directory.encode ≠ [] := (Machine.resolve_eq_ok.1 hdirectory).1
  have hne : directory ≠ [] := fun e => hencode (by rw [e]; rfl)
  obtain ⟨rest, hrest⟩ := exists_joinPath_eq_append directory hname
  obtain ⟨front, hpath, -⟩ := exists_encode_joinPath hne hname
  -- Where the lookup begins depends on the first byte, which is that of the directory.
  have hstart : m.start (directory.joinPath name).encode = m.start directory.encode := by
    obtain ⟨byte, bytes, hbytes⟩ := List.exists_cons_of_ne_nil hencode
    rw [hrest, encode_append, hbytes]
    rfl
  have hlast : (directory.joinPath name).encode.getLast? ≠ some slashByte := by
    intro h
    rw [hpath, List.getLast?_append, List.getLast?_cons_of_ne_nil hentry.ne_nil] at h
    rcases hname : (encode name).getLast? with _ | last
    · exact hentry.ne_nil (List.getLast?_eq_none_iff.1 hname)
    · rw [hname] at h
      cases h
      exact hentry.slash_not_mem (List.mem_of_getLast? hname)
  exact Machine.resolve_entry hentry (names_encode_joinPath hne hname hentry) hstart
    (by simp [hpath]) hlength hlast hdirectory hmode

/-- **An entry of a directory that is looked up from the root.** -/
theorem resolve_joinPath {m : Machine} (hroot : directory.head? = some slash)
    (hname : name.head? ≠ some slash) (hentry : Machine.IsEntryName name.encode)
    (hlength : (directory.joinPath name).encode.length < pathLimit)
    (hdirectory : m.isDirectory (.text directory) = true) :
    m.resolve (directory.joinPath name).encode =
      .ok ⟨Location.ofPath (directory.joinPath name).encode, false, false⟩ := by
  have hne : directory ≠ [] := fun e => by simp [e] at hroot
  obtain ⟨-, target, mode, hresolve, hmode⟩ := Machine.isDirectory_eq_true.1 hdirectory
  rw [resolve_joinPath_of_resolve hname hentry hlength hresolve hmode,
    ofPath_encode_joinPath hne hname hentry,
    Machine.location_of_resolve (head?_encode_of_head? hroot) hresolve]

end Text

end Launcher
