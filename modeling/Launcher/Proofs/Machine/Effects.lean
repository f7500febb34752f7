import Launcher.Proofs.Machine.Lookup

/-!
# What calls do to a machine

Each effect of a call is described once, by all that it can do: the place that the path names, what
must be there, and the machine that comes of it.

## Main definitions

* `Launcher.Machine.IsUnnoticed` — changes of a machine that no effect of a call takes notice of.
* `Launcher.Machine.IsUnnoticedAlong` — changes of which no effect of a call on a path does.
* `Launcher.Machine.inDirectory` — the machine with another working directory.

## Main results

* `Launcher.Machine.makeDirectory_eq_ok`, `unlink_eq_ok` and `openToWrite_eq_ok` — the effects that
  succeed.
* `Launcher.Machine.exists_tree_of_makeDirectory` and its like — at most the tree changes.
* `Launcher.Machine.isUnnoticedAlong_inDirectory` — the working directory does not matter to a path
  from the root.
* `Launcher.Machine.makeDirectory_of_isUnnoticed` and its like — what is not noticed does not
  matter.
-/

namespace Launcher.Machine

variable {m after : Machine} {path : Bytes} {target : Target}

/-! ## Effects that succeed -/

/-- A directory is created where nothing was. -/
theorem makeDirectory_eq_ok {mode : Int} :
    m.makeDirectory path mode = .ok after ↔
      ∃ target, m.resolve path = .ok target ∧ m.tree.get? target.location = none ∧
        after = { m with
          tree := m.tree.insert target.location
            (.directory (maskMode (mode % 0o2000).toNat m.umask)) } := by
  unfold makeDirectory
  rw [bind_eq_ok]
  refine exists_congr fun target => and_congr_right fun _ => ?_
  rcases hnode : m.tree.get? target.location with _ | node
  · exact ⟨fun h => ⟨rfl, (Except.ok.inj h).symm⟩, fun h => congrArg Except.ok h.2.symm⟩
  · exact ⟨fun h => absurd h (by simp [throw, throwThe, MonadExceptOf.throw]),
      fun h => absurd h.1 (by simp)⟩

/-- No directory is created where something is. -/
theorem makeDirectory_of_isSome (mode : Int) (hresolve : m.resolve path = .ok target)
    (hnode : (m.tree.get? target.location).isSome = true) :
    m.makeDirectory path mode = .error .alreadyExists := by
  simp [makeDirectory, hresolve, hnode]

/-- No directory is created where a directory is. -/
theorem makeDirectory_of_isDirectory {p : Path} (mode : Int) (h : m.isDirectory p = true) :
    m.makeDirectory p.toBytes mode = .error .alreadyExists := by
  obtain ⟨-, target, bits, hresolve, hnode⟩ := isDirectory_eq_true.1 h
  exact makeDirectory_of_isSome mode hresolve (by rw [hnode]; rfl)

/-- No directory is created by a path that names no place. -/
theorem makeDirectory_of_resolve_eq_error (mode : Int) {e : Errno}
    (h : m.resolve path = .error e) : m.makeDirectory path mode = .error e := by
  simp [makeDirectory, h]

/-- A path names the directory that has been created by it. -/
theorem isDirectory_of_makeDirectory {p : Path} {mode : Int} (hzero : 0 ∉ p.toBytes)
    (h : m.makeDirectory p.toBytes mode = .ok after) : after.isDirectory p = true := by
  obtain ⟨target, hresolve, hnone, rfl⟩ := makeDirectory_eq_ok.1 h
  have hkeeps := Tree.keepsDirectories_insert_of_none hnone
    (.directory (maskMode (mode % 0o2000).toNat m.umask))
  exact isDirectory_eq_true.2 ⟨hzero, target, _,
    resolve_of_keepsDirectories (m := m) rfl hkeeps hresolve, Tree.get?_insert_self _ _ _⟩

/-- A file is removed by a name of its own. -/
theorem unlink_eq_ok :
    m.unlink path = .ok after ↔
      ∃ target mode content, m.resolve path = .ok target ∧ target.nameless = false ∧
        target.slashed = false ∧ m.tree.get? target.location = some (.file mode content) ∧
        after = { m with tree := m.tree.erase target.location } := by
  unfold unlink
  rw [bind_eq_ok]
  constructor
  · rintro ⟨target, hresolve, h⟩
    rcases hnameless : target.nameless
    · rcases hnode : m.tree.get? target.location with _ | ⟨mode⟩ | ⟨mode, content⟩
      · simp [hnameless, hnode] at h
      · simp [hnameless, hnode] at h
      · rcases hslashed : target.slashed
        · simp [hnameless, hnode, hslashed] at h
          exact ⟨target, mode, content, hresolve, hnameless, hslashed, hnode, h.symm⟩
        · simp [hnameless, hnode, hslashed] at h
    · simp [hnameless] at h
  · rintro ⟨target, mode, content, hresolve, hnameless, hslashed, hnode, rfl⟩
    exact ⟨target, hresolve, by simp [hnameless, hslashed, hnode]⟩

/-- Nothing can be removed where nothing is. -/
theorem unlink_eq_noEntry (hresolve : m.resolve path = .ok target)
    (hnameless : target.nameless = false) (hnode : m.tree.get? target.location = none) :
    m.unlink path = .error .noEntry := by
  simp [unlink, hresolve, hnameless, hnode]

/-- The node at a place that is opened for writing: a file that was there without its content, or a
new file. -/
def emptied (m : Machine) : Option Node → Option Node
  | some (.directory _) => none
  | some (.file mode _) => some (.file mode [])
  | none => some (.file (maskMode newFileMode m.umask) [])

/-- A file that has been opened for writing is empty. -/
theorem exists_mode_of_emptied {old : Option Node} {node : Node} (h : m.emptied old = some node) :
    ∃ mode, node = .file mode [] := by
  rcases old with _ | ⟨mode⟩ | ⟨mode, content⟩
  · exact ⟨_, (Option.some.inj h).symm⟩
  · cases h
  · exact ⟨mode, (Option.some.inj h).symm⟩

/-- A file is opened for writing by a name of its own, and is then empty. -/
theorem openToWrite_eq_ok {location : Location} :
    m.openToWrite path = .ok (location, after) ↔
      ∃ target node, m.resolve path = .ok target ∧ target.nameless = false ∧
        target.slashed = false ∧ m.emptied (m.tree.get? target.location) = some node ∧
        location = target.location ∧
        after = { m with tree := m.tree.insert target.location node } := by
  unfold openToWrite
  rw [bind_eq_ok]
  constructor
  · rintro ⟨target, hresolve, h⟩
    rcases hnamed : target.nameless || target.slashed
    · obtain ⟨hnameless, hslashed⟩ := Bool.or_eq_false_iff.1 hnamed
      rcases hnode : m.tree.get? target.location with _ | ⟨mode⟩ | ⟨mode, content⟩
      · simp [hnamed, hnode] at h
        exact ⟨target, _, hresolve, hnameless, hslashed, by rw [hnode]; rfl, h.1.symm, h.2.symm⟩
      · simp [hnamed, hnode] at h
      · simp [hnamed, hnode] at h
        exact ⟨target, _, hresolve, hnameless, hslashed, by rw [hnode]; rfl, h.1.symm, h.2.symm⟩
    · simp [hnamed] at h
  · rintro ⟨target, node, hresolve, hnameless, hslashed, hnode, rfl, rfl⟩
    refine ⟨target, hresolve, ?_⟩
    rcases hold : m.tree.get? target.location with _ | ⟨mode⟩ | ⟨mode, content⟩
    · rw [hold] at hnode
      cases hnode
      simp [hnameless, hslashed]
    · rw [hold] at hnode
      cases hnode
    · rw [hold] at hnode
      cases hnode
      simp [hnameless, hslashed]

/-- A file that was not there is created when it is opened for writing. -/
theorem openToWrite_of_none (hresolve : m.resolve path = .ok target)
    (hnameless : target.nameless = false) (hslashed : target.slashed = false)
    (hnode : m.tree.get? target.location = none) :
    m.openToWrite path = .ok (target.location, { m with
      tree := m.tree.insert target.location (.file (maskMode newFileMode m.umask) []) }) := by
  refine openToWrite_eq_ok.2 ⟨target, _, hresolve, hnameless, hslashed, ?_, rfl, rfl⟩
  rw [hnode]
  rfl

/-- Content is stored in place of the content of a file. -/
theorem store_of_file {location : Location} {mode : Nat} {old : Bytes}
    (h : m.tree.get? location = some (.file mode old)) (content : Bytes) :
    m.store location content = { m with tree := m.tree.insert location (.file mode content) } := by
  simp [store, h]

/-- A program is executed if its path names a file that somebody may execute. -/
theorem execute_eq_ok :
    m.execute path = .ok ⟨⟩ ↔
      ∃ node, m.status path = .ok node ∧ node.isExecutable = true ∧ node.isDirectory = false := by
  unfold execute
  rw [bind_eq_ok]
  refine exists_congr fun node => and_congr_right fun _ => ?_
  rcases node.isDirectory
  · rcases node.isExecutable <;> simp
  · simp

/-! ## At most the tree changes -/

/-- Making a directory changes nothing of a machine but its tree. -/
theorem exists_tree_of_makeDirectory {mode : Int} (h : m.makeDirectory path mode = .ok after) :
    ∃ tree, after = { m with tree } := by
  obtain ⟨target, -, -, rfl⟩ := makeDirectory_eq_ok.1 h
  exact ⟨_, rfl⟩

/-- Unlinking changes nothing of a machine but its tree. -/
theorem exists_tree_of_unlink (h : m.unlink path = .ok after) :
    ∃ tree, after = { m with tree } := by
  obtain ⟨target, mode, content, -, -, -, -, rfl⟩ := unlink_eq_ok.1 h
  exact ⟨_, rfl⟩

/-- Opening a file to write changes nothing of a machine but its tree. -/
theorem exists_tree_of_openToWrite {location : Location}
    (h : m.openToWrite path = .ok (location, after)) : ∃ tree, after = { m with tree } := by
  obtain ⟨target, node, -, -, -, -, -, rfl⟩ := openToWrite_eq_ok.1 h
  exact ⟨_, rfl⟩

/-- Storing content changes nothing of a machine but its tree. -/
theorem exists_tree_store (m : Machine) (location : Location) (content : Bytes) :
    ∃ tree, m.store location content = { m with tree } := by
  unfold store
  split
  · exact ⟨_, rfl⟩
  · exact ⟨m.tree, rfl⟩

/-! ## What a call does not notice -/

/-- A change of a machine that no effect of a call takes notice of: at most other faults are
planned, and other calls have been counted. -/
structure IsUnnoticed (change : Machine → Machine) : Prop where
  plan_eq : ∀ m, ∃ faults made, change m = { m with faults, made }
  tree_eq : ∀ m tree, change { m with tree } = { change m with tree }

/-- No effect takes notice of the calls that have been counted. -/
theorem isUnnoticed_made (made : List CallKind) : IsUnnoticed fun m => { m with made } :=
  ⟨fun m => ⟨m.faults, made, rfl⟩, fun _ _ => rfl⟩

/-- No effect takes notice of the faults that are planned. -/
theorem isUnnoticed_faults (faults : List Fault) : IsUnnoticed fun m => { m with faults } :=
  ⟨fun m => ⟨faults, m.made, rfl⟩, fun _ _ => rfl⟩

/-- A change of a machine that no effect of a call on the path takes notice of: the tree and the
mask stay, and the path names what it named. -/
structure IsUnnoticedAlong (path : Bytes) (change : Machine → Machine) : Prop where
  tree_change : ∀ m, (change m).tree = m.tree
  umask_change : ∀ m, (change m).umask = m.umask
  resolve_change : ∀ m, (change m).resolve path = m.resolve path
  tree_eq : ∀ m tree, change { m with tree } = { change m with tree }

/-- What no call takes notice of, no call on a path does. -/
theorem IsUnnoticed.along {change : Machine → Machine} (h : IsUnnoticed change) (path : Bytes) :
    IsUnnoticedAlong path change where
  tree_change m := by
    obtain ⟨faults, made, hchange⟩ := h.plan_eq m
    rw [hchange]
  umask_change m := by
    obtain ⟨faults, made, hchange⟩ := h.plan_eq m
    rw [hchange]
  resolve_change m := by
    obtain ⟨faults, made, hchange⟩ := h.plan_eq m
    rw [hchange]
    rfl
  tree_eq := h.tree_eq

/-- The machine with another working directory, or with none. -/
def inDirectory (m : Machine) (directory : Option Text) : Machine :=
  { m with workingDirectory := directory }

/-- **A path from the root does not depend on the working directory.** -/
theorem isUnnoticedAlong_inDirectory (hroot : path.head? = some slashByte)
    (directory : Option Text) : IsUnnoticedAlong path fun m => m.inDirectory directory where
  tree_change _ := rfl
  umask_change _ := rfl
  resolve_change m := by
    unfold resolve
    rw [start_of_head?_eq_slashByte _ hroot, start_of_head?_eq_slashByte _ hroot]
    rfl
  tree_eq _ _ := rfl

section Unnoticed

variable {change : Machine → Machine} (h : IsUnnoticedAlong path change) (m : Machine)

include h

/-- A path that does not notice the change leads to the same node. -/
theorem IsUnnoticedAlong.status_change : (change m).status path = m.status path := by
  unfold status
  rw [h.resolve_change, h.tree_change]

/-- Making a directory commutes with a change that its path does not notice. -/
theorem makeDirectory_of_isUnnoticed (mode : Int) :
    (change m).makeDirectory path mode = (m.makeDirectory path mode).map change := by
  unfold makeDirectory
  rw [h.resolve_change, h.tree_change]
  rcases m.resolve path with e | target
  · rfl
  · rcases hnode : m.tree.get? target.location with _ | node
    · simp [hnode, Except.map]
      exact .trans (by simp only [h.umask_change]) (h.tree_eq m _).symm
    · simp [hnode, Except.map]

/-- Unlinking commutes with a change that its path does not notice. -/
theorem unlink_of_isUnnoticed : (change m).unlink path = (m.unlink path).map change := by
  unfold unlink
  rw [h.resolve_change, h.tree_change]
  rcases m.resolve path with e | target
  · rfl
  · rcases hnameless : target.nameless
    · rcases hnode : m.tree.get? target.location with _ | ⟨mode⟩ | ⟨mode, content⟩
      · simp [hnameless, hnode, Except.map]
      · simp [hnameless, hnode, Except.map]
      · rcases hslashed : target.slashed
        · simp [hnameless, hnode, hslashed, Except.map]
          exact (h.tree_eq m _).symm
        · simp [hnameless, hnode, hslashed, Except.map]
    · simp [hnameless, Except.map]

/-- Opening a file to read gives the same reader behind a change that its path does not notice. -/
theorem openToRead_of_isUnnoticed : (change m).openToRead path = m.openToRead path := by
  unfold openToRead
  rw [h.status_change]

/-- Opening a file to write commutes with a change that its path does not notice. -/
theorem openToWrite_of_isUnnoticed :
    (change m).openToWrite path =
      (m.openToWrite path).map fun (location, after) => (location, change after) := by
  unfold openToWrite
  rw [h.resolve_change, h.tree_change]
  rcases m.resolve path with e | target
  · rfl
  · rcases hnameless : target.nameless
    · rcases hslashed : target.slashed
      · rcases hnode : m.tree.get? target.location with _ | ⟨mode⟩ | ⟨mode, content⟩
        · simp [hnameless, hslashed, hnode, Except.map]
          exact .trans (by simp only [h.umask_change]) (h.tree_eq m _).symm
        · simp [hnameless, hslashed, hnode, Except.map]
        · simp [hnameless, hslashed, hnode, Except.map]
          exact (h.tree_eq m _).symm
      · simp [hnameless, hslashed, Except.map]
    · simp [hnameless, Except.map]

/-- A program is executed or refused alike behind a change that its path does not notice. -/
theorem execute_of_isUnnoticed : (change m).execute path = m.execute path := by
  unfold execute
  rw [h.status_change]

/-- Storing content commutes with an unnoticed change. -/
theorem store_of_isUnnoticed (location : Location) (content : Bytes) :
    (change m).store location content = change (m.store location content) := by
  unfold store
  rw [h.tree_change]
  rcases m.tree.get? location with _ | ⟨mode⟩ | ⟨mode, old⟩
  · rfl
  · rfl
  · exact (h.tree_eq m _).symm

end Unnoticed

section Made

variable (m : Machine) (path : Bytes) (made : List CallKind)

/-- Making a directory does not depend on the calls before it, and hands on their count. -/
theorem makeDirectory_made (mode : Int) :
    Machine.makeDirectory { m with made } path mode =
      (m.makeDirectory path mode).map fun after => { after with made } :=
  makeDirectory_of_isUnnoticed ((isUnnoticed_made made).along path) m mode

/-- Unlinking does not depend on the calls before it, and hands on their count. -/
theorem unlink_made :
    Machine.unlink { m with made } path =
      (m.unlink path).map fun after => { after with made } :=
  unlink_of_isUnnoticed ((isUnnoticed_made made).along path) m

/-- Opening a file to write does not depend on the calls before it, and hands on their count. -/
theorem openToWrite_made :
    Machine.openToWrite { m with made } path =
      (m.openToWrite path).map fun (location, after) => (location, { after with made }) :=
  openToWrite_of_isUnnoticed ((isUnnoticed_made made).along path) m

/-- Storing content does not depend on the calls before it, and hands on their count. -/
theorem store_made (location : Location) (content : Bytes) :
    Machine.store { m with made } location content =
      { m.store location content with made } :=
  store_of_isUnnoticed ((isUnnoticed_made made).along []) m location content

end Made

end Launcher.Machine
