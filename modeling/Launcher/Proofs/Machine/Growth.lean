import Launcher.Proofs.Machine.Effects
import Mathlib.Data.Int.Bitwise
import Mathlib.Order.Defs.Unbundled

/-!
# What can become of a machine

The launcher changes a tree in two ways: it creates directories on the way to its output base, and
it replaces a file. Each way is a relation between the machine before and the machine after, and
holds however many calls there are and wherever they break off. Paths go on naming what they name,
so both relations say what has changed by the paths that name it in the end.

## Main definitions

* `Launcher.Machine.Names` — a path names a location.
* `Launcher.Machine.Extends` — what is the same in both ways, so that paths keep their meaning.
* `Launcher.Machine.Furnishes` — directories have been created that given paths name.
* `Launcher.Machine.Refiles` — a file has been created, replaced or removed that a path names.

## Main results

* `Launcher.Machine.furnishes_of_makeDirectory` — creating a directory is of the first way.
* `Launcher.Machine.refiles_of_unlink`, `refiles_of_openToWrite` and `refiles_store` — the calls
  that replace a file are of the second way.
-/

namespace Launcher

/-- The node is no directory. -/
def IsNoDirectory (node : Option Node) : Prop := ∀ mode, node ≠ some (.directory mode)

/-- A permission bit is left if it is there and not in the mask. -/
theorem testBit_maskMode (mode mask : Nat) (i : Nat) :
    (maskMode mode mask).testBit i = (mode.testBit i && !mask.testBit i) := by
  rw [maskMode, Nat.testBit_xor, Nat.testBit_and]
  rcases mode.testBit i
  · rfl
  · rcases mask.testBit i <;> rfl

namespace Machine

variable {m before middle after : Machine} {path : Path} {paths : List Path} {location : Location}
  {mode : Int}

/-! ## Machines on which paths keep their meaning -/

/-- The path names the location, whether or not a node is there. -/
def Names (m : Machine) (path : Path) (location : Location) : Prop :=
  ∃ target, m.resolve path.toBytes = .ok target ∧ target.location = location

/-- The later machine has all directories of the earlier one, the same working directory and the
same mask. -/
structure Extends (before after : Machine) : Prop where
  directories : before.tree.KeepsDirectories after.tree
  workingDirectory : after.workingDirectory = before.workingDirectory
  umask : after.umask = before.umask

/-- A machine extends itself. -/
theorem Extends.refl (m : Machine) : m.Extends m where
  directories _ mode h := ⟨mode, h⟩
  workingDirectory := rfl
  umask := rfl

/-- An extension of an extension is one of the first machine. -/
theorem Extends.trans (h : before.Extends middle) (h' : middle.Extends after) :
    before.Extends after where
  directories here mode hmode := by
    obtain ⟨mode', hmode'⟩ := h.directories here mode hmode
    exact h'.directories here mode' hmode'
  workingDirectory := h'.workingDirectory.trans h.workingDirectory
  umask := h'.umask.trans h.umask

/-- **A path goes on naming its location.** -/
theorem Names.of_extends (h : before.Names path location) (hextends : before.Extends after) :
    after.Names path location := by
  obtain ⟨target, hresolve, hlocation⟩ := h
  exact ⟨target,
    resolve_of_keepsDirectories hextends.workingDirectory hextends.directories hresolve, hlocation⟩

/-- A path without a separator at its end names the node at its location, whatever has become of
that. -/
theorem status?_of_extends {target : Target} {node : Node} (hzero : 0 ∉ path.toBytes)
    (hresolve : before.resolve path.toBytes = .ok target) (hslashed : target.slashed = false)
    (hextends : before.Extends after) (hnode : after.tree.get? target.location = some node) :
    after.status? path = some node := by
  have hresolve' : after.resolve path.toBytes = .ok target :=
    resolve_of_keepsDirectories hextends.workingDirectory hextends.directories hresolve
  have hstatus : after.status path.toBytes = .ok node :=
    status_eq_ok.2 ⟨target, hresolve', hnode, by simp [hslashed]⟩
  rw [status?_eq_toOption hzero, hstatus]
  rfl

/-- A node is put where nothing was. -/
theorem extends_insert_of_none (h : m.tree.get? location = none) (node : Node) :
    m.Extends { m with tree := m.tree.insert location node } where
  directories := Tree.keepsDirectories_insert_of_none h node
  workingDirectory := rfl
  umask := rfl

/-! ## Creating directories -/

/-- The permission bits with which a directory is created that is asked for with the mode: its
lowest ten bits, without those of the mask. -/
def bitsOf (m : Machine) (mode : Int) : Nat := maskMode (mode % 0o2000).toNat m.umask

/-- A bit is there if it is among the lowest ten of the mode and not in the mask. -/
theorem testBit_bitsOf (m : Machine) (mode : Int) (i : Nat) :
    (m.bitsOf mode).testBit i = ((mode % 0o2000).toNat.testBit i && !m.umask.testBit i) := by
  rw [bitsOf, testBit_maskMode]

/-- The lowest ten bits of an integer in two's complement are those of its remainder. -/
theorem testBit_toNat_emod (n : Int) (i : Nat) :
    (n % 0o2000).toNat.testBit i = (decide (i < 10) && n.testBit i) := by
  rcases n with k | k
  · exact Nat.testBit_mod_two_pow k 10 i
  · have hremainder : (Int.negSucc k % 0o2000).toNat = 2 ^ 10 - (k % 2 ^ 10 + 1) := by
      rw [Int.negSucc_emod k (by decide)]
      omega
    rw [hremainder, Nat.testBit_two_pow_sub_succ (Nat.mod_lt k (by decide)),
      Nat.testBit_mod_two_pow]
    show _ = (decide (i < 10) && !k.testBit i)
    rcases Nat.lt_or_ge i 10 with hi | hi
    · simp [hi]
    · simp [Nat.not_lt.2 hi]

/-- The permission bits of a new directory are bits of the mode, in two's complement, that are
neither above the lowest ten nor in the mask. -/
theorem testBit_bitsOf_eq (m : Machine) (mode : Int) (i : Nat) :
    (m.bitsOf mode).testBit i = (decide (i < 10) && mode.testBit i && !m.umask.testBit i) := by
  rw [testBit_bitsOf, testBit_toNat_emod]

/-- **Directories have been created:** where anything has changed, there was nothing, and now there
is a directory that one of the paths names. -/
structure Furnishes (mode : Int) (paths : List Path) (before after : Machine) : Prop
    extends Extends before after where
  node : ∀ location, after.tree.get? location = before.tree.get? location ∨
    before.tree.get? location = none ∧
      after.tree.get? location = some (.directory (before.bitsOf mode)) ∧
      ∃ path ∈ paths, after.Names path location

/-- Directories may be created in any number of steps, also in none. -/
instance : IsPreorder Machine (Furnishes mode paths) where
  refl m := { Extends.refl m with node := fun _ => Or.inl rfl }
  trans a b c h h' := by
    refine { h.toExtends.trans h'.toExtends with node := fun location => ?_ }
    have hbits : b.bitsOf mode = a.bitsOf mode := by rw [bitsOf, h.umask, bitsOf]
    rcases h.node location with hsame | ⟨hnone, hnew, path, hpath, hnames⟩
    · rcases h'.node location with hsame' | ⟨hnone', hnew', hnamed⟩
      · exact Or.inl (hsame'.trans hsame)
      · exact Or.inr ⟨hsame.symm.trans hnone', hbits ▸ hnew', hnamed⟩
    · rcases h'.node location with hsame' | ⟨hnone', -⟩
      · exact Or.inr ⟨hnone, hsame'.trans hnew, path, hpath, hnames.of_extends h'.toExtends⟩
      · rw [hnew] at hnone'
        cases hnone'

/-- More paths may be named. -/
theorem Furnishes.mono {paths' : List Path} (h : Furnishes mode paths before after)
    (hpaths : paths ⊆ paths') : Furnishes mode paths' before after where
  toExtends := h.toExtends
  node location := by
    rcases h.node location with hsame | ⟨hnone, hnew, path, hpath, hnames⟩
    · exact Or.inl hsame
    · exact Or.inr ⟨hnone, hnew, path, hpaths hpath, hnames⟩

/-- **A call that creates a directory does so where its path leads.** -/
theorem furnishes_of_makeDirectory (h : m.makeDirectory path.toBytes mode = .ok after) :
    Furnishes mode [path] m after := by
  obtain ⟨target, hresolve, hnone, rfl⟩ := makeDirectory_eq_ok.1 h
  have hextends := extends_insert_of_none hnone (.directory (m.bitsOf mode))
  refine { hextends with node := fun location => ?_ }
  by_cases hlocation : location = target.location
  · subst hlocation
    have hnames : m.Names path target.location := ⟨target, hresolve, rfl⟩
    exact Or.inr ⟨hnone, Tree.get?_insert_self _ _ _, path, List.mem_singleton_self path,
      hnames.of_extends hextends⟩
  · exact Or.inl (Tree.get?_insert_of_ne _ _ hlocation)

/-! ## Replacing a file -/

/-- **A file has been replaced:** where anything has changed, the path leads there, and there was no
directory and is none. -/
structure Refiles (path : Path) (before after : Machine) : Prop extends Extends before after where
  node : ∀ location, after.tree.get? location = before.tree.get? location ∨
    IsNoDirectory (before.tree.get? location) ∧ IsNoDirectory (after.tree.get? location) ∧
      after.Names path location

/-- A file may be replaced in any number of steps, also in none. -/
instance : IsPreorder Machine (Refiles path) where
  refl m := { Extends.refl m with node := fun _ => Or.inl rfl }
  trans a b c h h' := by
    refine { h.toExtends.trans h'.toExtends with node := fun location => ?_ }
    rcases h.node location with hsame | ⟨hold, hnew, hnames⟩
    · rcases h'.node location with hsame' | ⟨hold', hnew', hnames'⟩
      · exact Or.inl (hsame'.trans hsame)
      · exact Or.inr ⟨hsame ▸ hold', hnew', hnames'⟩
    · rcases h'.node location with hsame' | ⟨-, hnew', hnames'⟩
      · exact Or.inr ⟨hold, hsame'.symm ▸ hnew, hnames.of_extends h'.toExtends⟩
      · exact Or.inr ⟨hold, hnew', hnames'⟩

/-- Where there is nothing, there is no directory. -/
theorem isNoDirectory_none : IsNoDirectory none := fun _ => by simp

/-- A file is no directory. -/
theorem isNoDirectory_file (bits : Nat) (content : Bytes) :
    IsNoDirectory (some (.file bits content)) := fun _ => by simp

/-- A file is put in the place of no directory. -/
theorem extends_insert_of_isNoDirectory (h : IsNoDirectory (m.tree.get? location)) (node : Node) :
    m.Extends { m with tree := m.tree.insert location node } where
  directories here bits hbits := by
    have hne : here ≠ location := fun e => h bits (e ▸ hbits)
    exact ⟨bits, (Tree.get?_insert_of_ne _ _ hne).trans hbits⟩
  workingDirectory := rfl
  umask := rfl

/-- A file is put where the path leads, in the place of no directory. -/
theorem refiles_insert {bits : Nat} {content : Bytes} (hnames : m.Names path location)
    (h : IsNoDirectory (m.tree.get? location)) :
    Refiles path m { m with tree := m.tree.insert location (.file bits content) } := by
  have hextends := extends_insert_of_isNoDirectory h (.file bits content)
  refine { hextends with node := fun other => ?_ }
  by_cases hother : other = location
  · subst hother
    refine Or.inr ⟨h, ?_, hnames.of_extends hextends⟩
    show IsNoDirectory ((m.tree.insert other (.file bits content)).get? other)
    rw [Tree.get?_insert_self]
    exact isNoDirectory_file bits content
  · exact Or.inl (Tree.get?_insert_of_ne _ _ hother)

/-- **A call that removes a file removes the one that its path names.** -/
theorem refiles_of_unlink (h : m.unlink path.toBytes = .ok after) : Refiles path m after := by
  obtain ⟨target, bits, content, hresolve, -, -, hfile, rfl⟩ := unlink_eq_ok.1 h
  have hextends : m.Extends { m with tree := m.tree.erase target.location } :=
    ⟨Tree.keepsDirectories_erase_of_file hfile, rfl, rfl⟩
  refine { hextends with node := fun location => ?_ }
  by_cases hlocation : location = target.location
  · subst hlocation
    have hnames : m.Names path target.location := ⟨target, hresolve, rfl⟩
    refine Or.inr ⟨hfile ▸ isNoDirectory_file bits content, ?_, hnames.of_extends hextends⟩
    show IsNoDirectory ((m.tree.erase target.location).get? target.location)
    rw [Tree.get?_erase_self]
    exact isNoDirectory_none
  · exact Or.inl (Tree.get?_erase_of_ne _ hlocation)

/-- **A call that opens a file for writing creates or empties the one that its path names.** -/
theorem refiles_of_openToWrite (h : m.openToWrite path.toBytes = .ok (location, after)) :
    Refiles path m after ∧ after.Names path location := by
  obtain ⟨target, node, hresolve, -, -, hemptied, rfl, rfl⟩ := openToWrite_eq_ok.1 h
  obtain ⟨bits, rfl⟩ := exists_mode_of_emptied hemptied
  have hold : IsNoDirectory (m.tree.get? target.location) := by
    intro bits' hdirectory
    rw [hdirectory] at hemptied
    cases hemptied
  have hnames : m.Names path target.location := ⟨target, hresolve, rfl⟩
  exact ⟨refiles_insert hnames hold,
    hnames.of_extends (extends_insert_of_isNoDirectory hold (.file bits []))⟩

/-- Storing content changes the file at the location, if there is one. -/
theorem refiles_store (content : Bytes) (hnames : m.Names path location) :
    Refiles path m (m.store location content) := by
  unfold store
  split
  · rename_i bits old hfile
    exact refiles_insert hnames (hfile ▸ isNoDirectory_file bits old)
  · exact refl m

end Machine

end Launcher
