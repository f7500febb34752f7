import Launcher.Machine.Path

/-!
# Trees of files and directories

A tree maps locations to nodes. A location is the list of names on the way from the root, so the
root is the empty list. Nodes know nothing of each other: a node whose ancestors are missing, or are
files, is in the tree but out of reach.

## Main definitions

* `Launcher.Node`, `Launcher.Location` and `Launcher.Tree`.
* `Launcher.Tree.get?`, `Launcher.Tree.insert` and `Launcher.Tree.eraseBelow`.
* `Launcher.Tree.changes` — the nodes that differ between two trees.
-/

namespace Launcher

/-- The nodes of a tree, with their permission bits. -/
inductive Node where
  | directory (mode : Nat)
  | file (mode : Nat) (content : Bytes)
deriving DecidableEq, Repr

namespace Node

/-- The permission bits. -/
def mode : Node → Nat
  | directory mode => mode
  | file mode _ => mode

/-- Whether the node is a directory. -/
def isDirectory : Node → Bool
  | directory _ => true
  | file _ _ => false

/-- Whether somebody may execute the node. -/
def isExecutable (node : Node) : Bool := node.mode &&& 0o111 != 0

end Node

/-- The names on the way from the root. -/
abbrev Location := List Bytes

/-- The permission bits `mode` without those of `mask`. -/
def maskMode (mode mask : Nat) : Nat := mode ^^^ (mode &&& mask)

namespace Location

/-- The names of a path: its pieces between separators, without the empty ones. -/
def names (path : Bytes) : List Bytes := (pieces slashByte path).filter (!·.isEmpty)

/-- The name of the directory itself. -/
def dot : Bytes := [0x2E]

/-- The name of the parent directory. -/
def dotDot : Bytes := [0x2E, 0x2E]

/-- The location that a path names by its spelling alone, read from the root. -/
def ofPath (path : Bytes) : Location :=
  (names path).foldl step []
where
  step (here : Location) (name : Bytes) : Location :=
    if name = dot then here else if name = dotDot then here.dropLast else here ++ [name]

/-- The path of a location from the root. -/
def path (location : Location) : Bytes :=
  if location.isEmpty then [slashByte] else location.flatMap (slashByte :: ·)

end Location

/-! ### Small facts about association lists -/

/-- Leaving out the entries of one key changes nothing for any other key. -/
theorem lookup_filter_ne {α β : Type} [BEq α] [LawfulBEq α] {entries : List (α × β)} {a b : α}
    (h : b ≠ a) : (entries.filter (·.1 != a)).lookup b = entries.lookup b := by
  induction entries with
  | nil => rfl
  | cons e entries ih =>
    obtain ⟨c, value⟩ := e
    by_cases hc : c = a
    · subst hc
      have hb : (b == c) = false := by simpa using h
      rw [List.filter_cons_of_neg (by simp), List.lookup_cons, hb]
      exact ih
    · rw [List.filter_cons_of_pos (by simpa using hc), List.lookup_cons, List.lookup_cons, ih]

/-- Nothing is found under a key whose entries have been left out. -/
theorem lookup_filter_self {α β : Type} [BEq α] [LawfulBEq α] (entries : List (α × β)) (a : α) :
    (entries.filter (·.1 != a)).lookup a = none := by
  simp only [List.lookup_eq_none_iff]
  intro e he
  have hne : e.1 ≠ a := by simpa using (List.mem_filter.1 he).2
  simpa using hne.symm

/-! ### Trees -/

/-- Nodes by location. The latest entry of a location comes first and alone counts. -/
structure Tree where
  entries : List (Location × Node)
deriving Repr

namespace Tree

/-- The tree that holds nothing but an empty root. -/
def empty : Tree := ⟨[([], .directory 0o755)]⟩

/-- The node at a location. -/
def get? (tree : Tree) (location : Location) : Option Node := tree.entries.lookup location

/-- The tree with the node at the location, in place of what was there. -/
def insert (tree : Tree) (location : Location) (node : Node) : Tree :=
  ⟨(location, node) :: tree.entries.filter (·.1 != location)⟩

/-- The tree without the node at the location. -/
def erase (tree : Tree) (location : Location) : Tree :=
  ⟨tree.entries.filter (·.1 != location)⟩

/-- The tree without the node at the location and all below it. -/
def eraseBelow (tree : Tree) (location : Location) : Tree :=
  ⟨tree.entries.filter (!location.isPrefixOf ·.1)⟩

/-- The tree with the node put at the location, and with a directory in place of each missing
ancestor. -/
def plant (tree : Tree) (location : Location) (node : Node) : Tree :=
  (ancestors.foldl grow tree).insert location node
where
  ancestors : List Location := (List.range location.length).map (location.take ·)
  grow (tree : Tree) (location : Location) : Tree :=
    if (tree.get? location).isSome then tree else tree.insert location (.directory 0o755)

/-- The locations that hold something else in `after` than in `before`, with what they hold. -/
def changes (before after : Tree) : List (Location × Option Node) :=
  let locations := (before.entries ++ after.entries).map (·.1) |>.eraseDups
  let differing := locations.filter fun location => before.get? location != after.get? location
  differing.map fun location => (location, after.get? location)

/-- A node that has just been inserted is found at its location. -/
theorem get?_insert_self (tree : Tree) (location : Location) (node : Node) :
    (tree.insert location node).get? location = some node := by
  simp [get?, insert]

/-- Inserting a node changes nothing at other locations. -/
theorem get?_insert_of_ne (tree : Tree) {a b : Location} (node : Node) (h : b ≠ a) :
    (tree.insert a node).get? b = tree.get? b := by
  have hb : (b == a) = false := by simpa using h
  simp [get?, insert, List.lookup_cons, hb, lookup_filter_ne h]

/-- Erasing a node changes nothing at other locations. -/
theorem get?_erase_of_ne (tree : Tree) {a b : Location} (h : b ≠ a) :
    (tree.erase a).get? b = tree.get? b := lookup_filter_ne h

/-- A node that has been erased is not found any more. -/
theorem get?_erase_self (tree : Tree) (a : Location) : (tree.erase a).get? a = none :=
  lookup_filter_self tree.entries a

end Tree

end Launcher
