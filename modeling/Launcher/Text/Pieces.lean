/-!
# Cutting lists at a separator

Paths, search paths and argument records are sequences with separators. Two ways of cutting them
are needed: into the pieces between separators, and into the beginnings that end at one.

## Main definitions

* `Launcher.pieces` — the pieces between separators.
* `Launcher.beginnings` — the beginnings up to each separator but a leading one, and the whole.
-/

namespace Launcher

variable {α : Type} [DecidableEq α]

/-- The pieces of `l` between the separators: one more than there are separators. -/
def pieces (sep : α) (l : List α) : List (List α) :=
  go [] [] l
where
  /-- Reads on with the pieces in `done` and the symbols of the current one, all latest first. -/
  go (done : List (List α)) (piece : List α) : List α → List (List α)
    | [] => (piece.reverse :: done).reverse
    | a :: rest => if a = sep then go (piece.reverse :: done) [] rest else go done (a :: piece) rest

/-- The beginnings of `l` that end just before a separator, shortest first, and then `l` itself. A
separator at the very start ends no beginning. -/
def beginnings (sep : α) : List α → List (List α)
  | [] => [[]]
  | a :: rest => go [a] rest
where
  /-- Reads on after the elements in `passed`, latest first. -/
  go (passed : List α) : List α → List (List α)
    | [] => [passed.reverse]
    | a :: rest =>
      if a = sep then passed.reverse :: go (a :: passed) rest else go (a :: passed) rest

/-- Separators next to each other have an empty piece between them. -/
example : pieces 0 [1, 2, 0, 0, 3, 0] = [[1, 2], [], [3], []] := by decide

/-- A separator in front has no beginning of its own, and of several in a row each has one. -/
example : beginnings 0 [0, 1, 0, 0, 2] = [[0, 1], [0, 1, 0], [0, 1, 0, 0, 2]] := by decide

end Launcher
