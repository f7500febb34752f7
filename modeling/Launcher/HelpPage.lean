import Launcher.Product
import Launcher.Text.EscapeSequence
import Launcher.Text.Numeral
import Launcher.Text.Pieces

/-!
# The help page

The page is made of paragraphs, each indented as a whole and filled line by line: a word goes to a
new line if it does not fit. A line may also end behind a hyphen between two letters of a word.
Colours have no width.

## Main definitions

* `Launcher.HelpPage.width` — the width of the page.
* `Launcher.HelpPage.fill` — the lines of a paragraph.
* `Launcher.HelpPage.text` — the page.
-/

namespace Launcher.HelpPage

/-! ### Width -/

/-- The columns on which the page is laid out: the variable `COLUMNS` if it is a positive decimal
numeral, or else those of the terminal, or else 80. -/
def columns (setting : Option Text) (terminal : Option Int) : Int :=
  let given := (setting.bind (Numeral.free? .decimal)).filter (0 < ·)
  let measured := terminal.filter (0 < ·)
  (given.or measured).getD 80

/-- The width of the page: two less than the columns, of which at least 50 and at most 80 count. -/
def width (columns : Int) : Nat := (max (min columns 80) 50 - 2).toNat

/-! ### Filling -/

/-- A part of a paragraph that is not broken, and whether a space separates it from the one
before. -/
structure Part where
  spaced : Bool
  content : List Char
deriving DecidableEq, Repr

/-- The parts of a word, cut behind each hyphen that stands between letters. -/
def parts (word : List Char) : List Part :=
  go true [] word
where
  /-- Reads on with the current part, latest character first, and whether it follows a space. -/
  go (spaced : Bool) (part : List Char) : List Char → List Part
    | [] => [⟨spaced, part.reverse⟩]
    | a :: rest =>
        let breaks := a == '-' && (part.head?.any Char.isAlpha) && (rest.head?.any Char.isAlpha)
        if breaks then ⟨spaced, (a :: part).reverse⟩ :: go false [] rest
        else go spaced (a :: part) rest

/-- The lines of parts that go on after `line`, none wider than `room`. -/
def fillFrom (room : Nat) (line : List Char) : List Part → List (List Char)
  | [] => [line]
  | part :: rest =>
      let longer := line ++ (if part.spaced then [' '] else []) ++ part.content
      if longer.length ≤ room then fillFrom room longer rest
      else line :: fillFrom room part.content rest

/-- The lines of a paragraph of at most `room` characters each. -/
def fill (room : Nat) (paragraph : String) : List (List Char) :=
  match (pieces ' ' paragraph.toList).flatMap parts with
  | [] => []
  | first :: rest => fillFrom room first.content rest

/-! ### The page -/

/-- A paragraph, or lines that stay as they are. -/
inductive Block where
  | fixed (lines : List String)
  | filled (indent : Nat) (green : Bool) (paragraph : String)

/-- The blocks of the page, with an empty line between two of them. -/
def blocks : List Block :=
  [.fixed ["Usage: " ++ Product.title ++ " [OPTIONS] [ARGS]..."],
   .filled 2 false Product.description,
   .fixed
    ["Options:",
     "  --version   Show the version and exit.",
     "  -h, --help  Show this message and exit."],
   .filled 2 false "Examples:",
   .filled 2 true "• show user, output base and terminal facts",
   .filled 6 false "$ launchkit",
   .filled 2 true "• run a program with a fixed output base and command port",
   .filled 6 false
    "$ launchkit --output_base=/tmp/lk --command_port=8080 -- python3 -V"]

/-- The lines of a text. -/
def joinLines (lines : List Text) : Text := [.char '\n'].intercalate lines

/-- The text of a block on a page of this width. -/
def Block.text (width : Nat) : Block → Text
  | fixed lines => joinLines (lines.map lit)
  | filled indent green paragraph =>
      let margin := List.replicate indent (.char ' ')
      let body := [Symbol.char '\n'] ++ margin
      let lines := (fill (width - indent) paragraph).map fun line => line.map Symbol.char
      let filled := body.intercalate lines
      -- The colour starts behind the margin of the first line and ends with the last.
      margin ++ (if green then EscapeSequence.green ++ filled ++ EscapeSequence.reset else filled)

/-- The page on this width. -/
def text (width : Nat) : Text := [.char '\n', .char '\n'].intercalate (blocks.map (·.text width))

/-- What is said about the version. -/
def versionText : Text :=
  joinLines
    [lit (Product.title ++ ", version " ++ Product.version),
     lit ("Check " ++ Product.url ++ " for more info")]

end Launcher.HelpPage
