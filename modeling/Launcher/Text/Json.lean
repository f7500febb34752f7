import Launcher.Text.Basic

/-!
# JSON

Values of JSON and their one-line text, which is pure ASCII: every other character, every control
character and every half of a character is written as an escape of four hexadecimal digits. A
character above `U+FFFF` is written as its two halves.

## Main definitions

* `Launcher.CodePoint` — what the strings of values consist of.
* `Launcher.Json` — values.
* `Launcher.Json.line` — the text of a value.
-/

namespace Launcher

/-- A code point of a string: a character, or the second half of a character above `U+FFFF` without
the first. The half `0xDC00 + k` is `half k`. There are no first halves: with a second half behind
it, a first one is a character. -/
inductive CodePoint where
  | char (c : Char)
  | half (k : Fin 0x400)
deriving DecidableEq, Repr

namespace CodePoint

/-- The number of a code point. -/
def number : CodePoint → Nat
  | char c => c.toNat
  | half k => 0xDC00 + k.val

/-- The code points of a string of characters. -/
def ofString (s : String) : List CodePoint := s.toList.map .char

end CodePoint

/-- The code point of a symbol. A stray byte is the half that has its number. -/
def Symbol.wide : Symbol → CodePoint
  | char c => .char c
  | raw b => .half (Fin.castLE (by decide) (Fin.natAdd 0x80 b))

/-- A JSON value. The fields of an object stand in the order in which they are written. -/
inductive Json where
  | null
  | bool (b : Bool)
  | number (n : Int)
  | string (t : List CodePoint)
  | array (items : List Json)
  | object (fields : List (String × Json))

namespace Json

/-- An escape of four hexadecimal digits. -/
def unit (n : Nat) : Text := lit "\\u" ++ (hexPadded 4 n).map .char

/-- A code point inside a string. -/
def symbol (s : CodePoint) : Text :=
  let n := s.number
  if s = .char '\x22' then lit "\\\""
  else if s = .char '\\' then lit "\\\\"
  else if 0x20 ≤ n && n < 0x7F then [.char (Char.ofNat n)]
  else if s = .char '\n' then lit "\\n"
  else if s = .char '\r' then lit "\\r"
  else if s = .char '\t' then lit "\\t"
  else if s = .char '\x08' then lit "\\b"
  else if s = .char '\x0c' then lit "\\f"
  else if n < 0x10000 then unit n
  else unit (0xD800 + (n - 0x10000) / 0x400) ++ unit (0xDC00 + (n - 0x10000) % 0x400)

/-- A string between its quotes. -/
def quoted (t : List CodePoint) : Text := lit "\"" ++ t.flatMap symbol ++ lit "\""

mutual

/-- Writes a value after `done`, which holds the symbols so far, latest first. -/
def write (done : Text) : Json → Text
  | null => (lit "null").reverse ++ done
  | bool b => (if b then lit "true" else lit "false").reverse ++ done
  | number n => (decimal n).reverse ++ done
  | string t => (quoted t).reverse ++ done
  | array items => .char ']' :: writeItems (.char '[' :: done) items
  | object fields => .char '\x7d' :: writeFields (.char '\x7b' :: done) fields

/-- Writes the items of an array, with a comma and a space between two of them. -/
def writeItems (done : Text) : List Json → Text
  | [] => done
  | [item] => write done item
  | item :: next :: items =>
      writeItems (.char ' ' :: .char ',' :: write done item) (next :: items)

/-- Writes the fields of an object, with a comma and a space between two of them. -/
def writeFields (done : Text) : List (String × Json) → Text
  | [] => done
  | [(name, value)] => write ((quoted (CodePoint.ofString name) ++ lit ": ").reverse ++ done) value
  | (name, value) :: next :: fields =>
      let field := write ((quoted (CodePoint.ofString name) ++ lit ": ").reverse ++ done) value
      writeFields (.char ' ' :: .char ',' :: field) (next :: fields)

end

/-- The text of a value, on one line. -/
def line (value : Json) : Text := (write [] value).reverse

/-- A character above `U+FFFF` is written as two halves, and a half that stands alone as itself. -/
example : line (object [("a", array [null, number (-3)]), ("b", string [.char '😀', .half 0xFF])]) =
    lit "\x7b\"a\": [null, -3], \"b\": \"\\ud83d\\ude00\\udcff\"\x7d" := by decide +kernel

end Json

end Launcher
