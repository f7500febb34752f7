import Launcher.Text.Basic
import Launcher.Unicode.Printable

/-!
# Quoted texts

Error and log messages show a text, or the bytes of a name, between quotes on one line: what cannot
be printed is written as an escape. Bytes carry a `b` in front of the quote.

## Main definitions

* `Launcher.Text.quoted` and `Launcher.Bytes.quoted`.
-/

namespace Launcher

namespace Quoted

/-- The single quote. -/
def single : Char := '\x27'

/-- The double quote. -/
def double : Char := '\x22'

/-- The quote put around a content: single, unless that would need escaping and double would not. -/
def quoteFor (hasSingle hasDouble : Bool) : Char :=
  if hasSingle && !hasDouble then double else single

/-- A code point by number: with two, four or eight hexadecimal digits. -/
def numbered (n : Nat) : List Char :=
  if n ≤ 0xFF then ['\\', 'x'] ++ hexPadded 2 n
  else if n ≤ 0xFFFF then ['\\', 'u'] ++ hexPadded 4 n
  else ['\\', 'U'] ++ hexPadded 8 n

/-- The escape of a character that has a short one between these quotes. -/
def short? (quote c : Char) : Option (List Char) :=
  if c == quote || c == '\\' then some ['\\', c]
  else if c == '\n' then some ['\\', 'n']
  else if c == '\r' then some ['\\', 'r']
  else if c == '\t' then some ['\\', 't']
  else none

/-- A symbol between quotes. -/
def symbol (quote : Char) : Symbol → List Char
  | .char c => (short? quote c).getD (if Unicode.isPrintable c then [c] else numbered c.toNat)
  | .raw b => (Symbol.raw b).spelled

/-- A byte between quotes: itself only if it is a printable character of ASCII. -/
def byte (quote : Char) (b : UInt8) : List Char :=
  let c := Char.ofNat b.toNat
  (short? quote c).getD (if 0x20 ≤ b && b < 0x7F then [c] else numbered b.toNat)

end Quoted

/-- A text in quotes. -/
def Text.quoted (t : Text) : Text :=
  let quote := Quoted.quoteFor (t.contains (.char Quoted.single)) (t.contains (.char Quoted.double))
  (quote :: t.flatMap (Quoted.symbol quote) ++ [quote]).map .char

/-- Bytes in quotes. -/
def Bytes.quoted (bytes : Bytes) : Text :=
  let quote := Quoted.quoteFor (bytes.contains 0x27) (bytes.contains 0x22)
  ('b' :: quote :: bytes.flatMap (Quoted.byte quote) ++ [quote]).map .char

/-- A text with a single quote is put into double ones, and what cannot be printed is escaped. -/
example : Text.quoted (lit "it's\n" ++ [.raw 0x7F]) = lit "\"it's\\n\\udcff\"" := by decide +kernel

end Launcher
