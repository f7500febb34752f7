import Launcher.Text.Pieces
import Launcher.Text.Utf8

/-!
# Argument records

A command is kept in a file as its arguments in UTF-8, each followed by a zero byte.

## Main definitions

* `Launcher.Record.encode` and `Launcher.Record.decode`.
-/

namespace Launcher.Record

/-- The record of a list of arguments. -/
def encode (arguments : List Text) : Bytes :=
  arguments.flatMap fun argument => argument.encode ++ [0]

/-- The arguments of a record. The last one may lack its zero byte. -/
def decode (record : Bytes) : List Text :=
  if record.isEmpty then []
  else
    let body := if record.getLast? = some 0 then record.dropLast else record
    (pieces 0 body).map Text.decode

/-- An empty argument and one that is no UTF-8 are found again. -/
example : decode (encode [lit "a", [], [.raw 0x7F]]) = [lit "a", [], [.raw 0x7F]] := by
  decide +kernel

end Launcher.Record
