import Launcher.Machine.Errno
import Launcher.Machine.Path
import Launcher.Text.Numeral

/-!
# Errors of the system

An error of the system names a number, says in a text what the number means, and tells the places at
which the call failed: none, the path of the call, or two paths if the call was about two. Other
errors are nothing but a note.

## Main definitions

* `Launcher.OsError` and `Launcher.OsError.render` — errors and their texts.
* `Launcher.Detail` and `Launcher.OsError.ofDetails` — the error that is made of given details.
-/

namespace Launcher

/-- A detail that is given when an error is made. -/
inductive Detail where
  | absent
  | number (n : Int)
  | text (t : Text)
  | bytes (b : Bytes)
deriving DecidableEq, Repr

namespace Detail

/-- A path as a detail. -/
def ofPath : Path → Detail
  | .text t => text t
  | .bytes b => bytes b

/-- The detail in quotes, if it is a text or bytes. -/
def quoted : Detail → Text
  | absent => lit "None"
  | number n => decimal n
  | text t => t.quoted
  | bytes b => Bytes.quoted b

/-- The detail as a part of a sentence: a text stands for itself. -/
def shown : Detail → Text
  | text t => t
  | detail => detail.quoted

/-- The number that the detail is. -/
def number? : Detail → Option Int
  | number n => some n
  | absent | text _ | bytes _ => none

end Detail

/-- An error of the system, or a note in place of one. -/
inductive OsError where
  | call (errno : Option Int) (text : Text) (places : List Detail)
  | note (text : Text)
deriving DecidableEq, Repr

namespace OsError

/-- The error of a call that fails with `e` on a path, or on none. -/
def of (e : Errno) (path : Option Path) : OsError :=
  .call (some e.number) (lit (Errno.describe e.number)) (path.toList.map Detail.ofPath)

/-- The error of a write that stored `written` of `total` bytes. -/
def shortWrite (written total : Nat) : OsError :=
  .note (lit "short write: " ++ decimal written ++ lit " of " ++ decimal total ++ lit " bytes")

/-- The number of the error, if it has one. -/
def errno : OsError → Option Int
  | .call errno _ _ => errno
  | .note _ => none

/-- The text of the error, with its number and its places. -/
def render : OsError → Text
  | .call errno text places =>
      let number := ((errno.map Detail.number).getD .absent).quoted
      let place :=
        if places.isEmpty then []
        else lit ": " ++ (lit " -> ").intercalate (places.map Detail.quoted)
      lit "[Errno " ++ number ++ lit "] " ++ text ++ place
  | .note text => text

/-- Two places of a failing call. Without the first, the second does not count. -/
def places (first second : Detail) : List Detail :=
  if first = .absent then []
  else if second = .absent then [first]
  else [first, second]

/-- The error made of the details. Two of them are the number and its text; behind these come the
first place, a detail without use, and the second place. Fewer details, or more, make a note. -/
def ofDetails : List Detail → OsError
  | [] => .note []
  | [detail] => .note detail.shown
  | [errno, text] => .call errno.number? text.shown []
  | [errno, text, first] => .call errno.number? text.shown (places first .absent)
  | [errno, text, first, _] => .call errno.number? text.shown (places first .absent)
  | [errno, text, first, _, second] => .call errno.number? text.shown (places first second)
  | details => .note (lit "(" ++ (lit ", ").intercalate (details.map Detail.quoted) ++ lit ")")

end OsError

end Launcher
