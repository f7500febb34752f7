import Launcher.Text.Basic
import Launcher.Unicode.Blank
import Launcher.Unicode.DecimalDigit

/-!
# Numerals

Integers are read from texts in two ways. A strict decimal numeral is made of ASCII characters and
fits into 32 bits. A free numeral, octal or decimal, may use the digits and blanks of any script and
may group its digits by single underscores. Decimal numerals of more than `maxDigits` digits are
not converted, whichever way they go.

## Main definitions

* `Launcher.Numeral.int32` — strict decimal numerals.
* `Launcher.Numeral.free?` — free numerals of a base.
* `Launcher.Numeral.isLong` — integers with too many digits to be written.
-/

namespace Launcher.Numeral

/-- The most digits that a decimal numeral may have to be converted. -/
def maxDigits : Nat := 4300

/-- The value of ASCII digits, most significant first. -/
def value (radix : Nat) (digits : List Char) : Nat :=
  digits.foldl (fun n c => n * radix + (c.toNat - '0'.toNat)) 0

/-- Splits a sign off: whether it is a minus sign, and the rest. -/
def splitSign : List Char → Bool × List Char
  | '-' :: rest => (true, rest)
  | '+' :: rest => (false, rest)
  | cs => (false, cs)

/-- The integer with this sign and magnitude. -/
def signed (negative : Bool) (n : Nat) : Int := if negative then -n else n

/-! ### Strict decimal numerals -/

/-- A numeral in decimal notation with too many digits to be converted. -/
structure TooLong where
  digits : Nat
deriving DecidableEq, Repr

/-- The sign and the digits of a strict decimal numeral: ASCII blanks, a sign or none, and then
digits up to the end. -/
def strict? (t : Text) : Option (Bool × List Char) := do
  let cs ← t.chars?
  let (negative, digits) := splitSign (cs.dropWhile Unicode.isAsciiBlank)
  if !digits.isEmpty && digits.all Char.isDigit then some (negative, digits) else none

/-- Whether an integer fits into 32 bits with a sign. -/
def fitsInt32 (n : Int) : Bool := -0x80000000 ≤ n && n ≤ 0x7FFFFFFF

/-- The value of a strict decimal numeral that fits into 32 bits with a sign. The number of digits
is looked at first, leading zeros included. -/
def int32 (t : Text) : Except TooLong (Option Int) :=
  match strict? t with
  | none => .ok none
  | some (negative, digits) =>
      if maxDigits < digits.length then .error ⟨digits.length⟩
      else
        let n := signed negative (value 10 digits)
        .ok (if fitsInt32 n then some n else none)

/-! ### Free numerals -/

/-- The bases of free numerals. -/
inductive Base where
  | octal
  | decimal
deriving DecidableEq, Repr

/-- The number of digits of a base. -/
def Base.radix : Base → Nat
  | octal => 8
  | decimal => 10

/-- The ASCII character for which a symbol stands in a numeral: ASCII stands for itself, any other
blank for a space, any other decimal digit for the ASCII digit of its value. -/
def asciiForm? : Symbol → Option Char
  | .raw _ => none
  | .char c =>
      if c.toNat < 0x7F then some c
      else if Unicode.isBlank c then some ' '
      else (Unicode.digitValue? c).map fun d => Char.ofNat ('0'.toNat + d)

/-- Whether the character is an ASCII digit of the base. -/
def Base.isDigit (base : Base) (c : Char) : Bool :=
  '0'.toNat ≤ c.toNat && c.toNat < '0'.toNat + base.radix

/-- The digits of a sequence of digits in which an underscore may stand between two digits. -/
def Base.grouped? (base : Base) : List Char → Option (List Char)
  | [] => none
  | [c] => if base.isDigit c then some [c] else none
  | c :: '_' :: rest => if base.isDigit c then (base.grouped? rest).map (c :: ·) else none
  | c :: d :: rest => if base.isDigit c then (base.grouped? (d :: rest)).map (c :: ·) else none

/-- What follows the mark of the base, if there is one: `0o` in front of octal digits, with an
underscore after it or none. -/
def Base.dropMark : Base → List Char → List Char
  | octal, '0' :: m :: '_' :: rest => if m == 'o' || m == 'O' then rest else '0' :: m :: '_' :: rest
  | octal, '0' :: m :: rest => if m == 'o' || m == 'O' then rest else '0' :: m :: rest
  | _, cs => cs

/-- The value of a free numeral: blanks on both sides, a sign or none, the mark of the base or
none, and grouped digits. Octal numerals may have any number of digits. -/
def free? (base : Base) (t : Text) : Option Int := do
  let cs ← t.mapM asciiForm?
  let trimmed := (cs.dropWhile Unicode.isAsciiBlank).reverse.dropWhile Unicode.isAsciiBlank
  let (negative, body) := splitSign trimmed.reverse
  let digits ← base.grouped? (base.dropMark body)
  if base = .decimal ∧ maxDigits < digits.length then none
  else some (signed negative (value base.radix digits))

/-! ### Writing -/

/-- Whether an integer has too many digits to be written in decimal notation. -/
def isLong (n : Int) : Bool := maxDigits < (Nat.toDigits 10 n.natAbs).length

/-- Blanks, a sign, a mark and single underscores are part of a free numeral. -/
example : free? .octal (lit " +0o_7_55\u00a0") = some 0o755 := by decide +kernel

/-- Two underscores in a row, or a mark without digits, are not. -/
example : free? .octal (lit "0__7") = none ∧ free? .octal (lit "0o") = none := by decide +kernel

end Launcher.Numeral
