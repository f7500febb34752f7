/-!
# Texts

A text is what the launcher gets from the outside as words: command line tokens, values of
environment variables, names of files. Such words are bytes that are usually, but not always,
UTF-8, so a text is a list of symbols, each a character or one byte that belongs to no character.

## Main definitions

* `Launcher.Symbol` and `Launcher.Text` — symbols, and lists of them.
* `Launcher.lit` — the text of a string.
* `Launcher.Text.dropStart?` — what follows a given beginning.
* `Launcher.Text.chars?` — the characters of a text without stray bytes.
* `Launcher.Text.spelled` — the characters of any text, stray bytes spelled out.
-/

namespace Launcher

/-- A sequence of bytes. -/
abbrev Bytes := List UInt8

/-- One symbol of a text: a character, or a byte from `0x80` on that is part of no character.
The stray byte `0x80 + b` is `raw b`. -/
inductive Symbol where
  | char (c : Char)
  | raw (b : Fin 128)
deriving DecidableEq, Repr

/-- A text counts and compares by symbols, not by bytes. -/
abbrev Text := List Symbol

/-- The text of a string. -/
def lit (s : String) : Text := s.toList.map .char

/-- Lower-case hexadecimal digits of `n`, with zeros in front up to `width` digits. -/
def hexPadded (width n : Nat) : List Char :=
  let digits := Nat.toDigits 16 n
  List.replicate (width - digits.length) '0' ++ digits

/-- The decimal text of an integer, with a minus sign if it is negative. -/
def decimal (n : Int) : Text :=
  (if n < 0 then [.char '-'] else []) ++ (Nat.toDigits 10 n.natAbs).map .char

namespace Symbol

/-- The number by which symbols are shown and sorted: a stray byte `b` stands at `0xDC00 + b`. -/
def codePoint : Symbol → Nat
  | char c => c.toNat
  | raw b => 0xDC80 + b.val

/-- The characters that show a symbol where stray bytes cannot be written: `\udc` and the byte. -/
def spelled : Symbol → List Char
  | char c => [c]
  | raw b => ['\\', 'u', 'd', 'c'] ++ hexPadded 2 (0x80 + b.val)

end Symbol

namespace Text

/-- The characters of a text, or `none` if it holds a stray byte. -/
def chars? (t : Text) : Option (List Char) :=
  t.mapM fun
    | .char c => some c
    | .raw _ => none

/-- The characters of a text, stray bytes spelled out. -/
def spelled (t : Text) : List Char := t.flatMap Symbol.spelled

/-- What follows `start` in `t`, or `none` if `t` does not begin with `start`. -/
def dropStart? (t start : Text) : Option Text :=
  if start.isPrefixOf t then some (t.drop start.length) else none

/-- Whether `a` comes before `b`, or is equal to it, by code points. -/
def le : Text → Text → Bool
  | [], _ => true
  | _ :: _, [] => false
  | a :: s, b :: t => a.codePoint < b.codePoint || (a.codePoint == b.codePoint && le s t)

end Text

/-! ## Small facts -/

/-- A character that is made from a number has this number, if any has it. -/
theorem toNat_charOfNat {n : Nat} (h : n.isValidChar) : (Char.ofNat n).toNat = n := by
  rw [Char.ofNat, dif_pos h]
  rfl

/-- A literal has as many symbols as its string has characters. -/
@[simp] theorem length_lit (s : String) : (lit s).length = s.length := by
  simp [lit, String.length_toList]

/-- A text that is made of characters has these characters. -/
@[simp] theorem Text.chars?_map_char (cs : List Char) : Text.chars? (cs.map .char) = some cs := by
  induction cs with
  | nil => rfl
  | cons c cs ih => simp_all [Text.chars?, List.mapM_cons]

/-- Texts without stray bytes have none when they are put together. -/
theorem Text.chars?_append {s t : Text} {cs cs' : List Char} (hs : s.chars? = some cs)
    (ht : t.chars? = some cs') : (s ++ t).chars? = some (cs ++ cs') := by
  unfold Text.chars? at hs ht ⊢
  rw [List.mapM_append, hs, ht]
  rfl

end Launcher
