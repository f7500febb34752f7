import Launcher.Text.Basic

/-!
# Texts as UTF-8

Between texts and bytes there are two functions. Encoding writes each character in UTF-8 and each
stray byte as itself. Decoding reads a character wherever the exact UTF-8 form of one stands, and
takes any other byte as a stray one; so overlong forms, surrogates and numbers beyond the last code
point fall apart into stray bytes.

## Main definitions

* `Launcher.Text.encode` and `Launcher.Text.decode`.
-/

namespace Launcher

namespace Utf8

/-- The number of bytes of the character that begins with this byte, if one does. -/
def width (lead : UInt8) : Nat :=
  if lead < 0x80 then 1 else if lead < 0xE0 then 2 else if lead < 0xF0 then 3 else 4

/-- The number spelled by the payload bits of a group of one to four bytes. -/
def payload : Bytes → Nat
  | [a] => a.toNat
  | [a, b] => a.toNat % 0x20 * 0x40 + b.toNat % 0x40
  | [a, b, c] => (a.toNat % 0x10 * 0x40 + b.toNat % 0x40) * 0x40 + c.toNat % 0x40
  | [a, b, c, d] =>
      ((a.toNat % 0x08 * 0x40 + b.toNat % 0x40) * 0x40 + c.toNat % 0x40) * 0x40 + d.toNat % 0x40
  | _ => 0

/-- The character whose UTF-8 form begins the bytes. Writing the candidate again and comparing
is what rules out overlong forms and surrogates. -/
def headChar? : Bytes → Option Char
  | [] => none
  | lead :: rest =>
      let group := (lead :: rest).take (width lead)
      let c := Char.ofNat (payload group)
      if String.utf8EncodeChar c = group then some c else none

end Utf8

/-- The bytes of a symbol: the UTF-8 form of a character, or the stray byte itself. -/
def Symbol.encode : Symbol → Bytes
  | .char c => String.utf8EncodeChar c
  | .raw b => [UInt8.ofNat (0x80 + b.val)]

namespace Text

/-- The bytes of a text. -/
def encode (t : Text) : Bytes := t.flatMap Symbol.encode

/-- The text of the bytes. -/
def decode (bytes : Bytes) : Text :=
  go [] 0 bytes
where
  /-- Reads on with `done`, latest symbol first, while `pending` bytes still belong to the last
  character read. -/
  go (done : Text) : Nat → Bytes → Text
    | _, [] => done.reverse
    | pending + 1, _ :: rest => go done pending rest
    | 0, lead :: rest =>
        match Utf8.headChar? (lead :: rest) with
        | some c => go (.char c :: done) (Utf8.width lead - 1) rest
        | none => go (.raw (Fin.ofNat 128 lead.toNat) :: done) 0 rest

/-- The empty text is spelled by no bytes. -/
@[simp] theorem encode_nil : encode [] = [] := rfl

/-- Texts that are put together are spelled one after the other. -/
@[simp] theorem encode_append (s t : Text) : encode (s ++ t) = encode s ++ encode t := by
  simp [encode]

-- A two-byte character, an overlong slash and an encoded surrogate.
/-- An overlong form of a slash is two stray bytes. -/
example : decode [0xC3, 0xA9, 0xC0, 0xAF] = [.char 'é', .raw 0x40, .raw 0x2F] := by decide

/-- So is a half of a surrogate pair three of them. -/
example : decode [0xED, 0xA0, 0x80] = [.raw 0x6D, .raw 0x20, .raw 0x00] := by decide

end Text

end Launcher
