/-!
# Blank characters

Two sets of blanks matter when numerals are read: the six of ASCII text, and those of Unicode,
which are the separators called spaces together with the characters that separate paragraphs,
segments or words in bidirectional text.
-/

namespace Launcher.Unicode

/-- Space, tab, line feed, vertical tab, form feed and carriage return. -/
def isAsciiBlank (c : Char) : Bool :=
  c == ' ' || 0x09 ≤ c.toNat && c.toNat ≤ 0x0D

/-- The blanks of Unicode 14, as closed ranges in ascending order. -/
def blanks : List (Nat × Nat) :=
  [(0x9, 0xD), (0x1C, 0x20), (0x85, 0x85), (0xA0, 0xA0), (0x1680, 0x1680), (0x2000, 0x200A),
   (0x2028, 0x2029), (0x202F, 0x202F), (0x205F, 0x205F), (0x3000, 0x3000)]

/-- Whether Unicode counts the character as blank. -/
def isBlank (c : Char) : Bool :=
  blanks.any fun (first, last) => first ≤ c.toNat && c.toNat ≤ last

end Launcher.Unicode
