import Launcher.Proofs.Text.EscapeSequence
import Launcher.Proofs.Text.Json
import Launcher.Proofs.Text.Numeral

/-!
# Reading JSON

The line of a value says all of it. This module reads JSON, as anybody may who gets such a line:
with blanks between its parts, with every escape that a string may have, and with the two halves of
a symbol above `U+FFFF` put together. Of the numbers it reads the integers. The line of any value is
read as that value.

An escape may stand for the second half of a character without the first. It does not stand for the
first half without the second.

## Main definitions

* `Launcher.Json.symbol?`, `Launcher.Json.number?` and `Launcher.Json.value?` — what a text begins
  with.
* `Launcher.Json.read?` — the value of a text.

## Main results

* `Launcher.Json.line_array` and `Launcher.Json.line_object` — what the lines of values are made of.
* `Launcher.Json.symbol?_symbol` — a code point in a string is read again.
* `Launcher.Json.number?_decimal` — so is an integer.
* `Launcher.Json.read?_line` — and so is any value.
-/

namespace Launcher

namespace Json

/-! ## Strings -/

/-- The value of a hexadecimal digit. -/
def hexDigit? : Symbol → Option Nat
  | .char c =>
      if '0' ≤ c ∧ c ≤ '9' then some (c.toNat - 0x30)
      else if 'a' ≤ c ∧ c ≤ 'f' then some (c.toNat - 0x61 + 10)
      else if 'A' ≤ c ∧ c ≤ 'F' then some (c.toNat - 0x41 + 10)
      else none
  | .raw _ => none

/-- The number of an escape of four hexadecimal digits, and what is behind it. -/
def unit? : Text → Option (Nat × Text)
  | .char '\\' :: .char 'u' :: a :: b :: c :: d :: rest => do
      let a ← hexDigit? a
      let b ← hexDigit? b
      let c ← hexDigit? c
      let d ← hexDigit? d
      return (((a * 16 + b) * 16 + c) * 16 + d, rest)
  | _ => none

/-- The code point for which one number stands: a second half or a character. -/
def ofUnit? (n : Nat) : Option CodePoint :=
  if h : 0xDC00 ≤ n ∧ n < 0xE000 then some (.half ⟨n - 0xDC00, by omega⟩)
  else if n < 0xD800 ∨ 0xDFFF < n then some (.char (Char.ofNat n))
  else none

/-- The character for which two halves stand. -/
def ofHalves? (high low : Nat) : Option CodePoint :=
  if 0xDC00 ≤ low ∧ low < 0xE000 then
    some (.char (Char.ofNat (0x10000 + (high - 0xD800) * 0x400 + (low - 0xDC00))))
  else none

/-- The character for which a letter behind a backslash stands. -/
def escaped? : Char → Option Char
  | '\x22' => some '\x22'
  | '\\' => some '\\'
  | '/' => some '/'
  | 'b' => some '\x08'
  | 'f' => some '\x0c'
  | 'n' => some '\n'
  | 'r' => some '\r'
  | 't' => some '\t'
  | _ => none

/-- The code point with which the inside of a string begins if it is not told by a number, and what
is behind it. -/
def unnumbered? : Text → Option (CodePoint × Text)
  | .char '\\' :: .char c :: rest => (escaped? c).map (.char ·, rest)
  | .char c :: rest =>
      if c = '\x22' ∨ c = '\\' ∨ c.toNat < 0x20 then none else some (.char c, rest)
  | _ => none

/-- The code point with which the inside of a string begins, and what is behind it. -/
def symbol? (t : Text) : Option (CodePoint × Text) :=
  match unit? t with
  | some (n, rest) =>
      if 0xD800 ≤ n ∧ n < 0xDC00 then do
        let (low, rest) ← unit? rest
        let s ← ofHalves? n low
        return (s, rest)
      else (ofUnit? n).map (·, rest)
  | none => unnumbered? t

/-- The code points of a string up to its closing quote, at most so many, and what is behind the
quote. -/
def symbols? : Nat → Text → Option (List CodePoint × Text)
  | 0, _ => none
  | most + 1, t =>
      match symbol? t with
      | some (s, rest) => (symbols? most rest).map fun (later, rest) => (s :: later, rest)
      | none =>
          match t with
          | .char '\x22' :: rest => some ([], rest)
          | _ => none

/-- The characters of a string without halves. -/
def chars? (t : List CodePoint) : Option (List Char) :=
  t.mapM fun
    | .char c => some c
    | .half _ => none

/-! ## Numbers and words -/

/-- An ASCII digit. -/
def isDigit : Symbol → Bool
  | .char c => c.isDigit
  | .raw _ => false

/-- The number with which a text begins, and what is behind it: digits, of which the first is no
zero unless it is the only one. With a fraction or an exponent it would be no integer. -/
def natural? (t : Text) : Option (Nat × Text) := do
  let digits ← Text.chars? (t.takeWhile isDigit)
  let rest := t.drop digits.length
  if digits = [] ∨ digits.head? = some '0' ∧ digits ≠ ['0'] then none
  else if rest.head? ∈ [some (.char '.'), some (.char 'e'), some (.char 'E')] then none
  else some (Numeral.value 10 digits, rest)

/-- The integer with which a text begins, and what is behind it. -/
def number? : Text → Option (Int × Text)
  | .char '-' :: rest => (natural? rest).map fun (n, rest) => (-(n : Int), rest)
  | t => (natural? t).map fun (n, rest) => ((n : Int), rest)

/-- The words that are values. -/
def words : List (Text × Json) :=
  [(lit "null", null), (lit "true", bool true), (lit "false", bool false)]

/-- The number or the word with which a text begins, and what is behind it. -/
def scalar? (t : Text) : Option (Json × Text) :=
  ((number? t).map fun (n, rest) => (number n, rest)).or
    (words.findSome? fun (word, value) => (t.dropStart? word).map (value, ·))

/-! ## Values -/

/-- The text behind the blanks that may stand between the parts of a value. -/
def skipBlanks (t : Text) : Text := t.dropWhile (lit " \t\n\r").contains

mutual

/-- The value with which a text begins, and what is behind it. The fuel is for the depth of the
value and for the number of its parts. -/
def value? : Nat → Text → Option (Json × Text)
  | 0, _ => none
  | fuel + 1, t =>
      match skipBlanks t with
      | .char '\x22' :: rest =>
          (symbols? rest.length rest).map fun (s, rest) => (string s, rest)
      | .char '[' :: rest =>
          match skipBlanks rest with
          | .char ']' :: rest => some (array [], rest)
          | rest => (items? fuel rest).map fun (items, rest) => (array items, rest)
      | .char '\x7b' :: rest =>
          match skipBlanks rest with
          | .char '\x7d' :: rest => some (object [], rest)
          | rest => (fields? fuel rest).map fun (fields, rest) => (object fields, rest)
      | rest => scalar? rest

/-- The items of an array up to its closing bracket, one at least. -/
def items? : Nat → Text → Option (List Json × Text)
  | 0, _ => none
  | fuel + 1, t => do
      let (item, rest) ← value? fuel t
      match skipBlanks rest with
      | .char ']' :: rest => some ([item], rest)
      | .char ',' :: rest => (items? fuel rest).map fun (items, rest) => (item :: items, rest)
      | _ => none

/-- The fields of an object up to its closing brace, one at least. -/
def fields? : Nat → Text → Option (List (String × Json) × Text)
  | 0, _ => none
  | fuel + 1, t =>
      match skipBlanks t with
      | .char '\x22' :: rest => do
          let (name, rest) ← symbols? rest.length rest
          let name ← chars? name
          match skipBlanks rest with
          | .char ':' :: rest =>
              let (value, rest) ← value? fuel rest
              match skipBlanks rest with
              | .char '\x7d' :: rest => some ([(String.ofList name, value)], rest)
              | .char ',' :: rest =>
                  (fields? fuel rest).map fun (fields, rest) =>
                    ((String.ofList name, value) :: fields, rest)
              | _ => none
          | _ => none
      | _ => none

end

/-- The value of a text that is one value between blanks. Each part of a value has a symbol of its
own, so that the fuel is enough. -/
def read? (t : Text) : Option Json :=
  match value? (2 * t.length) t with
  | some (value, rest) => if skipBlanks rest = [] then some value else none
  | none => none

/-! ## What lines are made of -/

/-- The lines of items, with commas between them. -/
def itemsLine (items : List Json) : Text := (lit ", ").intercalate (items.map line)

/-- A field as it stands in the line of an object. -/
def fieldLine (field : String × Json) : Text :=
  quoted (CodePoint.ofString field.1) ++ lit ": " ++ field.2.line

/-- The fields of an object, with commas between them. -/
def fieldsLine (fields : List (String × Json)) : Text :=
  (lit ", ").intercalate (fields.map fieldLine)

/-- An item in front of others. -/
theorem itemsLine_cons_cons (item next : Json) (items : List Json) :
    itemsLine (item :: next :: items) = item.line ++ (lit ", " ++ itemsLine (next :: items)) := by
  simp only [itemsLine, List.map_cons, List.intercalate_cons_cons, List.append_assoc]

/-- A field in front of others. -/
theorem fieldsLine_cons_cons (field next : String × Json) (fields : List (String × Json)) :
    fieldsLine (field :: next :: fields) =
      fieldLine field ++ (lit ", " ++ fieldsLine (next :: fields)) := by
  simp only [fieldsLine, List.map_cons, List.intercalate_cons_cons, List.append_assoc]

mutual

/-- A value is written behind what has been written before. -/
theorem write_eq (value : Json) (done : Text) : write done value = value.line.reverse ++ done := by
  cases value with
  | null => simp [line, write]
  | bool b => simp [line, write]
  | number n => simp [line, write]
  | string t => simp [line, write]
  | array items => simp [line, write, writeItems_eq items (.char '[' :: _)]
  | object fields => simp [line, write, writeFields_eq fields (.char '\x7b' :: _)]

/-- Items are written in reverse in front of what is done already. -/
theorem writeItems_eq (items : List Json) (done : Text) :
    writeItems done items = (itemsLine items).reverse ++ done := by
  match items with
  | [] => rfl
  | [item] => simpa [writeItems, itemsLine] using write_eq item done
  | item :: next :: items =>
    have hcomma : lit ", " = [.char ',', .char ' '] := rfl
    rw [writeItems, writeItems_eq (next :: items), write_eq item, itemsLine_cons_cons]
    simp [hcomma]

/-- Fields are written in reverse in front of what is done already. -/
theorem writeFields_eq (fields : List (String × Json)) (done : Text) :
    writeFields done fields = (fieldsLine fields).reverse ++ done := by
  match fields with
  | [] => rfl
  | [(name, value)] => simp [writeFields, write_eq value, fieldsLine, fieldLine]
  | (name, value) :: next :: fields =>
    have hcomma : lit ", " = [.char ',', .char ' '] := rfl
    rw [writeFields, writeFields_eq (next :: fields), write_eq value, fieldsLine_cons_cons]
    simp [hcomma, fieldLine]

end

/-- The line of a number is its decimal numeral. -/
theorem line_number (n : Int) : (number n).line = decimal n := by simp [line, write]

/-- The line of a string is the string in quotes. -/
theorem line_string (t : List CodePoint) : (string t).line = quoted t := by simp [line, write]

/-- The line of an array: the lines of its items, with commas between them. -/
theorem line_array (items : List Json) :
    (array items).line = .char '[' :: (itemsLine items ++ [.char ']']) := by
  simp [line, write, writeItems_eq]

/-- The line of an object: its fields, with commas between them. -/
theorem line_object (fields : List (String × Json)) :
    (object fields).line = .char '\x7b' :: (fieldsLine fields ++ [.char '\x7d']) := by
  simp [line, write, writeFields_eq]

/-! ## Strings are read again -/

/-- The character of a hexadecimal digit is read as that digit. -/
theorem hexDigit?_digitChar : ∀ d < 16, hexDigit? (.char d.digitChar) = some d := by decide

/-- The last of several hexadecimal digits. -/
theorem hexPadded_succ {width : Nat} (h : 0 < width) (n : Nat) :
    hexPadded (width + 1) n = hexPadded width (n / 16) ++ [(n % 16).digitChar] := by
  by_cases hn : n < 16
  · have hzero : n / 16 = 0 := by omega
    have hpadding : List.replicate width '0' = List.replicate (width - 1) '0' ++ ['0'] := by
      rw [← List.replicate_succ', Nat.sub_add_cancel h]
    simp only [hexPadded, Nat.toDigits_of_lt_base hn, hzero, Nat.toDigits_zero, Nat.mod_eq_of_lt hn,
      List.length_singleton, Nat.add_sub_cancel, hpadding]
  · simp [hexPadded, Nat.toDigits_of_base_le (by decide : 1 < 16) (Nat.le_of_not_lt hn),
      Nat.add_sub_add_right]

/-- Four hexadecimal digits, one by one. -/
theorem hexPadded_four {n : Nat} (h : n < 0x10000) :
    hexPadded 4 n = [(n / 16 / 16 / 16).digitChar, (n / 16 / 16 % 16).digitChar,
      (n / 16 % 16).digitChar, (n % 16).digitChar] := by
  have hfirst : n / 16 / 16 / 16 < 16 := by omega
  have hone : hexPadded 1 (n / 16 / 16 / 16) = [(n / 16 / 16 / 16).digitChar] := by
    simp [hexPadded, Nat.toDigits_of_lt_base hfirst]
  rw [hexPadded_succ (by decide), hexPadded_succ (by decide), hexPadded_succ (by decide), hone]
  rfl

/-- **An escape of four digits is read again.** -/
theorem unit?_unit {n : Nat} (h : n < 0x10000) (rest : Text) :
    unit? (unit n ++ rest) = some (n, rest) := by
  have hdigit : ∀ d < 16, hexDigit? (.char d.digitChar) = some d := hexDigit?_digitChar
  have hunit : unit n ++ rest = .char '\\' :: .char 'u' :: .char (n / 16 / 16 / 16).digitChar ::
      .char (n / 16 / 16 % 16).digitChar :: .char (n / 16 % 16).digitChar ::
      .char (n % 16).digitChar :: rest := by
    rw [unit, hexPadded_four h]
    rfl
  have hvalue :
      ((n / 16 / 16 / 16 * 16 + n / 16 / 16 % 16) * 16 + n / 16 % 16) * 16 + n % 16 = n := by
    omega
  rw [hunit, unit?, hdigit _ (by omega), hdigit _ (by omega), hdigit _ (by omega),
    hdigit _ (by omega)]
  simp only [Option.bind_eq_bind, Option.bind_some, hvalue]
  rfl

/-- The numbers of characters are those of no halves. -/
theorem toNat_cases (c : Char) : c.toNat < 0xD800 ∨ 0xDFFF < c.toNat ∧ c.toNat < 0x110000 :=
  c.valid

/-- A code point is told by its number. -/
theorem ofUnit?_number {s : CodePoint} : ofUnit? s.number = some s := by
  cases s with
  | half k =>
    have hk : 0xDC00 ≤ 0xDC00 + k.val ∧ 0xDC00 + k.val < 0xE000 := by omega
    rw [CodePoint.number, ofUnit?, dif_pos hk]
    simp
  | char c =>
    have hvalid : c.toNat < 0xD800 ∨ 0xDFFF < c.toNat := (toNat_cases c).imp_right And.left
    have hnone : ¬(0xDC00 ≤ c.toNat ∧ c.toNat < 0xE000) := by omega
    rw [CodePoint.number, ofUnit?, dif_neg hnone, if_pos hvalid, Char.ofNat_toNat]

/-- The halves of a character above `U+FFFF` are put together again. -/
theorem ofHalves?_halves {c : Char} (h : 0x10000 ≤ c.toNat) :
    ofHalves? (0xD800 + (c.toNat - 0x10000) / 0x400) (0xDC00 + (c.toNat - 0x10000) % 0x400) =
      some (.char c) := by
  have hlow : 0xDC00 ≤ 0xDC00 + (c.toNat - 0x10000) % 0x400 ∧
      0xDC00 + (c.toNat - 0x10000) % 0x400 < 0xE000 := by omega
  have hvalue : 0x10000 + (0xD800 + (c.toNat - 0x10000) / 0x400 - 0xD800) * 0x400 +
      (0xDC00 + (c.toNat - 0x10000) % 0x400 - 0xDC00) = c.toNat := by omega
  rw [ofHalves?, if_pos hlow, hvalue, Char.ofNat_toNat]

/-- The numbers of code points are no first halves. -/
theorem not_isFirstHalf (s : CodePoint) : ¬(0xD800 ≤ s.number ∧ s.number < 0xDC00) := by
  cases s with
  | half k =>
    simp only [CodePoint.number]
    omega
  | char c =>
    have hvalid := toNat_cases c
    simp only [CodePoint.number]
    omega

/-- A code point in one escape is read again. -/
theorem symbol?_unit {s : CodePoint} (hlow : s.number < 0x10000) (rest : Text) :
    symbol? (unit s.number ++ rest) = some (s, rest) := by
  rw [symbol?, unit?_unit hlow]
  simp only [if_neg (not_isFirstHalf s), ofUnit?_number]
  rfl

/-- A character in two escapes is read again. -/
theorem symbol?_units {high low : Nat} {s : CodePoint} (hhigh : 0xD800 ≤ high ∧ high < 0xDC00)
    (hlow : low < 0x10000) (h : ofHalves? high low = some s) (rest : Text) :
    symbol? (unit high ++ (unit low ++ rest)) = some (s, rest) := by
  have hunit : high < 0x10000 := Nat.lt_trans hhigh.2 (by decide)
  rw [symbol?, unit?_unit hunit]
  simp only [if_pos hhigh]
  rw [unit?_unit hlow]
  simp only [Option.bind_eq_bind, Option.bind_some, h]
  rfl

/-- A character that is written as it is is read again. -/
theorem symbol?_plain {c : Char} (hquote : c ≠ '\x22') (hbackslash : c ≠ '\\')
    (hcontrol : ¬c.toNat < 0x20) (rest : Text) :
    symbol? (.char c :: rest) = some (.char c, rest) := by
  have hnone : unit? (.char c :: rest) = none := by
    unfold unit?
    split
    · rename_i hmatch
      exact absurd (Symbol.char.inj (List.cons.inj hmatch).1) hbackslash
    · rfl
  rw [symbol?, hnone]
  simp [unnumbered?, hquote, hbackslash, hcontrol]

/-- A character that is written by a letter behind a backslash is read again. -/
theorem symbol?_letter {letter c : Char} (hletter : letter ≠ 'u') (h : escaped? letter = some c)
    (rest : Text) : symbol? (.char '\\' :: .char letter :: rest) = some (.char c, rest) := by
  have hnone : unit? (.char '\\' :: .char letter :: rest) = none := by
    unfold unit?
    split
    · rename_i hmatch
      exact absurd (Symbol.char.inj (List.cons.inj (List.cons.inj hmatch).2).1) hletter
    · rfl
  rw [symbol?, hnone]
  simp [unnumbered?, h]

/-- **A code point in a string is read again,** however it is written. -/
theorem symbol?_symbol (s : CodePoint) (rest : Text) :
    symbol? (symbol s ++ rest) = some (s, rest) := by
  unfold symbol
  simp only []
  split
  · subst s
    exact symbol?_letter (by decide) rfl rest
  split
  · subst s
    exact symbol?_letter (by decide) rfl rest
  split
  · rename_i hquote hbackslash hplain
    simp only [Bool.and_eq_true, decide_eq_true_eq] at hplain
    cases s with
    | half k =>
      simp only [CodePoint.number] at hplain
      omega
    | char c =>
      rw [CodePoint.number, Char.ofNat_toNat]
      exact symbol?_plain (by simpa using hquote) (by simpa using hbackslash)
        (Nat.not_lt.2 hplain.1) rest
  iterate 5
    split
    · subst s
      exact symbol?_letter (by decide) rfl rest
  split
  · exact symbol?_unit ‹_› rest
  · rename_i hastral
    cases s with
    | half k =>
      simp only [CodePoint.number] at hastral
      omega
    | char c =>
      have hvalid := toNat_cases c
      rw [List.append_assoc]
      exact symbol?_units (by omega) (by omega) (ofHalves?_halves (Nat.le_of_not_lt hastral)) rest

/-- Every code point is written in some characters. -/
theorem symbol_ne_nil (s : CodePoint) : symbol s ≠ [] := by
  intro hnil
  have hnone : symbol? (symbol s ++ []) = none := by
    rw [hnil]
    rfl
  rw [symbol?_symbol] at hnone
  cases hnone

/-- A string is not shorter than its text. -/
theorem length_le_length_flatMap_symbol (t : List CodePoint) :
    t.length ≤ (t.flatMap symbol).length := by
  induction t with
  | nil => exact Nat.le_refl 0
  | cons s t ih =>
    have hpositive := List.length_pos_iff.2 (symbol_ne_nil s)
    rw [List.flatMap_cons, List.length_append, List.length_cons]
    omega

/-- The inside of a string is read up to its closing quote. -/
theorem symbols?_flatMap_symbol (t : List CodePoint) {most : Nat} (h : t.length < most)
    (rest : Text) : symbols? most (t.flatMap symbol ++ .char '\x22' :: rest) = some (t, rest) := by
  induction t generalizing most with
  | nil =>
    obtain ⟨most, rfl⟩ := Nat.exists_eq_succ_of_ne_zero (Nat.ne_of_gt h)
    rfl
  | cons s t ih =>
    obtain ⟨most, rfl⟩ := Nat.exists_eq_succ_of_ne_zero (Nat.ne_of_gt (Nat.zero_lt_of_lt h))
    have hrest := ih (Nat.lt_of_succ_lt_succ h)
    rw [List.flatMap_cons, List.append_assoc]
    unfold symbols?
    rw [symbol?_symbol]
    simp only [hrest]
    rfl

/-- **A string is read again.** -/
theorem symbols?_quoted (t : List CodePoint) (rest : Text) :
    symbols? (t.flatMap symbol ++ .char '\x22' :: rest).length
      (t.flatMap symbol ++ .char '\x22' :: rest) = some (t, rest) := by
  refine symbols?_flatMap_symbol t ?_ rest
  have hlength := length_le_length_flatMap_symbol t
  rw [List.length_append, List.length_cons]
  omega

/-- A string of characters has these characters. -/
theorem chars?_ofString (s : String) : chars? (CodePoint.ofString s) = some s.toList := by
  rw [chars?, CodePoint.ofString]
  induction s.toList with
  | nil => rfl
  | cons c cs ih => simp_all [List.mapM_cons]

/-- A string is a quote, its code points and a quote. -/
theorem quoted_append (t : List CodePoint) (rest : Text) :
    quoted t ++ rest = .char '\x22' :: (t.flatMap symbol ++ .char '\x22' :: rest) := by
  have hquote : lit "\"" = [.char '\x22'] := rfl
  simp [quoted, hquote]

/-! ## Numbers are read again -/

/-- What follows makes a number no longer. -/
def EndsNumber (t : Text) : Prop :=
  ∀ s ∈ t.head?, isDigit s = false ∧ s ∉ [.char '.', .char 'e', .char 'E']

/-- Only zero has digits that begin with a zero. -/
theorem head?_toDigits_ne {n : Nat} (h : 0 < n) : (Nat.toDigits 10 n).head? ≠ some '0' := by
  induction n using Nat.strongRecOn with
  | ind n ih =>
    by_cases hn : n < 10
    · have hdigit : ∀ d < 10, 0 < d → d.digitChar ≠ '0' := by decide
      rw [Nat.toDigits_of_lt_base hn]
      simpa using hdigit n hn h
    · have hfirst := ih (n / 10) (by omega) (by omega)
      obtain ⟨d, ds, hdigits⟩ := List.exists_cons_of_ne_nil (@Nat.toDigits_ne_nil (n / 10) 10)
      rw [Nat.toDigits_of_base_le (by decide) (Nat.le_of_not_lt hn), hdigits]
      rwa [hdigits] at hfirst

/-- A number without a sign is read again. -/
theorem natural?_toDigits (n : Nat) {rest : Text} (hrest : EndsNumber rest) :
    natural? ((Nat.toDigits 10 n).map .char ++ rest) = some (n, rest) := by
  have hall : ∀ s ∈ (Nat.toDigits 10 n).map Symbol.char, isDigit s = true := by
    intro s hs
    obtain ⟨c, hc, rfl⟩ := List.mem_map.1 hs
    exact Nat.isDigit_of_mem_toDigits (by decide) (by decide) hc
  have hdigits : ((Nat.toDigits 10 n).map Symbol.char ++ rest).takeWhile isDigit =
      (Nat.toDigits 10 n).map .char := Text.takeWhile_append hall fun s hs => (hrest s hs).1
  have hdrop :
      ((Nat.toDigits 10 n).map Symbol.char ++ rest).drop (Nat.toDigits 10 n).length = rest :=
    List.drop_left' (List.length_map _)
  have hzero : ¬(Nat.toDigits 10 n = [] ∨
      (Nat.toDigits 10 n).head? = some '0' ∧ Nat.toDigits 10 n ≠ ['0']) := by
    rintro (hnil | ⟨hhead, hne⟩)
    · exact Nat.toDigits_ne_nil hnil
    · rcases Nat.eq_zero_or_pos n with rfl | hpositive
      · exact hne (Nat.toDigits_zero 10)
      · exact head?_toDigits_ne hpositive hhead
  have hend : rest.head? ∉ [some (Symbol.char '.'), some (.char 'e'), some (.char 'E')] := by
    intro hmem
    rcases rest with _ | ⟨s, rest⟩
    · simp at hmem
    · exact (hrest s rfl).2 (by simpa using hmem)
  unfold natural?
  rw [hdigits, Text.chars?_map_char]
  simp only [Option.bind_eq_bind, Option.bind_some, hdrop, if_neg hzero, if_neg hend,
    Numeral.value_toDigits]

/-- **An integer is read again.** -/
theorem number?_decimal (n : Int) {rest : Text} (hrest : EndsNumber rest) :
    number? (decimal n ++ rest) = some (n, rest) := by
  have hnatural := natural?_toDigits n.natAbs hrest
  by_cases hn : n < 0
  · have hdecimal : decimal n ++ rest =
        .char '-' :: ((Nat.toDigits 10 n.natAbs).map .char ++ rest) := by simp [decimal, hn]
    have hvalue : -(n.natAbs : Int) = n := by omega
    rw [hdecimal, number?, hnatural]
    simp only [Option.map_some, hvalue]
  · have hdecimal : decimal n ++ rest = (Nat.toDigits 10 n.natAbs).map .char ++ rest := by
      simp [decimal, hn]
    have hvalue : (n.natAbs : Int) = n := by omega
    obtain ⟨d, ds, hdigits⟩ := List.exists_cons_of_ne_nil (@Nat.toDigits_ne_nil n.natAbs 10)
    have hsign : d ≠ '-' :=
      (Numeral.of_isDigit (Nat.isDigit_of_mem_toDigits (by decide) (by decide)
        (hdigits ▸ List.mem_cons_self))).2.2
    rw [hdecimal]
    unfold number?
    split
    · rename_i hmatch
      rw [hdigits] at hmatch
      exact absurd (Symbol.char.inj (List.cons.inj hmatch).1) hsign
    · rw [hnatural]
      simp [hvalue]

/-! ## Values are read again -/

/-- A text that begins with no blank has none in front of it. -/
theorem skipBlanks_cons {s : Symbol} (h : s ∉ lit " \t\n\r") (t : Text) :
    skipBlanks (s :: t) = s :: t :=
  List.dropWhile_cons_of_neg (by simpa using h)

/-- An integer begins with a minus sign or with a digit. -/
theorem exists_decimal_eq_cons (n : Int) :
    ∃ s t, decimal n = s :: t ∧ (s = .char '-' ∨ isDigit s = true) := by
  by_cases hn : n < 0
  · exact ⟨.char '-', _, by rw [decimal, if_pos hn]; rfl, Or.inl rfl⟩
  · obtain ⟨d, ds, hdigits⟩ := List.exists_cons_of_ne_nil (@Nat.toDigits_ne_nil n.natAbs 10)
    have hdigit : d.isDigit = true :=
      Nat.isDigit_of_mem_toDigits (by decide) (by decide) (hdigits ▸ List.mem_cons_self)
    exact ⟨.char d, ds.map .char, by rw [decimal, if_neg hn, hdigits]; rfl, Or.inr hdigit⟩

/-- The symbols with which no word and no number begins. -/
def delimiters : Text := lit " \t\n\r\"[]\x7b\x7d"

/-- A text that begins with no delimiter is read as a word or a number. -/
theorem value?_of_not_mem_delimiters {s : Symbol} (h : s ∉ delimiters) (fuel : Nat) (t : Text) :
    value? (fuel + 1) (s :: t) = scalar? (s :: t) := by
  have hblank : s ∉ lit " \t\n\r" := fun hmem =>
    h ((by decide : ∀ s ∈ lit " \t\n\r", s ∈ delimiters) s hmem)
  unfold value?
  rw [skipBlanks_cons hblank]
  split
  · rename_i hmatch
    exact absurd ((List.cons.inj hmatch).1 ▸ (by decide : Symbol.char '\x22' ∈ delimiters)) h
  · rename_i hmatch
    exact absurd ((List.cons.inj hmatch).1 ▸ (by decide : Symbol.char '[' ∈ delimiters)) h
  · rename_i hmatch
    exact absurd ((List.cons.inj hmatch).1 ▸ (by decide : Symbol.char '\x7b' ∈ delimiters)) h
  · rfl

/-- An integer is read again as a value. -/
theorem value?_decimal (n : Int) (fuel : Nat) {rest : Text} (hrest : EndsNumber rest) :
    value? (fuel + 1) (decimal n ++ rest) = some (number n, rest) := by
  obtain ⟨s, t, hdecimal, hs⟩ := exists_decimal_eq_cons n
  have hdelimiters : s ∉ delimiters := by
    rcases hs with rfl | hdigit
    · decide
    · intro hmem
      have hother : ∀ s ∈ delimiters, isDigit s = false := by decide
      simp [hother s hmem] at hdigit
  have hscalar : scalar? (decimal n ++ rest) = some (number n, rest) := by
    rw [scalar?, number?_decimal n hrest]
    rfl
  rw [hdecimal, List.cons_append] at hscalar ⊢
  rw [value?_of_not_mem_delimiters hdelimiters, hscalar]

/-- A word is read again as a value. -/
theorem value?_word {word : Text} {value : Json} (h : (word, value) ∈ words) (fuel : Nat)
    (rest : Text) : value? (fuel + 1) (word ++ rest) = some (value, rest) := by
  simp only [words, List.mem_cons, Prod.mk.injEq, List.not_mem_nil, or_false] at h
  rcases h with ⟨rfl, rfl⟩ | ⟨rfl, rfl⟩ | ⟨rfl, rfl⟩
  · exact value?_of_not_mem_delimiters (by decide) fuel _
  · exact value?_of_not_mem_delimiters (by decide) fuel _
  · exact value?_of_not_mem_delimiters (by decide) fuel _

/-- A string is read again as a value. -/
theorem value?_quoted (t : List CodePoint) (fuel : Nat) (rest : Text) :
    value? (fuel + 1) (quoted t ++ rest) = some (string t, rest) := by
  rw [quoted_append, value?, skipBlanks_cons (by decide)]
  simp only [symbols?_quoted]
  rfl

/-- Every line begins with a symbol of its own: no blank, and no closing bracket. -/
theorem exists_line_eq_cons (value : Json) :
    ∃ s t, value.line = s :: t ∧ s ∉ lit " \t\n\r]" := by
  cases value with
  | null => exact ⟨.char 'n', lit "ull", rfl, by decide⟩
  | bool b =>
    cases b with
    | false => exact ⟨.char 'f', lit "alse", rfl, by decide⟩
    | true => exact ⟨.char 't', lit "rue", rfl, by decide⟩
  | number n =>
    obtain ⟨s, t, hdecimal, hs⟩ := exists_decimal_eq_cons n
    refine ⟨s, t, (line_number n).trans hdecimal, ?_⟩
    rcases hs with rfl | hdigit
    · decide
    · intro hmem
      have hother : ∀ s ∈ lit " \t\n\r]", isDigit s = false := by decide
      simp [hother s hmem] at hdigit
  | string t => exact ⟨.char '\x22', _, line_string t, by decide⟩
  | array items => exact ⟨.char '[', _, line_array items, by decide⟩
  | object fields => exact ⟨.char '\x7b', _, line_object fields, by decide⟩

/-- The items of an array begin as its first item does. -/
theorem exists_itemsLine_eq_cons (item : Json) (items : List Json) :
    ∃ s t, itemsLine (item :: items) = s :: t ∧ s ∉ lit " \t\n\r]" := by
  obtain ⟨s, t, hline, hs⟩ := exists_line_eq_cons item
  rcases items with _ | ⟨next, items⟩
  · exact ⟨s, t, by simpa [itemsLine] using hline, hs⟩
  · exact ⟨s, t ++ (lit ", " ++ itemsLine (next :: items)),
      by rw [itemsLine_cons_cons, hline, List.cons_append], hs⟩

/-- The fields of an object begin with the quote of the first name. -/
theorem exists_fieldsLine_eq_cons (field : String × Json) (fields : List (String × Json)) :
    ∃ t, fieldsLine (field :: fields) = .char '\x22' :: t := by
  obtain ⟨name, value⟩ := field
  rcases fields with _ | ⟨next, fields⟩
  · exact ⟨_, by simp [fieldsLine, fieldLine, quoted_append]; rfl⟩
  · exact ⟨_, by simp [fieldsLine_cons_cons, fieldLine, quoted_append]; rfl⟩

/-- An array that is not empty is read as its items. -/
theorem value?_bracket {s : Symbol} (hs : s ∉ lit " \t\n\r]") (fuel : Nat) (t : Text) :
    value? (fuel + 1) (.char '[' :: s :: t) =
      (items? fuel (s :: t)).map fun (items, rest) => (array items, rest) := by
  have hblank : s ∉ lit " \t\n\r" := fun hmem =>
    hs ((by decide : ∀ s ∈ lit " \t\n\r", s ∈ lit " \t\n\r]") s hmem)
  rw [value?, skipBlanks_cons (by decide)]
  simp only [skipBlanks_cons hblank]
  split
  · rename_i hmatch
    exact absurd ((List.cons.inj hmatch).1 ▸ (by decide : Symbol.char ']' ∈ lit " \t\n\r]")) hs
  · rfl

/-- An object that is not empty is read as its fields. -/
theorem value?_brace (fuel : Nat) (t : Text) :
    value? (fuel + 1) (.char '\x7b' :: .char '\x22' :: t) =
      (fields? fuel (.char '\x22' :: t)).map fun (fields, rest) => (object fields, rest) := by
  rw [value?, skipBlanks_cons (by decide)]
  simp only [skipBlanks_cons (by decide : Symbol.char '\x22' ∉ lit " \t\n\r")]
  rfl

/-- An array is read again if its items are. -/
theorem value?_array {items : List Json} {fuel : Nat} {rest : Text}
    (h : items ≠ [] → items? fuel (itemsLine items ++ .char ']' :: rest) = some (items, rest)) :
    value? (fuel + 1) ((array items).line ++ rest) = some (array items, rest) := by
  rw [line_array]
  rcases items with _ | ⟨item, items⟩
  · rfl
  · have hitems := h (List.cons_ne_nil _ _)
    obtain ⟨s, t, hbegins, hs⟩ := exists_itemsLine_eq_cons item items
    have hbracket : .char '[' :: (itemsLine (item :: items) ++ [.char ']']) ++ rest =
        .char '[' :: s :: (t ++ .char ']' :: rest) := by simp [hbegins]
    rw [hbegins, List.cons_append] at hitems
    rw [hbracket, value?_bracket hs, hitems]
    rfl

/-- An object is read again if its fields are. -/
theorem value?_object {fields : List (String × Json)} {fuel : Nat} {rest : Text}
    (h : fields ≠ [] →
      fields? fuel (fieldsLine fields ++ .char '\x7d' :: rest) = some (fields, rest)) :
    value? (fuel + 1) ((object fields).line ++ rest) = some (object fields, rest) := by
  rw [line_object]
  rcases fields with _ | ⟨field, fields⟩
  · rfl
  · have hfields := h (List.cons_ne_nil _ _)
    obtain ⟨t, hbegins⟩ := exists_fieldsLine_eq_cons field fields
    have hbrace : .char '\x7b' :: (fieldsLine (field :: fields) ++ [.char '\x7d']) ++ rest =
        .char '\x7b' :: .char '\x22' :: (t ++ .char '\x7d' :: rest) := by simp [hbegins]
    rw [hbegins, List.cons_append] at hfields
    rw [hbrace, value?_brace, hfields]
    rfl

/-- A blank in front of a value is passed over. -/
theorem value?_space (fuel : Nat) (t : Text) : value? fuel (.char ' ' :: t) = value? fuel t := by
  cases fuel with
  | zero => rfl
  | succ fuel =>
    have hskip : skipBlanks (.char ' ' :: t) = skipBlanks t := rfl
    rw [value?, value?, hskip]

/-- The last item of an array. -/
theorem items?_last {fuel : Nat} {t rest : Text} {item : Json}
    (h : value? fuel t = some (item, .char ']' :: rest)) :
    items? (fuel + 1) t = some ([item], rest) := by
  rw [items?, h]
  rfl

/-- An item of an array in front of others. -/
theorem items?_cons {fuel : Nat} {t later rest : Text} {item : Json} {items : List Json}
    (h : value? fuel t = some (item, lit ", " ++ later))
    (hlater : items? fuel later = some (items, rest)) :
    items? (fuel + 1) t = some (item :: items, rest) := by
  have hspace : items? fuel (.char ' ' :: later) = items? fuel later := by
    cases fuel with
    | zero => rfl
    | succ fuel => rw [items?, items?, value?_space]
  have hskip : skipBlanks (lit ", " ++ later) = .char ',' :: .char ' ' :: later := rfl
  rw [items?, h]
  simp only [Option.bind_eq_bind, Option.bind_some, hskip, hspace, hlater]
  rfl

/-- The name of a field with its colon, and the value behind them. -/
theorem fields?_fieldLine {fuel : Nat} {rest : Text} {name : String} {value : Json}
    (h : value? fuel (value.line ++ rest) = some (value, rest)) :
    fields? (fuel + 1) (fieldLine (name, value) ++ rest) =
      match skipBlanks rest with
      | .char '\x7d' :: rest => some ([(name, value)], rest)
      | .char ',' :: rest =>
          (fields? fuel rest).map fun (fields, rest) => ((name, value) :: fields, rest)
      | _ => none := by
  have hcolon : skipBlanks (lit ": " ++ (value.line ++ rest)) =
      .char ':' :: .char ' ' :: (value.line ++ rest) := rfl
  have hname : chars? (CodePoint.ofString name) = some name.toList := chars?_ofString name
  rw [fieldLine, List.append_assoc, List.append_assoc, quoted_append, fields?,
    skipBlanks_cons (by decide)]
  simp only [symbols?_quoted, Option.bind_eq_bind, Option.bind_some, hname, hcolon, value?_space, h,
    String.ofList_toList]

/-- A blank in front of the fields of an object is passed over. -/
theorem fields?_space (fuel : Nat) (t : Text) : fields? fuel (.char ' ' :: t) = fields? fuel t := by
  cases fuel with
  | zero => rfl
  | succ fuel =>
    have hskip : skipBlanks (.char ' ' :: t) = skipBlanks t := rfl
    rw [fields?, fields?, hskip]

/-- What stands between the parts of a value ends a number. -/
theorem endsNumber_cons {s : Symbol} (h : s ∈ lit ",]\x7d") (t : Text) : EndsNumber (s :: t) := by
  intro a ha
  obtain rfl := Option.some.inj ha
  exact (by decide : ∀ a ∈ lit ",]\x7d",
    isDigit a = false ∧ a ∉ [Symbol.char '.', .char 'e', .char 'E']) s h

/-- A field is longer than its value. -/
theorem length_line_le_length_fieldLine (field : String × Json) :
    field.2.line.length ≤ (fieldLine field).length := by
  rw [fieldLine, List.length_append]
  omega

mutual

/-- **A value is read again** with fuel for twice its length: each item or field takes one step of
its own, and so does each value. -/
theorem value?_line (value : Json) {fuel : Nat} {rest : Text}
    (hfuel : 2 * value.line.length ≤ fuel) (hrest : EndsNumber rest) :
    value? fuel (value.line ++ rest) = some (value, rest) := by
  obtain ⟨s, t, hline, -⟩ := exists_line_eq_cons value
  obtain ⟨fuel, rfl⟩ : ∃ more, fuel = more + 1 := by
    rw [hline, List.length_cons] at hfuel
    exact ⟨fuel - 1, by omega⟩
  cases value with
  | null => exact value?_word List.mem_cons_self fuel rest
  | bool b =>
    cases b with
    | false =>
      exact value?_word (List.mem_cons_of_mem _ (List.mem_cons_of_mem _ List.mem_cons_self))
        fuel rest
    | true => exact value?_word (List.mem_cons_of_mem _ List.mem_cons_self) fuel rest
  | number n =>
    rw [line_number]
    exact value?_decimal n fuel hrest
  | string t =>
    rw [line_string]
    exact value?_quoted t fuel rest
  | array items =>
    rw [line_array, List.length_cons, List.length_append] at hfuel
    exact value?_array fun hne => items?_itemsLine items hne (by omega) rest
  | object fields =>
    rw [line_object, List.length_cons, List.length_append] at hfuel
    exact value?_object fun hne => fields?_fieldsLine fields hne (by omega) rest

/-- Items are read back from their line, with fuel for two steps per symbol. -/
theorem items?_itemsLine (items : List Json) (hne : items ≠ []) {fuel : Nat}
    (hfuel : 2 * (itemsLine items).length < fuel) (rest : Text) :
    items? fuel (itemsLine items ++ .char ']' :: rest) = some (items, rest) := by
  obtain ⟨fuel, rfl⟩ := Nat.exists_eq_succ_of_ne_zero (Nat.ne_of_gt (Nat.zero_lt_of_lt hfuel))
  match items with
  | [] => exact absurd rfl hne
  | [item] =>
    have hone : itemsLine [item] = item.line := by simp [itemsLine]
    rw [hone] at hfuel ⊢
    exact items?_last (value?_line item (by omega) (endsNumber_cons (by decide) _))
  | item :: next :: items =>
    have hmore : itemsLine (item :: next :: items) ++ .char ']' :: rest =
        item.line ++ (lit ", " ++ (itemsLine (next :: items) ++ .char ']' :: rest)) := by
      simp only [itemsLine_cons_cons, List.append_assoc]
    have hcomma : (lit ", ").length = 2 := rfl
    rw [itemsLine_cons_cons, List.length_append, List.length_append] at hfuel
    rw [hmore]
    exact items?_cons (value?_line item (by omega) (endsNumber_cons (by decide) _))
      (items?_itemsLine (next :: items) (by simp) (by omega) rest)

/-- Fields are read back from their line, with fuel for two steps per symbol. -/
theorem fields?_fieldsLine (fields : List (String × Json)) (hne : fields ≠ []) {fuel : Nat}
    (hfuel : 2 * (fieldsLine fields).length < fuel) (rest : Text) :
    fields? fuel (fieldsLine fields ++ .char '\x7d' :: rest) = some (fields, rest) := by
  obtain ⟨fuel, rfl⟩ := Nat.exists_eq_succ_of_ne_zero (Nat.ne_of_gt (Nat.zero_lt_of_lt hfuel))
  match fields with
  | [] => exact absurd rfl hne
  | [(name, value)] =>
    have hone : fieldsLine [(name, value)] = fieldLine (name, value) := by simp [fieldsLine]
    have hvalue : value.line.length ≤ (fieldLine (name, value)).length :=
      length_line_le_length_fieldLine (name, value)
    rw [hone] at hfuel ⊢
    rw [fields?_fieldLine (value?_line value (by omega) (endsNumber_cons (by decide) _))]
    rfl
  | (name, value) :: next :: fields =>
    have hmore : fieldsLine ((name, value) :: next :: fields) ++ .char '\x7d' :: rest =
        fieldLine (name, value) ++
          (lit ", " ++ (fieldsLine (next :: fields) ++ .char '\x7d' :: rest)) := by
      simp only [fieldsLine_cons_cons, List.append_assoc]
    have hvalue : value.line.length ≤ (fieldLine (name, value)).length :=
      length_line_le_length_fieldLine (name, value)
    have hskip : skipBlanks (lit ", " ++ (fieldsLine (next :: fields) ++ .char '\x7d' :: rest)) =
      .char ',' :: .char ' ' :: (fieldsLine (next :: fields) ++ .char '\x7d' :: rest) := rfl
    have hends : EndsNumber (lit ", " ++ (fieldsLine (next :: fields) ++ .char '\x7d' :: rest)) :=
      endsNumber_cons (by decide) _
    have hcomma : (lit ", ").length = 2 := rfl
    rw [fieldsLine_cons_cons, List.length_append, List.length_append] at hfuel
    have hlater : 2 * (fieldsLine (next :: fields)).length < fuel := by omega
    rw [hmore, fields?_fieldLine (value?_line value (by omega) hends), hskip]
    simp only [fields?_space, fields?_fieldsLine (next :: fields) (by simp) hlater rest]
    rfl

end

/-- **The line of a value is read as that value.** -/
theorem read?_line (value : Json) : read? value.line = some value := by
  have hread : value? (2 * value.line.length) (value.line ++ []) = some (value, []) :=
    value?_line value (Nat.le_refl _) (by simp [EndsNumber])
  rw [List.append_nil] at hread
  rw [read?, hread]
  rfl

/-- Strings may be spelled in more than one way, and blanks may stand between the values. -/
example : (read? (lit " [ \"\\u00E9\\/\" ,true,-12]\n")).map line =
    some (lit "[\"\\u00e9/\", true, -12]") := by decide +kernel

end Json

end Launcher
