import Launcher.Proofs.Text.Decoding
import Launcher.Proofs.Text.Pieces
import Launcher.Record

/-!
# Argument records, both ways

A record of arguments gives the arguments back, and the arguments of any bytes whatever give these
bytes back, up to a zero byte at their end.

## Main definitions

* `Launcher.IsArgument` — the texts that the system hands over as arguments.
* `Launcher.Record.IsBeginning` — the beginning of a command, which may end within a word.

## Main results

* `Launcher.Record.decode_encode_map` — a record holds its arguments.
* `Launcher.Record.encode_decode_eq` — the arguments of a record determine it, up to its last byte.
* `Launcher.Record.isBeginning_decode_take` — a record that has been cut off.
-/

namespace Launcher

/-- A text that the system can hand over as an argument: what some bytes without a zero byte are
decoded to. -/
def IsArgument (t : Text) : Prop := ∃ bytes : Bytes, 0 ∉ bytes ∧ t = Text.decode bytes

/-- An argument is found again in its own bytes, none of which is zero. -/
theorem isArgument_iff_decode_encode {t : Text} :
    IsArgument t ↔ 0 ∉ t.encode ∧ Text.decode t.encode = t := by
  constructor
  · rintro ⟨bytes, hzero, rfl⟩
    rw [Text.encode_decode]
    exact ⟨hzero, rfl⟩
  · rintro ⟨hzero, ht⟩
    exact ⟨t.encode, hzero, ht.symm⟩

/-- Whether a text can be handed over as an argument is decided by way of its bytes. -/
instance (t : Text) : Decidable (IsArgument t) :=
  decidable_of_iff _ isArgument_iff_decode_encode.symm

namespace Record

/-! ## From arguments -/

/-- The record of decoded words holds the words, each with a zero byte behind it. -/
theorem encode_map_decode (words : List Bytes) :
    encode (words.map Text.decode) = words.flatMap (· ++ [0]) := by
  simp [encode, List.flatMap_map]

/-- The arguments of a record whose last zero byte is there are the pieces before it. -/
theorem decode_append_zero (body : Bytes) :
    decode (body ++ [0]) = (pieces 0 body).map Text.decode := by
  simp [decode]

/-- The arguments of a record whose last zero byte is missing are all its pieces. -/
theorem decode_of_getLast?_ne_zero {record : Bytes} (hne : record ≠ [])
    (hlast : record.getLast? ≠ some 0) : decode record = (pieces 0 record).map Text.decode := by
  simp [decode, hne, hlast]

/-- Words without zero bytes are found again in the record of them. -/
theorem decode_flatMap_append_zero {words : List Bytes} (h : ∀ word ∈ words, 0 ∉ word) :
    decode (words.flatMap (· ++ [0])) = words.map Text.decode := by
  rcases List.eq_nil_or_concat words with rfl | ⟨front, last, rfl⟩
  · rfl
  · rw [List.concat_eq_append] at h ⊢
    have hfront : ∀ word ∈ front, 0 ∉ word := fun word hw => h word (by simp [hw])
    have hlast : 0 ∉ last := h last (by simp)
    rw [List.flatMap_append, List.flatMap_singleton, ← List.append_assoc, decode_append_zero,
      pieces_flatMap_append hfront, pieces_of_not_mem hlast]

/-- Arguments are found again in the record of them. -/
theorem decode_encode {arguments : List Text} (h : ∀ argument ∈ arguments, IsArgument argument) :
    decode (encode arguments) = arguments := by
  have hwords : ∃ words : List Bytes, (∀ word ∈ words, 0 ∉ word) ∧
      arguments = words.map Text.decode := by
    induction arguments with
    | nil => exact ⟨[], by simp, rfl⟩
    | cons argument arguments ih =>
      obtain ⟨⟨word, hword, rfl⟩, hrest⟩ := List.forall_mem_cons.1 h
      obtain ⟨words, hwords, rfl⟩ := ih hrest
      exact ⟨word :: words, List.forall_mem_cons.2 ⟨hword, hwords⟩, rfl⟩
  obtain ⟨words, hzero, rfl⟩ := hwords
  rw [encode_map_decode, decode_flatMap_append_zero hzero]

/-- **A record holds its arguments.** For words without zero bytes, the record of the decoded words
is the words with a zero byte behind each, and reading it gives the decoded words back; so different
words have different records. -/
theorem decode_encode_map (words : List Bytes) (h : ∀ word ∈ words, 0 ∉ word) :
    decode (encode (words.map Text.decode)) = words.map Text.decode ∧
      encode (words.map Text.decode) = words.flatMap (· ++ [0]) ∧
      ∀ others : List Bytes, (∀ word ∈ others, 0 ∉ word) →
        encode (words.map Text.decode) = encode (others.map Text.decode) →
        words.map Text.decode = others.map Text.decode := by
  have hback : ∀ words : List Bytes, (∀ word ∈ words, 0 ∉ word) →
      decode (encode (words.map Text.decode)) = words.map Text.decode := by
    intro words hwords
    rw [encode_map_decode, decode_flatMap_append_zero hwords]
  refine ⟨hback words h, encode_map_decode words, fun others hothers heq => ?_⟩
  rw [← hback words h, heq, hback others hothers]

/-- An empty word, a truncated character with an overlong slash, a letter, and an empty word again:
none of them is lost, and they are not mistaken for the words without the last. -/
theorem decode_encode_map_stray_bytes :
    (∀ word ∈ [[], [0xE2, 0x82, 0xC0, 0xAF], [0x61], ([] : Bytes)], 0 ∉ word) ∧
      (∀ word ∈ [[], [0xE2, 0x82, 0xC0, 0xAF], ([0x61] : Bytes)], 0 ∉ word) ∧
      decode [0, 0xE2, 0x82, 0xC0, 0xAF, 0, 0x61, 0, 0] =
        [[], [.raw 0x62, .raw 0x02, .raw 0x40, .raw 0x2F], lit "a", []] ∧
      encode [[], [.raw 0x62, .raw 0x02, .raw 0x40, .raw 0x2F], lit "a", []] ≠
        encode [[], [.raw 0x62, .raw 0x02, .raw 0x40, .raw 0x2F], lit "a"] := by
  have h : ∀ word ∈ [[], [0xE2, 0x82, 0xC0, 0xAF], [0x61], ([] : Bytes)], 0 ∉ word := by decide
  have hothers : ∀ word ∈ [[], [0xE2, 0x82, 0xC0, 0xAF], ([0x61] : Bytes)], 0 ∉ word := by decide
  obtain ⟨hback, hform, hinjective⟩ := decode_encode_map _ h
  refine ⟨h, hothers, ?_, fun heq => ?_⟩
  · rw [hform] at hback
    exact hback.trans (by decide +kernel)
  · exact absurd (hinjective _ hothers (by exact heq)) (by decide +kernel)

/-! ## From any bytes -/

/-- The bytes before the last zero byte of a record, if it ends in one. -/
theorem eq_append_zero_of_getLast? {record : Bytes} (h : record.getLast? = some 0) :
    ∃ body, record = body ++ [0] := by
  obtain ⟨body, hbody⟩ := List.getLast?_eq_some_iff.1 h
  exact ⟨body, hbody⟩

/-- What the arguments of a record spell: the record, with the last zero byte if it was missing. -/
theorem encode_decode (record : Bytes) :
    encode (decode record) =
      if record = [] ∨ record.getLast? = some 0 then record else record ++ [0] := by
  by_cases hnil : record = []
  · subst hnil
    rfl
  · by_cases hlast : record.getLast? = some 0
    · obtain ⟨body, rfl⟩ := eq_append_zero_of_getLast? hlast
      rw [if_pos (Or.inr hlast), decode_append_zero, encode_map_decode, flatMap_pieces]
    · rw [if_neg (by simp [hnil, hlast]), decode_of_getLast?_ne_zero hnil hlast, encode_map_decode,
        flatMap_pieces]

/-- There are as many arguments as zero bytes, and one more if the last zero byte is missing. -/
theorem length_decode (record : Bytes) :
    (decode record).length =
      record.count 0 + if record = [] ∨ record.getLast? = some 0 then 0 else 1 := by
  by_cases hnil : record = []
  · subst hnil
    rfl
  · by_cases hlast : record.getLast? = some 0
    · obtain ⟨body, rfl⟩ := eq_append_zero_of_getLast? hlast
      rw [if_pos (Or.inr hlast), decode_append_zero, List.length_map, length_pieces,
        List.count_append, List.count_singleton_self]
    · rw [if_neg (by simp [hnil, hlast]), decode_of_getLast?_ne_zero hnil hlast, List.length_map,
        length_pieces]

/-- No argument of a record has the character of a zero byte. -/
theorem zero_not_mem_of_mem_decode {record : Bytes} {argument : Text}
    (h : argument ∈ decode record) : Symbol.char '\x00' ∉ argument := by
  have hpiece : ∀ l : Bytes, argument ∈ (pieces 0 l).map Text.decode →
      Symbol.char '\x00' ∉ argument := by
    intro l hmem
    obtain ⟨piece, hp, rfl⟩ := List.mem_map.1 hmem
    rw [← Text.zero_mem_encode_iff, Text.encode_decode]
    exact not_mem_of_mem_pieces hp
  unfold decode at h
  split at h
  · exact absurd h (List.not_mem_nil)
  · exact hpiece _ h

/-- **The arguments of a record determine it, up to its last byte.** Whatever the bytes are, their
arguments hold no character of a zero byte, there are as many as zero bytes, not counting a missing
last one, and the record of them is the bytes again, with the last zero byte if it was missing. So
bytes with the same arguments differ by one zero byte at the end, if at all. -/
theorem encode_decode_eq (record : Bytes) :
    (∀ argument ∈ decode record, Symbol.char '\x00' ∉ argument) ∧
      (decode record).length =
        record.count 0 + (if record = [] ∨ record.getLast? = some 0 then 0 else 1) ∧
      encode (decode record) =
        (if record = [] ∨ record.getLast? = some 0 then record else record ++ [0]) ∧
      ∀ other, decode record = decode other →
        record = other ∨ record = other ++ [0] ∨ other = record ++ [0] := by
  refine ⟨fun _ h => zero_not_mem_of_mem_decode h, length_decode record, encode_decode record,
    fun other heq => ?_⟩
  have hspell := encode_decode record
  rw [heq, encode_decode other] at hspell
  split at hspell <;> split at hspell
  · exact Or.inl hspell.symm
  · exact Or.inr (Or.inr hspell)
  · exact Or.inr (Or.inl hspell.symm)
  · exact Or.inl (List.append_cancel_right hspell).symm

/-! ## From the beginning of a record -/

/-- The words are a beginning of a command: some of its first words, and perhaps some of the first
bytes of the next one. -/
inductive IsBeginning (command : List Text) : List Text → Prop
  | words (n : Nat) : IsBeginning command (command.take n)
  | cut (n : Nat) {word : Text} {bytes : Bytes} (hword : command[n]? = some word)
      (hbytes : bytes <+: word.encode) (hne : bytes ≠ []) :
      IsBeginning command (command.take n ++ [Text.decode bytes])

/-- The first word of a record ends at the first zero byte. -/
theorem decode_append_zero_cons {word : Bytes} (hzero : 0 ∉ word) (rest : Bytes) :
    decode (word ++ 0 :: rest) = Text.decode word :: decode rest := by
  rcases List.eq_nil_or_concat rest with rfl | ⟨front, last, rfl⟩
  · rw [decode_append_zero, pieces_of_not_mem hzero]
    rfl
  · have hassoc : word ++ 0 :: (front ++ [last]) = (word ++ 0 :: front) ++ [last] := by simp
    rw [List.concat_eq_append, hassoc]
    by_cases hlast : last = 0
    · subst hlast
      rw [decode_append_zero, decode_append_zero, pieces_append_cons_of_not_mem front hzero]
      rfl
    · have hend : ∀ l : Bytes, (l ++ [last]).getLast? ≠ some 0 := fun l h =>
        hlast (Option.some.inj (List.getLast?_concat.symm.trans h))
      rw [decode_of_getLast?_ne_zero (by simp) (hend _),
        decode_of_getLast?_ne_zero (by simp) (hend _), ← hassoc,
        pieces_append_cons_of_not_mem _ hzero]
      rfl

/-- A record without zero bytes is that of one word, which may lack its end. -/
theorem decode_of_zero_not_mem {bytes : Bytes} (hzero : 0 ∉ bytes) (hne : bytes ≠ []) :
    decode bytes = [Text.decode bytes] := by
  have hlast : bytes.getLast? ≠ some 0 := fun h => hzero (List.mem_of_getLast? h)
  rw [decode_of_getLast?_ne_zero hne hlast, pieces_of_not_mem hzero]
  rfl

/-- One word more before a beginning. -/
theorem IsBeginning.cons {command shown : List Text} (h : IsBeginning command shown) (word : Text) :
    IsBeginning (word :: command) (word :: shown) := by
  cases h with
  | words n => exact .words (n + 1)
  | cut n hword hbytes hne => exact .cut (n + 1) hword hbytes hne

/-- **A record that has been cut off holds a beginning of its command.** -/
theorem isBeginning_decode_take {command : List Text}
    (h : ∀ argument ∈ command, IsArgument argument) (n : Nat) :
    IsBeginning command (decode ((encode command).take n)) := by
  induction command generalizing n with
  | nil =>
    show IsBeginning [] (decode (([] : Bytes).take n))
    rw [List.take_nil]
    exact .words 0
  | cons word command ih =>
    obtain ⟨hword, hcommand⟩ := List.forall_mem_cons.1 h
    obtain ⟨hzero, hdecode⟩ := isArgument_iff_decode_encode.1 hword
    have hencode : encode (word :: command) = word.encode ++ 0 :: encode command := by
      simp [encode]
    rw [hencode]
    by_cases hn : n ≤ word.encode.length
    · rw [List.take_append_of_le_length hn]
      by_cases hnil : word.encode.take n = []
      · rw [hnil]
        exact .words 0
      · rw [decode_of_zero_not_mem (fun hm => hzero (List.mem_of_mem_take hm)) hnil]
        exact .cut 0 rfl (List.take_prefix n _) hnil
    · obtain ⟨k, rfl⟩ : ∃ k, n = word.encode.length + (k + 1) :=
        ⟨n - word.encode.length - 1, by omega⟩
      rw [List.take_length_add_append, List.take_succ_cons, decode_append_zero_cons hzero, hdecode]
      exact (ih hcommand k).cons word

end Record

end Launcher
