import Launcher.Text.Utf8

/-!
# Decoding loses nothing

Decoding puts a character exactly where the UTF-8 form of one stands, and keeps every other byte as
a stray one. So a text that was decoded spells the bytes that it came from.

## Main results

* `Launcher.Utf8.headChar?_eq_some_iff` — what is read as the first character of some bytes.
* `Launcher.Text.encode_decode` — decoded bytes are spelled as they were.
* `Launcher.Text.zero_mem_encode_iff` — a text spells a zero byte only by the character of it.
-/

namespace Launcher

/-! ## The first character -/

namespace Utf8

/-- The four shapes of the UTF-8 form of a character, by the size of its code point. -/
theorem utf8EncodeChar_cases (c : Char) :
    (c.toNat < 0x80 ∧ String.utf8EncodeChar c = [UInt8.ofNat c.toNat]) ∨
    (0x80 ≤ c.toNat ∧ c.toNat < 0x800 ∧ String.utf8EncodeChar c =
      [UInt8.ofNat (c.toNat / 0x40 % 0x20 + 0xC0), UInt8.ofNat (c.toNat % 0x40 + 0x80)]) ∨
    (0x800 ≤ c.toNat ∧ c.toNat < 0x10000 ∧ String.utf8EncodeChar c =
      [UInt8.ofNat (c.toNat / 0x1000 % 0x10 + 0xE0), UInt8.ofNat (c.toNat / 0x40 % 0x40 + 0x80),
       UInt8.ofNat (c.toNat % 0x40 + 0x80)]) ∨
    (0x10000 ≤ c.toNat ∧ String.utf8EncodeChar c =
      [UInt8.ofNat (c.toNat / 0x40000 % 0x08 + 0xF0), UInt8.ofNat (c.toNat / 0x1000 % 0x40 + 0x80),
       UInt8.ofNat (c.toNat / 0x40 % 0x40 + 0x80), UInt8.ofNat (c.toNat % 0x40 + 0x80)]) := by
  have hv : c.val.toNat = c.toNat := rfl
  unfold String.utf8EncodeChar
  simp only [hv]
  split
  · exact Or.inl ⟨by omega, rfl⟩
  · split
    · exact Or.inr (Or.inl ⟨by omega, by omega, rfl⟩)
    · split
      · exact Or.inr (Or.inr (Or.inl ⟨by omega, by omega, rfl⟩))
      · exact Or.inr (Or.inr (Or.inr ⟨by omega, rfl⟩))

/-- A code point is below `0x110000`. -/
theorem toNat_lt (c : Char) : c.toNat < 0x110000 := by
  have h := c.valid
  have hv : c.val.toNat = c.toNat := rfl
  simp only [UInt32.isValidChar, Nat.isValidChar, hv] at h
  omega

/-- The width read off the lead of a UTF-8 form is its length. -/
theorem width_lead {c : Char} {lead : UInt8} {tail : Bytes}
    (h : String.utf8EncodeChar c = lead :: tail) : width lead = tail.length + 1 := by
  have hlt := toNat_lt c
  rcases utf8EncodeChar_cases c with ⟨h1, he⟩ | ⟨h1, h2, he⟩ | ⟨h1, h2, he⟩ | ⟨h1, he⟩ <;>
    rw [he] at h <;> obtain ⟨rfl, rfl⟩ := List.cons.inj h <;>
    simp only [width, UInt8.lt_iff_toNat_lt, UInt8.toNat_ofNat', UInt8.reduceToNat,
      List.length_cons, List.length_nil]
  · rw [if_pos (by omega)]
  · rw [if_neg (by omega), if_pos (by omega)]
  · rw [if_neg (by omega), if_neg (by omega), if_pos (by omega)]
  · rw [if_neg (by omega), if_neg (by omega), if_neg (by omega)]

/-- The payload of a UTF-8 form is the code point. -/
theorem payload_utf8EncodeChar (c : Char) : payload (String.utf8EncodeChar c) = c.toNat := by
  have hlt := toNat_lt c
  rcases utf8EncodeChar_cases c with ⟨h1, he⟩ | ⟨h1, h2, he⟩ | ⟨h1, h2, he⟩ | ⟨h1, he⟩ <;>
    rw [he] <;> simp only [payload, UInt8.toNat_ofNat'] <;> omega

/-- **A character is read where its UTF-8 form stands**, and nowhere else.

**Proof sketch.** Whatever is read has been compared with its UTF-8 form. Conversely the lead of a
UTF-8 form tells its length, so the form is cut out whole, and its payload is the code point. -/
theorem headChar?_eq_some_iff {bytes : Bytes} {c : Char} :
    headChar? bytes = some c ↔ String.utf8EncodeChar c <+: bytes := by
  constructor
  · intro h
    cases bytes with
    | nil => simp [headChar?] at h
    | cons lead rest =>
      simp only [headChar?] at h
      split at h
      · next heq =>
        obtain rfl := Option.some.inj h
        rw [heq]
        exact List.take_prefix _ _
      · simp at h
  · rintro ⟨later, rfl⟩
    obtain ⟨lead, tail, he⟩ : ∃ lead tail, String.utf8EncodeChar c = lead :: tail :=
      List.exists_cons_of_ne_nil String.utf8EncodeChar_ne_nil
    have hgroup : (lead :: (tail ++ later)).take (width lead) = String.utf8EncodeChar c := by
      rw [width_lead he, he, ← List.cons_append]
      exact List.take_left' (by simp)
    have hchar : Char.ofNat (payload (String.utf8EncodeChar c)) = c := by
      rw [payload_utf8EncodeChar, Char.ofNat_toNat]
    rw [he, List.cons_append, headChar?]
    simp only [hgroup, hchar, ↓reduceIte]

/-- A byte below `0x80` is a character. -/
theorem headChar?_ne_none_of_lt {lead : UInt8} (h : lead < 0x80) (rest : Bytes) :
    headChar? (lead :: rest) ≠ none := by
  have hlt : lead.toNat < 0x80 := by simpa [UInt8.lt_iff_toNat_lt] using h
  have hnat : (Char.ofNat lead.toNat).toNat = lead.toNat := toNat_charOfNat (Or.inl (by omega))
  have hform : String.utf8EncodeChar (Char.ofNat lead.toNat) = [lead] := by
    rcases utf8EncodeChar_cases (Char.ofNat lead.toNat) with
      ⟨_, he⟩ | ⟨h1, _⟩ | ⟨h1, _⟩ | ⟨h1, _⟩
    · rw [he, hnat, UInt8.ofNat_toNat]
    all_goals omega
  have hread := headChar?_eq_some_iff.2 (⟨rest, by rw [hform]; rfl⟩ :
    String.utf8EncodeChar (Char.ofNat lead.toNat) <+: lead :: rest)
  rw [hread]
  simp

/-- Bytes are nothing, or the UTF-8 form of a character and more bytes, or a byte that belongs to no
character and more bytes. -/
@[elab_as_elim]
theorem bytes_induction {P : Bytes → Prop} (nil : P [])
    (char : ∀ c rest, P rest → P (String.utf8EncodeChar c ++ rest))
    (stray : ∀ lead rest, headChar? (lead :: rest) = none → P rest → P (lead :: rest)) :
    ∀ bytes, P bytes
  | [] => nil
  | lead :: rest =>
    match h : headChar? (lead :: rest) with
    | some c => by
      obtain ⟨later, hlater⟩ := headChar?_eq_some_iff.1 h
      have hlength : later.length < rest.length + 1 := by
        rw [← List.length_cons, ← hlater, List.length_append, String.length_utf8EncodeChar]
        have := c.utf8Size_pos
        omega
      rw [← hlater]
      exact char c later (bytes_induction nil char stray later)
    | none => stray lead rest h (bytes_induction nil char stray rest)
termination_by bytes => bytes.length

end Utf8

/-! ## Decoding, one symbol at a time -/

/-- The stray byte of a byte that is no character is spelled as that byte. -/
theorem Symbol.encode_raw_ofNat {lead : UInt8} (h : ¬lead < 0x80) :
    (Symbol.raw (Fin.ofNat 128 lead.toNat)).encode = [lead] := by
  have hge : 0x80 ≤ lead.toNat := by simpa [UInt8.lt_iff_toNat_lt] using h
  have hlt := lead.toNat_lt
  simp only [Symbol.encode, Fin.val_ofNat, List.cons.injEq, and_true]
  apply UInt8.toNat_inj.1
  rw [UInt8.toNat_ofNat']
  omega

/-- A stray byte is spelled as one byte from `0x80` on. -/
theorem Symbol.encode_raw (b : Fin 128) :
    ∃ lead : UInt8, (Symbol.raw b).encode = [lead] ∧ ¬lead < 0x80 ∧
      Fin.ofNat 128 lead.toNat = b := by
  have hb := b.isLt
  have hval : (UInt8.ofNat (0x80 + b.val)).toNat = 0x80 + b.val := by
    rw [UInt8.toNat_ofNat']
    omega
  refine ⟨UInt8.ofNat (0x80 + b.val), rfl, ?_, ?_⟩
  · simp only [UInt8.lt_iff_toNat_lt, hval, UInt8.reduceToNat]
    omega
  · apply Fin.ext
    rw [Fin.val_ofNat, hval]
    omega

/-- A byte below `0x80` stands for its character and is part of no other symbol. -/
theorem Symbol.ascii_mem_encode_iff {c : Char} (hascii : c.toNat < 0x80) (a : Symbol) :
    UInt8.ofNat c.toNat ∈ a.encode ↔ a = .char c := by
  cases a with
  | raw b =>
    obtain ⟨lead, hlead, hge, -⟩ := Symbol.encode_raw b
    have hne : UInt8.ofNat c.toNat ≠ lead := by
      rintro rfl
      refine hge ?_
      simp only [UInt8.lt_iff_toNat_lt, UInt8.toNat_ofNat', UInt8.reduceToNat]
      omega
    simpa [hlead] using hne
  | char d =>
    have hchar : Symbol.char d = .char c ↔ d.toNat = c.toNat := by
      rw [Symbol.char.injEq, Char.toNat_inj]
    have hlt := Utf8.toNat_lt d
    rw [hchar]
    rcases Utf8.utf8EncodeChar_cases d with ⟨h1, he⟩ | ⟨h1, h2, he⟩ | ⟨h1, h2, he⟩ | ⟨h1, he⟩ <;>
      simp only [Symbol.encode, he, List.mem_cons, List.not_mem_nil, or_false, ← UInt8.toNat_inj,
        UInt8.toNat_ofNat'] <;>
      omega

/-- Only one symbol is spelled with a zero byte. -/
theorem Symbol.zero_mem_encode_iff (a : Symbol) : 0 ∈ a.encode ↔ a = .char '\x00' :=
  Symbol.ascii_mem_encode_iff (c := '\x00') (by decide) a

/-- Every symbol is spelled with some byte. -/
theorem Symbol.encode_ne_nil (a : Symbol) : a.encode ≠ [] := by
  cases a with
  | char c => exact String.utf8EncodeChar_ne_nil
  | raw b => exact List.cons_ne_nil _ _

namespace Text

/-- Bytes that belong to the last character read are passed over. -/
theorem decode_go_skip (done : Text) :
    ∀ (pending : Nat) (bytes : Bytes),
      decode.go done pending bytes = decode.go done 0 (bytes.drop pending)
  | 0, _ => rfl
  | _ + 1, [] => rfl
  | pending + 1, _ :: rest => decode_go_skip done pending rest

/-- What was read before stands in front. -/
theorem decode_go_done (bytes : Bytes) :
    ∀ (done : Text) (pending : Nat),
      decode.go done pending bytes = done.reverse ++ decode.go [] pending bytes := by
  induction bytes with
  | nil => intro done pending; cases pending <;> simp [decode.go]
  | cons lead rest ih =>
    intro done pending
    cases pending with
    | zero =>
      cases h : Utf8.headChar? (lead :: rest) with
      | none =>
        simp only [decode.go, h]
        rw [ih (_ :: done), ih [_]]
        simp
      | some c =>
        simp only [decode.go, h]
        rw [ih (_ :: done), ih [_]]
        simp
    | succ pending => exact ih done pending

/-- A UTF-8 form at the front is read as its character. -/
theorem decode_utf8EncodeChar_append (c : Char) (rest : Bytes) :
    decode (String.utf8EncodeChar c ++ rest) = .char c :: decode rest := by
  obtain ⟨lead, tail, he⟩ : ∃ lead tail, String.utf8EncodeChar c = lead :: tail :=
    List.exists_cons_of_ne_nil String.utf8EncodeChar_ne_nil
  have hread : Utf8.headChar? (lead :: (tail ++ rest)) = some c := by
    rw [Utf8.headChar?_eq_some_iff, ← List.cons_append, ← he]
    exact List.prefix_append _ _
  rw [he, List.cons_append, decode, decode.go, hread]
  simp only
  rw [Utf8.width_lead he, decode_go_skip, decode_go_done]
  simp [decode]

/-- A byte at which no UTF-8 form begins is read as a stray one. -/
theorem decode_cons_of_headChar?_eq_none {lead : UInt8} {rest : Bytes}
    (h : Utf8.headChar? (lead :: rest) = none) :
    decode (lead :: rest) = .raw (Fin.ofNat 128 lead.toNat) :: decode rest := by
  rw [decode, decode.go, h]
  simp only
  rw [decode_go_done]
  simp [decode]

/-! ## Back to the bytes -/

/-- The bytes of a symbol come before the bytes of the rest. -/
@[simp] theorem encode_cons (a : Symbol) (t : Text) : encode (a :: t) = a.encode ++ encode t := by
  simp [encode]

/-- **Decoded bytes are spelled as they were.** -/
@[simp] theorem encode_decode (bytes : Bytes) : encode (decode bytes) = bytes := by
  induction bytes using Utf8.bytes_induction with
  | nil => rfl
  | char c rest ih =>
    rw [decode_utf8EncodeChar_append, encode_cons, ih]
    rfl
  | stray lead rest h ih =>
    -- bytes below `0x80` are characters, so a stray byte is in the range that `Symbol.raw` can hold
    have hstray : ¬lead < 0x80 := fun hlt => Utf8.headChar?_ne_none_of_lt hlt rest h
    rw [decode_cons_of_headChar?_eq_none h, encode_cons, Symbol.encode_raw_ofNat hstray, ih]
    rfl

/-! ## Zero bytes -/

/-- **A text spells a zero byte only by the character of it.** -/
theorem zero_mem_encode_iff (t : Text) : 0 ∈ encode t ↔ Symbol.char '\x00' ∈ t := by
  simp only [encode, List.mem_flatMap, Symbol.zero_mem_encode_iff]
  constructor
  · rintro ⟨_, ha, rfl⟩
    exact ha
  · exact fun h => ⟨_, h, rfl⟩

end Text

end Launcher
