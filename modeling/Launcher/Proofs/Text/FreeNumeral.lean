import Mathlib.Data.List.DropRight
import Mathlib.Data.List.Forall2
import Launcher.Proofs.Text.Numeral

/-!
# Free numerals

A free numeral is spelled by blanks, a sign or none, the mark of its base or none, digits with an
underscore between two of them or none, and blanks again. Blanks and digits may be those of any
script. Of the blanks, the four separators of information are no part of a numeral. An octal mark is
a zero and the letter `o`, and may have an underscore behind it.

A zero may be the first digit of a numeral or belong to its mark, and an underscore may stand behind
the mark as well as between digits. All the same no text is spelled as numerals of two integers: a
text is read as the only one for which it can stand. Every strict decimal numeral is a free one too,
and stands for the same integer as such.

## Main definitions

* `Launcher.Numeral.IsSpelled` — how numerals are spelled, with margins and marks of given kinds.
* `Launcher.Numeral.IsFree` — how a free numeral is spelled.
* `Launcher.Numeral.Base.meaning` — the integer for which a sign and digits of a base stand.

## Main results

* `Launcher.Numeral.asciiForm?_eq_some_iff` — how a symbol is read.
* `Launcher.Numeral.isFree_iff` — how the spelling of a free numeral is read.
* `Launcher.Numeral.free?_eq_some_iff` — what is read as a free numeral.
* `Launcher.Numeral.free?_of_isStrict` — strict numerals are among them.
-/

namespace Launcher

namespace Unicode

variable {c : Char}

/-- The decimal digits of ASCII. -/
theorem digitValue?_of_toNat_lt (h : c.toNat < 0x7F) :
    digitValue? c = if 48 ≤ c.toNat ∧ c.toNat < 58 then some (c.toNat - 48) else none := by
  have hall : ∀ n < 0x7F, digitValue? (Char.ofNat n) =
      if 48 ≤ n ∧ n < 58 then some (n - 48) else none := by decide +kernel
  have hc := hall c.toNat h
  rwa [Char.ofNat_toNat] at hc

/-- The blanks of ASCII are those of Unicode but for the four separators of information. -/
theorem isAsciiBlank_of_toNat_lt (h : c.toNat < 0x7F) :
    isAsciiBlank c = (isBlank c && !(0x1C ≤ c.toNat && c.toNat ≤ 0x1F)) := by
  have hall : ∀ n < 0x7F, isAsciiBlank (Char.ofNat n) =
      (isBlank (Char.ofNat n) && !(0x1C ≤ n && n ≤ 0x1F)) := by decide +kernel
  have hc := hall c.toNat h
  rwa [Char.ofNat_toNat] at hc

/-- No digit is a blank. -/
theorem isBlank_of_digitValue? {d : Nat} (h : digitValue? c = some d) : isBlank c = false := by
  have hapart : ∀ z ∈ zeros, ∀ range ∈ blanks, range.2 < z ∨ z + 10 ≤ range.1 := by decide +kernel
  obtain ⟨z, hz, -⟩ := Option.map_eq_some_iff.1 h
  have hfound := List.find?_some hz
  simp only [Bool.and_eq_true, decide_eq_true_eq] at hfound
  simp only [isBlank, List.any_eq_false, Bool.and_eq_true, decide_eq_true_eq, not_and]
  intro range hrange hfirst
  have hside := hapart z (List.mem_of_find?_eq_some hz) range hrange
  omega

end Unicode

namespace Numeral

variable {base : Base} {text : Text} {sign : List Char} {digits : List Nat} {s : Symbol}
  {form : Char} {forms spelled front mark body back : List Char} {d : Nat}

/-! ## Spelling -/

/-- The symbol is a digit of the base with this value, in any script. -/
inductive IsDigit (base : Base) : Symbol → Nat → Prop where
  | char {c : Char} {d : Nat} (h : Unicode.digitValue? c = some d) (hlt : d < base.radix) :
      IsDigit base (.char c) d

/-- The symbol may stand around a free numeral: it is a blank, but none of the four separators of
information. -/
inductive IsMargin : Symbol → Prop where
  | char {c : Char} (h : Unicode.isBlank c = true) (hnot : c.toNat < 0x1C ∨ 0x1F < c.toNat) :
      IsMargin (.char c)

/-- The symbols are digits of these values, with an underscore between two of them or none. -/
inductive Grouped (base : Base) : Text → List Nat → Prop where
  | last {s : Symbol} {d : Nat} (h : IsDigit base s d) : Grouped base [s] [d]
  | next {s : Symbol} {d : Nat} {later : Text} {digits : List Nat} (h : IsDigit base s d)
      (hlater : Grouped base later digits) : Grouped base (s :: later) (d :: digits)
  | apart {s : Symbol} {d : Nat} {later : Text} {digits : List Nat} (h : IsDigit base s d)
      (hlater : Grouped base later digits) :
      Grouped base (s :: .char '_' :: later) (d :: digits)

/-- The symbols are an octal mark with this zero: the zero and the letter `o`, with an underscore
behind them or none. -/
inductive IsOctalMark (z : Symbol) : Text → Prop where
  | bare {letter : Char} (h : letter = 'o' ∨ letter = 'O') : IsOctalMark z [z, .char letter]
  | apart {letter : Char} (h : letter = 'o' ∨ letter = 'O') :
      IsOctalMark z [z, .char letter, .char '_']

/-- The symbols are a mark of the base, or there are none. -/
inductive IsMark : Base → Text → Prop where
  | absent {base : Base} : IsMark base []
  | octal {z : Symbol} {mark : Text} (hz : IsDigit .octal z 0) (h : IsOctalMark z mark) :
      IsMark .octal mark

/-- The text is a numeral of the base with the sign and with digits of these values, between margins
and behind a mark of the kinds that are given. -/
structure IsSpelled (base : Base) (margin : Symbol → Prop) (mark : Text → Prop) (text : Text)
    (sign : List Char) (digits : List Nat) : Prop where
  spelled : ∃ front start body back,
    text = front ++ (sign.map .char ++ (start ++ body)) ++ back ∧
    (∀ s ∈ front, margin s) ∧ mark start ∧ Grouped base body digits ∧ ∀ s ∈ back, margin s
  sign : sign = [] ∨ sign = ['+'] ∨ sign = ['-']

/-- The text is a free numeral of the base with the sign and with digits of these values. -/
def IsFree (base : Base) : Text → List Char → List Nat → Prop :=
  IsSpelled base IsMargin (IsMark base)

/-- What stands among grouped digits is a digit or an underscore. -/
theorem Grouped.of_mem (h : Grouped base text digits) (hmem : s ∈ text) :
    (∃ d, IsDigit base s d) ∨ s = .char '_' := by
  induction h with
  | last h =>
    obtain rfl := List.mem_singleton.1 hmem
    exact Or.inl ⟨_, h⟩
  | next h _ ih =>
    rcases List.mem_cons.1 hmem with rfl | hmem
    · exact Or.inl ⟨_, h⟩
    · exact ih hmem
  | apart h _ ih =>
    rcases List.mem_cons.1 hmem with rfl | hmem
    · exact Or.inl ⟨_, h⟩
    · rcases List.mem_cons.1 hmem with rfl | hmem
      · exact Or.inr rfl
      · exact ih hmem

/-- The integer for which a sign and digits of the base stand: the last of them counts ones, the one
in front of it as many ones as the base has digits, and so on. -/
def Base.meaning (base : Base) (sign : List Char) (digits : List Nat) : Int :=
  let magnitude := Nat.ofDigits base.radix digits.reverse
  if sign = ['-'] then -magnitude else magnitude

/-! ## Symbols as they are read -/

/-- How a symbol is read: ASCII as it stands, a blank of another script as a space, and a digit of
another script as the ASCII digit of its value. -/
inductive IsRead : Symbol → Char → Prop where
  | ascii {c : Char} (h : c.toNat < 0x7F) : IsRead (.char c) c
  | blank {c : Char} (hge : 0x7F ≤ c.toNat) (h : Unicode.isBlank c = true) : IsRead (.char c) ' '
  | digit {c : Char} {d : Nat} (hge : 0x7F ≤ c.toNat) (h : Unicode.digitValue? c = some d) :
      IsRead (.char c) (Char.ofNat (48 + d))

/-- **Symbols are read as they should be.** -/
theorem asciiForm?_eq_some_iff : asciiForm? s = some form ↔ IsRead s form := by
  constructor
  · intro h
    rcases s with c | b
    · simp only [asciiForm?] at h
      split_ifs at h with hlt hblank
      · obtain rfl := Option.some.inj h
        exact .ascii hlt
      · obtain rfl := Option.some.inj h
        exact .blank (Nat.not_lt.1 hlt) hblank
      · obtain ⟨d, hd, rfl⟩ := Option.map_eq_some_iff.1 h
        exact .digit (Nat.not_lt.1 hlt) hd
    · cases h
  · intro h
    unfold asciiForm?
    cases h with
    | ascii h => simp only [if_pos h]
    | blank hge h => simp only [if_neg (Nat.not_lt.2 hge), if_pos h]
    | digit hge h =>
      simp only [if_neg (Nat.not_lt.2 hge), Unicode.isBlank_of_digitValue? h, h, Option.map_some]
      rfl

/-- The number of the ASCII digit of a value. -/
theorem toNat_ofNat_digit (h : d < 10) : (Char.ofNat (48 + d)).toNat = 48 + d :=
  toNat_charOfNat (Or.inl (by omega))

/-- The margins of a numeral are what is read as an ASCII blank. -/
theorem isMargin_iff : IsMargin s ↔ ∃ form, IsRead s form ∧ Unicode.isAsciiBlank form = true := by
  constructor
  · rintro ⟨hblank, hnot⟩
    rename_i c
    rcases Nat.lt_or_ge c.toNat 0x7F with hlt | hge
    · refine ⟨c, .ascii hlt, ?_⟩
      rw [Unicode.isAsciiBlank_of_toNat_lt hlt, hblank]
      simpa using hnot
    · exact ⟨' ', .blank hge hblank, rfl⟩
  · rintro ⟨form, hread, hform⟩
    cases hread with
    | ascii hlt =>
      rw [Unicode.isAsciiBlank_of_toNat_lt hlt, Bool.and_eq_true] at hform
      exact .char hform.1 (by simpa using hform.2)
    | blank hge hblank => exact .char hblank (by omega)
    | digit hge hd =>
      have hdigit := toNat_ofNat_digit (Unicode.digitValue?_lt hd)
      have hnumber := toNat_of_isAsciiBlank hform
      omega

/-- The digits of a base are the ASCII digits below its radix. -/
theorem isDigit_eq_true_iff :
    base.isDigit form = true ↔ 48 ≤ form.toNat ∧ form.toNat < 48 + base.radix := by
  simp [Base.isDigit]

/-- The digits of a base are what is read as one of its ASCII digits. -/
theorem isDigit_iff : IsDigit base s d ↔
    ∃ form, IsRead s form ∧ base.isDigit form = true ∧ form.toNat - 48 = d := by
  have hten : base.radix ≤ 10 := by cases base <;> decide
  constructor
  · rintro ⟨hd, hlt⟩
    rename_i c
    rcases Nat.lt_or_ge c.toNat 0x7F with hascii | hge
    · rw [Unicode.digitValue?_of_toNat_lt hascii] at hd
      obtain ⟨hrange, hvalue⟩ := Option.ite_none_right_eq_some.1 hd
      have hvalue := Option.some.inj hvalue
      exact ⟨c, .ascii hascii, isDigit_eq_true_iff.2 (by omega), hvalue⟩
    · have hdigit := toNat_ofNat_digit (Unicode.digitValue?_lt hd)
      exact ⟨_, .digit hge hd, isDigit_eq_true_iff.2 (by omega), by omega⟩
  · rintro ⟨form, hread, hform, rfl⟩
    have hrange := isDigit_eq_true_iff.1 hform
    cases hread with
    | ascii hascii =>
      refine .char ?_ (by omega)
      rw [Unicode.digitValue?_of_toNat_lt hascii, if_pos (by omega)]
    | blank => exact absurd hrange.1 (by decide)
    | digit hge hd =>
      have hdigit := toNat_ofNat_digit (Unicode.digitValue?_lt hd)
      rw [hdigit, Nat.add_sub_cancel_left]
      exact .char hd (by omega)

/-- Signs, underscores and the letters of marks are read where they stand themselves. -/
theorem isRead_iff_of_mem (h : form ∈ ['+', '-', '_', 'o', 'O']) :
    IsRead s form ↔ s = .char form := by
  obtain ⟨hascii, hspace, hdigit⟩ :
      form.toNat < 0x7F ∧ form ≠ ' ' ∧ ∀ d < 10, form ≠ Char.ofNat (48 + d) := by
    simp only [List.mem_cons, List.not_mem_nil, or_false] at h
    rcases h with rfl | rfl | rfl | rfl | rfl <;> decide
  constructor
  · intro hread
    cases hread with
    | ascii => rfl
    | blank => exact absurd rfl hspace
    | digit hge hd => exact absurd rfl (hdigit _ (Unicode.digitValue?_lt hd))
  · rintro rfl
    exact .ascii hascii

/-! ## Texts as they are read -/

/-- A text is read symbol by symbol. -/
theorem mapM_asciiForm?_eq_some_iff :
    text.mapM asciiForm? = some forms ↔ List.Forall₂ IsRead text forms := by
  induction text generalizing forms with
  | nil => simp [eq_comm]
  | cons s later ih =>
    rw [List.forall₂_cons_left_iff, List.mapM_cons]
    simp only [← ih, ← asciiForm?_eq_some_iff]
    constructor
    · intro h
      obtain ⟨form, hs, h⟩ := Option.bind_eq_some_iff.1 h
      obtain ⟨rest, hlater, h⟩ := Option.bind_eq_some_iff.1 h
      exact ⟨form, rest, hs, hlater, (Option.some.inj h).symm⟩
    · rintro ⟨form, rest, hs, hlater, rfl⟩
      simp [hs, hlater]

/-- What is read as one text in front of another is made of two texts. -/
theorem exists_append_of_isRead (h : List.Forall₂ IsRead text (front ++ back)) :
    ∃ first second, text = first ++ second ∧ List.Forall₂ IsRead first front ∧
      List.Forall₂ IsRead second back :=
  ⟨text.take front.length, text.drop front.length, (List.take_append_drop _ _).symm,
    List.forall₂_take_append _ _ _ h, List.forall₂_drop_append _ _ _ h⟩

/-- Margins are read as ASCII blanks. -/
theorem forall_isMargin_iff : (∀ s ∈ text, IsMargin s) ↔
    ∃ forms, List.Forall₂ IsRead text forms ∧ ∀ form ∈ forms, Unicode.isAsciiBlank form = true := by
  induction text with
  | nil => simp
  | cons s later ih =>
    rw [List.forall_mem_cons, ih, isMargin_iff]
    constructor
    · rintro ⟨⟨form, hread, hform⟩, forms, hlater, hforms⟩
      exact ⟨form :: forms, .cons hread hlater, List.forall_mem_cons.2 ⟨hform, hforms⟩⟩
    · rintro ⟨_, hread, hforms⟩
      obtain ⟨form, forms, hs, hlater, rfl⟩ := List.forall₂_cons_left_iff.1 hread
      obtain ⟨hform, hforms⟩ := List.forall_mem_cons.1 hforms
      exact ⟨⟨form, hs, hform⟩, forms, hlater, hforms⟩

/-- A sign is read as it stands. -/
theorem isRead_sign_iff (hsign : sign = [] ∨ sign = ['+'] ∨ sign = ['-']) :
    List.Forall₂ IsRead text sign ↔ text = sign.map .char := by
  have hplus : ∀ s, IsRead s '+' ↔ s = .char '+' := fun s => isRead_iff_of_mem (by decide)
  have hminus : ∀ s, IsRead s '-' ↔ s = .char '-' := fun s => isRead_iff_of_mem (by decide)
  rcases hsign with rfl | rfl | rfl <;> simp [List.forall₂_cons_right_iff, hplus, hminus]

/-! ## Grouped digits -/

/-- Grouped digits begin with a digit. -/
theorem exists_cons_of_grouped? (h : base.grouped? forms = some spelled) :
    ∃ form later, forms = form :: later ∧ base.isDigit form = true := by
  fun_induction Base.grouped? base forms with
  | case1 => cases h
  | case2 c hc => exact ⟨c, [], rfl, hc⟩
  | case3 => cases h
  | case4 c rest hc => exact ⟨c, _, rfl, hc⟩
  | case5 => cases h
  | case6 c d rest _ hc => exact ⟨c, _, rfl, hc⟩
  | case7 => cases h

/-- No underscore is a digit. -/
theorem ne_underscore_of_isDigit (h : base.isDigit form = true) : form ≠ '_' := by
  rintro rfl
  cases base <;> exact absurd h (by decide)

/-- Grouped digits hold digits and underscores. -/
theorem of_mem_of_grouped? (h : base.grouped? forms = some spelled) (hmem : form ∈ forms) :
    base.isDigit form = true ∨ form = '_' := by
  fun_induction Base.grouped? base forms generalizing spelled with
  | case1 => cases hmem
  | case2 c hc => exact Or.inl (List.mem_singleton.1 hmem ▸ hc)
  | case3 => cases h
  | case4 c rest hc ih =>
    obtain ⟨spelled, hrest, rfl⟩ := Option.map_eq_some_iff.1 h
    rcases List.mem_cons.1 hmem with rfl | hmem
    · exact Or.inl hc
    · rcases List.mem_cons.1 hmem with rfl | hmem
      · exact Or.inr rfl
      · exact ih hrest hmem
  | case5 => cases h
  | case6 c second rest _ hc ih =>
    obtain ⟨spelled, hrest, rfl⟩ := Option.map_eq_some_iff.1 h
    rcases List.mem_cons.1 hmem with rfl | hmem
    · exact Or.inl hc
    · exact ih hrest hmem
  | case7 => cases h

/-- A digit in front of grouped digits is one of them. -/
theorem grouped?_cons (hform : base.isDigit form = true) (h : base.grouped? forms = some spelled) :
    base.grouped? (form :: forms) = some (form :: spelled) := by
  obtain ⟨second, later, rfl, hsecond⟩ := exists_cons_of_grouped? h
  rw [Base.grouped?, if_pos hform, h]
  · rfl
  · exact ne_underscore_of_isDigit hsecond

/-- So it is with an underscore behind the digit. -/
theorem grouped?_cons_underscore (hform : base.isDigit form = true)
    (h : base.grouped? forms = some spelled) :
    base.grouped? (form :: '_' :: forms) = some (form :: spelled) := by
  rw [Base.grouped?, if_pos hform, h]
  rfl

/-- Grouped digits are read as they should be. -/
theorem grouped_iff : Grouped base text digits ↔ ∃ forms spelled, List.Forall₂ IsRead text forms ∧
    base.grouped? forms = some spelled ∧ spelled.map (·.toNat - 48) = digits := by
  have hunderscore : ∀ s, IsRead s '_' ↔ s = .char '_' := fun s => isRead_iff_of_mem (by decide)
  constructor
  · intro h
    induction h with
    | last h =>
      obtain ⟨form, hread, hform, rfl⟩ := isDigit_iff.1 h
      exact ⟨[form], [form], .cons hread .nil, by simp [Base.grouped?, hform], rfl⟩
    | next h _ ih =>
      obtain ⟨form, hread, hform, rfl⟩ := isDigit_iff.1 h
      obtain ⟨forms, spelled, hforms, hgrouped, rfl⟩ := ih
      exact ⟨form :: forms, form :: spelled, .cons hread hforms, grouped?_cons hform hgrouped, rfl⟩
    | apart h _ ih =>
      obtain ⟨form, hread, hform, rfl⟩ := isDigit_iff.1 h
      obtain ⟨forms, spelled, hforms, hgrouped, rfl⟩ := ih
      exact ⟨form :: '_' :: forms, form :: spelled,
        .cons hread (.cons ((hunderscore _).2 rfl) hforms),
        grouped?_cons_underscore hform hgrouped, rfl⟩
  · rintro ⟨forms, spelled, hread, hgrouped, rfl⟩
    fun_induction Base.grouped? base forms generalizing text spelled with
    | case1 => cases hgrouped
    | case2 form hform =>
      cases hgrouped
      obtain ⟨s, later, hs, hlater, rfl⟩ := List.forall₂_cons_right_iff.1 hread
      cases hlater
      exact .last (isDigit_iff.2 ⟨form, hs, hform, rfl⟩)
    | case3 => cases hgrouped
    | case4 form rest hform ih =>
      obtain ⟨spelled, hrest, rfl⟩ := Option.map_eq_some_iff.1 hgrouped
      obtain ⟨s, _, hs, htail, rfl⟩ := List.forall₂_cons_right_iff.1 hread
      obtain ⟨u, later, hu, hlater, rfl⟩ := List.forall₂_cons_right_iff.1 htail
      obtain rfl := (hunderscore u).1 hu
      exact .apart (isDigit_iff.2 ⟨form, hs, hform, rfl⟩) (ih _ hlater hrest)
    | case5 => cases hgrouped
    | case6 form second rest _ hform ih =>
      obtain ⟨spelled, hrest, rfl⟩ := Option.map_eq_some_iff.1 hgrouped
      obtain ⟨s, later, hs, hlater, rfl⟩ := List.forall₂_cons_right_iff.1 hread
      exact .next (isDigit_iff.2 ⟨form, hs, hform, rfl⟩) (ih _ hlater hrest)
    | case7 => cases hgrouped

/-! ## Marks -/

/-- The characters are a mark of the base as it is read. -/
inductive IsMarkForm : Base → List Char → Prop where
  | absent {base : Base} : IsMarkForm base []
  | bare {letter : Char} (h : letter = 'o' ∨ letter = 'O') : IsMarkForm .octal ['0', letter]
  | apart {letter : Char} (h : letter = 'o' ∨ letter = 'O') : IsMarkForm .octal ['0', letter, '_']

/-- What is read as a zero is one. -/
theorem isDigit_zero_iff : IsDigit .octal s 0 ↔ IsRead s '0' := by
  rw [isDigit_iff]
  constructor
  · rintro ⟨form, hread, hform, hzero⟩
    have hrange := (isDigit_eq_true_iff.1 hform).1
    have hform : form.toNat = '0'.toNat := by
      show form.toNat = 48
      omega
    rwa [Char.toNat_inj.1 hform] at hread
  · exact fun hread => ⟨'0', hread, by decide, by decide⟩

/-- Marks are read as they should be. -/
theorem isMark_iff :
    IsMark base text ↔ ∃ forms, List.Forall₂ IsRead text forms ∧ IsMarkForm base forms := by
  have hletter : ∀ {letter}, letter = 'o' ∨ letter = 'O' →
      ∀ s, IsRead s letter ↔ s = .char letter :=
    fun h s => isRead_iff_of_mem (by rcases h with rfl | rfl <;> decide)
  have hunderscore : ∀ s, IsRead s '_' ↔ s = .char '_' := fun s => isRead_iff_of_mem (by decide)
  constructor
  · intro h
    cases h with
    | absent => exact ⟨[], .nil, .absent⟩
    | octal hz h =>
      have hzero := isDigit_zero_iff.1 hz
      cases h with
      | bare h => exact ⟨_, .cons hzero (.cons ((hletter h _).2 rfl) .nil), .bare h⟩
      | apart h =>
        exact ⟨_, .cons hzero (.cons ((hletter h _).2 rfl) (.cons ((hunderscore _).2 rfl) .nil)),
          .apart h⟩
  · rintro ⟨forms, hread, hform⟩
    cases hform with
    | absent =>
      cases hread
      exact .absent
    | bare h =>
      simp only [List.forall₂_cons_right_iff, List.forall₂_nil_right_iff, hletter h] at hread
      obtain ⟨z, _, hz, ⟨_, _, rfl, rfl, rfl⟩, rfl⟩ := hread
      exact .octal (isDigit_zero_iff.2 hz) (.bare h)
    | apart h =>
      simp only [List.forall₂_cons_right_iff, List.forall₂_nil_right_iff, hletter h,
        hunderscore] at hread
      obtain ⟨z, _, hz, ⟨_, _, rfl, ⟨_, _, rfl, rfl, rfl⟩, rfl⟩, rfl⟩ := hread
      exact .octal (isDigit_zero_iff.2 hz) (.apart h)

/-- What is dropped in front of digits is a mark. -/
theorem exists_isMarkForm_append (base : Base) (forms : List Char) :
    ∃ mark, IsMarkForm base mark ∧ forms = mark ++ base.dropMark forms := by
  unfold Base.dropMark
  split
  · split_ifs with h
    · exact ⟨_, .apart (by simpa using h), rfl⟩
    · exact ⟨[], .absent, rfl⟩
  · split_ifs with h
    · exact ⟨_, .bare (by simpa using h), rfl⟩
    · exact ⟨[], .absent, rfl⟩
  · exact ⟨[], .absent, rfl⟩

/-- A mark is dropped in front of grouped digits. Without a mark nothing is dropped: what stands
behind a zero is another digit or an underscore. -/
theorem dropMark_append (hmark : IsMarkForm base mark)
    (h : base.grouped? forms = some spelled) : base.dropMark (mark ++ forms) = forms := by
  cases hmark with
  | absent =>
    have hletter : ∀ letter ∈ forms, ¬(letter == 'o' || letter == 'O') = true := by
      intro letter hmem hletter
      have hkind := of_mem_of_grouped? h hmem
      rw [Bool.or_eq_true, beq_iff_eq, beq_iff_eq] at hletter
      rcases hletter with rfl | rfl <;> cases base <;> exact absurd hkind (by decide)
    rw [List.nil_append]
    unfold Base.dropMark
    split
    · exact if_neg (hletter _ (by simp))
    · exact if_neg (hletter _ (by simp))
    · rfl
  | bare hletter =>
    obtain ⟨form, later, rfl, hform⟩ := exists_cons_of_grouped? h
    have hne := ne_underscore_of_isDigit hform
    simp [Base.dropMark, hne, hletter]
  | apart hletter => simp [Base.dropMark, hletter]

/-! ## Margins -/

/-- What is left of characters between blanks if the blanks are taken away. -/
theorem trim_append {core : List Char} (hne : core ≠ [])
    (hfront : ∀ form ∈ front, Unicode.isAsciiBlank form = true)
    (hcore : ∀ form ∈ core, Unicode.isAsciiBlank form = false)
    (hback : ∀ form ∈ back, Unicode.isAsciiBlank form = true) :
    ((front ++ core ++ back).dropWhile Unicode.isAsciiBlank).rdropWhile Unicode.isAsciiBlank =
      core := by
  have hlast : core.rdropWhile Unicode.isAsciiBlank = core :=
    List.rdropWhile_eq_self_iff.2 fun hne => by simp [hcore _ (List.getLast_mem hne)]
  have hfirst : (core ++ back).dropWhile Unicode.isAsciiBlank = core ++ back := by
    obtain ⟨form, later, rfl⟩ := List.exists_cons_of_ne_nil hne
    exact List.dropWhile_cons_of_neg (by simp [hcore form List.mem_cons_self])
  rw [List.append_assoc, List.dropWhile_append_of_pos hfront, hfirst]
  unfold List.rdropWhile at hlast ⊢
  rw [List.reverse_append, List.dropWhile_append_of_pos (by simpa using hback), hlast]

/-- Characters are what is left of them between blanks. -/
theorem exists_append_trim (forms : List Char) :
    ∃ front back, forms = front ++
        (forms.dropWhile Unicode.isAsciiBlank).rdropWhile Unicode.isAsciiBlank ++ back ∧
      (∀ form ∈ front, Unicode.isAsciiBlank form = true) ∧
      ∀ form ∈ back, Unicode.isAsciiBlank form = true := by
  refine ⟨forms.takeWhile Unicode.isAsciiBlank,
    (forms.dropWhile Unicode.isAsciiBlank).rtakeWhile Unicode.isAsciiBlank, ?_,
    fun form h => List.mem_takeWhile_imp h, fun form h => List.mem_rtakeWhile_imp h⟩
  rw [List.append_assoc, List.rdropWhile_append_rtakeWhile, List.takeWhile_append_dropWhile]

/-! ## What is read -/

/-- A sign and digits are evaluated to the integer for which they stand. -/
theorem Base.signed_eq_meaning (base : Base) (sign spelled : List Char) :
    signed (decide (sign = ['-'])) (value base.radix spelled) =
      base.meaning sign (spelled.map (·.toNat - 48)) := by
  simp only [signed, Base.meaning, value_eq_ofDigits, List.map_reverse, decide_eq_true_eq]
  rfl

/-- **A free numeral is spelled as it is read:** as ASCII blanks, a sign, a mark, grouped digits and
ASCII blanks. -/
theorem isFree_iff : IsFree base text sign digits ↔
    (sign = [] ∨ sign = ['+'] ∨ sign = ['-']) ∧ ∃ front mark body back spelled,
      List.Forall₂ IsRead text (front ++ (sign ++ (mark ++ body)) ++ back) ∧
      (∀ form ∈ front, Unicode.isAsciiBlank form = true) ∧ IsMarkForm base mark ∧
      base.grouped? body = some spelled ∧ spelled.map (·.toNat - 48) = digits ∧
      ∀ form ∈ back, Unicode.isAsciiBlank form = true := by
  constructor
  · rintro ⟨⟨front, start, body, back, rfl, hfront, hstart, hbody, hback⟩, hsign⟩
    obtain ⟨front', hfront, hfront'⟩ := forall_isMargin_iff.1 hfront
    obtain ⟨mark, hstart, hmark⟩ := isMark_iff.1 hstart
    obtain ⟨body', spelled, hbody, hgrouped, hdigits⟩ := grouped_iff.1 hbody
    obtain ⟨back', hback, hback'⟩ := forall_isMargin_iff.1 hback
    have hread := (isRead_sign_iff hsign).2 rfl
    exact ⟨hsign, front', mark, body', back', spelled, List.rel_append (List.rel_append hfront
      (List.rel_append hread (List.rel_append hstart hbody))) hback, hfront', hmark, hgrouped,
      hdigits, hback'⟩
  · rintro ⟨hsign, front, mark, body, back, spelled, hread, hfront, hmark, hgrouped, hdigits, hback⟩
    obtain ⟨_, back', rfl, hread, hback'⟩ := exists_append_of_isRead hread
    obtain ⟨front', _, rfl, hfront', hread⟩ := exists_append_of_isRead hread
    obtain ⟨sign', _, rfl, hsign', hread⟩ := exists_append_of_isRead hread
    obtain ⟨start, body', rfl, hstart, hbody⟩ := exists_append_of_isRead hread
    obtain rfl := (isRead_sign_iff hsign).1 hsign'
    exact ⟨⟨front', start, body', back', rfl, forall_isMargin_iff.2 ⟨front, hfront', hfront⟩,
      isMark_iff.2 ⟨mark, hstart, hmark⟩, grouped_iff.2 ⟨body, spelled, hbody, hgrouped, hdigits⟩,
      forall_isMargin_iff.2 ⟨back, hback', hback⟩⟩, hsign⟩

/-- A mark and digits begin with a digit. -/
theorem exists_cons_of_isMarkForm (hmark : IsMarkForm base mark)
    (h : base.grouped? body = some spelled) :
    ∃ form later, mark ++ body = form :: later ∧ 48 ≤ form.toNat := by
  cases hmark with
  | absent =>
    obtain ⟨form, later, rfl, hform⟩ := exists_cons_of_grouped? h
    exact ⟨form, later, rfl, (isDigit_eq_true_iff.1 hform).1⟩
  | bare => exact ⟨'0', _, rfl, by decide⟩
  | apart => exact ⟨'0', _, rfl, by decide⟩

/-- No sign, no mark and no digit is a blank. -/
theorem isAsciiBlank_of_mem (hsign : sign = [] ∨ sign = ['+'] ∨ sign = ['-'])
    (hmark : IsMarkForm base mark) (h : base.grouped? body = some spelled) :
    ∀ form ∈ sign ++ (mark ++ body), Unicode.isAsciiBlank form = false := by
  simp only [List.forall_mem_append]
  refine ⟨?_, ?_, fun form hmem => ?_⟩
  · rcases hsign with rfl | rfl | rfl <;> simp [Unicode.isAsciiBlank]
  · cases hmark with
    | absent => simp
    | bare hletter => rcases hletter with rfl | rfl <;> simp [Unicode.isAsciiBlank]
    | apart hletter => rcases hletter with rfl | rfl <;> simp [Unicode.isAsciiBlank]
  · rcases of_mem_of_grouped? h hmem with hdigit | rfl
    · have hrange := isDigit_eq_true_iff.1 hdigit
      rw [Bool.eq_false_iff]
      intro hblank
      have hnumber := toNat_of_isAsciiBlank hblank
      omega
    · decide

/-- **A spelled numeral is taken apart as it is spelled.** -/
theorem free?_of_isRead (hsign : sign = [] ∨ sign = ['+'] ∨ sign = ['-'])
    (hread : List.Forall₂ IsRead text (front ++ (sign ++ (mark ++ body)) ++ back))
    (hfront : ∀ form ∈ front, Unicode.isAsciiBlank form = true) (hmark : IsMarkForm base mark)
    (hgrouped : base.grouped? body = some spelled)
    (hback : ∀ form ∈ back, Unicode.isAsciiBlank form = true) :
    free? base text = if base = .decimal ∧ maxDigits < spelled.length then none
      else some (base.meaning sign (spelled.map (·.toNat - 48))) := by
  obtain ⟨form, later, hcons, hform⟩ := exists_cons_of_isMarkForm hmark hgrouped
  have htrim :=
    trim_append (by simp [hcons]) hfront (isAsciiBlank_of_mem hsign hmark hgrouped) hback
  have hsplit : splitSign (sign ++ (mark ++ body)) = (decide (sign = ['-']), mark ++ body) := by
    rw [hcons]
    refine splitSign_append hsign ?_ ?_ <;> rintro rfl <;> exact absurd hform (by decide)
  -- Blanks are dropped at the end of a text as they are at the beginning of its reverse.
  unfold List.rdropWhile at htrim
  unfold free?
  simp only [mapM_asciiForm?_eq_some_iff.2 hread, Option.bind_eq_bind, Option.bind_some, htrim,
    hsplit, dropMark_append hmark hgrouped, hgrouped, Base.signed_eq_meaning]

/-- **A free numeral is read as what it stands for,** and nothing else is read. A decimal one may
have too many digits. -/
theorem free?_eq_some_iff {n : Int} : free? base text = some n ↔
    ∃ sign digits, IsFree base text sign digits ∧
      (base = .decimal → digits.length ≤ maxDigits) ∧ base.meaning sign digits = n := by
  constructor
  · intro h
    unfold free? at h
    obtain ⟨forms, hforms, h⟩ := Option.bind_eq_some_iff.1 h
    obtain ⟨front, back, hmargins, hfront, hback⟩ := exists_append_trim forms
    rcases hsplit : splitSign ((forms.dropWhile Unicode.isAsciiBlank).rdropWhile
      Unicode.isAsciiBlank) with ⟨negative, rest⟩
    obtain ⟨sign, htrim, hsign, rfl⟩ := exists_sign_of_splitSign hsplit
    unfold List.rdropWhile at hsplit
    simp only [hsplit] at h
    obtain ⟨spelled, hgrouped, h⟩ := Option.bind_eq_some_iff.1 h
    obtain ⟨mark, hmark, hrest⟩ := exists_isMarkForm_append base rest
    split_ifs at h with hlong
    refine ⟨sign, _, isFree_iff.2 ⟨hsign, front, mark, base.dropMark rest, back, spelled, ?_,
      hfront, hmark, hgrouped, rfl, hback⟩, ?_, ?_⟩
    · rw [← hrest, ← htrim, ← hmargins]
      exact mapM_asciiForm?_eq_some_iff.1 hforms
    · intro hbase
      rw [List.length_map]
      exact Nat.not_lt.1 fun hlt => hlong ⟨hbase, hlt⟩
    · rw [← Base.signed_eq_meaning]
      exact Option.some.inj h
  · rintro ⟨sign, digits, hfree, hlength, rfl⟩
    obtain ⟨hsign, front, mark, body, back, spelled, hread, hfront, hmark, hgrouped, rfl, hback⟩ :=
      isFree_iff.1 hfree
    rw [List.length_map] at hlength
    rw [free?_of_isRead hsign hread hfront hmark hgrouped hback, if_neg]
    exact fun hlong => Nat.not_lt.2 (hlength hlong.1) hlong.2

/-! ## Strict numerals as free ones -/

/-- Digits that are not grouped are taken as they stand. -/
theorem grouped?_eq_some (hne : spelled ≠ []) (h : ∀ form ∈ spelled, base.isDigit form = true) :
    base.grouped? spelled = some spelled := by
  induction spelled with
  | nil => exact absurd rfl hne
  | cons form later ih =>
    have hform := h form List.mem_cons_self
    rcases later with _ | ⟨second, later⟩
    · simp [Base.grouped?, hform]
    · exact grouped?_cons hform
        (ih (List.cons_ne_nil _ _) fun c hc => h c (List.mem_cons_of_mem _ hc))

/-- An ASCII digit is a digit of a decimal numeral. -/
theorem isDigit_decimal {c : Char} (h : c.isDigit = true) : Base.isDigit .decimal c = true := by
  obtain ⟨hge, hle⟩ := toNat_of_isDigit h
  rw [Base.isDigit, Bool.and_eq_true]
  exact ⟨decide_eq_true hge, decide_eq_true (Nat.lt_succ_of_le hle)⟩

/-- ASCII is read as it stands. -/
theorem isRead_map_char (h : ∀ form ∈ forms, form.toNat < 0x7F) :
    List.Forall₂ IsRead (forms.map .char) forms :=
  List.forall₂_map_left_iff.2 (List.forall₂_same.2 fun form hform => .ascii (h form hform))

/-- A strict decimal numeral is spelled in ASCII. -/
theorem IsStrict.toNat_lt (h : IsStrict text sign spelled) {c : Char} (hc : .char c ∈ text) :
    c.toNat < 0x7F := by
  obtain ⟨blanks, rfl, hblanks⟩ := h.spelled
  obtain ⟨_, hmem, hchar⟩ := List.mem_map.1 hc
  cases hchar
  rcases List.mem_append.1 hmem with hmem | hmem
  · have hblank := toNat_of_isAsciiBlank (hblanks c hmem)
    omega
  · rcases List.mem_append.1 hmem with hmem | hmem
    · rcases h.sign with rfl | rfl | rfl
      · cases hmem
      · obtain rfl := List.mem_singleton.1 hmem
        decide
      · obtain rfl := List.mem_singleton.1 hmem
        decide
    · have hdigit := toNat_of_isDigit (h.digits c hmem)
      omega

/-- **A strict decimal numeral stands for the same integer as a free one,** and has no value as such
either if it has too many digits. -/
theorem free?_of_isStrict (h : IsStrict text sign spelled) :
    free? .decimal text =
      if maxDigits < spelled.length then none else some (meaning sign spelled) := by
  obtain ⟨blanks, htext, hblanks⟩ := h.spelled
  have hread : List.Forall₂ IsRead text (blanks ++ (sign ++ ([] ++ spelled)) ++ []) := by
    rw [htext, List.nil_append, List.append_nil]
    exact isRead_map_char fun c hc => h.toNat_lt (htext ▸ List.mem_map_of_mem hc)
  have hgrouped : Base.grouped? .decimal spelled = some spelled :=
    grouped?_eq_some h.digits_ne_nil fun c hc => isDigit_decimal (h.digits c hc)
  have hmeaning :
      Base.meaning .decimal sign (spelled.map (·.toNat - 48)) = meaning sign spelled := by
    rw [← Base.signed_eq_meaning, ← signed_eq_meaning]
    rfl
  rw [free?_of_isRead h.sign hread hblanks .absent hgrouped (by simp), hmeaning]
  simp only [true_and]

end Numeral

end Launcher
