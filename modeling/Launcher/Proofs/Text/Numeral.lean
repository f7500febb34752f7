import Mathlib.Data.Nat.Digits.Defs
import Launcher.Text.Numeral

/-!
# Strict decimal numerals

A strict decimal numeral is spelled by ASCII blanks, a sign or none, and digits up to its end. How
many digits it has is looked at before their value.

## Main definitions

* `Launcher.Numeral.IsStrict` — how a strict decimal numeral is spelled.
* `Launcher.Numeral.meaning` — the integer for which a sign and digits stand.

## Main results

* `Launcher.Numeral.strict?_eq_some_iff` — a numeral is taken apart as it is spelled.
* `Launcher.Numeral.int32_eq_error_iff` — a numeral is refused for the number of its digits.
* `Launcher.Numeral.int32_of_isStrict` — otherwise it is read as what it stands for.
* `Launcher.Numeral.int32_decimal` — an integer that is written is read again.
* `Launcher.Numeral.isLong_eq_false_iff` — which integers can be written.
-/

namespace Launcher

/-- A text without stray bytes is made of its characters. -/
theorem Text.chars?_eq_some_iff {t : Text} {cs : List Char} :
    t.chars? = some cs ↔ t = cs.map .char := by
  constructor
  · intro h
    induction t generalizing cs with
    | nil =>
      cases h
      rfl
    | cons a t ih =>
      rcases a with c | b
      · have hcons :
            Text.chars? (.char c :: t) = (Text.chars? t).bind fun rest => some (c :: rest) := by
          simp [Text.chars?, List.mapM_cons]
        rcases hrest : Text.chars? t with _ | rest
        · simp [hcons, hrest] at h
        · obtain rfl : c :: rest = cs := by simpa [hcons, hrest] using h
          rw [List.map_cons, ← ih hrest]
      · simp [Text.chars?, List.mapM_cons] at h
  · rintro rfl
    exact Text.chars?_map_char cs

namespace Numeral

variable {text : Text} {sign digits : List Char}

/-- The text is a strict decimal numeral with the sign and the digits: ASCII blanks stand in front
of them, and nothing behind. -/
structure IsStrict (text : Text) (sign digits : List Char) : Prop where
  spelled : ∃ blanks, text = (blanks ++ (sign ++ digits)).map .char ∧
    ∀ c ∈ blanks, Unicode.isAsciiBlank c = true
  sign : sign = [] ∨ sign = ['+'] ∨ sign = ['-']
  digits_ne_nil : digits ≠ []
  digits : ∀ c ∈ digits, c.isDigit = true

/-- A strict decimal numeral is not empty. -/
theorem IsStrict.ne_nil (h : IsStrict text sign digits) : text ≠ [] := by
  obtain ⟨blanks, rfl, -⟩ := h.spelled
  simp [h.digits_ne_nil]

/-- The numbers of the digits. -/
theorem toNat_of_isDigit {c : Char} (h : c.isDigit = true) : 48 ≤ c.toNat ∧ c.toNat ≤ 57 := by
  simp only [Char.isDigit, Bool.and_eq_true, decide_eq_true_eq, UInt32.le_iff_toNat_le] at h
  exact h

/-- The numbers of the ASCII blanks. -/
theorem toNat_of_isAsciiBlank {c : Char} (h : Unicode.isAsciiBlank c = true) :
    c.toNat = 32 ∨ 9 ≤ c.toNat ∧ c.toNat ≤ 13 := by
  simp only [Unicode.isAsciiBlank, Bool.or_eq_true, beq_iff_eq, Bool.and_eq_true,
    decide_eq_true_eq] at h
  exact h.imp_left fun hspace => by rw [hspace]; rfl

/-- A digit is neither blank nor a sign. -/
theorem of_isDigit {c : Char} (h : c.isDigit = true) :
    Unicode.isAsciiBlank c = false ∧ c ≠ '+' ∧ c ≠ '-' := by
  refine ⟨?_, ?_, ?_⟩
  · rw [Bool.eq_false_iff]
    intro hblank
    have hdigit := toNat_of_isDigit h
    have hnumber := toNat_of_isAsciiBlank hblank
    omega
  · rintro rfl
    exact absurd h (by decide)
  · rintro rfl
    exact absurd h (by decide)

/-- A sign is split off in front of what begins with none. -/
theorem splitSign_append {c : Char} {later : List Char}
    (hsign : sign = [] ∨ sign = ['+'] ∨ sign = ['-']) (hplus : c ≠ '+') (hminus : c ≠ '-') :
    splitSign (sign ++ c :: later) = (decide (sign = ['-']), c :: later) := by
  rcases hsign with rfl | rfl | rfl
  · unfold splitSign
    simp [hplus, hminus]
  · rfl
  · rfl

/-- A sign is split off digits. -/
theorem IsStrict.splitSign_append (h : IsStrict text sign digits) :
    splitSign (sign ++ digits) = (decide (sign = ['-']), digits) := by
  obtain ⟨c, later, rfl⟩ := List.exists_cons_of_ne_nil h.digits_ne_nil
  obtain ⟨-, hplus, hminus⟩ := of_isDigit (h.digits c List.mem_cons_self)
  exact Numeral.splitSign_append h.sign hplus hminus

/-- What is split off is a sign or nothing. -/
theorem exists_sign_of_splitSign {cs : List Char} {negative : Bool}
    (h : splitSign cs = (negative, digits)) :
    ∃ sign, cs = sign ++ digits ∧ (sign = [] ∨ sign = ['+'] ∨ sign = ['-']) ∧
      negative = decide (sign = ['-']) := by
  unfold splitSign at h
  split at h
  · cases h
    exact ⟨['-'], rfl, Or.inr (Or.inr rfl), rfl⟩
  · cases h
    exact ⟨['+'], rfl, Or.inr (Or.inl rfl), rfl⟩
  · cases h
    exact ⟨[], rfl, Or.inl rfl, rfl⟩

/-- No sign and no digit is dropped with the blanks in front of it. -/
theorem IsStrict.dropWhile_blanks (h : IsStrict text sign digits) {blanks : List Char}
    (hblanks : ∀ c ∈ blanks, Unicode.isAsciiBlank c = true) :
    (blanks ++ (sign ++ digits)).dropWhile Unicode.isAsciiBlank = sign ++ digits := by
  rw [List.dropWhile_append_of_pos hblanks]
  rcases h.sign with rfl | rfl | rfl
  · obtain ⟨c, later, rfl⟩ := List.exists_cons_of_ne_nil h.digits_ne_nil
    exact List.dropWhile_cons_of_neg (by simp [(of_isDigit (h.digits c List.mem_cons_self)).1])
  · rfl
  · rfl

/-- **A numeral is taken apart as it is spelled.** -/
theorem strict?_eq_some_iff {negative : Bool} :
    strict? text = some (negative, digits) ↔
      ∃ sign, IsStrict text sign digits ∧ negative = decide (sign = ['-']) := by
  constructor
  · intro h
    unfold strict? at h
    rcases hchars : text.chars? with _ | cs
    · simp [hchars] at h
    · obtain rfl := Text.chars?_eq_some_iff.1 hchars
      rcases hsplit : splitSign (cs.dropWhile Unicode.isAsciiBlank) with ⟨negative', digits'⟩
      simp only [hchars, hsplit, Option.bind_eq_bind, Option.bind_some] at h
      split at h
      · rename_i hdigits
        cases h
        obtain ⟨sign, hcs, hsign, hnegative⟩ := exists_sign_of_splitSign hsplit
        simp only [Bool.and_eq_true, Bool.not_eq_true', List.isEmpty_eq_false_iff,
          List.all_eq_true] at hdigits
        refine ⟨sign, ⟨⟨cs.takeWhile Unicode.isAsciiBlank, ?_, ?_⟩, hsign, hdigits.1, hdigits.2⟩,
          hnegative⟩
        · rw [← hcs, List.takeWhile_append_dropWhile]
        · exact fun c hc => List.all_eq_true.1 List.all_takeWhile c hc
      · cases h
  · rintro ⟨sign, h, rfl⟩
    obtain ⟨blanks, rfl, hblanks⟩ := h.spelled
    have hall : (!digits.isEmpty && digits.all Char.isDigit) = true := by
      simpa [h.digits_ne_nil] using h.digits
    unfold strict?
    rw [Text.chars?_map_char]
    simp only [Option.bind_eq_bind, Option.bind_some, h.dropWhile_blanks hblanks,
      h.splitSign_append]
    rw [if_pos hall]

/-- **A numeral is refused for the number of its digits,** leading zeros included. -/
theorem int32_eq_error_iff {long : TooLong} :
    int32 text = .error long ↔
      ∃ sign digits, IsStrict text sign digits ∧ maxDigits < digits.length ∧
        long.digits = digits.length := by
  unfold int32
  constructor
  · intro h
    split at h
    · cases h
    · rename_i negative digits hstrict
      obtain ⟨sign, hspelled, -⟩ := strict?_eq_some_iff.1 hstrict
      split at h
      · cases h
        exact ⟨sign, digits, hspelled, ‹_›, rfl⟩
      · cases h
  · rintro ⟨sign, digits, hspelled, hlong, hdigits⟩
    rw [strict?_eq_some_iff.2 ⟨sign, hspelled, rfl⟩]
    obtain ⟨n⟩ := long
    obtain rfl : n = digits.length := hdigits
    exact if_pos hlong

/-! ## What numerals stand for -/

/-- The number for which decimal digits stand: the last of them counts ones, the one in front of it
tens, and so on. -/
def magnitude (digits : List Char) : Nat :=
  Nat.ofDigits 10 (digits.reverse.map fun c => c.toNat - '0'.toNat)

/-- The integer for which a sign and decimal digits stand. -/
def meaning (sign digits : List Char) : Int :=
  if sign = ['-'] then -magnitude digits else magnitude digits

/-- Digits are evaluated to the sum of their places. -/
theorem value_eq_ofDigits (radix : Nat) (digits : List Char) :
    value radix digits = Nat.ofDigits radix (digits.reverse.map fun c => c.toNat - '0'.toNat) := by
  unfold value
  rw [Nat.ofDigits_eq_foldr, List.foldr_map, List.foldl_eq_foldr_reverse]
  congr 1
  funext c n
  rw [Nat.add_comm, Nat.mul_comm]
  rfl

/-- Decimal digits are evaluated to the number for which they stand. -/
theorem value_eq_magnitude (digits : List Char) : value 10 digits = magnitude digits :=
  value_eq_ofDigits 10 digits

/-- A sign and digits are evaluated to the integer for which they stand. -/
theorem signed_eq_meaning (sign digits : List Char) :
    signed (decide (sign = ['-'])) (value 10 digits) = meaning sign digits := by
  simp only [signed, meaning, value_eq_magnitude, decide_eq_true_eq]

/-- **A strict decimal numeral is read as what it stands for** if that fits into 32 bits. -/
theorem int32_of_isStrict (h : IsStrict text sign digits) (hlength : digits.length ≤ maxDigits) :
    int32 text = .ok (if -2 ^ 31 ≤ meaning sign digits ∧ meaning sign digits ≤ 2 ^ 31 - 1 then
      some (meaning sign digits) else none) := by
  have hfits (n : Int) : fitsInt32 n = true ↔ -2 ^ 31 ≤ n ∧ n ≤ 2 ^ 31 - 1 := by simp [fitsInt32]
  unfold int32
  rw [strict?_eq_some_iff.2 ⟨sign, h, rfl⟩]
  simp only [if_neg (Nat.not_lt.2 hlength), signed_eq_meaning, hfits]

/-- No other text is read as an integer. -/
theorem int32_of_not_isStrict (h : ¬∃ sign digits, IsStrict text sign digits) :
    int32 text = .ok none := by
  unfold int32
  rcases hstrict : strict? text with _ | ⟨negative, digits⟩
  · rfl
  · obtain ⟨sign, hspelled, -⟩ := strict?_eq_some_iff.1 hstrict
    exact absurd ⟨sign, digits, hspelled⟩ h

/-- What is read as an integer is a strict decimal numeral that stands for it. -/
theorem exists_isStrict_of_int32 {n : Int} (h : int32 text = .ok (some n)) :
    ∃ sign digits, IsStrict text sign digits ∧ digits.length ≤ maxDigits ∧
      meaning sign digits = n := by
  by_cases hstrict : ∃ sign digits, IsStrict text sign digits
  · obtain ⟨sign, digits, hspelled⟩ := hstrict
    rcases Nat.lt_or_ge maxDigits digits.length with hlong | hlength
    · rw [int32_eq_error_iff.2 ⟨sign, digits, hspelled, hlong, rfl⟩] at h
      cases h
    · rw [int32_of_isStrict hspelled hlength] at h
      obtain ⟨-, hn⟩ := Option.ite_none_right_eq_some.1 (Except.ok.inj h)
      exact ⟨sign, digits, hspelled, hlength, Option.some.inj hn⟩
  · rw [int32_of_not_isStrict hstrict] at h
    cases h

/-! ## Written integers -/

/-- A value of decimal digits is found again. -/
theorem value_toDigits (n : Nat) : value 10 (Nat.toDigits 10 n) = n := by
  have hdigits := @Nat.ofDigitChars_ten_toDigits n
  unfold Nat.ofDigitChars at hdigits
  unfold value
  simpa only [Nat.mul_comm] using hdigits

/-- The text of an integer is a strict decimal numeral that stands for it. -/
theorem exists_isStrict_decimal (n : Int) :
    ∃ sign, IsStrict (decimal n) sign (Nat.toDigits 10 n.natAbs) ∧
      meaning sign (Nat.toDigits 10 n.natAbs) = n := by
  have hdigits : ∀ c ∈ Nat.toDigits 10 n.natAbs, c.isDigit = true := fun c hc =>
    Nat.isDigit_of_mem_toDigits (by decide) (by decide) hc
  have hmagnitude : magnitude (Nat.toDigits 10 n.natAbs) = n.natAbs := by
    rw [← value_eq_magnitude, value_toDigits]
  rcases Int.lt_or_le n 0 with hn | hn
  · refine ⟨['-'], ⟨⟨[], ?_, by simp⟩, Or.inr (Or.inr rfl), Nat.toDigits_ne_nil, hdigits⟩, ?_⟩
    · simp [decimal, hn]
    · rw [meaning, if_pos rfl, hmagnitude]
      omega
  · refine ⟨[], ⟨⟨[], ?_, by simp⟩, Or.inl rfl, Nat.toDigits_ne_nil, hdigits⟩, ?_⟩
    · simp [decimal, Int.not_lt.2 hn]
    · rw [meaning, if_neg (by simp), hmagnitude]
      omega

/-- **An integer can be written** if it is less than the power of ten that has one digit too
many. -/
theorem isLong_eq_false_iff {n : Int} : isLong n = false ↔ n.natAbs < 10 ^ maxDigits := by
  rw [isLong, decide_eq_false_iff_not, Nat.not_lt]
  exact Nat.length_toDigits_le_iff (by decide) (by decide)

/-- **An integer that is written is read again** if it fits into 32 bits. -/
theorem int32_decimal {n : Int} (hleast : -2 ^ 31 ≤ n) (hgreatest : n ≤ 2 ^ 31 - 1) :
    int32 (decimal n) = .ok (some n) := by
  obtain ⟨sign, hspelled, hmeaning⟩ := exists_isStrict_decimal n
  have hlength : (Nat.toDigits 10 n.natAbs).length ≤ maxDigits := by
    refine (Nat.length_toDigits_le_iff (by decide) (by decide)).2 ?_
    calc n.natAbs < 10 ^ 10 := by omega
      _ ≤ 10 ^ maxDigits := Nat.pow_le_pow_right (by decide) (by decide)
  rw [int32_of_isStrict hspelled hlength, hmeaning, if_pos ⟨hleast, hgreatest⟩]

end Numeral

end Launcher
