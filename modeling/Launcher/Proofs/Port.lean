import Launcher.OptionToken
import Launcher.Proofs.Text.FreeNumeral

/-!
# Reading ports

A port is given as a strict decimal numeral. What is no such numeral, or stands for no port, is
refused as a bad argument. A numeral with more digits than are converted is not looked at any
further, and fails for that reason instead.

The text of a port is converted once more, as a free numeral. Free decimal numerals have blanks and
digits of their own, but the second conversion comes to the same port all the same.

## Main results

* `Launcher.Port.free?_of_int32` — both conversions come to the same integer.
* `Launcher.Port.read_cases` — the three ways in which the reading of a port ends.
* `Launcher.Port.read_eq_ok_iff` — what is read as a port.
* `Launcher.Port.exists_read_eq_fail_iff` — what is refused as a bad argument.
* `Launcher.Port.read_eq_longNumeral_iff` — what fails for its digits.
* `Launcher.Port.reads_exactly` — integers and ports are read from their numerals, and from nothing
  else.
-/

namespace Launcher.Port

open Numeral

variable {key text : Text}

/-- **A strict decimal numeral is the same integer as a free numeral.** -/
theorem free?_of_int32 {n : Int} (h : int32 text = .ok (some n)) :
    free? .decimal text = some n := by
  obtain ⟨sign, digits, hspelled, hlength, rfl⟩ := exists_isStrict_of_int32 h
  rw [free?_of_isStrict hspelled, if_neg (Nat.not_lt.2 hlength)]

/-- **The reading of a port** comes to the integer of the numeral if that is a port, is refused if
there is no such integer, or fails for the digits of the numeral. -/
theorem read_cases (key text : Text) :
    (∃ n, int32 text = .ok (some n) ∧ (least ≤ n ∧ n ≤ greatest) ∧ read key text = .ok n) ∨
    (∃ value, int32 text = .ok value ∧ (∀ n ∈ value, ¬(least ≤ n ∧ n ≤ greatest)) ∧
      read key text = .error (OptionError.invalidPort key text).toFailure) ∨
    ∃ count, int32 text = .error ⟨count⟩ ∧
      read key text = .error (.invalid (.longNumeral count)) := by
  rcases hnumeral : int32 text with ⟨⟨count⟩⟩ | value
  · refine Or.inr (Or.inr ⟨count, rfl, ?_⟩)
    simp only [read, read?, hnumeral]
    rfl
  · rcases value with _ | n
    · refine Or.inr (Or.inl ⟨none, rfl, by simp, ?_⟩)
      simp only [read, read?, hnumeral]
      rfl
    · by_cases hport : least ≤ n ∧ n ≤ greatest
      · refine Or.inl ⟨n, rfl, hport, ?_⟩
        simp only [read, read?, hnumeral, if_pos hport, free?_of_int32 hnumeral]
        rfl
      · refine Or.inr (Or.inl ⟨some n, rfl, by simpa using hport, ?_⟩)
        simp only [read, read?, hnumeral, if_neg hport]
        rfl

/-- **A port is read** from the strict decimal numerals that stand for one. -/
theorem read_eq_ok_iff {n : Int} :
    read key text = .ok n ↔ int32 text = .ok (some n) ∧ least ≤ n ∧ n ≤ greatest := by
  rcases read_cases key text with ⟨m, hint, hport, hread⟩ | ⟨value, hint, hnone, hread⟩ |
    ⟨count, hint, hread⟩
  · rw [hread, hint]
    constructor
    · rintro ⟨⟩
      exact ⟨rfl, hport⟩
    · rintro ⟨⟨⟩, -⟩
      rfl
  · rw [hread, hint]
    constructor
    · rintro ⟨⟩
    · rintro ⟨⟨⟩, hport⟩
      exact absurd hport (hnone n rfl)
  · rw [hread, hint]
    constructor
    · rintro ⟨⟩
    · rintro ⟨⟨⟩, -⟩

/-- **A port is refused as a bad argument** if its text is no strict decimal numeral within 32 bits,
or one out of the range of ports. -/
theorem exists_read_eq_fail_iff :
    (∃ message, read key text = .error (.fail .badArguments message)) ↔
      ∃ value, int32 text = .ok value ∧ ∀ n ∈ value, ¬(least ≤ n ∧ n ≤ greatest) := by
  rcases read_cases key text with ⟨m, hint, hport, hread⟩ | ⟨value, hint, hnone, hread⟩ |
    ⟨count, hint, hread⟩
  · rw [hread, hint]
    constructor
    · rintro ⟨message, ⟨⟩⟩
    · rintro ⟨value, ⟨⟩, hnone⟩
      exact absurd hport (hnone m rfl)
  · exact ⟨fun _ => ⟨value, hint, hnone⟩, fun _ => ⟨_, hread⟩⟩
  · rw [hread, hint]
    constructor
    · rintro ⟨message, h⟩
      cases Except.error.inj h
    · rintro ⟨value, ⟨⟩, -⟩

/-- A port fails for its digits where its numeral does. -/
theorem read_eq_longNumeral_iff_int32 {count : Nat} :
    read key text = .error (.invalid (.longNumeral count)) ↔ int32 text = .error ⟨count⟩ := by
  rcases read_cases key text with ⟨m, hint, hport, hread⟩ | ⟨value, hint, hnone, hread⟩ |
    ⟨long, hint, hread⟩
  · rw [hread, hint]
    constructor <;> rintro ⟨⟩
  · rw [hread, hint]
    constructor
    · intro h
      cases Except.error.inj h
    · rintro ⟨⟩
  · rw [hread, hint]
    constructor <;> rintro ⟨⟩ <;> rfl

/-- **A port fails for its digits** if it is spelled with more of them than are converted. -/
theorem read_eq_longNumeral_iff {count : Nat} :
    read key text = .error (.invalid (.longNumeral count)) ↔
      ∃ sign digits, IsStrict text sign digits ∧ maxDigits < digits.length ∧
        count = digits.length :=
  read_eq_longNumeral_iff_int32.trans int32_eq_error_iff

/-- The text of a port is read as that port. -/
theorem read_decimal {n : Int} (hport : least ≤ n ∧ n ≤ greatest) :
    read key (decimal n) = .ok n := by
  have hleast : 1 ≤ n := hport.1
  have hgreatest : n ≤ 65535 := hport.2
  exact read_eq_ok_iff.2 ⟨int32_decimal (by omega) (by omega), hport⟩

/-- **Integers and ports are read exactly.** A text that is no strict decimal numeral is no integer.
A strict decimal numeral of at most 4300 digits is the integer for which it stands if that fits into
32 bits with a sign, and none otherwise; as a free numeral it is that integer in either case. A
longer one fails, with a message that names the number of its digits. A port is read from the
numerals of integers from 1 to 65535; whatever is no integer or another one is refused as a bad
argument. A text that is read as a port comes to the same port if it is converted once more, as a
free numeral, and the port is read again from its own text.

**Proof sketch.** A numeral is taken apart as it is spelled, and its digits, evaluated from the
left, make up the sum of their places. Being spelled in ASCII, without underscores, a strict numeral
is taken apart in the same way where free numerals are read. Reading a port has one way to end for
each way to read its integer, and the text of a port has at most five digits. -/
theorem reads_exactly (key text : Text) :
    ((¬∃ sign digits, IsStrict text sign digits) → int32 text = .ok none) ∧
    (∀ sign digits, IsStrict text sign digits → digits.length ≤ 4300 →
      int32 text = .ok (if -2 ^ 31 ≤ meaning sign digits ∧ meaning sign digits ≤ 2 ^ 31 - 1 then
        some (meaning sign digits) else none) ∧
      free? .decimal text = some (meaning sign digits)) ∧
    (∀ sign digits, IsStrict text sign digits → 4300 < digits.length →
      int32 text = .error ⟨digits.length⟩ ∧ free? .decimal text = none ∧
      decimal digits.length <:+: (InvalidValue.longNumeral digits.length).message) ∧
    (∀ n, read key text = .ok n ↔ int32 text = .ok (some n) ∧ 1 ≤ n ∧ n ≤ 65535) ∧
    ((∃ message, read key text = .error (.fail .badArguments message)) ↔
      ∃ value, int32 text = .ok value ∧ ∀ n ∈ value, ¬(1 ≤ n ∧ n ≤ 65535)) ∧
    (∀ count, read key text = .error (.invalid (.longNumeral count)) ↔
      int32 text = .error ⟨count⟩) ∧
    ∀ n, read key text = .ok n →
      free? .decimal text = some n ∧ ∀ key, read key (decimal n) = .ok n := by
  refine ⟨int32_of_not_isStrict, ?_, ?_, fun n => read_eq_ok_iff, exists_read_eq_fail_iff,
    fun count => read_eq_longNumeral_iff_int32, ?_⟩
  · intro sign digits hspelled hlength
    exact ⟨int32_of_isStrict hspelled hlength,
      (free?_of_isStrict hspelled).trans (if_neg (Nat.not_lt.2 hlength))⟩
  · intro sign digits hspelled hlong
    refine ⟨int32_eq_error_iff.2 ⟨sign, digits, hspelled, hlong, rfl⟩,
      (free?_of_isStrict hspelled).trans (if_pos hlong),
      InvalidValue.message.conversion ++ lit ": value has ",
      lit " digits" ++ InvalidValue.message.advice, ?_⟩
    simp [InvalidValue.message, List.append_assoc]
  · intro n hread
    obtain ⟨hint, hport⟩ := read_eq_ok_iff.1 hread
    exact ⟨free?_of_int32 hint, fun key => read_decimal hport⟩

/-- Blanks, a sign and zeros may stand in front of a port, but nothing behind it. -/
example : (read (lit "--command_port") (lit "\t +0080")).toOption = some 80 ∧
    (read (lit "--command_port") (lit "80 ")).toOption = none := by decide +kernel

end Launcher.Port
