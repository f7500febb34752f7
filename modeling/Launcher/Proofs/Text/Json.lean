import Launcher.Proofs.Text.EscapeSequence
import Launcher.Text.Json

/-!
# JSON on any terminal

The line of a JSON value is made of printable ASCII characters alone, so no terminal and no encoding
changes it: there is nothing in it to strip and nothing that cannot be written.

## Main definitions

* `Launcher.Symbol.IsPrintable` and `Launcher.Text.IsPrintable` — printable ASCII.

## Main results

* `Launcher.Json.isPrintable_line` — what the line of a value is made of.
* `Launcher.EscapeSequence.strip_of_isPrintable` — printable texts hold no escape sequences.
-/

namespace Launcher

/-! ## Printable characters -/

/-- A printable character of ASCII. -/
def Symbol.IsPrintable : Symbol → Prop
  | .char c => 0x20 ≤ c.toNat ∧ c.toNat < 0x7F
  | .raw _ => False

/-- Whether a symbol is printable is decided by its code point. -/
instance : DecidablePred Symbol.IsPrintable
  | .char c => inferInstanceAs (Decidable (0x20 ≤ c.toNat ∧ c.toNat < 0x7F))
  | .raw _ => inferInstanceAs (Decidable False)

namespace Text

/-- All symbols are printable. -/
def IsPrintable (t : Text) : Prop := ∀ s ∈ t, s.IsPrintable

/-- Whether a text is printable is decided symbol by symbol. -/
instance (t : Text) : Decidable t.IsPrintable :=
  inferInstanceAs (Decidable (∀ s ∈ t, s.IsPrintable))

variable {s t : Text}

/-- Texts are printable together exactly if each of them is. -/
theorem isPrintable_append : IsPrintable (s ++ t) ↔ IsPrintable s ∧ IsPrintable t :=
  List.forall_mem_append

/-- A text is printable exactly if its first symbol and the rest are. -/
theorem isPrintable_cons {a : Symbol} : IsPrintable (a :: t) ↔ a.IsPrintable ∧ IsPrintable t :=
  List.forall_mem_cons

/-- A text is printable from either end. -/
theorem isPrintable_reverse : IsPrintable t.reverse ↔ IsPrintable t := by
  simp [IsPrintable]

/-- A printable text is made of characters. -/
theorem exists_map_char_of_isPrintable (h : IsPrintable t) :
    ∃ cs : List Char, t = cs.map .char := by
  induction t with
  | nil => exact ⟨[], rfl⟩
  | cons a t ih =>
    obtain ⟨ha, ht⟩ := isPrintable_cons.1 h
    obtain ⟨cs, rfl⟩ := ih ht
    cases a with
    | char c => exact ⟨c :: cs, rfl⟩
    | raw b => exact ha.elim

end Text

/-! ## Numbers -/

/-- The character of a digit is printable, as is the one for a digit that is too large. -/
theorem isPrintable_digitChar (n : Nat) : (Symbol.char n.digitChar).IsPrintable := by
  by_cases h : n < 16
  · exact (by decide : ∀ n < 16, (Symbol.char n.digitChar).IsPrintable) n h
  · have hstar : n.digitChar = '*' := by
      simp only [Nat.digitChar]
      repeat rw [if_neg (by omega)]
    rw [hstar]
    decide

/-- Numerals are printable in every base. -/
theorem isPrintable_toDigits (base n : Nat) :
    Text.IsPrintable ((Nat.toDigits base n).map .char) := by
  have hcore : ∀ (fuel n : Nat) (ds : List Char), Text.IsPrintable (ds.map .char) →
      Text.IsPrintable ((Nat.toDigitsCore base fuel n ds).map .char) := by
    intro fuel
    induction fuel with
    | zero => exact fun _ _ h => h
    | succ fuel ih =>
      intro n ds h
      have hds : Text.IsPrintable (((n % base).digitChar :: ds).map .char) :=
        Text.isPrintable_cons.2 ⟨isPrintable_digitChar _, h⟩
      rw [Nat.toDigitsCore]
      split
      · exact hds
      · exact ih _ _ hds
  exact hcore _ _ _ (by decide)

/-- Decimal numerals are printable, with their signs. -/
theorem isPrintable_decimal (n : Int) : Text.IsPrintable (decimal n) := by
  refine Text.isPrintable_append.2 ⟨?_, isPrintable_toDigits 10 _⟩
  split <;> decide

/-- Hexadecimal numerals are printable, with the zeros in front. -/
theorem isPrintable_hexPadded (width n : Nat) :
    Text.IsPrintable ((hexPadded width n).map .char) := by
  rw [hexPadded, List.map_append]
  refine Text.isPrintable_append.2 ⟨fun s hs => ?_, isPrintable_toDigits 16 n⟩
  rw [List.map_replicate] at hs
  rw [List.eq_of_mem_replicate hs]
  decide

/-! ## JSON -/

namespace Json

/-- The escape of a code unit is printable. -/
theorem isPrintable_unit (n : Nat) : Text.IsPrintable (unit n) :=
  Text.isPrintable_append.2 ⟨by decide, isPrintable_hexPadded 4 n⟩

/-- Whatever a code point is, it is written in printable characters. -/
theorem isPrintable_symbol (s : CodePoint) : Text.IsPrintable (symbol s) := by
  have hplain : (0x20 ≤ s.number && s.number < 0x7F) = true →
      Text.IsPrintable [.char (Char.ofNat s.number)] := by
    intro h
    simp only [Bool.and_eq_true, decide_eq_true_eq] at h
    have hnumber : (Char.ofNat s.number).toNat = s.number :=
      toNat_charOfNat (Or.inl (Nat.lt_trans h.2 (by decide)))
    have hlimits : 0x20 ≤ (Char.ofNat s.number).toNat ∧ (Char.ofNat s.number).toNat < 0x7F := by
      rwa [hnumber]
    exact Text.isPrintable_cons.2 ⟨hlimits, by decide⟩
  unfold symbol
  simp only []
  iterate 2
    split
    · decide
  split
  · exact hplain ‹_›
  iterate 5
    split
    · decide
  split
  · exact isPrintable_unit _
  · exact Text.isPrintable_append.2 ⟨isPrintable_unit _, isPrintable_unit _⟩

/-- A quoted string is printable, whatever its code points. -/
theorem isPrintable_quoted (t : List CodePoint) : Text.IsPrintable (quoted t) := by
  refine Text.isPrintable_append.2
    ⟨Text.isPrintable_append.2 ⟨by decide, fun s hs => ?_⟩, by decide⟩
  obtain ⟨a, -, ha⟩ := List.mem_flatMap.1 hs
  exact isPrintable_symbol a s ha

/-- The name of a field, as it stands in front of its value. -/
theorem isPrintable_fieldName (name : String) :
    Text.IsPrintable (quoted (CodePoint.ofString name) ++ lit ": ").reverse :=
  Text.isPrintable_reverse.2 (Text.isPrintable_append.2 ⟨isPrintable_quoted _, by decide⟩)

mutual

/-- A value is written in printable characters, after whatever was written before. -/
theorem isPrintable_write (value : Json) (done : Text) (h : Text.IsPrintable done) :
    Text.IsPrintable (write done value) := by
  cases value with
  | null => exact Text.isPrintable_append.2 ⟨by decide, h⟩
  | bool b => exact Text.isPrintable_append.2 ⟨by cases b <;> decide, h⟩
  | number n =>
    exact Text.isPrintable_append.2 ⟨Text.isPrintable_reverse.2 (isPrintable_decimal n), h⟩
  | string t =>
    exact Text.isPrintable_append.2 ⟨Text.isPrintable_reverse.2 (isPrintable_quoted t), h⟩
  | array items =>
    have hopen : Text.IsPrintable (.char '[' :: done) := Text.isPrintable_cons.2 ⟨by decide, h⟩
    exact Text.isPrintable_cons.2 ⟨by decide, isPrintable_writeItems items _ hopen⟩
  | object fields =>
    have hopen : Text.IsPrintable (.char '\x7b' :: done) := Text.isPrintable_cons.2 ⟨by decide, h⟩
    exact Text.isPrintable_cons.2 ⟨by decide, isPrintable_writeFields fields _ hopen⟩

/-- Items are written in printable symbols. -/
theorem isPrintable_writeItems (items : List Json) (done : Text) (h : Text.IsPrintable done) :
    Text.IsPrintable (writeItems done items) := by
  match items with
  | [] => exact h
  | [item] => exact isPrintable_write item done h
  | item :: next :: items =>
    have hitem := isPrintable_write item done h
    have hcomma : Text.IsPrintable (.char ' ' :: .char ',' :: write done item) :=
      Text.isPrintable_cons.2 ⟨by decide, Text.isPrintable_cons.2 ⟨by decide, hitem⟩⟩
    exact isPrintable_writeItems (next :: items) _ hcomma

/-- Fields are written in printable symbols. -/
theorem isPrintable_writeFields (fields : List (String × Json)) (done : Text)
    (h : Text.IsPrintable done) : Text.IsPrintable (writeFields done fields) := by
  have hname : ∀ name : String,
      Text.IsPrintable ((quoted (CodePoint.ofString name) ++ lit ": ").reverse ++ done) :=
    fun name => Text.isPrintable_append.2 ⟨isPrintable_fieldName name, h⟩
  match fields with
  | [] => exact h
  | [(name, value)] => exact isPrintable_write value _ (hname name)
  | (name, value) :: next :: fields =>
    have hfield := isPrintable_write value _ (hname name)
    exact isPrintable_writeFields (next :: fields) _
      (Text.isPrintable_cons.2 ⟨by decide, Text.isPrintable_cons.2 ⟨by decide, hfield⟩⟩)

end

/-- **The line of a value is printable.** -/
theorem isPrintable_line (value : Json) : Text.IsPrintable value.line :=
  Text.isPrintable_reverse.2 (isPrintable_write value [] (by decide))

end Json

/-! ## Escape sequences -/

namespace EscapeSequence

/-- **A printable text holds no escape sequences.** -/
theorem strip_of_isPrintable {t : Text} (h : t.IsPrintable) : strip t = t := by
  have hescape : .char '\x1b' ∉ t := fun hmem => absurd (h _ hmem) (by decide)
  simpa using strip_append_of_not_mem hescape []

end EscapeSequence

end Launcher
