import Launcher.Proofs.CommandLine.Reading

/-!
# How the reading of a command line ends

Tokens are read as options that are in order, or they are refused as bad arguments. There is one
more way out: a port that is spelled with more digits than are converted is not looked at any
further, and breaks the launch in place of a refusal. A port out of range is refused, however large;
only the number of digits counts, so a port in range with enough zeros in front breaks the launch
as well.

## Main definitions

* `Launcher.CommandLine.ComesToLongPort` — behind acceptable options stands a port of too many
  digits.

## Main results

* `Launcher.CommandLine.read_eq_longNumeral_iff` — when the digits of a port break the launch.
* `Launcher.CommandLine.read_ends` — how the reading of a command line ends.
* `Launcher.CommandLine.not_refused_as_badArguments` — not every command line that is not read is
  refused as bad arguments.
-/

namespace Launcher

/-- An occurrence breaks the launch if it gives a port with more digits than are converted. -/
theorem Occurrence.outcome_eq_longNumeral_iff {occurrence : Occurrence} {count : Nat} :
    occurrence.outcome = .error (.invalid (.longNumeral count)) ↔
      ∃ text sign digits, occurrence.value? = some (.commandPort, text) ∧
        Numeral.IsStrict text sign digits ∧ Numeral.maxDigits < digits.length ∧
        count = digits.length := by
  have hvalue : ∀ (option : ValueOption) (value : Text),
      option.outcome value = .error (.invalid (.longNumeral count)) ↔
        ∃ text sign digits, some (option, value) = some (.commandPort, text) ∧
          Numeral.IsStrict text sign digits ∧ Numeral.maxDigits < digits.length ∧
          count = digits.length := by
    intro option value
    unfold ValueOption.outcome
    constructor
    · intro h
      split at h
      · cases h
      · cases option with
        | outputBase => cases h
        | commandPort =>
          rcases hport : Port.read Setting.commandPortKey value with e | port
          · simp only [hport, Except.map] at h
            cases h
            obtain ⟨sign, digits, hlong⟩ := Port.read_eq_longNumeral_iff.1 hport
            exact ⟨value, sign, digits, rfl, hlong⟩
          · simp [hport, Except.map] at h
    · rintro ⟨text, sign, digits, heq, hstrict, hlong⟩
      cases heq
      rw [if_neg hstrict.ne_nil]
      simp only [Port.read_eq_longNumeral_iff.2 ⟨sign, digits, hstrict, hlong⟩, Except.map]
  cases occurrence with
  | joined option value => exact hvalue option value
  | apart option value => exact hvalue option value
  | flag flag => simp [Occurrence.outcome, Occurrence.value?]

namespace CommandLine

/-! ## Command lines -/

/-- Behind acceptable occurrences of options stands one of the command port, whose value is a strict
decimal numeral of so many digits, more than are converted. -/
def ComesToLongPort (tokens : List Text) (count : Nat) : Prop :=
  ∃ (occurrences : List Occurrence) (settings : List Setting) (occurrence : Occurrence)
      (later : List Text) (text : Text) (sign digits : List Char),
    Passes tokens occurrences settings (occurrence.tokens ++ later) ∧
    occurrence.value? = some (.commandPort, text) ∧ Numeral.IsStrict text sign digits ∧
    Numeral.maxDigits < digits.length ∧ count = digits.length

/-- **The digits of a port break the launch exactly if the options in front of it are in order and
it has more of them than are converted,** whatever stands behind it. -/
theorem read_eq_longNumeral_iff {tokens : List Text} {count : Nat} :
    read tokens = .error (.invalid (.longNumeral count)) ↔ ComesToLongPort tokens count := by
  constructor
  · intro h
    obtain ⟨occurrences, settings, rest, hpasses, he⟩ := exists_refused_of_read h
    generalize hfailure : Failure.invalid (.longNumeral count) = e at he
    cases he with
    | value occurrence later e houtcome =>
      subst hfailure
      obtain ⟨text, sign, digits, hlong⟩ := Occurrence.outcome_eq_longNumeral_iff.1 houtcome
      exact ⟨occurrences, settings, occurrence, later, text, sign, digits, hpasses, hlong⟩
    | bareKey option => cases hfailure
    | flagWithValue flag value later => cases hfailure
    | unknown token later hdash hend hnames => cases hfailure
  · rintro ⟨occurrences, settings, occurrence, later, text, sign, digits, hpasses, hlong⟩
    have houtcome := Occurrence.outcome_eq_longNumeral_iff.2 ⟨text, sign, digits, hlong⟩
    exact hpasses.read_refused (.value occurrence later _ houtcome)

/-- **How the reading of a command line ends.** The options that are read have an output base that
is not empty and a port from 1 to 65535, where they have any. Tokens that come to a port of more
digits than are converted break the launch, and only these do; all others that are not read are
refused as bad arguments, with the message for what is wrong with an option. -/
theorem read_ends (tokens : List Text) :
    (∀ line, read tokens = .ok line → line.options.outputBase ≠ some [] ∧
      ∀ port, line.options.commandPort = some port → 1 ≤ port ∧ port ≤ 65535) ∧
    (∀ count, read tokens = .error (.invalid (.longNumeral count)) ↔
      ComesToLongPort tokens count) ∧
    ∀ e, read tokens = .error e → (∀ count, ¬ComesToLongPort tokens count) →
      ∃ refusal : OptionError, e = .fail .badArguments refusal.message := by
  refine ⟨fun line hline => ⟨outputBase_ne_nil_of_read hline, fun port hport => ?_⟩,
    fun count => read_eq_longNumeral_iff, fun e he hshort => ?_⟩
  · exact commandPort_of_read hline hport
  · rcases exists_refusal_of_read he with hrefusal | ⟨count, -, rfl⟩
    · exact hrefusal
    · exact absurd (read_eq_longNumeral_iff.1 he) (hshort count)

/-- A port of ones, one more than are converted, breaks the launch. -/
theorem read_ones : read [Setting.commandPortKey ++ equalsSign ::
      (List.replicate (Numeral.maxDigits + 1) '1').map .char] =
    .error (.invalid (.longNumeral (Numeral.maxDigits + 1))) := by
  rw [read_eq_longNumeral_iff]
  refine ⟨[], [], .joined .commandPort ((List.replicate (Numeral.maxDigits + 1) '1').map .char), [],
    _, [], List.replicate (Numeral.maxDigits + 1) '1', ⟨rfl, rfl⟩, rfl, ?_, ?_, ?_⟩
  · refine ⟨⟨[], by simp only [List.nil_append], by simp⟩, Or.inl rfl, by simp, fun c hc => ?_⟩
    rw [List.eq_of_mem_replicate hc]
    rfl
  · rw [List.length_replicate]
    exact Nat.lt_succ_self _
  · rw [List.length_replicate]

/-- **Not every command line that is not read is refused as bad arguments.** -/
theorem not_refused_as_badArguments :
    ¬∀ tokens, (∃ line, read tokens = .ok line ∧ line.options.outputBase ≠ some [] ∧
        ∀ port, line.options.commandPort = some port → 1 ≤ port ∧ port ≤ 65535) ∨
      ∃ message, read tokens = .error (.fail .badArguments message) := by
  intro h
  rcases h _ with ⟨line, hline, -⟩ | ⟨message, hmessage⟩
  · exact absurd (read_ones.symm.trans hline) (by simp)
  · exact absurd (read_ones.symm.trans hmessage) (by simp [Failure.fail])

end CommandLine

end Launcher
