import Launcher.Proofs.Environment
import Launcher.Proofs.Log.LevelName
import Launcher.Proofs.Text.FreeNumeral

/-!
# What settings accept

Five variables of the environment make the settings. The mode for new directories is given as a free
octal numeral, and the level of the log by its name in letters of any case. If one of the two stands
for nothing the settings are refused, for the mode first. The other three are taken as they are, and
an empty value counts as none.

## Main definitions

* `Launcher.Settings.StandsForMode` and `Launcher.Settings.StandsForLevel` — what a value stands
  for.
* `Launcher.Settings.variableNames` — the variables that make the settings.

## Main results

* `Launcher.Settings.readMode_eq_ok_iff` and `Launcher.Settings.readLevel_given?_eq_ok_iff` — what
  is read as a mode and as a level.
* `Launcher.Settings.read_eq_error_iff` — why settings are refused.
* `Launcher.Settings.accepts_its_grammar` — the settings of every environment.
* `Launcher.Settings.not_as_plainly_told` — not every blank is skipped, a zero of another script may
  stand in a mark, and the variable that marks a command line as taken over is read too.
-/

namespace Launcher.Settings

open Numeral

variable {env env' : Environment} {name : String} {value? : Option Text} {n : Int}
  {e : InvalidValue}

/-! ## Single values -/

/-- The value of a variable, if there is one, stands for an integer: none and the empty one for that
of the unset variable, and any other one for what it means. -/
inductive StandsFor (unset : Int) (Means : Text → Int → Prop) : Option Text → Int → Prop where
  | absent : StandsFor unset Means none unset
  | empty : StandsFor unset Means (some []) unset
  | given {value : Text} {n : Int} (hne : value ≠ []) (h : Means value n) :
      StandsFor unset Means (some value) n

/-- What stands for a mode: a free octal numeral for its integer. -/
def StandsForMode : Option Text → Int → Prop :=
  StandsFor 0o755 fun value mode =>
    ∃ sign digits, IsFree .octal value sign digits ∧ Base.meaning .octal sign digits = mode

/-- What stands for a level: a text for the level whose name is its upper case. -/
def StandsForLevel : Option Text → Int → Prop :=
  StandsFor 30 fun value level => ∃ name, (name, level) ∈ Level.names ∧ upperCase value = lit name

/-- What is given for a variable is its value, unless that is empty. -/
theorem given?_eq_some_iff {value : Text} :
    given? env name = some value ↔ env.lookup name = some value ∧ value ≠ [] := by
  simp [given?, Option.filter_eq_some_iff]

/-- What is taken as it is given is the value of the variable, unless that is empty. -/
theorem eq_given?_iff : value? = given? env name ↔
    ∀ value, value? = some value ↔ env.lookup name = some value ∧ value ≠ [] := by
  rw [Option.ext_iff]
  simp only [given?_eq_some_iff]

/-- What is told by whether a value is given. -/
theorem eq_isSome_given?_iff {told : Bool} : told = (given? env name).isSome ↔
    (told = true ↔ ∃ value, env.lookup name = some value ∧ value ≠ []) := by
  rw [Bool.eq_iff_iff, Option.isSome_iff_exists]
  simp only [given?_eq_some_iff]

section Reading

variable {read : Option Text → Except InvalidValue Int} {unset : Int} {Means : Text → Int → Prop}
  {refusal : Text → InvalidValue}

/-- **A value is read as what it stands for** if it is where a value is given. -/
theorem eq_ok_iff_standsFor (hunset : read none = .ok unset)
    (hgiven : ∀ value n, read (some value) = .ok n ↔ Means value n) :
    read (given? env name) = .ok n ↔ StandsFor unset Means (env.lookup name) n := by
  rcases hlookup : env.lookup name with _ | value
  · have hnone : given? env name = none := by simp [given?, hlookup]
    rw [hnone, hunset]
    constructor
    · rintro ⟨⟩
      exact .absent
    · rintro ⟨⟩
      rfl
  · by_cases hne : value = []
    · have hnone : given? env name = none := by simp [given?, hlookup, hne]
      rw [hnone, hunset, hne]
      constructor
      · rintro ⟨⟩
        exact .empty
      · rintro (_ | _ | ⟨hne, -⟩)
        · rfl
        · exact absurd rfl hne
    · rw [given?_eq_some_iff.2 ⟨hlookup, hne⟩, hgiven]
      constructor
      · exact .given hne
      · rintro (_ | _ | ⟨-, h⟩)
        · exact absurd rfl hne
        · exact h

/-- **A value is refused if it stands for nothing.** -/
theorem eq_error_iff_standsFor
    (hok : ∀ n, read (given? env name) = .ok n ↔ StandsFor unset Means (env.lookup name) n)
    (herror : ∀ value? e, read value? = .error e →
      ∃ value, value? = some value ∧ e = refusal value) :
    read (given? env name) = .error e ↔
      ∃ value, env.lookup name = some value ∧ (∀ n, ¬StandsFor unset Means (some value) n) ∧
        e = refusal value := by
  constructor
  · intro h
    obtain ⟨value, hgiven, rfl⟩ := herror _ e h
    have hlookup := (given?_eq_some_iff.1 hgiven).1
    refine ⟨value, hlookup, fun n hn => ?_, rfl⟩
    rw [← hlookup, ← hok, h] at hn
    cases hn
  · rintro ⟨value, hlookup, hnot, rfl⟩
    rcases hread : read (given? env name) with e | n
    · obtain ⟨value', hgiven, rfl⟩ := herror _ e hread
      obtain rfl := Option.some.inj (hlookup.symm.trans (given?_eq_some_iff.1 hgiven).1)
      rfl
    · rw [hok, hlookup] at hread
      exact absurd hread (hnot n)

end Reading

/-- A mode is read from free octal numerals. -/
theorem readMode_some_eq_ok_iff {value : Text} : readMode (some value) = .ok n ↔
    ∃ sign digits, IsFree .octal value sign digits ∧ Base.meaning .octal sign digits = n := by
  have hread : readMode (some value) = .ok n ↔ free? .octal value = some n := by
    rcases hfree : free? .octal value with _ | mode <;> simp [readMode, hfree]
  rw [hread, free?_eq_some_iff]
  simp

/-- **A mode is read from what stands for it.** -/
theorem readMode_eq_ok_iff :
    readMode (given? env name) = .ok n ↔ StandsForMode (env.lookup name) n :=
  eq_ok_iff_standsFor rfl fun _ _ => readMode_some_eq_ok_iff

/-- **A level is read from what stands for it.** -/
theorem readLevel_given?_eq_ok_iff :
    readLevel (given? env name) = .ok n ↔ StandsForLevel (env.lookup name) n :=
  eq_ok_iff_standsFor rfl fun _ _ => readLevel_eq_ok_iff

/-- A mode is refused with its value. -/
theorem exists_of_readMode_eq_error (h : readMode value? = .error e) :
    ∃ value, value? = some value ∧ e = .directoryMode value := by
  unfold readMode at h
  split at h
  · cases h
  · split at h <;> cases h
    exact ⟨_, rfl, rfl⟩

/-- A level is refused with its value. -/
theorem exists_of_readLevel_eq_error (h : readLevel value? = .error e) :
    ∃ value, value? = some value ∧ e = .logLevel value := by
  unfold readLevel at h
  split at h
  · cases h
  · split at h <;> cases h
    exact ⟨_, rfl, rfl⟩

/-! ## Settings -/

/-- The variables that make the settings. -/
def variableNames : List String :=
  ["LAUNCHKIT_DIR_MODE", "LAUNCHKIT_LOG_LEVEL", "LAUNCHKIT_OUTPUT_BASE", "LAUNCHKIT_DELEGATE",
   "LAUNCHKIT_DELEGATED"]

/-- No other variable matters to the settings. -/
theorem read_congr (h : ∀ name ∈ variableNames, env'.lookup name = env.lookup name) :
    read env' = read env := by
  have hgiven : ∀ name ∈ variableNames, given? env' name = given? env name :=
    fun name hname => given?_eq (h name hname)
  unfold read
  rw [hgiven "LAUNCHKIT_DIR_MODE" (by decide), hgiven "LAUNCHKIT_LOG_LEVEL" (by decide),
    hgiven "LAUNCHKIT_OUTPUT_BASE" (by decide), hgiven "LAUNCHKIT_DELEGATE" (by decide),
    hgiven delegatedVariable (by decide)]

/-- Settings are refused for the mode, or for the level if the mode can be read. -/
theorem read_eq_error_iff_readMode : read env = .error e ↔
    readMode (given? env "LAUNCHKIT_DIR_MODE") = .error e ∨
      (∃ mode, readMode (given? env "LAUNCHKIT_DIR_MODE") = .ok mode) ∧
        readLevel (given? env "LAUNCHKIT_LOG_LEVEL") = .error e := by
  unfold read
  rcases readMode (given? env "LAUNCHKIT_DIR_MODE") with e' | mode
  · simp
  · rcases readLevel (given? env "LAUNCHKIT_LOG_LEVEL") with e' | level <;> simp

/-- **Why settings are refused:** for a mode that stands for nothing, or else for such a level. -/
theorem read_eq_error_iff : read env = .error e ↔
    (∃ value, env.lookup "LAUNCHKIT_DIR_MODE" = some value ∧
      (∀ mode, ¬StandsForMode (some value) mode) ∧ e = .directoryMode value) ∨
    (∃ mode, StandsForMode (env.lookup "LAUNCHKIT_DIR_MODE") mode) ∧
      ∃ value, env.lookup "LAUNCHKIT_LOG_LEVEL" = some value ∧
        (∀ level, ¬StandsForLevel (some value) level) ∧ e = .logLevel value := by
  rw [read_eq_error_iff_readMode,
    eq_error_iff_standsFor (fun _ => readMode_eq_ok_iff) fun _ _ => exists_of_readMode_eq_error,
    eq_error_iff_standsFor (fun _ => readLevel_given?_eq_ok_iff) fun _ _ =>
      exists_of_readLevel_eq_error]
  simp only [readMode_eq_ok_iff]
  rfl

/-- **The settings of every environment.** They are read if the mode and the level stand for
integers, which become those of the settings: an unset or empty mode for `0o755` and any other one,
if it is a free octal numeral, for its integer, with any number of digits; an unset or empty level
for that of warnings and any other one for the level whose name is its upper case. The output base
and the delegate are the values of their variables unless those are empty, and the command line
counts as taken over if its mark is not empty. Settings are refused if the mode stands for nothing,
with a message that names the mode, or else if the level does, with one that names the level. A name
of a level is spelled letter by letter, and no variable beside these five matters.

**Proof sketch.** An octal numeral is read symbol by symbol as a line of ASCII, and its blanks,
sign, mark and digits are what is read as their ASCII forms; so it is taken apart as it is spelled.
In upper case a letter of a name comes from three characters at most, and what comes in a sequence
stands in no name. The two values are read one after the other, and each is refused exactly where it
stands for nothing. -/
theorem accepts_its_grammar (env : Environment) :
    (∀ settings, read env = .ok settings ↔
      StandsForMode (env.lookup "LAUNCHKIT_DIR_MODE") settings.directoryMode ∧
      StandsForLevel (env.lookup "LAUNCHKIT_LOG_LEVEL") settings.logLevel ∧
      (∀ base, settings.outputBase = some base ↔
        env.lookup "LAUNCHKIT_OUTPUT_BASE" = some base ∧ base ≠ []) ∧
      (∀ delegate, settings.delegate = some delegate ↔
        env.lookup "LAUNCHKIT_DELEGATE" = some delegate ∧ delegate ≠ []) ∧
      (settings.delegated = true ↔
        ∃ value, env.lookup "LAUNCHKIT_DELEGATED" = some value ∧ value ≠ [])) ∧
    (∀ e, read env = .error e ↔
      (∃ value, env.lookup "LAUNCHKIT_DIR_MODE" = some value ∧
        (∀ mode, ¬StandsForMode (some value) mode) ∧ e = .directoryMode value) ∨
      (∃ mode, StandsForMode (env.lookup "LAUNCHKIT_DIR_MODE") mode) ∧
        ∃ value, env.lookup "LAUNCHKIT_LOG_LEVEL" = some value ∧
          (∀ level, ¬StandsForLevel (some value) level) ∧ e = .logLevel value) ∧
    (∀ value, lit "LAUNCHKIT_DIR_MODE" <+: (InvalidValue.directoryMode value).message ∧
      lit "LAUNCHKIT_LOG_LEVEL" <+: (InvalidValue.logLevel value).message) ∧
    (∀ value name level, (name, level) ∈ Level.names →
      (upperCase value = lit name ↔ List.Forall₂ Level.IsCased value name.toList)) ∧
    ∀ env', (∀ name ∈ variableNames, env'.lookup name = env.lookup name) →
      read env' = read env := by
  refine ⟨fun settings => ?_, fun e => read_eq_error_iff, fun value => ⟨?_, ?_⟩,
    fun value name level hname => Level.upperCase_eq_lit_iff hname value, fun env' => read_congr⟩
  · rw [read_eq_ok, readMode_eq_ok_iff, readLevel_given?_eq_ok_iff, eq_given?_iff, eq_given?_iff,
      eq_isSome_given?_iff]
    rfl
  · have hname :
        lit "LAUNCHKIT_DIR_MODE" <+: lit "LAUNCHKIT_DIR_MODE must be an octal mode, got " := by
      decide
    exact hname.trans (List.prefix_append _ _)
  · have hname : lit "LAUNCHKIT_LOG_LEVEL" <+:
        lit "LAUNCHKIT_LOG_LEVEL must be a logging level name, got " := by decide
    exact hname.trans (List.prefix_append _ _)

/-! ### Other scripts -/

/-- An environment with a mode and a level in letters, digits and blanks of more than one script. -/
def motley : Environment :=
  [("HOME", lit "/home/u"), ("LAUNCHKIT_DIR_MODE", lit "\u00a0-٠O_٧_5\t"),
   ("LAUNCHKIT_LOG_LEVEL", lit "ınfo"), ("LAUNCHKIT_DELEGATE", [])]

/-- What it sets. -/
def motleySettings : Settings where
  outputBase := none
  directoryMode := -0o75
  logLevel := Level.info
  delegate := none
  delegated := false

/-- The mode that is written among these settings stands for the one that is read. -/
theorem standsForMode_motley :
    StandsForMode (motley.lookup "LAUNCHKIT_DIR_MODE") motleySettings.directoryMode := by
  have hseven : IsDigit .octal (.char '٧') 7 := .char (by decide) (by decide)
  have hfive : IsDigit .octal (.char '5') 5 := .char (by decide) (by decide)
  refine .given (List.cons_ne_nil _ _) ⟨['-'], [7, 5], ⟨⟨[.char '\u00a0'], lit "٠O_", lit "٧_5",
    [.char '\t'], rfl, ?_, ?_, .apart hseven (.last hfive), ?_⟩, by simp⟩, by decide⟩
  · simpa using IsMargin.char (c := '\u00a0') (by decide) (by decide)
  · exact .octal (.char (c := '٠') (by decide) (by decide)) (.apart (Or.inr rfl))
  · simpa using IsMargin.char (c := '\t') (by decide) (by decide)

/-- The settings are read, and another variable that is set beside them changes nothing. -/
theorem accepts_its_grammar_motley :
    read motley = .ok motleySettings ∧ read (motley.set "LANG" (lit "C")) = read motley := by
  obtain ⟨hok, -, -, -, hother⟩ := accepts_its_grammar motley
  have hlevel : StandsForLevel (motley.lookup "LAUNCHKIT_LOG_LEVEL") motleySettings.logLevel :=
    .given (List.cons_ne_nil _ _) ⟨"INFO", by decide, by decide +kernel⟩
  refine ⟨(hok motleySettings).2 ⟨standsForMode_motley, hlevel, eq_given?_iff.1 (by decide),
    eq_given?_iff.1 (by decide), eq_isSome_given?_iff.1 (by decide)⟩, hother _ fun name hname => ?_⟩
  refine Environment.lookup_set_of_ne motley (lit "C") ?_
  rintro rfl
  exact absurd hname (by decide)

/-! ### What is plainly told -/

/-- The text is plainly a mode: an octal numeral between any blanks, behind a mark with the zero of
ASCII or none. -/
def IsPlain : Text → List Char → List Nat → Prop :=
  IsSpelled .octal (fun s => ∃ c, s = .char c ∧ Unicode.isBlank c = true)
    fun start => start = [] ∨ IsOctalMark (.char '0') start

/-- The environment of a mode alone. -/
def ofMode (value : Text) : Environment := [("LAUNCHKIT_DIR_MODE", value)]

/-- A separator of information in front of a numeral is a blank, and yet the numeral is refused. -/
theorem isPlain_separated : IsPlain (lit "\x1c7") [] [7] :=
  ⟨⟨[.char '\x1c'], [], lit "7", [], rfl, by simp [Unicode.isBlank, Unicode.blanks], Or.inl rfl,
    .last (.char (by decide) (by decide)), by simp⟩, Or.inl rfl⟩

/-- A zero of another script in a mark is not plain: the letter behind it can stand nowhere else. -/
theorem not_isPlain_foreign (sign : List Char) (digits : List Nat) :
    ¬IsPlain (lit "٠o7") sign digits := by
  rintro ⟨⟨front, start, body, back, htext, hfront, hstart, hbody, hback⟩, hsign⟩
  have hzero : Symbol.char '0' ∉ lit "٠o7" := by decide
  have hletter : Symbol.char 'o' ∈ lit "٠o7" := by decide
  have hblank : ¬∃ c, Symbol.char 'o' = .char c ∧ Unicode.isBlank c = true := by
    rintro ⟨_, ⟨⟩, hblank⟩
    exact absurd hblank (by decide)
  rw [htext] at hzero hletter
  simp only [List.mem_append, not_or] at hzero hletter
  rcases hletter with (hmem | hmem | hmem | hmem) | hmem
  · exact hblank (hfront _ hmem)
  · rcases hsign with rfl | rfl | rfl <;> simp at hmem
  · rcases hstart with rfl | hmark
    · cases hmem
    · refine hzero.1.2.2.1 ?_
      cases hmark <;> exact List.mem_cons_self
  · rcases hbody.of_mem hmem with ⟨d, hd⟩ | hunderscore
    · have hnone : Unicode.digitValue? 'o' = none := by decide
      rcases hd with ⟨hd, -⟩
      rw [hnone] at hd
      cases hd
    · exact absurd hunderscore (by decide)
  · exact hblank (hback _ hmem)

/-- **Settings are not as plainly told.** Not every plain mode is read, not every mode that is read
is plain, and another variable matters beside those of the mode, the level, the output base and the
delegate. -/
theorem not_as_plainly_told :
    (¬∀ value sign digits, IsPlain value sign digits →
      ∃ settings, read (ofMode value) = .ok settings) ∧
    (¬∀ value settings, value ≠ [] → read (ofMode value) = .ok settings →
      ∃ sign digits, IsPlain value sign digits) ∧
    ¬∀ env env' : Environment, (∀ name ∈ ["LAUNCHKIT_DIR_MODE", "LAUNCHKIT_LOG_LEVEL",
      "LAUNCHKIT_OUTPUT_BASE", "LAUNCHKIT_DELEGATE"], env'.lookup name = env.lookup name) →
      read env' = read env := by
  refine ⟨fun h => ?_, fun h => ?_, fun h => ?_⟩
  · obtain ⟨settings, hread⟩ := h _ _ _ isPlain_separated
    have hrefused : (read (ofMode (lit "\x1c7"))).toOption = none := by decide +kernel
    rw [hread] at hrefused
    cases hrefused
  · have hread : read (ofMode (lit "٠o7")) = .ok { motleySettings with
        directoryMode := 7
        logLevel := Level.warning } := eq_ok_of_toOption (by decide +kernel)
    obtain ⟨sign, digits, hplain⟩ := h _ _ (by decide) hread
    exact not_isPlain_foreign sign digits hplain
  · have hsame := h [] [("LAUNCHKIT_DELEGATED", lit "1")] (by decide)
    have hdelegated := congrArg (fun result => result.toOption.map delegated) hsame
    exact absurd hdelegated (by decide +kernel)

end Launcher.Settings
