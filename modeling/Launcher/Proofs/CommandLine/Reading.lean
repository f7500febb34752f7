import Launcher.Proofs.CommandLine.Grammar
import Launcher.Proofs.Except
import Launcher.Proofs.Port

/-!
# Reading command lines

Reading a command line finds its split into occurrences and a tail if there is one, and otherwise
fails for the reason why there is none.

## Main results

* `Launcher.CommandLine.readFrom_occurrence`, `readFrom_tail` and `readFrom_refused` — what one step
  of reading does.
* `Launcher.CommandLine.split_or_refused` — every list of tokens has a split or a reason.
* `Launcher.CommandLine.IsSplit.unique` — it has only one split.
* `Launcher.CommandLine.read_iff_isSplit` — reading is the grammar.
-/

namespace Launcher

/-! ## Tokens and names -/

/-- What follows a beginning is what has to be added to it. -/
theorem Text.dropStart?_eq_some_iff {t start rest : Text} :
    t.dropStart? start = some rest ↔ t = start ++ rest := by
  unfold Text.dropStart?
  constructor
  · intro h
    split at h
    · next hp =>
      obtain ⟨later, rfl⟩ := List.isPrefixOf_iff_prefix.1 hp
      simp only [List.drop_left, Option.some.injEq] at h
      rw [h]
    · simp at h
  · rintro rfl
    rw [if_pos (List.isPrefixOf_iff_prefix.2 (List.prefix_append _ _)), List.drop_left]

namespace OptionName

/-- No name begins with another one. -/
theorem dropStart?_key_append (name other : OptionName) (rest : Text) :
    (other.key ++ rest).dropStart? name.key = if name = other then some rest else none := by
  rcases name with (_ | _) | (_ | _) <;> rcases other with (_ | _) | (_ | _) <;> rfl

/-- A token that names an option begins with the name. -/
theorem Names.exists_eq_append {name : OptionName} {token : Text} (h : name.Names token) :
    ∃ rest, token = name.key ++ rest := by
  rcases h with rfl | ⟨value, rfl⟩
  · exact ⟨[], (List.append_nil _).symm⟩
  · exact ⟨_, rfl⟩

/-- A token that names an option is dashed. -/
theorem Names.isDashed {name : OptionName} {token : Text} (h : name.Names token) :
    CommandLine.isDashed token = true := by
  obtain ⟨rest, rfl⟩ := h.exists_eq_append
  rcases name with (_ | _) | (_ | _) <;> rfl

/-- A token that names an option is longer than the end of the options. -/
theorem Names.ne_endOfOptions {name : OptionName} {token : Text} (h : name.Names token) :
    token ≠ CommandLine.endOfOptions := by
  obtain ⟨rest, rfl⟩ := h.exists_eq_append
  intro heq
  have hlength := congrArg List.length heq
  have hkey : 2 < name.key.length := by
    rcases name with (_ | _) | (_ | _) <;> decide
  have hend : CommandLine.endOfOptions.length = 2 := by decide
  rw [List.length_append, hend] at hlength
  omega

/-- Two options do not share a name. -/
theorem Names.unique {name other : OptionName} {token : Text} (h : name.Names token)
    (h' : other.Names token) : name = other := by
  obtain ⟨rest, rfl⟩ := h'.exists_eq_append
  obtain ⟨rest', hrest'⟩ := h.exists_eq_append
  have hdrop := dropStart?_key_append name other rest
  rw [Text.dropStart?_eq_some_iff.2 hrest'] at hdrop
  by_cases hne : name = other
  · exact hne
  · rw [if_neg hne] at hdrop
    simp at hdrop

end OptionName

/-! ## One occurrence -/

section Step

variable {option : ValueOption} {flag : Flag} {token value : Text} {next : Option Text}

/-- A token that does not name an option gives it no value. -/
theorem Setting.value?_of_not_names (option : ValueOption) (next : Option Text)
    (h : ¬(OptionName.valued option).Names token) :
    Setting.value? token next option.key = .ok none := by
  have hkey : token ≠ option.key := fun e => h (Or.inl e)
  have hgives : OptionToken.value? token next option.key = none := by
    unfold OptionToken.value?
    split
    · rfl
    · next hd =>
      rw [Text.dropStart?_eq_some_iff, List.append_nil] at hd
      exact absurd hd hkey
    · next v hd => exact absurd (Or.inr ⟨v, Text.dropStart?_eq_some_iff.1 hd⟩) h
    · rfl
  simp only [Setting.value?, hgives, if_neg hkey]

/-- A token that does not name a flag is not the flag. -/
theorem OptionToken.isFlag_of_not_names (flag : Flag) (h : ¬(OptionName.flag flag).Names token) :
    OptionToken.isFlag token flag.key = .ok false := by
  unfold OptionToken.isFlag
  split
  · rfl
  · next v hd => exact absurd (Or.inr ⟨v, Text.dropStart?_eq_some_iff.1 hd⟩) h
  · next rest _ hd =>
    cases rest with
    | nil =>
      rw [Text.dropStart?_eq_some_iff, List.append_nil] at hd
      exact absurd (Or.inl hd) h
    | cons => rfl

/-- The value in the same token counts, whatever comes next. -/
theorem Setting.value?_joined :
    Setting.value? (option.key ++ equalsSign :: value) next option.key =
      if value = [] then .error (.missingValue option.key) else .ok (some value) := by
  have hgives : OptionToken.value? (option.key ++ equalsSign :: value) next option.key =
      some value := by
    rw [OptionToken.value?, Text.dropStart?_eq_some_iff.2 rfl]
    rfl
  rw [Setting.value?, hgives]
  cases value <;> rfl

/-- Behind a bare name, the next token is the value. -/
theorem Setting.value?_apart :
    Setting.value? option.key (some value) option.key =
      if value = [] then .error (.missingValue option.key) else .ok (some value) := by
  have hgives : OptionToken.value? option.key (some value) option.key = some value := by
    rw [OptionToken.value?, Text.dropStart?_eq_some_iff.2 (List.append_nil _).symm]
  rw [Setting.value?, hgives]
  cases value <;> rfl

/-- A bare name at the end has no value. -/
theorem Setting.value?_bareKey :
    Setting.value? option.key none option.key = .error (.missingValue option.key) := by
  have hgives : OptionToken.value? option.key none option.key = none := by
    rw [OptionToken.value?, Text.dropStart?_eq_some_iff.2 (List.append_nil _).symm]
  rw [Setting.value?, hgives]
  simp only [↓reduceIte]

/-- A token that gives a value to an option does what the value does. -/
theorem Setting.read_of_value? (hnames : (OptionName.valued option).Names token)
    (hvalue : Setting.value? token next option.key =
      if value = [] then .error (.missingValue option.key) else .ok (some value)) :
    Setting.read token next = option.outcome value := by
  cases option with
  | outputBase =>
    simp only [ValueOption.key] at hvalue
    by_cases hv : value = []
    · rw [if_pos hv] at hvalue
      simp [Setting.read, hvalue, Setting.read.refused, ValueOption.outcome, ValueOption.key,
        hv]
    · rw [if_neg hv] at hvalue
      simp [Setting.read, hvalue, Setting.read.refused, ValueOption.outcome, hv]
  | commandPort =>
    have hother : Setting.value? token next Setting.outputBaseKey = .ok none := by
      refine Setting.value?_of_not_names .outputBase next fun h => ?_
      exact absurd (h.unique hnames) (by decide)
    simp only [ValueOption.key] at hvalue
    by_cases hv : value = []
    · rw [if_pos hv] at hvalue
      simp [Setting.read, hother, hvalue, Setting.read.refused, ValueOption.outcome,
        ValueOption.key, hv]
    · rw [if_neg hv] at hvalue
      simp only [Setting.read, hother, hvalue, Setting.read.refused, mapError_ok,
        ValueOption.outcome, if_neg hv, ok_bind]
      cases Port.read Setting.commandPortKey value <;> rfl

/-- The bare name of an option at the end of the tokens is refused. -/
theorem Setting.read_bareKey (option : ValueOption) :
    Setting.read option.key none =
      .error (OptionError.missingValue option.key).toFailure := by
  have hmissing := @Setting.value?_bareKey option
  cases option with
  | outputBase =>
    simp only [ValueOption.key] at hmissing ⊢
    rw [Setting.read, hmissing]
    rfl
  | commandPort =>
    have hother : Setting.value? Setting.commandPortKey none Setting.outputBaseKey = .ok none := by
      refine Setting.value?_of_not_names .outputBase none fun h => ?_
      exact absurd (h.unique (Or.inl rfl : (OptionName.valued .commandPort).Names _)) (by decide)
    simp only [ValueOption.key] at hmissing ⊢
    rw [Setting.read, hother, hmissing]
    rfl

/-- A token that names no option with a value is read as a flag, or as nothing known. -/
theorem Setting.read_of_not_valued
    (h : ∀ option : ValueOption, ¬(OptionName.valued option).Names token) :
    Setting.read token next = (do
      if ← Setting.read.refused (OptionToken.isFlag token Flag.batch.key) then return .batch
      if ← Setting.read.refused (OptionToken.isFlag token Flag.json.key) then return .json
      throw (OptionError.unknown token).toFailure) := by
  have hbase : Setting.value? token next Setting.outputBaseKey = .ok none :=
    Setting.value?_of_not_names .outputBase next (h .outputBase)
  have hport : Setting.value? token next Setting.commandPortKey = .ok none :=
    Setting.value?_of_not_names .commandPort next (h .commandPort)
  rw [Setting.read, hbase, hport]
  rfl

/-- A flag does what it stands for. -/
theorem Setting.read_flag (flag : Flag) (next : Option Text) :
    Setting.read flag.key next = .ok flag.setting := by
  have hname : (OptionName.flag flag).Names flag.key := Or.inl rfl
  rw [Setting.read_of_not_valued fun option h => absurd (h.unique hname) (by simp)]
  cases flag <;> rfl

/-- A flag with a value is refused. -/
theorem Setting.read_flagWithValue (flag : Flag) (value : Text) (next : Option Text) :
    Setting.read (flag.key ++ equalsSign :: value) next =
      .error (OptionError.flagWithValue (flag.key ++ equalsSign :: value) flag.key).toFailure := by
  have hname : (OptionName.flag flag).Names (flag.key ++ equalsSign :: value) := Or.inr ⟨value, rfl⟩
  rw [Setting.read_of_not_valued fun option h => absurd (h.unique hname) (by simp)]
  cases flag <;> rfl

/-- A token that names no option is refused. -/
theorem Setting.read_unknown (h : ∀ name : OptionName, ¬name.Names token) :
    Setting.read token next = .error (OptionError.unknown token).toFailure := by
  rw [Setting.read_of_not_valued fun option => h (.valued option),
    OptionToken.isFlag_of_not_names .batch (h _), OptionToken.isFlag_of_not_names .json (h _)]
  rfl

end Step

/-- The next token is used up behind the bare name of an option with a value, and only there. -/
theorem Setting.takesNext_eq_true_iff {token : Text} :
    Setting.takesNext token = true ↔ ∃ option : ValueOption, token = option.key := by
  simp only [Setting.takesNext, Bool.or_eq_true, beq_iff_eq]
  constructor
  · rintro (h | h)
    · exact ⟨.outputBase, h⟩
    · exact ⟨.commandPort, h⟩
  · rintro ⟨_ | _, h⟩
    · exact Or.inl h
    · exact Or.inr h

/-- No token is used up behind a flag, or behind a name with an equals sign. -/
theorem Setting.takesNext_eq_false {name : OptionName} {token : Text} (h : name.Names token)
    (hne : ∀ option : ValueOption, name = .valued option → token ≠ option.key) :
    Setting.takesNext token = false := by
  rw [Bool.eq_false_iff, ne_eq, Setting.takesNext_eq_true_iff]
  rintro ⟨option, rfl⟩
  exact hne option (h.unique (Or.inl rfl)) rfl

/-! ## Settings -/

/-- Settings amount to what they make of no options, one after the other. -/
theorem StartupOptions.foldl_apply (settings : List Setting) :
    settings.foldl StartupOptions.apply .none = .ofSettings settings := by
  have key : ∀ options : StartupOptions, settings.foldl StartupOptions.apply options =
      { outputBase := (settings.filterMap Setting.path?).getLast?.or options.outputBase
        commandPort := (settings.filterMap Setting.port?).getLast?.or options.commandPort
        batch := decide (.batch ∈ settings) || options.batch
        json := decide (.json ∈ settings) || options.json } := by
    induction settings with
    | nil => intro options; simp
    | cons setting settings ih =>
      intro options
      rw [List.foldl_cons, ih]
      cases setting <;>
        simp [StartupOptions.apply, Setting.path?, Setting.port?, List.getLast?_cons]
  rw [key]
  simp [StartupOptions.ofSettings, StartupOptions.none]

/-- A port is refused because it is none, or because it has too many digits to be looked at. -/
theorem Port.eq_of_read_eq_error {key text : Text} {e : Failure}
    (h : Port.read key text = .error e) :
    e = (OptionError.invalidPort key text).toFailure ∨
      ∃ digits, Numeral.maxDigits < digits ∧ e = .invalid (.longNumeral digits) := by
  rcases Port.read_cases key text with ⟨n, -, -, hread⟩ | ⟨_, -, -, hread⟩ | ⟨count, hint, hread⟩
  · cases hread.symm.trans h
  · exact Or.inl (Except.error.inj (h.symm.trans hread))
  · obtain ⟨sign, digits, -, hlong, hcount⟩ := Numeral.int32_eq_error_iff.1 hint
    obtain rfl : count = digits.length := hcount
    exact Or.inr ⟨_, hlong, Except.error.inj (h.symm.trans hread)⟩

/-- An occurrence is refused as a wrong option, or because of the digits of a port. -/
theorem Occurrence.eq_of_outcome_eq_error {occurrence : Occurrence} {e : Failure}
    (h : occurrence.outcome = .error e) :
    (∃ refusal : OptionError, e = refusal.toFailure) ∨
      ∃ digits, Numeral.maxDigits < digits ∧ e = .invalid (.longNumeral digits) := by
  have hvalue : ∀ (option : ValueOption) (value : Text), option.outcome value = .error e →
      (∃ refusal : OptionError, e = refusal.toFailure) ∨
        ∃ digits, Numeral.maxDigits < digits ∧ e = .invalid (.longNumeral digits) := by
    intro option value h
    unfold ValueOption.outcome at h
    split at h
    · exact Or.inl ⟨_, (Except.error.inj h).symm⟩
    · cases option with
      | outputBase => simp at h
      | commandPort =>
        cases hport : Port.read Setting.commandPortKey value with
        | ok port => simp [hport, Except.map] at h
        | error e' =>
          simp only [hport, Except.map, Except.error.injEq] at h
          subst h
          rcases Port.eq_of_read_eq_error hport with rfl | hlong
          · exact Or.inl ⟨_, rfl⟩
          · exact Or.inr hlong
  cases occurrence with
  | joined option value => exact hvalue option value h
  | apart option value => exact hvalue option value h
  | flag flag => simp [Occurrence.outcome] at h

/-- What an occurrence makes is in order. -/
theorem Occurrence.isInOrder_of_outcome {occurrence : Occurrence} {setting : Setting}
    (h : occurrence.outcome = .ok setting) : setting.IsInOrder := by
  have hvalue : ∀ (option : ValueOption) value, option.outcome value = .ok setting →
      setting.IsInOrder := by
    intro option value hmakes
    unfold ValueOption.outcome at hmakes
    split at hmakes
    · cases hmakes
    · rename_i hne
      cases option with
      | outputBase =>
        cases hmakes
        exact hne
      | commandPort =>
        rcases hport : Port.read Setting.commandPortKey value with e | port
        · simp [hport, Except.map] at hmakes
        · simp only [hport, Except.map] at hmakes
          cases hmakes
          exact (Port.read_eq_ok_iff.1 hport).2
  cases occurrence with
  | joined option value => exact hvalue option value h
  | apart option value => exact hvalue option value h
  | flag flag =>
    cases flag with
    | batch =>
      cases h
      trivial
    | json =>
      cases h
      trivial

namespace CommandLine

/-! ## Reading on -/

/-- A dashed token that does not end the options is read as a setting. -/
theorem readFrom_cons {token : Text} (hdash : isDashed token = true) (hend : token ≠ endOfOptions)
    (options : StartupOptions) (rest : List Text) :
    readFrom options (token :: rest) =
      match Setting.read token rest.head? with
      | .error e => .error e
      | .ok setting =>
          readFrom (options.apply setting)
            (if Setting.takesNext token then rest.drop 1 else rest) := by
  rw [readFrom, if_neg hend, if_neg (by simp [hdash])]
  cases Setting.read token rest.head? with
  | error e => rfl
  | ok setting =>
    cases hnext : Setting.takesNext token with
    | false => simp
    | true => cases rest <;> simp [readFrom]

/-- **One step of reading**: an occurrence is passed over with what it does. -/
theorem readFrom_occurrence (options : StartupOptions) (occurrence : Occurrence)
    (later : List Text) :
    readFrom options (occurrence.tokens ++ later) =
      match occurrence.outcome with
      | .error e => .error e
      | .ok setting => readFrom (options.apply setting) later := by
  cases occurrence with
  | joined option value =>
    have hname : (OptionName.valued option).Names (option.key ++ equalsSign :: value) :=
      Or.inr ⟨value, rfl⟩
    have hnext : Setting.takesNext (option.key ++ equalsSign :: value) = false := by
      refine Setting.takesNext_eq_false hname fun other h heq => ?_
      obtain rfl := OptionName.valued.inj h
      simpa using congrArg List.length heq
    rw [Occurrence.tokens, List.singleton_append, readFrom_cons hname.isDashed
      hname.ne_endOfOptions, Setting.read_of_value? hname Setting.value?_joined, hnext]
    rfl
  | apart option value =>
    have hname : (OptionName.valued option).Names option.key := Or.inl rfl
    rw [Occurrence.tokens, List.cons_append, readFrom_cons hname.isDashed hname.ne_endOfOptions,
      List.singleton_append, List.head?_cons, Setting.read_of_value? hname Setting.value?_apart,
      Setting.takesNext_eq_true_iff.2 ⟨option, rfl⟩]
    rfl
  | flag flag =>
    have hname : (OptionName.flag flag).Names flag.key := Or.inl rfl
    have hnext : Setting.takesNext flag.key = false :=
      Setting.takesNext_eq_false hname fun _ h => by simp at h
    rw [Occurrence.tokens, List.singleton_append, readFrom_cons hname.isDashed
      hname.ne_endOfOptions, Setting.read_flag, hnext]
    rfl

/-- A tail ends the reading. -/
theorem readFrom_tail (options : StartupOptions) {tail : Tail} (h : tail.IsProper) :
    readFrom options tail.tokens = .ok { options, command := tail.command } := by
  cases tail with
  | nothing => rfl
  | marked command => rw [Tail.tokens, readFrom, if_pos rfl]; rfl
  | plain program arguments =>
    have hdash : isDashed program = false := h
    have hend : program ≠ endOfOptions := by
      rintro rfl
      exact absurd hdash (by decide)
    rw [Tail.tokens, readFrom, if_neg hend, if_pos (by simp [hdash])]
    rfl

/-- A refused beginning ends the reading with the reason. -/
theorem readFrom_refused (options : StartupOptions) {tokens : List Text} {e : Failure}
    (h : Refused tokens e) : readFrom options tokens = .error e := by
  cases h with
  | bareKey option =>
    have hname : (OptionName.valued option).Names option.key := Or.inl rfl
    rw [readFrom_cons hname.isDashed hname.ne_endOfOptions, List.head?_nil,
      Setting.read_bareKey]
  | value occurrence later e houtcome => rw [readFrom_occurrence, houtcome]
  | flagWithValue flag value later =>
    have hname : (OptionName.flag flag).Names (flag.key ++ equalsSign :: value) :=
      Or.inr ⟨value, rfl⟩
    rw [readFrom_cons hname.isDashed hname.ne_endOfOptions, Setting.read_flagWithValue]
  | unknown token later hdash hend hnames =>
    rw [readFrom_cons hdash hend, Setting.read_unknown hnames]

/-! ## Splits -/

/-- Every list of tokens begins with an occurrence, or is a tail, or is refused. -/
theorem front_cases (tokens : List Text) :
    (∃ tail : Tail, tail.IsProper ∧ tokens = tail.tokens) ∨
      (∃ (occurrence : Occurrence) (later : List Text), tokens = occurrence.tokens ++ later) ∨
      ∃ e, Refused tokens e := by
  rcases tokens with _ | ⟨token, rest⟩
  · exact Or.inl ⟨.nothing, trivial, rfl⟩
  by_cases hend : token = endOfOptions
  · exact Or.inl ⟨.marked rest, trivial, by rw [hend]; rfl⟩
  by_cases hdash : isDashed token = true
  · by_cases hnames : ∃ name : OptionName, name.Names token
    · obtain ⟨option | flag, rfl | ⟨value, rfl⟩⟩ := hnames
      · -- the bare name of an option: its value is the next token, if there is one
        rcases rest with _ | ⟨value, later⟩
        · exact Or.inr (Or.inr ⟨_, .bareKey option⟩)
        · exact Or.inr (Or.inl ⟨.apart option value, later, rfl⟩)
      · exact Or.inr (Or.inl ⟨.joined option value, rest, rfl⟩)
      · exact Or.inr (Or.inl ⟨.flag flag, rest, rfl⟩)
      · exact Or.inr (Or.inr ⟨_, .flagWithValue flag value rest⟩)
    · exact Or.inr (Or.inr ⟨_, .unknown token rest hdash hend fun name h => hnames ⟨name, h⟩⟩)
  · exact Or.inl ⟨.plain token rest, by simpa [Tail.IsProper] using hdash, rfl⟩

/-- One more occurrence in front. -/
theorem Passes.cons {occurrence : Occurrence} {setting : Setting} {tokens rest : List Text}
    {occurrences : List Occurrence} {settings : List Setting}
    (houtcome : occurrence.outcome = .ok setting) (h : Passes tokens occurrences settings rest) :
    Passes (occurrence.tokens ++ tokens) (occurrence :: occurrences) (setting :: settings)
      rest where
  spelled := by rw [List.flatMap_cons, List.append_assoc, ← h.spelled]
  accepted := by rw [List.map_cons, List.map_cons, houtcome, h.accepted]

/-- **Every list of tokens is a split, or is refused behind some occurrences.** -/
theorem split_or_refused (tokens : List Text) :
    ∃ occurrences settings rest, Passes tokens occurrences settings rest ∧
      ((∃ tail : Tail, tail.IsProper ∧ rest = tail.tokens) ∨ ∃ e, Refused rest e) := by
  rcases front_cases tokens with htail | ⟨occurrence, later, rfl⟩ | hrefused
  · exact ⟨[], [], tokens, ⟨rfl, rfl⟩, Or.inl htail⟩
  · cases houtcome : occurrence.outcome with
    | error e =>
      exact ⟨[], [], _, ⟨rfl, rfl⟩, Or.inr ⟨e, .value occurrence later e houtcome⟩⟩
    | ok setting =>
      have hlength : later.length < (occurrence.tokens ++ later).length := by
        cases occurrence <;> simp only [Occurrence.tokens, List.length_append, List.length_cons,
          List.length_nil] <;> omega
      obtain ⟨occurrences, settings, rest, hpasses, hrest⟩ := split_or_refused later
      exact ⟨occurrence :: occurrences, setting :: settings, rest, hpasses.cons houtcome, hrest⟩
  · exact ⟨[], [], tokens, ⟨rfl, rfl⟩, Or.inr hrefused⟩
termination_by tokens.length

/-- Occurrences are read one after the other. -/
theorem readFrom_passes {tokens rest : List Text} :
    ∀ {occurrences : List Occurrence} {settings : List Setting} (options : StartupOptions),
      Passes tokens occurrences settings rest →
      readFrom options tokens = readFrom (settings.foldl StartupOptions.apply options) rest := by
  intro occurrences
  induction occurrences generalizing tokens with
  | nil =>
    intro settings options h
    have hnil : settings = [] := by simpa using h.accepted
    rw [h.spelled, hnil]
    rfl
  | cons occurrence occurrences ih =>
    intro settings options h
    obtain ⟨hspelled, haccepted⟩ := h
    cases settings with
    | nil => simp at haccepted
    | cons setting settings =>
      obtain ⟨houtcome, haccepted⟩ := List.cons.inj haccepted
      rw [hspelled, List.flatMap_cons, List.append_assoc, readFrom_occurrence, houtcome]
      exact ih (options.apply setting) ⟨rfl, haccepted⟩

/-! ## The grammar decides -/

/-- The first token of an occurrence names its option. -/
theorem exists_tokens_eq_cons (occurrence : Occurrence) :
    ∃ token later, occurrence.tokens = token :: later ∧ occurrence.optionName.Names token := by
  cases occurrence with
  | joined option value => exact ⟨_, [], rfl, Or.inr ⟨value, rfl⟩⟩
  | apart option value => exact ⟨_, [value], rfl, Or.inl rfl⟩
  | flag flag => exact ⟨_, [], rfl, Or.inl rfl⟩

/-- A tail does not begin with an occurrence. -/
theorem tokens_append_ne_tail {occurrence : Occurrence} {later : List Text} {tail : Tail}
    (h : tail.IsProper) : occurrence.tokens ++ later ≠ tail.tokens := by
  obtain ⟨token, rest, htokens, hname⟩ := exists_tokens_eq_cons occurrence
  rw [htokens, List.cons_append]
  intro heq
  cases tail with
  | nothing => simp [Tail.tokens] at heq
  | marked command => exact hname.ne_endOfOptions (List.cons.inj heq).1
  | plain program arguments =>
    have hdash : isDashed token = false := (List.cons.inj heq).1 ▸ h
    rw [hname.isDashed] at hdash
    simp at hdash

/-- Proper tails with the same tokens are the same. -/
theorem tail_unique {tail tail' : Tail} (h : tail.IsProper) (h' : tail'.IsProper)
    (heq : tail.tokens = tail'.tokens) : tail = tail' := by
  have hend : isDashed endOfOptions = true := by decide
  cases tail <;> cases tail' <;> simp only [Tail.tokens, reduceCtorEq, List.cons.injEq] at heq
  · rfl
  · rw [heq.2]
  · obtain ⟨rfl, -⟩ := heq
    simp [Tail.IsProper, hend] at h'
  · obtain ⟨rfl, -⟩ := heq
    simp [Tail.IsProper, hend] at h
  · rw [heq.1, heq.2]

/-- Occurrences in front of the same tokens are of the same option. -/
theorem optionName_eq_of_tokens_eq {occurrence other : Occurrence} {later later' : List Text}
    (h : occurrence.tokens ++ later = other.tokens ++ later') :
    occurrence.optionName = other.optionName := by
  obtain ⟨token, rest, htokens, hname⟩ := exists_tokens_eq_cons occurrence
  obtain ⟨token', rest', htokens', hname'⟩ := exists_tokens_eq_cons other
  rw [htokens, htokens'] at h
  obtain ⟨rfl, -⟩ := List.cons.inj h
  exact hname.unique hname'

/-- A token with a value is longer than the name in it. -/
theorem key_append_ne_key (key value : Text) : key ++ equalsSign :: value ≠ key := by
  intro heq
  simpa using congrArg List.length heq

/-- An occurrence in front is found again. -/
theorem occurrence_unique {occurrence other : Occurrence} {later later' : List Text}
    (h : occurrence.tokens ++ later = other.tokens ++ later') :
    occurrence = other ∧ later = later' := by
  have hoption := optionName_eq_of_tokens_eq h
  cases occurrence with
  | joined option value =>
    cases other with
    | joined option' value' =>
      obtain rfl := OptionName.valued.inj hoption
      obtain ⟨htoken, rfl⟩ := List.cons.inj h
      obtain ⟨-, rfl⟩ := List.cons.inj (List.append_cancel_left htoken)
      exact ⟨rfl, rfl⟩
    | apart option' value' =>
      obtain rfl := OptionName.valued.inj hoption
      exact absurd (List.cons.inj h).1 (key_append_ne_key _ _)
    | flag flag => cases hoption
  | apart option value =>
    cases other with
    | joined option' value' =>
      obtain rfl := OptionName.valued.inj hoption
      exact absurd (List.cons.inj h).1.symm (key_append_ne_key _ _)
    | apart option' value' =>
      obtain rfl := OptionName.valued.inj hoption
      obtain ⟨-, hrest⟩ := List.cons.inj h
      obtain ⟨rfl, rfl⟩ := List.cons.inj hrest
      exact ⟨rfl, rfl⟩
    | flag flag => cases hoption
  | flag flag =>
    cases other with
    | joined option' value' => cases hoption
    | apart option' value' => cases hoption
    | flag flag' =>
      obtain rfl := OptionName.flag.inj hoption
      exact ⟨rfl, (List.cons.inj h).2⟩

/-- Occurrences and a tail are found again in their tokens. -/
theorem spelled_unique {tail tail' : Tail} (h : tail.IsProper) (h' : tail'.IsProper) :
    ∀ {occurrences others : List Occurrence},
      occurrences.flatMap Occurrence.tokens ++ tail.tokens =
        others.flatMap Occurrence.tokens ++ tail'.tokens →
      occurrences = others ∧ tail = tail' := by
  intro occurrences
  induction occurrences with
  | nil =>
    intro others heq
    cases others with
    | nil => exact ⟨rfl, tail_unique h h' heq⟩
    | cons other others =>
      rw [List.flatMap_nil, List.nil_append, List.flatMap_cons, List.append_assoc] at heq
      exact absurd heq.symm (tokens_append_ne_tail h)
  | cons occurrence occurrences ih =>
    intro others heq
    cases others with
    | nil =>
      rw [List.flatMap_nil, List.nil_append, List.flatMap_cons, List.append_assoc] at heq
      exact absurd heq (tokens_append_ne_tail h')
    | cons other others =>
      rw [List.flatMap_cons, List.flatMap_cons, List.append_assoc, List.append_assoc] at heq
      obtain ⟨rfl, hrest⟩ := occurrence_unique heq
      obtain ⟨rfl, htail⟩ := ih hrest
      exact ⟨rfl, htail⟩

/-- **A list of tokens has one split at most.** -/
theorem IsSplit.unique {tokens : List Text} {occurrences others : List Occurrence}
    {settings settings' : List Setting} {tail tail' : Tail}
    (h : IsSplit tokens occurrences settings tail) (h' : IsSplit tokens others settings' tail') :
    occurrences = others ∧ settings = settings' ∧ tail = tail' := by
  obtain ⟨rfl, rfl⟩ := spelled_unique h.proper h'.proper (h.spelled.symm.trans h'.spelled)
  have hsettings := h.accepted.symm.trans h'.accepted
  exact ⟨rfl, (List.map_inj_right fun _ _ => Except.ok.inj).1 hsettings, rfl⟩

/-- A split is read as what it amounts to. -/
theorem IsSplit.read {tokens : List Text} {occurrences : List Occurrence}
    {settings : List Setting} {tail : Tail} (h : IsSplit tokens occurrences settings tail) :
    CommandLine.read tokens =
      .ok { options := .ofSettings settings, command := tail.command } := by
  rw [CommandLine.read, readFrom_passes .none h.toPasses, StartupOptions.foldl_apply,
    readFrom_tail _ h.proper]

/-- Occurrences with a refused rest behind them are refused. -/
theorem Passes.read_refused {tokens rest : List Text} {occurrences : List Occurrence}
    {settings : List Setting} {e : Failure} (h : Passes tokens occurrences settings rest)
    (he : Refused rest e) : CommandLine.read tokens = .error e := by
  rw [CommandLine.read, readFrom_passes .none h, readFrom_refused _ he]

/-- What is read has a split that amounts to it. -/
theorem exists_isSplit_of_read {tokens command : List Text} {options : StartupOptions}
    (h : read tokens = .ok { options, command }) :
    ∃ occurrences settings tail, IsSplit tokens occurrences settings tail ∧
      options = .ofSettings settings ∧ command = tail.command := by
  obtain ⟨occurrences, settings, rest, hpasses, ⟨tail, hproper, rfl⟩ | ⟨e, he⟩⟩ :=
    split_or_refused tokens
  · have hsplit : IsSplit tokens occurrences settings tail := ⟨hpasses, hproper⟩
    rw [hsplit.read] at h
    obtain ⟨rfl, rfl⟩ := CommandLine.mk.inj (Except.ok.inj h)
    exact ⟨occurrences, settings, tail, hsplit, rfl, rfl⟩
  · rw [hpasses.read_refused he] at h
    simp at h

/-- What is not read has a refused rest. -/
theorem exists_refused_of_read {tokens : List Text} {e : Failure} (h : read tokens = .error e) :
    ∃ occurrences settings rest, Passes tokens occurrences settings rest ∧ Refused rest e := by
  obtain ⟨occurrences, settings, rest, hpasses, ⟨tail, hproper, rfl⟩ | ⟨e', he⟩⟩ :=
    split_or_refused tokens
  · rw [IsSplit.read ⟨hpasses, hproper⟩] at h
    simp at h
  · rw [hpasses.read_refused he, Except.error.injEq] at h
    exact ⟨occurrences, settings, rest, hpasses, h ▸ he⟩

/-- Tokens are refused for an option that is wrong, unless a port has too many digits. -/
theorem exists_refusal_of_read {tokens : List Text} {e : Failure} (h : read tokens = .error e) :
    (∃ refusal : OptionError, e = refusal.toFailure) ∨
      ∃ digits, Numeral.maxDigits < digits ∧ e = .invalid (.longNumeral digits) := by
  obtain ⟨occurrences, settings, rest, -, he⟩ := exists_refused_of_read h
  cases he with
  | bareKey option => exact Or.inl ⟨_, rfl⟩
  | value occurrence later e houtcome => exact occurrence.eq_of_outcome_eq_error houtcome
  | flagWithValue flag value later => exact Or.inl ⟨_, rfl⟩
  | unknown token later => exact Or.inl ⟨_, rfl⟩

/-- Tokens are refused as bad arguments, unless a port has too many digits. -/
theorem eq_of_read_eq_error {tokens : List Text} {e : Failure} (h : read tokens = .error e) :
    (∃ message, e = .fail .badArguments message) ∨
      ∃ digits, Numeral.maxDigits < digits ∧ e = .invalid (.longNumeral digits) :=
  (exists_refusal_of_read h).imp_left fun ⟨refusal, hrefusal⟩ => ⟨refusal.message, hrefusal⟩

/-- A command is made of tokens of its command line. -/
theorem mem_tokens_of_mem_command {tokens command : List Text} {options : StartupOptions}
    (h : read tokens = .ok { options, command }) {word : Text} (hword : word ∈ command) :
    word ∈ tokens := by
  obtain ⟨occurrences, settings, tail, hsplit, -, rfl⟩ := exists_isSplit_of_read h
  have htail : word ∈ tail.tokens := by
    cases tail with
    | nothing => exact hword
    | marked command => exact List.mem_cons_of_mem _ hword
    | plain program arguments => exact hword
  rw [hsplit.spelled]
  exact List.mem_append_right _ htail

/-- What is asked for last has been asked for by a setting that is in order. -/
theorem exists_isInOrder_of_getLast? {α : Type} {tokens command : List Text}
    {options : StartupOptions} (h : read tokens = .ok { options, command }) :
    ∃ settings : List Setting, options = .ofSettings settings ∧
      ∀ (given? : Setting → Option α) a, (settings.filterMap given?).getLast? = some a →
        ∃ setting : Setting, setting.IsInOrder ∧ given? setting = some a := by
  obtain ⟨occurrences, settings, tail, hsplit, rfl, -⟩ := exists_isSplit_of_read h
  refine ⟨settings, rfl, fun given? a hlast => ?_⟩
  obtain ⟨setting, hsetting, hgiven⟩ := List.mem_filterMap.1 (List.mem_of_getLast? hlast)
  have hmade := List.mem_map_of_mem (f := Except.ok (ε := Failure)) hsetting
  rw [← hsplit.accepted] at hmade
  obtain ⟨occurrence, -, houtcome⟩ := List.mem_map.1 hmade
  exact ⟨setting, Occurrence.isInOrder_of_outcome houtcome, hgiven⟩

/-- An output base that is asked for is not empty. -/
theorem outputBase_ne_nil_of_read {tokens command : List Text} {options : StartupOptions}
    (h : read tokens = .ok { options, command }) : options.outputBase ≠ some [] := by
  obtain ⟨settings, rfl, hlast⟩ := exists_isInOrder_of_getLast? h
  intro hbase
  obtain ⟨setting, horder, hpath⟩ := hlast Setting.path? [] hbase
  cases setting with
  | outputBase path => exact horder (Option.some.inj hpath)
  | commandPort port => cases hpath
  | batch => cases hpath
  | json => cases hpath

/-- A port that is asked for is one. -/
theorem commandPort_of_read {tokens command : List Text} {options : StartupOptions} {port : Int}
    (h : read tokens = .ok { options, command }) (hport : options.commandPort = some port) :
    Port.least ≤ port ∧ port ≤ Port.greatest := by
  obtain ⟨settings, rfl, hlast⟩ := exists_isInOrder_of_getLast? h
  obtain ⟨setting, horder, hgiven⟩ := hlast Setting.port? port hport
  cases setting with
  | outputBase path => cases hgiven
  | commandPort port' => exact Option.some.inj hgiven ▸ horder
  | batch => cases hgiven
  | json => cases hgiven

/-- **Reading is the grammar.** Tokens are read as options and a command exactly if they can be
split into occurrences and a tail that amount to these, and there is only one split; they are
refused exactly if a refused rest follows some occurrences, with the exit code for bad arguments
unless a port has too many digits. The tail has no part in the options.

**Proof sketch.** Reading passes over occurrences one by one (`readFrom_passes`) and ends at a tail
or at a refused rest, and every list of tokens comes to one of these (`split_or_refused`). -/
theorem read_iff_isSplit (tokens : List Text) :
    (∀ options command, read tokens = .ok { options, command } ↔
      ∃ occurrences settings tail, IsSplit tokens occurrences settings tail ∧
        options = .ofSettings settings ∧ command = tail.command) ∧
    (∀ occurrences settings tail others settings' tail',
      IsSplit tokens occurrences settings tail → IsSplit tokens others settings' tail' →
      occurrences = others ∧ settings = settings' ∧ tail = tail') ∧
    (∀ e, read tokens = .error e ↔
      ∃ occurrences settings rest, Passes tokens occurrences settings rest ∧ Refused rest e) ∧
    (∀ e, read tokens = .error e → (∃ message, e = .fail .badArguments message) ∨
      ∃ digits, Numeral.maxDigits < digits ∧ e = .invalid (.longNumeral digits)) ∧
    ∀ occurrences settings tail (tail' : Tail),
      IsSplit tokens occurrences settings tail → tail'.IsProper →
      read (occurrences.flatMap Occurrence.tokens ++ tail'.tokens) =
        .ok { options := .ofSettings settings, command := tail'.command } := by
  refine ⟨fun options command => ⟨exists_isSplit_of_read, ?_⟩,
    fun _ _ _ _ _ _ h h' => h.unique h', fun e => ⟨exists_refused_of_read, ?_⟩,
    fun e => eq_of_read_eq_error, fun _ _ _ _ h hproper => ?_⟩
  · rintro ⟨occurrences, settings, tail, hsplit, rfl, rfl⟩
    exact hsplit.read
  · rintro ⟨occurrences, settings, rest, hpasses, he⟩
    exact hpasses.read_refused he
  · exact IsSplit.read ⟨⟨rfl, h.accepted⟩, hproper⟩

end CommandLine

end Launcher
