import Launcher.Launch
import Launcher.Proofs.CommandLine.Reading
import Launcher.Proofs.Session.History

/-!
# Questions in command lines

The tokens of a command line are searched for a question before they are read, and the search does
not know which tokens are values. What the options spell asks nothing, with a value in the same
token or without one, and the search does not come as far as the command. A value that is a token of
its own is searched like an option: it can ask a question, and one that does not look like an option
ends the search, so that a question behind it is not found.

## Main definitions

* `Launcher.Query.questions` — the questions that the search comes across.
* `Launcher.Occurrence.separateValue?` — the value that stands in a token of its own.

## Main results

* `Launcher.Query.ofTokens_eq_of_isSplit` — a command line asks what its separate values ask.
* `Launcher.Session.responds_to_separateValues` — what a run does with the tokens of a command line,
  and with a question behind them.
-/

namespace Launcher

/-! ## The search -/

namespace Query

/-- The questions in front of the first token that ends the search. -/
def questions (tokens : List Text) : List Query := (tokens.takeWhile isOption).filterMap ofToken

/-- The query of some tokens is the first misuse among their questions, or the first question at
all. -/
theorem ofTokens_eq (tokens : List Text) :
    ofTokens tokens = ((questions tokens).find? isMisuse).or (questions tokens).head? :=
  rfl

/-- Tokens with the same questions ask the same. -/
theorem ofTokens_congr {tokens tokens' : List Text} (h : questions tokens = questions tokens') :
    ofTokens tokens = ofTokens tokens' := by
  rw [ofTokens_eq, ofTokens_eq, h]

/-- An option at the front adds the question that it asks, if it asks one. -/
theorem questions_of_isOption {token : Text} (h : isOption token = true) (rest : List Text) :
    questions (token :: rest) = (ofToken token).toList ++ questions rest := by
  rw [questions, List.takeWhile_cons_of_pos h]
  cases hasked : ofToken token with
  | none => rw [List.filterMap_cons_none hasked]; rfl
  | some query => rw [List.filterMap_cons_some hasked]; rfl

/-- A token that is no option ends the search, and nothing is asked behind it. -/
theorem questions_of_not_isOption {token : Text} (h : isOption token = false) (rest : List Text) :
    questions (token :: rest) = [] := by
  rw [questions, List.takeWhile_cons_of_neg (by simp [h])]
  rfl

/-- Behind an option that asks nothing the search goes on as if it were not there. -/
theorem questions_of_unasked {token : Text} (h : isOption token = true)
    (hasked : ofToken token = none) (rest : List Text) :
    questions (token :: rest) = questions rest := by
  rw [questions_of_isOption h, hasked]
  rfl

/-- Tokens with the same questions have them behind one more token, too. -/
theorem questions_cons_congr (token : Text) {rest rest' : List Text}
    (h : questions rest = questions rest') :
    questions (token :: rest) = questions (token :: rest') := by
  cases hoption : isOption token with
  | false => rw [questions_of_not_isOption hoption, questions_of_not_isOption hoption]
  | true => rw [questions_of_isOption hoption, questions_of_isOption hoption, h]

/-- A token behind others is searched if all of them are. -/
theorem questions_append_singleton (tokens : List Text) (token : Text) :
    questions (tokens ++ [token]) =
      questions tokens ++ if tokens.all isOption then questions [token] else [] := by
  induction tokens with
  | nil => rfl
  | cons first tokens ih =>
    cases hoption : isOption first with
    | false =>
      rw [List.cons_append, questions_of_not_isOption hoption, questions_of_not_isOption hoption,
        List.all_cons, hoption]
      rfl
    | true =>
      rw [List.cons_append, questions_of_isOption hoption, questions_of_isOption hoption, ih,
        List.all_cons, hoption, Bool.true_and, List.append_assoc]

/-- The token that asks for help. -/
def helpKey : Text := lit "--help"

/-- Behind tokens that the search goes through, help is asked for unless they ask something. Behind
others it is not. -/
theorem ofTokens_append_helpKey (tokens : List Text) :
    ofTokens (tokens ++ [helpKey]) =
      if tokens.all isOption then some ((ofTokens tokens).getD .help) else ofTokens tokens := by
  have hhelp : questions [helpKey] = [.help] := by decide
  have hfind : ∀ asked : List Query, (asked ++ [Query.help]).find? isMisuse =
      asked.find? isMisuse :=
    fun asked => List.find?_append.trans Option.or_none
  rw [ofTokens_eq, ofTokens_eq, questions_append_singleton, hhelp]
  cases tokens.all isOption with
  | false => simp only [Bool.false_eq_true, if_false, List.append_nil]
  | true =>
    rw [if_pos rfl, if_pos rfl, hfind]
    cases questions tokens with
    | nil => rfl
    | cons first later => cases (first :: later).find? isMisuse <;> rfl

/-! ## Options and tails -/

/-- A token that names a startup option is searched. -/
theorem isOption_of_names {name : OptionName} {token : Text} (h : name.Names token) :
    isOption token = true := by
  obtain ⟨rest, rfl⟩ := h.exists_eq_append
  rcases name with (_ | _) | (_ | _) <;> rfl

/-- A token that names a startup option asks nothing, whatever its value is. -/
theorem ofToken_of_names {name : OptionName} {token : Text} (h : name.Names token) :
    ofToken token = none := by
  have hkey : ∀ a ∈ name.key, (a != .char '=') = true := by
    rcases name with (_ | _) | (_ | _) <;> decide
  have hname : token.takeWhile (· != .char '=') = name.key := by
    rcases h with rfl | ⟨value, rfl⟩
    · exact by rw [← List.append_nil name.key, List.takeWhile_append_of_pos hkey]; rfl
    · rw [List.takeWhile_append_of_pos hkey, List.takeWhile_cons_of_neg (by simp [equalsSign]),
        List.append_nil]
  have hother : name.key ≠ lit "--version" ∧ name.key ≠ lit "--help" := by
    rcases name with (_ | _) | (_ | _) <;> decide
  have hdashes : ∃ letters, token = .char '-' :: .char '-' :: letters := by
    obtain ⟨rest, rfl⟩ := h.exists_eq_append
    rcases name with (_ | _) | (_ | _) <;> exact ⟨_, rfl⟩
  obtain ⟨letters, rfl⟩ := hdashes
  rw [ofToken]
  simp only [hname, if_neg hother.1, if_neg hother.2]

/-- A token that does not begin with a dash ends the search. -/
theorem isOption_of_not_isDashed {token : Text} (h : CommandLine.isDashed token = false) :
    isOption token = false := by
  rw [CommandLine.isDashed] at h
  rw [isOption, h, Bool.false_and, Bool.false_and]

/-- The search ends where a tail begins. -/
theorem questions_append_tail (tokens : List Text) {tail : Tail} (h : tail.IsProper) :
    questions (tokens ++ tail.tokens) = questions tokens := by
  induction tokens with
  | nil =>
    cases tail with
    | nothing => rfl
    | marked command => exact questions_of_not_isOption (by decide) command
    | plain program arguments =>
      exact questions_of_not_isOption (isOption_of_not_isDashed h) arguments
  | cons token tokens ih => exact questions_cons_congr token ih

end Query

/-- The value of an occurrence that stands in a token of its own. -/
def Occurrence.separateValue? : Occurrence → Option Text
  | apart _ value => some value
  | joined _ _ | flag _ => none

namespace Query

/-- Occurrences have the questions of their separate values. -/
theorem questions_occurrences (occurrences : List Occurrence) (rest : List Text) :
    questions (occurrences.flatMap Occurrence.tokens ++ rest) =
      questions (occurrences.filterMap Occurrence.separateValue? ++ rest) := by
  induction occurrences with
  | nil => rfl
  | cons occurrence occurrences ih =>
    have hnamed : ∀ (name : OptionName) {token : Text} (later : List Text), name.Names token →
        questions (token :: later) = questions later := fun name token later h =>
      questions_of_unasked (isOption_of_names h) (ofToken_of_names h) later
    cases occurrence with
    | joined option value => exact (hnamed (.valued option) _ (.inr ⟨value, rfl⟩)).trans ih
    | apart option value =>
      exact (hnamed (.valued option) _ (.inl rfl)).trans (questions_cons_congr value ih)
    | flag flag => exact (hnamed (.flag flag) _ (.inl rfl)).trans ih

variable {tokens : List Text} {occurrences : List Occurrence} {settings : List Setting}
  {tail : Tail}

/-- **A command line asks what its separate values ask,** one after the other. -/
theorem ofTokens_eq_of_isSplit (h : CommandLine.IsSplit tokens occurrences settings tail) :
    ofTokens tokens = ofTokens (occurrences.filterMap Occurrence.separateValue?) := by
  refine ofTokens_congr ?_
  rw [h.spelled, questions_occurrences, questions_append_tail _ h.proper]

/-- A question behind options is searched for behind their separate values. -/
theorem ofTokens_append_of_isSplit (h : CommandLine.IsSplit tokens occurrences settings .nothing)
    (rest : List Text) :
    ofTokens (tokens ++ rest) =
      ofTokens (occurrences.filterMap Occurrence.separateValue? ++ rest) := by
  refine ofTokens_congr ?_
  rw [h.spelled, Tail.tokens, List.append_nil, questions_occurrences]

end Query

/-! ## In a session -/

namespace Launch

/-- What a run on the tokens does with the question that has been found, if there is one. -/
def respond (tokens : List Text) : Option Query → Action Int
  | some query => answer query
  | none => exitCode (expectingFatal (run tokens))

/-- A run answers the query of its tokens, or goes to work if there is none. -/
theorem main_eq_respond (tokens : List Text) :
    main tokens = respond tokens (Query.ofTokens tokens) := by
  unfold main
  cases Query.ofTokens tokens <;> rfl

end Launch

namespace Session

open CommandLine Query

variable {tokens : List Text} {occurrences : List Occurrence} {settings : List Setting}
  {tail : Tail}

/-- **What a run does with the tokens of a command line, and with a question behind its options.**
It acts on the command line unless a value in a token of its own is mistaken for a question: values
in the token of their option, flags and the command never are. Behind options alone it answers a
call for help, unless a value in a token of its own has ended the search; then it refuses the call
as an unknown option.

**Proof sketch.** Both searches come across the same questions as a search of the separate values
(`Query.ofTokens_eq_of_isSplit`, `Query.ofTokens_append_of_isSplit`). -/
theorem responds_to_separateValues (h : IsSplit tokens occurrences settings tail) (s : Session) :
    s.perform (Launch.main tokens) =
        s.perform (Launch.respond tokens
          (ofTokens (occurrences.filterMap Occurrence.separateValue?))) ∧
      CommandLine.read tokens = .ok { options := .ofSettings settings, command := tail.command } ∧
      (tail = .nothing →
        s.perform (Launch.main (tokens ++ [helpKey])) =
          s.perform (Launch.respond (tokens ++ [helpKey])
            (if (occurrences.filterMap Occurrence.separateValue?).all isOption then
              some ((ofTokens (occurrences.filterMap Occurrence.separateValue?)).getD .help)
            else ofTokens (occurrences.filterMap Occurrence.separateValue?))) ∧
        CommandLine.read (tokens ++ [helpKey]) =
          .error (OptionError.unknown helpKey).toFailure) := by
  refine ⟨?_, h.read, ?_⟩
  · rw [Launch.main_eq_respond, ofTokens_eq_of_isSplit h]
  · rintro rfl
    have hpasses : CommandLine.Passes (tokens ++ [helpKey]) occurrences settings [helpKey] := by
      refine ⟨?_, h.accepted⟩
      rw [h.spelled, Tail.tokens, List.append_nil]
    have hunknown : ∀ name : OptionName, ¬name.Names helpKey := fun name hname => by
      obtain ⟨rest, hrest⟩ := hname.exists_eq_append
      rcases name with (_ | _) | (_ | _) <;> cases hrest
    refine ⟨?_, hpasses.read_refused (.unknown helpKey [] (by decide) (by decide) hunknown)⟩
    rw [Launch.main_eq_respond, ofTokens_append_of_isSplit h, ofTokens_append_helpKey]

/-- A value that looks like a question is answered as one, although it is the output base that the
flag behind it is read with. -/
theorem responds_to_separateValues_help :
    IsSplit [lit "--output_base", lit "-h", lit "--json"]
        [.apart .outputBase (lit "-h"), .flag .json] [.outputBase (lit "-h"), .json] .nothing ∧
      onlyTrue.perform (Launch.main [lit "--output_base", lit "-h", lit "--json"]) =
        onlyTrue.perform (Launch.answer .help) :=
  have h : IsSplit [lit "--output_base", lit "-h", lit "--json"]
      [.apart .outputBase (lit "-h"), .flag .json] [.outputBase (lit "-h"), .json] .nothing :=
    ⟨⟨rfl, rfl⟩, trivial⟩
  ⟨h, (responds_to_separateValues h onlyTrue).1⟩

/-- A value in a token of its own is taken for a question, and one that ends the search hides a
question behind it: the reading of the options and the search for questions do not agree. -/
theorem reading_disagrees_with_search :
    (CommandLine.read [lit "--output_base", lit "--help", lit "--json"] =
        .ok { options := .ofSettings [.outputBase (lit "--help"), .json], command := [] } ∧
      onlyTrue.perform (Launch.main [lit "--output_base", lit "--help", lit "--json"]) =
        onlyTrue.perform (Launch.answer .help)) ∧
    CommandLine.read [lit "--output_base", lit "/b"] =
        .ok { options := .ofSettings [.outputBase (lit "/b")], command := [] } ∧
      (onlyTrue.perform (Launch.main [lit "--output_base", lit "/b", lit "--help"])).1.result =
        .ok ExitCode.badArguments.number := by
  have hvalue : IsSplit [lit "--output_base", lit "--help", lit "--json"]
      [.apart .outputBase (lit "--help"), .flag .json]
      [.outputBase (lit "--help"), .json] .nothing :=
    ⟨⟨rfl, rfl⟩, trivial⟩
  have hpath : IsSplit [lit "--output_base", lit "/b"] [.apart .outputBase (lit "/b")]
      [.outputBase (lit "/b")] .nothing := ⟨⟨rfl, rfl⟩, trivial⟩
  have hasked : ofTokens [lit "--output_base", lit "--help", lit "--json"] = some .help := by decide
  refine ⟨⟨hvalue.read, ?_⟩, hpath.read, ?_⟩
  · rw [Launch.main_eq_respond, hasked]
    rfl
  · rfl

end Session

end Launcher
