import Launcher.Text.ShellWord

/-!
# Reading shell words

A shell takes a command line apart into words, symbol by symbol. Outside quotes, blanks and line
feeds separate words, and any other symbol that has a special meaning is given that meaning. Single
quotes take all meaning away. Double quotes do so too, but for dollar signs and backquotes. A
backslash takes the meaning of one symbol away, in double quotes only of one that has a meaning
there. Quotes and backslashes are no part of the word, and what stands side by side without a
separator is one word.

The reader here keeps account of every symbol that it meets where a shell would give it its meaning.
A command line of quoted words is read as these words. Of the symbols that are special to a shell,
only equals and percent signs are met in it so.

## Main definitions

* `Launcher.ShellWord.Reader` and `Launcher.ShellWord.Reader.step` — the reader and one step of it.
* `Launcher.ShellWord.words?` — the words of a command line.
* `Launcher.ShellWord.exposed` — the symbols whose meaning no quote takes away.
* `Launcher.ShellWord.specials` — the symbols that have a meaning of their own.

## Main results

* `Launcher.ShellWord.Reader.foldl_step_quote` — a quoted word is read as the word.
* `Launcher.ShellWord.words?_join` — a command line of quoted words is read as the words.
* `Launcher.ShellWord.of_mem_exposed_join` — only plain symbols of its words are exposed.
* `Launcher.ShellWord.eq_of_isPlain` — the plain symbols that are special.
-/

namespace Launcher.ShellWord

/-! ## The reader -/

/-- What takes the meaning of the next symbol away. -/
inductive Quoting where
  /-- Nothing does. -/
  | none
  /-- A backslash outside quotes. -/
  | escape
  /-- Single quotes. -/
  | single
  /-- Double quotes. -/
  | double
  /-- A backslash in double quotes. -/
  | doubleEscape
deriving DecidableEq, Repr

/-- A reader in the middle of a command line. -/
structure Reader where
  quoting : Quoting
  /-- The words that have ended. -/
  words : List Text
  /-- The word that has begun, if one has. -/
  word : Option Text
  /-- The symbols that were met where they have their meaning. -/
  exposed : Text
deriving DecidableEq, Repr

/-- The symbols that separate words outside quotes. -/
def separators : Text := lit " \t\n"

namespace Reader

/-- A reader at the beginning of a command line. -/
def start : Reader := ⟨.none, [], none, []⟩

/-- The reader with more symbols of its word. A word that has not begun begins with them. -/
def push (r : Reader) (t : Text) : Reader := { r with word := some (r.word.getD [] ++ t) }

/-- The reader with a symbol more that is exposed. -/
def expose (r : Reader) (s : Symbol) : Reader := { r with exposed := r.exposed ++ [s] }

/-- The reader with its word ended, if one has begun. -/
def endWord (r : Reader) : Reader := { r with words := r.words ++ r.word.toList, word := none }

/-- Reads one symbol. A quote begins a word, which may stay empty. A line feed behind a backslash is
dropped with it. -/
def step (r : Reader) (s : Symbol) : Reader :=
  match r.quoting with
  | .none =>
      if s = .char '\x27' then { r.push [] with quoting := .single }
      else if s = .char '\x22' then { r.push [] with quoting := .double }
      else if s = .char '\\' then { r with quoting := .escape }
      else if separators.contains s then r.endWord
      else (r.push [s]).expose s
  | .escape =>
      if s = .char '\n' then { r with quoting := .none }
      else { r.push [s] with quoting := .none }
  | .single =>
      if s = .char '\x27' then { r with quoting := .none } else r.push [s]
  | .double =>
      if s = .char '\x22' then { r with quoting := .none }
      else if s = .char '\\' then { r with quoting := .doubleEscape }
      else if s = .char '$' ∨ s = .char '\x60' then (r.push [s]).expose s
      else r.push [s]
  | .doubleEscape =>
      if s = .char '\n' then { r with quoting := .double }
      else if (lit "$\x60\x22\\").contains s then { r.push [s] with quoting := .double }
      else { r.push [.char '\\', s] with quoting := .double }

end Reader

/-- The reader behind a command line. -/
def readerBehind (line : Text) : Reader := line.foldl Reader.step .start

/-- The words of a command line, unless a quote in it is left open. -/
def words? (line : Text) : Option (List Text) :=
  if (readerBehind line).quoting = .none then some (readerBehind line).endWord.words else none

/-- The symbols of a command line that are part of a word and keep their meaning, quotes and
backslashes apart. -/
def exposed (line : Text) : Text := (readerBehind line).exposed

/-- The symbols that have a meaning of their own to a shell, if only in some places: they separate
words or commands, redirect, quote, expand, begin a comment, or stand for names of files. An equals
sign makes an assignment of a word in front of a command, and a percent sign stands for a job. -/
def specials : Text := lit "|&;<>()$\x60\\\x22\x27 \t\n*?[]#~=%!\x7b\x7d^"

-- Adjacent pieces join, and only the dollar sign in single quotes loses its meaning.
/-- A word goes on through quotes, and the dollar sign between them is exposed. -/
example : words? (lit "a'b $c'\"d $e\"\\  \n''") = some [lit "ab $cd $e ", []] ∧
    exposed (lit "a'b $c'\"d $e\"\\  \n''") = lit "a$" := by decide

/-! ## Plain symbols -/

/-- **A plain symbol is special only as an equals or a percent sign.** -/
theorem eq_of_isPlain {s : Symbol} (h : isPlain s = true) (hs : s ∈ specials) :
    s = .char '=' ∨ s = .char '%' := by
  have hspecials : ∀ a ∈ specials, isPlain a = true → a = .char '=' ∨ a = .char '%' := by decide
  exact hspecials s hs h

/-! ## What quoting makes of words -/

/-- A word of plain symbols is left as it is. -/
theorem quote_of_plain {word : Text} (hne : word ≠ []) (h : word.all isPlain = true) :
    quote word = word := by
  simp [quote, hne, h]

/-- Any other word stands in single quotes. -/
theorem quote_of_not_plain {word : Text} (h : ¬word.all isPlain = true) :
    quote word = .char '\x27' :: (word.flatMap inside ++ [.char '\x27']) := by
  have hne : word ≠ [] := fun hnil => h (hnil ▸ rfl)
  have hquote : lit "'" = [.char '\x27'] := rfl
  rw [quote, if_neg (by simpa using hne), if_neg h, hquote]
  rfl

/-- Between two words there is a blank. -/
theorem join_cons_cons (word next : Text) (line : List Text) :
    join (word :: next :: line) = quote word ++ .char ' ' :: join (next :: line) := by
  simp [join, List.intercalate]

/-- The symbols of a word that its quoting leaves as they are: all if they are plain, and else
none. -/
def bare (word : Text) : Text := if word.all isPlain then word else []

/-- What the quoting of a word leaves as it is are plain symbols of the word. -/
theorem of_mem_bare {word : Text} {s : Symbol} (h : s ∈ bare word) :
    isPlain s = true ∧ s ∈ word := by
  unfold bare at h
  split at h
  · exact ⟨List.all_eq_true.1 ‹_› s h, h⟩
  · cases h

namespace Reader

variable {words : List Text} {word prior : Text} {seen : Text} {s : Symbol}

/-- A plain symbol outside quotes goes into the word, and is exposed. -/
theorem step_of_isPlain (h : isPlain s = true) (word : Option Text) :
    step ⟨.none, words, word, seen⟩ s =
      ⟨.none, words, some (word.getD [] ++ [s]), seen ++ [s]⟩ := by
  have hne : ∀ a, isPlain a = false → s ≠ a := by
    rintro a ha rfl
    rw [ha] at h
    cases h
  have hseparator : ¬separators.contains s = true := by
    have hseparators : ∀ a ∈ separators, isPlain a = false := by decide
    exact fun hs => hne s (hseparators s (List.contains_iff_mem.1 hs)) rfl
  simp only [step, if_neg (hne (.char '\x27') (by decide)), if_neg (hne (.char '\x22') (by decide)),
    if_neg (hne (.char '\\') (by decide)), if_neg hseparator]
  rfl

/-- Plain symbols outside quotes go into the word that has begun. -/
theorem foldl_step_plain {t : Text} (h : ∀ s ∈ t, isPlain s = true) :
    t.foldl step ⟨.none, words, some prior, seen⟩ =
      ⟨.none, words, some (prior ++ t), seen ++ t⟩ := by
  induction t generalizing prior seen with
  | nil => simp
  | cons s t ih =>
    obtain ⟨hs, ht⟩ := List.forall_mem_cons.1 h
    rw [List.foldl_cons, step_of_isPlain hs, ih ht]
    simp

/-- What stands for a symbol in single quotes is read as the symbol: any other than a quote stands
for itself, and for a quote the single quotes are left for double ones and entered again. -/
theorem foldl_step_inside (s : Symbol) :
    (inside s).foldl step ⟨.single, words, some prior, seen⟩ =
      ⟨.single, words, some (prior ++ [s]), seen⟩ := by
  unfold inside
  by_cases hs : s = .char '\x27'
  · subst hs
    simp [lit, step, push]
  · simp [hs, step, push]

/-- What stands for a text in single quotes is read as the text. -/
theorem foldl_step_flatMap_inside (t : Text) :
    (t.flatMap inside).foldl step ⟨.single, words, some prior, seen⟩ =
      ⟨.single, words, some (prior ++ t), seen⟩ := by
  induction t generalizing prior with
  | nil => simp
  | cons s t ih =>
    rw [List.flatMap_cons, List.foldl_append, foldl_step_inside, ih]
    simp

/-- **A quoted word is read as the word.** -/
theorem foldl_step_quote (word : Text) :
    (quote word).foldl step ⟨.none, words, none, seen⟩ =
      ⟨.none, words, some word, seen ++ bare word⟩ := by
  by_cases hplain : word.all isPlain = true
  · rw [bare, if_pos hplain]
    rcases word with _ | ⟨s, rest⟩
    · -- Two quotes with nothing between them are an empty word.
      simp [quote, lit, step, push]
    · obtain ⟨hs, hrest⟩ := List.forall_mem_cons.1 (List.all_eq_true.1 hplain)
      rw [quote_of_plain (List.cons_ne_nil s rest) hplain, List.foldl_cons, step_of_isPlain hs,
        foldl_step_plain hrest]
      simp
  · have hopen : step ⟨.none, words, none, seen⟩ (.char '\x27') =
        ⟨.single, words, some [], seen⟩ := by simp [step, push]
    rw [quote_of_not_plain hplain, bare, if_neg hplain, List.foldl_cons, hopen, List.foldl_append,
      foldl_step_flatMap_inside]
    simp [step]

/-! ## Command lines -/

/-- A blank ends a word. -/
theorem step_blank :
    step ⟨.none, words, some word, seen⟩ (.char ' ') = ⟨.none, words ++ [word], none, seen⟩ := rfl

/-- **A command line of quoted words is read as these words,** behind those that have ended
before. -/
theorem exists_foldl_step_join (line words : List Text) (seen : Text) :
    ∃ r, (join line).foldl step ⟨.none, words, none, seen⟩ = r ∧ r.quoting = .none ∧
      r.endWord.words = words ++ line ∧ r.exposed = seen ++ line.flatMap bare := by
  induction line generalizing words seen with
  | nil => exact ⟨_, rfl, rfl, rfl, (List.append_nil seen).symm⟩
  | cons word line ih =>
    rcases line with _ | ⟨next, line⟩
    · have hjoin : join [word] = quote word := by simp [join, List.intercalate]
      refine ⟨⟨.none, words, some word, seen ++ bare word⟩, ?_, rfl, rfl, ?_⟩
      · rw [hjoin, foldl_step_quote]
      · rw [List.flatMap_singleton]
    · obtain ⟨r, hread, hquoting, hwords, hexposed⟩ :=
        ih (words ++ [word]) (seen ++ bare word)
      refine ⟨r, ?_, hquoting, ?_, ?_⟩
      · rw [join_cons_cons, List.foldl_append, foldl_step_quote, List.foldl_cons, step_blank, hread]
      · rw [hwords, List.append_assoc, List.singleton_append]
      · rw [hexposed, List.append_assoc, List.flatMap_cons (x := word)]

end Reader

variable {line : List Text}

/-- **The words of a command line of quoted words** are these words. -/
theorem words?_join (line : List Text) : words? (join line) = some line := by
  obtain ⟨r, hread, hquoting, hwords, -⟩ := Reader.exists_foldl_step_join line [] []
  have hbehind : readerBehind (join line) = r := hread
  rw [words?, hbehind, if_pos hquoting, hwords, List.nil_append]

/-- **Only plain symbols of the words are exposed** in a command line of quoted words. -/
theorem of_mem_exposed_join {s : Symbol} (h : s ∈ exposed (join line)) :
    isPlain s = true ∧ ∃ word ∈ line, s ∈ word := by
  obtain ⟨r, hread, -, -, hexposed⟩ := Reader.exists_foldl_step_join line [] []
  have hbehind : exposed (join line) = r.exposed := congrArg Reader.exposed hread
  rw [hbehind, hexposed, List.nil_append] at h
  obtain ⟨word, hword, hs⟩ := List.mem_flatMap.1 h
  obtain ⟨hplain, hmem⟩ := of_mem_bare hs
  exact ⟨hplain, word, hword, hmem⟩

/-- Different words make different command lines. -/
theorem join_injective : Function.Injective join := by
  intro line line' h
  have hwords := words?_join line
  rw [h, words?_join] at hwords
  exact (Option.some.inj hwords).symm

end Launcher.ShellWord
