import Launcher.Text.EscapeSequence

/-!
# What is left without escape sequences

A control sequence is found by its longest runs of parameters and intermediates. The three classes
of characters are disjoint, so this finds every sequence with which a text begins. Cutting sequences
out in one pass is then an induction on the text: either it begins with a sequence, which goes, or
with a symbol that stays.

## Main definitions

* `Launcher.EscapeSequence.IsSequence` — how a control sequence is spelled.
* `Launcher.EscapeSequence.IsFree` — a text with no control sequence anywhere in it.
* `Launcher.EscapeSequence.Bars` — symbols that end what may be a sequence.

## Main results

* `Launcher.EscapeSequence.length?_eq_some_iff` — every sequence is found.
* `Launcher.EscapeSequence.strip_induction` — a text is told sequence by sequence, symbol by symbol.
* `Launcher.EscapeSequence.strip_append_cons` — no sequence goes beyond a symbol that bars it.
* `Launcher.EscapeSequence.strip_of_isFree` — a text without sequences stays as it is.
-/

namespace Launcher

/-- A run of one class of symbols ends where none of it follows. -/
theorem Text.takeWhile_append {p : Symbol → Bool} {s t : Text} (hs : ∀ a ∈ s, p a = true)
    (ht : ∀ a ∈ t.head?, p a = false) : (s ++ t).takeWhile p = s := by
  rw [List.takeWhile_append_of_pos hs]
  cases t with
  | nil => simp
  | cons a t => simp [ht a rfl]

namespace EscapeSequence

variable {s t : Text} {a : Symbol}

/-! ## How a sequence is spelled -/

/-- **A control sequence:** ESC and an opening bracket, then parameters, intermediates and one final
character. -/
inductive IsSequence : Text → Prop
  | mk {parameters intermediates : Text} {final : Symbol}
      (parameter : ∀ a ∈ parameters, isParameter a = true)
      (intermediate : ∀ a ∈ intermediates, isIntermediate a = true)
      (isFinal : isFinal final = true) :
      IsSequence (.char '\x1b' :: .char '[' :: (parameters ++ (intermediates ++ [final])))

/-- An intermediate is no parameter. -/
theorem isParameter_of_isIntermediate (h : isIntermediate a = true) : isParameter a = false := by
  cases a with
  | raw b => rfl
  | char c =>
    simp only [isIntermediate, isParameter, Bool.and_eq_true, decide_eq_true_eq] at h ⊢
    simp only [Bool.and_eq_false_iff, decide_eq_false_iff_not]
    omega

/-- A final character is of no other class. -/
theorem of_isFinal (h : isFinal a = true) : isParameter a = false ∧ isIntermediate a = false := by
  cases a with
  | raw b => exact ⟨rfl, rfl⟩
  | char c =>
    simp only [isFinal, isIntermediate, isParameter, Bool.and_eq_true, decide_eq_true_eq,
      Bool.and_eq_false_iff, decide_eq_false_iff_not] at h ⊢
    omega

/-- **A sequence is found where a text begins with it.** -/
theorem length?_append (h : IsSequence s) (t : Text) : length? (s ++ t) = some s.length := by
  obtain @⟨parameters, intermediates, final, hparameters, hintermediates, hfinal⟩ := h
  have hrest : parameters ++ (intermediates ++ [final]) ++ t =
      parameters ++ (intermediates ++ final :: t) := by simp
  have hfirst :
      (parameters ++ (intermediates ++ final :: t)).takeWhile isParameter = parameters := by
    refine Text.takeWhile_append hparameters ?_
    cases intermediates with
    | nil => simpa using (of_isFinal hfinal).1
    | cons b intermediates =>
      simpa using isParameter_of_isIntermediate (hintermediates b List.mem_cons_self)
  have hsecond : (intermediates ++ final :: t).takeWhile isIntermediate = intermediates :=
    Text.takeWhile_append hintermediates (by simpa using (of_isFinal hfinal).2)
  rw [List.cons_append, List.cons_append, hrest, length?]
  simp only [hfirst, List.drop_left, hsecond, ← List.drop_drop, hfinal, if_true, List.length_cons,
    List.length_append, List.length_nil]
  exact congrArg some (by omega)

/-- What is found is a sequence. -/
theorem exists_isSequence_of_length? {n : Nat} (h : length? t = some n) :
    ∃ s rest, t = s ++ rest ∧ IsSequence s ∧ n = s.length := by
  have hsplit : ∀ (p : Symbol → Bool) (l : Text),
      l = l.takeWhile p ++ l.drop (l.takeWhile p).length := by
    intro p l
    have hparts := List.take_append_drop (l.takeWhile p).length l
    rw [← List.prefix_iff_eq_take.1 (List.takeWhile_prefix p)] at hparts
    exact hparts.symm
  have hclass : ∀ (p : Symbol → Bool) (l : Text), ∀ a ∈ l.takeWhile p, p a = true :=
    fun p l => List.all_eq_true.1 List.all_takeWhile
  unfold length? at h
  split at h
  · rename_i rest
    simp only at h
    split at h
    · rename_i final later hfinal
      obtain ⟨hisFinal, hn⟩ := Option.ite_none_right_eq_some.1 h
      have hparameters := hsplit isParameter rest
      have hintermediates := hsplit isIntermediate (rest.drop (rest.takeWhile isParameter).length)
      rw [List.drop_drop, hfinal] at hintermediates
      refine ⟨_, later, ?_, .mk (hclass isParameter rest)
        (hclass isIntermediate (rest.drop (rest.takeWhile isParameter).length)) hisFinal, ?_⟩
      · rw [hintermediates] at hparameters
        simpa using hparameters
      · simp only [List.length_cons, List.length_append, List.length_nil]
        have hn := Option.some.inj hn
        omega
    · cases h
  · cases h

/-- **Every sequence with which a text begins is found,** and nothing else is. -/
theorem length?_eq_some_iff {n : Nat} :
    length? t = some n ↔ ∃ s rest, t = s ++ rest ∧ IsSequence s ∧ n = s.length := by
  refine ⟨exists_isSequence_of_length?, ?_⟩
  rintro ⟨s, rest, rfl, hs, rfl⟩
  exact length?_append hs rest

/-- A sequence is what is found with the length of the whole text. -/
theorem isSequence_iff : IsSequence s ↔ length? s = some s.length := by
  constructor
  · intro h
    simpa using length?_append h []
  · intro h
    obtain ⟨u, rest, hs, hu, hlength⟩ := exists_isSequence_of_length? h
    have hrest : rest = [] := by
      have hsum := congrArg List.length hs
      rw [List.length_append] at hsum
      exact List.length_eq_zero_iff.1 (by omega)
    rwa [hs, hrest, List.append_nil]

/-- Whether a text is an escape sequence is decided by reading it. -/
instance : DecidablePred IsSequence := fun _ => decidable_of_iff _ isSequence_iff.symm

/-- A text that begins with no sequence has none of them in front of it. -/
theorem length?_eq_none_iff : length? t = none ↔ ∀ s, s <+: t → ¬IsSequence s := by
  rw [Option.eq_none_iff_forall_ne_some]
  constructor
  · rintro h s ⟨rest, rfl⟩ hs
    exact h _ (length?_append hs rest)
  · intro h n hn
    obtain ⟨s, rest, rfl, hs, -⟩ := exists_isSequence_of_length? hn
    exact h s (List.prefix_append s rest) hs

/-! ## Symbols in a sequence -/

/-- A sequence begins with ESC. -/
theorem IsSequence.exists_cons (h : IsSequence s) : ∃ rest, s = .char '\x1b' :: rest := by
  cases h
  exact ⟨_, rfl⟩

/-- A sequence ends with a final character. -/
theorem IsSequence.exists_append (h : IsSequence s) :
    ∃ front final, s = front ++ [final] ∧ isFinal final = true := by
  obtain @⟨parameters, intermediates, final, -, -, hfinal⟩ := h
  exact ⟨.char '\x1b' :: .char '[' :: (parameters ++ intermediates), final, by simp, hfinal⟩

/-- The symbol is of no class that may stand in a sequence behind ESC. -/
structure Bars (a : Symbol) : Prop where
  parameter : isParameter a = false
  intermediate : isIntermediate a = false
  final : isFinal a = false

/-- Whether a symbol bars a sequence is decided by comparing it. -/
instance (a : Symbol) : Decidable (Bars a) :=
  decidable_of_iff (isParameter a = false ∧ isIntermediate a = false ∧ isFinal a = false)
    ⟨fun ⟨h₁, h₂, h₃⟩ => ⟨h₁, h₂, h₃⟩, fun ⟨h₁, h₂, h₃⟩ => ⟨h₁, h₂, h₃⟩⟩

/-- Behind its ESC, nothing in a sequence bars one. -/
theorem IsSequence.not_bars (h : IsSequence (a :: s)) {b : Symbol} (hb : b ∈ s) : ¬Bars b := by
  rintro ⟨hparameter, hintermediate, hfinal⟩
  obtain @⟨parameters, intermediates, final, hparameters, hintermediates, hisFinal⟩ := h
  simp only [List.mem_cons, List.mem_append, List.not_mem_nil, or_false] at hb
  rcases hb with rfl | hb | hb | rfl
  · exact absurd hfinal (by decide)
  · simp [hparameters b hb] at hparameter
  · simp [hintermediates b hb] at hintermediate
  · simp [hisFinal] at hfinal

/-! ## Cutting sequences out -/

/-- There is nothing to strip from the empty text. -/
@[simp] theorem strip_nil : strip [] = [] := rfl

/-- What is kept comes before what is still to be read. -/
theorem strip_go_eq (done t : Text) (pending : Nat) :
    strip.go done pending t = done.reverse ++ strip.go [] pending t := by
  induction t generalizing done pending with
  | nil => cases pending <;> simp [strip.go]
  | cons a t ih =>
    cases pending with
    | succ pending => exact ih done pending
    | zero =>
      rw [strip.go, strip.go]
      rcases length? (a :: t) with _ | n
      · simp only []
        rw [ih (a :: done), ih [a], List.reverse_cons, List.append_assoc, List.reverse_singleton]
      · exact ih done (n - 1)

/-- A symbol with which no sequence begins stays. -/
theorem strip_cons_of_length?_eq_none (h : length? (a :: t) = none) :
    strip (a :: t) = a :: strip t := by
  rw [strip, strip.go, h]
  simp only []
  rw [strip_go_eq]
  rfl

/-- The symbols of a sequence that has been found are passed over. -/
theorem strip_go_length (s t : Text) : strip.go [] s.length (s ++ t) = strip t := by
  induction s with
  | nil => rfl
  | cons a s ih => exact ih

/-- **A sequence is cut out where a text begins with it.** -/
theorem strip_append (h : IsSequence s) (t : Text) : strip (s ++ t) = strip t := by
  have hlength := length?_append h t
  obtain ⟨rest, rfl⟩ := h.exists_cons
  rw [List.cons_append] at hlength ⊢
  rw [strip, strip.go, hlength]
  exact strip_go_length rest t

/-- **A text is told sequence by sequence and symbol by symbol,** as it is read. -/
@[elab_as_elim]
theorem strip_induction {P : Text → Prop} (nil : P [])
    (sequence : ∀ s t, IsSequence s → P t → P (s ++ t))
    (symbol : ∀ a t, length? (a :: t) = none → P t → P (a :: t)) (t : Text) : P t :=
  match t with
  | [] => nil
  | a :: t =>
    match hlength : length? (a :: t) with
    | none => symbol a t hlength (strip_induction nil sequence symbol t)
    | some n => by
      obtain ⟨s, rest, hsplit, hs, -⟩ := exists_isSequence_of_length? hlength
      have hless : rest.length < (a :: t).length := by
        obtain ⟨front, rfl⟩ := hs.exists_cons
        rw [hsplit, List.length_append, List.length_cons]
        omega
      rw [hsplit]
      exact sequence s rest hs (strip_induction nil sequence symbol rest)
termination_by t.length
decreasing_by
  · exact Nat.lt_succ_self _
  · exact hless

/-- A symbol other than ESC stays. -/
theorem strip_cons_of_ne (ha : a ≠ .char '\x1b') (t : Text) : strip (a :: t) = a :: strip t := by
  refine strip_cons_of_length?_eq_none (length?_eq_none_iff.2 ?_)
  rintro s ⟨rest, hs⟩ hsequence
  obtain ⟨later, rfl⟩ := hsequence.exists_cons
  exact ha (List.cons.inj hs).1.symm

/-- A text without ESC stays in front of what follows. -/
theorem strip_append_of_not_mem (h : .char '\x1b' ∉ s) (t : Text) :
    strip (s ++ t) = s ++ strip t := by
  induction s with
  | nil => rfl
  | cons a s ih =>
    have ha : a ≠ .char '\x1b' := fun e => h (e ▸ List.mem_cons_self)
    rw [List.cons_append, strip_cons_of_ne ha, ih fun hmem => h (List.mem_cons_of_mem a hmem),
      List.cons_append]

/-- What begins in front of a symbol that bars sequences ends in front of it. -/
theorem length?_cons_append_cons {b : Symbol} (hb : Bars b) (h : length? (a :: s) = none)
    (t : Text) : length? (a :: (s ++ b :: t)) = none := by
  rw [length?_eq_none_iff] at h ⊢
  intro u hu hsequence
  obtain ⟨later, rfl⟩ := hsequence.exists_cons
  obtain ⟨rfl, hlater⟩ := List.cons_prefix_cons.1 hu
  have hfront : s ++ [b] <+: s ++ b :: t := ⟨t, by simp⟩
  by_cases hlength : later.length ≤ s.length
  · have hinside : later <+: s :=
      List.prefix_of_prefix_length_le hlater (List.prefix_append s _) hlength
    exact h _ (List.cons_prefix_cons.2 ⟨rfl, hinside⟩) hsequence
  · have hbeyond : s ++ [b] <+: later :=
      List.prefix_of_prefix_length_le hfront hlater (by simp; omega)
    exact hsequence.not_bars (hbeyond.subset (by simp)) hb

/-- **No sequence goes beyond a symbol that bars it:** what is in front of the symbol and what
begins with it are cut on their own. -/
theorem strip_append_cons {b : Symbol} (hb : Bars b) (s t : Text) :
    strip (s ++ b :: t) = strip s ++ strip (b :: t) := by
  induction s using strip_induction with
  | nil => rfl
  | sequence u s hu ih => rw [List.append_assoc, strip_append hu, strip_append hu, ih]
  | symbol a s hnone ih =>
    rw [List.cons_append, strip_cons_of_length?_eq_none (length?_cons_append_cons hb hnone t),
      strip_cons_of_length?_eq_none hnone, ih, List.cons_append]

/-- Nothing is put into a text by cutting sequences out of it. -/
theorem mem_of_mem_strip (h : a ∈ strip t) : a ∈ t := by
  induction t using strip_induction with
  | nil => exact h
  | sequence s t hs ih =>
    rw [strip_append hs] at h
    exact List.mem_append_right s (ih h)
  | symbol b t hnone ih =>
    rw [strip_cons_of_length?_eq_none hnone] at h
    rcases List.mem_cons.1 h with rfl | hrest
    · exact List.mem_cons_self
    · exact List.mem_cons_of_mem b (ih hrest)

/-- **A symbol that may stand in no sequence is cut out of no text.** -/
theorem mem_strip_of_bars (ha : Bars a) (hescape : a ≠ .char '\x1b') (h : a ∈ t) : a ∈ strip t := by
  induction t using strip_induction with
  | nil => exact h
  | sequence s t hs ih =>
    rw [strip_append hs]
    rcases List.mem_append.1 h with hinside | hrest
    · obtain ⟨later, rfl⟩ := hs.exists_cons
      rcases List.mem_cons.1 hinside with rfl | hlater
      · exact absurd rfl hescape
      · exact absurd ha (hs.not_bars hlater)
    · exact ih hrest
  | symbol b t hnone ih =>
    rw [strip_cons_of_length?_eq_none hnone]
    rcases List.mem_cons.1 h with rfl | hrest
    · exact List.mem_cons_self
    · exact List.mem_cons_of_mem b (ih hrest)

/-! ## Texts without sequences -/

/-- Nowhere in the text is there a control sequence. -/
def IsFree (t : Text) : Prop := ∀ s, s <:+: t → ¬IsSequence s

/-- In the empty text there is none. -/
theorem isFree_nil : IsFree [] := by
  rintro s hs hsequence
  obtain rfl := List.infix_nil.1 hs
  cases hsequence

/-- A text is free of sequences if none begins it and the rest is free. -/
theorem isFree_cons_iff : IsFree (a :: t) ↔ length? (a :: t) = none ∧ IsFree t := by
  rw [length?_eq_none_iff]
  constructor
  · exact fun h => ⟨fun s hs => h s hs.isInfix,
      fun s hs => h s (hs.trans (List.suffix_cons a t).isInfix)⟩
  · rintro ⟨hfirst, hrest⟩ s hs
    rcases List.infix_cons_iff.1 hs with hprefix | hinfix
    · exact hfirst s hprefix
    · exact hrest s hinfix

/-- Whether a text is free of sequences is told symbol by symbol. -/
instance decidableIsFree : DecidablePred IsFree
  | [] => isTrue isFree_nil
  | _ :: t =>
    have := decidableIsFree t
    decidable_of_iff _ isFree_cons_iff.symm

/-- What is part of a free text is free. -/
theorem IsFree.of_infix (h : IsFree t) (hs : s <:+: t) : IsFree s :=
  fun u hu => h u (hu.trans hs)

/-- **A text without sequences stays as it is.** -/
theorem strip_of_isFree (h : IsFree t) : strip t = t := by
  induction t with
  | nil => rfl
  | cons a t ih =>
    obtain ⟨hfirst, hrest⟩ := isFree_cons_iff.1 h
    rw [strip_cons_of_length?_eq_none hfirst, ih hrest]

/-- A text without ESC in front of a free one makes no sequence. -/
theorem IsFree.append_left (h : IsFree t) (hs : .char '\x1b' ∉ s) : IsFree (s ++ t) := by
  induction s with
  | nil => exact h
  | cons a s ih =>
    rw [List.cons_append, isFree_cons_iff, length?_eq_none_iff]
    refine ⟨?_, ih fun hmem => hs (List.mem_cons_of_mem a hmem)⟩
    rintro u ⟨rest, hu⟩ hsequence
    obtain ⟨later, rfl⟩ := hsequence.exists_cons
    exact hs ((List.cons.inj hu).1 ▸ List.mem_cons_self)

/-- A symbol that is no final character ends no sequence. -/
theorem IsFree.concat (h : IsFree s) (ha : isFinal a = false) : IsFree (s ++ [a]) := by
  intro u hu hsequence
  rcases List.infix_concat_iff.1 hu with hsuffix | hinfix
  · obtain ⟨front, final, rfl, hfinal⟩ := hsequence.exists_append
    obtain ⟨rest, hrest⟩ := hsuffix
    rw [← List.append_assoc] at hrest
    obtain ⟨-, hlast⟩ := List.append_inj' hrest rfl
    obtain rfl := List.singleton_inj.1 hlast
    simp [ha] at hfinal
  · exact h u hinfix hsequence

/-- A text without final characters behind a free one makes no sequence. -/
theorem IsFree.append_right (h : IsFree s) (ht : ∀ a ∈ t, isFinal a = false) : IsFree (s ++ t) := by
  induction t generalizing s with
  | nil => rwa [List.append_nil]
  | cons a t ih =>
    obtain ⟨ha, ht⟩ := List.forall_mem_cons.1 ht
    rw [List.append_cons]
    exact ih (h.concat ha) ht

end EscapeSequence

end Launcher
