import Mathlib.Data.List.Forall2
import Launcher.Proofs.Text.Numeral
import Launcher.Settings

/-!
# Names of levels

A level of the log may be asked for by one of eight names, in letters of any case. Case is that of
Unicode: a level is asked for by what has its name in upper case. Two letters beside those of ASCII
have a letter of ASCII in upper case, the `i` without a dot and the long `s`. Ligatures and the
sharp `s` have several, but these do not stand side by side in a name. So a name is spelled letter
by letter.

## Main definitions

* `Launcher.Level.names` — the eight names with their levels.
* `Launcher.Level.IsCased` — what may stand for a letter of a name.

## Main results

* `Launcher.Level.ofName?_eq_some_iff` — these are the names of levels.
* `Launcher.Level.upper_of_isCased` and `Launcher.Level.isCased_of_upper` — what has a letter of
  ASCII in upper case.
* `Launcher.Level.upperCase_eq_lit_iff` — how a name is spelled.
* `Launcher.Settings.readLevel_eq_ok_iff` — what is read as a level.
-/

namespace Launcher

namespace Level

variable {c k : Char} {level : Int}

/-! ## Names -/

/-- The names by which levels may be asked for. -/
def names : List (String × Int) :=
  [("CRITICAL", 50), ("FATAL", 50), ("ERROR", 40), ("WARN", 30), ("WARNING", 30), ("INFO", 20),
   ("DEBUG", 10), ("NOTSET", 0)]

/-- **These are the names of levels.** -/
theorem ofName?_eq_some_iff {name : String} :
    ofName? name = some level ↔ (name, level) ∈ names := by
  constructor
  · intro h
    unfold ofName? at h
    split at h
    · rename_i level' name' hfound
      have hshown : ∀ entry ∈ shown, (entry.2, entry.1) ∈ names := by decide
      obtain rfl : name' = name := by simpa using List.find?_some hfound
      obtain rfl := Option.some.inj h
      exact hshown _ (List.mem_of_find?_eq_some hfound)
    · have hsynonyms : ∀ entry ∈ synonyms, entry ∈ names := by decide
      obtain ⟨before, after, hsplit, -⟩ := List.lookup_eq_some_iff.1 h
      exact hsynonyms _ (hsplit ▸ by simp)
  · intro h
    have hnames : ∀ entry ∈ names, ofName? entry.1 = some entry.2 := by decide
    exact hnames _ h

/-! ## Letters -/

/-- The symbol may stand for the letter of a name: it is that letter in upper or in lower case, an
`i` without a dot, or a long `s`. -/
inductive IsCased : Symbol → Char → Prop where
  | upper {k : Char} : IsCased (.char k) k
  | lower {k : Char} : IsCased (.char k.toLower) k
  | dotless : IsCased (.char 'ı') 'I'
  | long : IsCased (.char 'ſ') 'S'

/-- The letters of ASCII in upper case stand in a row. -/
theorem exists_of_isUpper (hk : k.isUpper = true) : ∃ d < 26, k = Char.ofNat (0x41 + d) := by
  have hrange : 0x41 ≤ k.toNat ∧ k.toNat ≤ 0x5A := by
    obtain ⟨hge, hle⟩ : 'A'.val ≤ k.val ∧ k.val ≤ 'Z'.val := of_decide_eq_true hk
    exact ⟨UInt32.le_iff_toNat_le.1 hge, UInt32.le_iff_toNat_le.1 hle⟩
  refine ⟨k.toNat - 0x41, by omega, ?_⟩
  rw [Nat.add_sub_cancel' hrange.1, Char.ofNat_toNat]

/-- What stands for a letter has it as its upper case. -/
theorem upper_of_isCased (hk : k.isUpper = true) (h : IsCased (.char c) k) :
    Unicode.upper c = [k] := by
  have hall : ∀ d < 26, Unicode.upper (Char.ofNat (0x41 + d)) = [Char.ofNat (0x41 + d)] ∧
      Unicode.upper (Char.ofNat (0x41 + d)).toLower = [Char.ofNat (0x41 + d)] := by decide +kernel
  cases h with
  | upper =>
    obtain ⟨d, hd, rfl⟩ := exists_of_isUpper hk
    exact (hall d hd).1
  | lower =>
    obtain ⟨d, hd, rfl⟩ := exists_of_isUpper hk
    exact (hall d hd).2
  | dotless => decide +kernel
  | long => decide +kernel

/-- The runs of letters whose upper case is in ASCII: the letters of ASCII, and two letters beside
them. -/
theorem mem_of_mem_upperRuns {first last step image : Nat}
    (h : (first, last, step, image) ∈ Unicode.upperRuns) (himage : image ≤ 0x5A) :
    (first, last, step, image) ∈
      [(0x61, 0x7A, 1, 0x41), (0x131, 0x131, 1, 0x49), (0x17F, 0x17F, 1, 0x53)] := by
  have hall : ∀ run ∈ Unicode.upperRuns, run.2.2.2 ≤ 0x5A →
      run ∈ [(0x61, 0x7A, 1, 0x41), (0x131, 0x131, 1, 0x49), (0x17F, 0x17F, 1, 0x53)] := by
    decide +kernel
  exact hall _ h himage

/-- The number of a character that is not the zero character is the one from which it is made. -/
theorem eq_toNat_of_ofNat_eq {n : Nat} (h : Char.ofNat n = k) (hk : 0 < k.toNat) : n = k.toNat := by
  by_cases hvalid : n.isValidChar
  · rw [← h, toNat_charOfNat hvalid]
  · rw [← h, Char.ofNat, dif_neg hvalid] at hk
    exact absurd hk (by decide)

/-- The upper case of a letter that is in no sequence. -/
theorem upper_of_lookup_eq_none (h : Unicode.upperSequences.lookup c.toNat = none) :
    Unicode.upper c = [c] ∨
      ∃ first last step image, (first, last, step, image) ∈ Unicode.upperRuns ∧
        first ≤ c.toNat ∧ c.toNat ≤ last ∧
        Unicode.upper c = [Char.ofNat (image + (c.toNat - first))] := by
  unfold Unicode.upper
  rw [h]
  dsimp only
  split
  · rename_i first last step image hrun
    have hfound := List.find?_some hrun
    simp only [Bool.and_eq_true, decide_eq_true_eq] at hfound
    exact Or.inr ⟨first, last, step, image, List.mem_of_find?_eq_some hrun, hfound.1.1,
      hfound.1.2, rfl⟩
  · exact Or.inl rfl

/-- A letter that has a letter of ASCII as its upper case may stand for it. -/
theorem isCased_of_upper (hk : k.isUpper = true) (h : Unicode.upper c = [k])
    (hlookup : Unicode.upperSequences.lookup c.toNat = none) : IsCased (.char c) k := by
  obtain ⟨d, hd, hkd⟩ := exists_of_isUpper hk
  have hnumber : k.toNat = 0x41 + d := by rw [hkd, toNat_charOfNat (Or.inl (by omega))]
  rcases upper_of_lookup_eq_none hlookup with hself |
    ⟨first, last, step, image, hrun, hfirst, hlast, hupper⟩
  · obtain rfl : c = k := by simpa [hself] using h
    exact .upper
  · have hmade : Char.ofNat (image + (c.toNat - first)) = k := by simpa [hupper] using h
    have hplace := eq_toNat_of_ofNat_eq hmade (by omega)
    have hmem := mem_of_mem_upperRuns hrun (by omega)
    simp only [List.mem_cons, Prod.mk.injEq, List.not_mem_nil, or_false] at hmem
    rcases hmem with ⟨rfl, rfl, rfl, rfl⟩ | ⟨rfl, rfl, rfl, rfl⟩ | ⟨rfl, rfl, rfl, rfl⟩
    · -- The letters of ASCII in lower case.
      have hlower : c = k.toLower := by
        have hall : ∀ d < 26, (Char.ofNat (0x41 + d)).toLower.toNat = 0x61 + d := by decide
        refine Char.toNat_inj.1 ?_
        rw [hkd, hall d hd]
        omega
      rw [hlower]
      exact .lower
    · obtain rfl : c = 'ı' := Char.toNat_inj.1 (by show c.toNat = 0x131; omega)
      obtain rfl : k = 'I' := Char.toNat_inj.1 (by show k.toNat = 0x49; omega)
      exact .dotless
    · obtain rfl : c = 'ſ' := Char.toNat_inj.1 (by show c.toNat = 0x17F; omega)
      obtain rfl : k = 'S' := Char.toNat_inj.1 (by show k.toNat = 0x53; omega)
      exact .long

/-! ## Spelled names -/

/-- No sequence of letters that are the upper case of one letter stands in a name. -/
theorem not_infix_of_mem_names {name : String} (h : (name, level) ∈ names) :
    ∀ entry ∈ Unicode.upperSequences, ¬entry.2.map Char.ofNat <:+: name.toList := by
  have hall : ∀ name ∈ names, ∀ entry ∈ Unicode.upperSequences,
      ¬entry.2.map Char.ofNat <:+: name.1.toList := by decide +kernel
  exact hall _ h

/-- The names of the levels have capital letters only. -/
theorem isUpper_of_mem_names {name : String} (h : (name, level) ∈ names) :
    ∀ k ∈ name.toList, k.isUpper = true := by
  have hall : ∀ name ∈ names, name.1.toList.all Char.isUpper = true := by decide +kernel
  exact List.all_eq_true.1 (hall _ h)

/-- What stands for a capital letter is a character, and no stray byte. -/
theorem IsCased.exists_char {s : Symbol} (h : IsCased s k) : ∃ c, s = .char c := by
  cases h with
  | upper => exact ⟨k, rfl⟩
  | lower => exact ⟨k.toLower, rfl⟩
  | dotless => exact ⟨'ı', rfl⟩
  | long => exact ⟨'ſ', rfl⟩

/-- The upper case of a text is that of its first character in front of that of the rest. -/
theorem upperCase_char_cons (c : Char) (later : Text) :
    Settings.upperCase (.char c :: later) =
      (Unicode.upper c).map .char ++ Settings.upperCase later := rfl

/-- **A text is in upper case what it spells letter by letter** if no sequence stands in that. -/
theorem upperCase_eq_iff {text : Text} {letters : List Char}
    (hupper : ∀ k ∈ letters, k.isUpper = true)
    (hsequences : ∀ entry ∈ Unicode.upperSequences, ¬entry.2.map Char.ofNat <:+: letters) :
    Settings.upperCase text = letters.map .char ↔ List.Forall₂ IsCased text letters := by
  constructor
  · intro h
    induction text generalizing letters with
    | nil =>
      obtain rfl : letters = [] := by simpa [Settings.upperCase] using h.symm
      exact .nil
    | cons s later ih =>
      rcases s with c | b
      · rw [upperCase_char_cons] at h
        obtain ⟨first, rest, rfl, hfirst, hrest⟩ := List.map_eq_append_iff.1 h.symm
        obtain rfl := List.map_injective_iff.2 (fun _ _ => Symbol.char.inj) hfirst
        rcases hlookup : Unicode.upperSequences.lookup c.toNat with _ | sequence
        · obtain ⟨k, hk⟩ : ∃ k, Unicode.upper c = [k] := by
            rcases upper_of_lookup_eq_none hlookup with hself | ⟨_, _, _, _, _, _, _, hrun⟩
            · exact ⟨c, hself⟩
            · exact ⟨_, hrun⟩
          rw [hk] at hupper hsequences ⊢
          obtain ⟨hletter, hupper⟩ := List.forall_mem_cons.1 hupper
          exact .cons (isCased_of_upper hletter hk hlookup) (ih hupper
            (fun entry hentry hinfix => hsequences entry hentry (List.infix_cons hinfix))
            hrest.symm)
        · -- The sequence of such a letter would stand at the beginning of what is spelled.
          have hsequence : Unicode.upper c = sequence.map Char.ofNat := by
            rw [Unicode.upper, hlookup]
          obtain ⟨before, after, hsplit, -⟩ := List.lookup_eq_some_iff.1 hlookup
          exact absurd ⟨[], rest, by rw [hsequence]; rfl⟩
            (hsequences (c.toNat, sequence) (hsplit ▸ by simp))
      · -- A stray byte stays what it is.
        rcases letters with _ | ⟨k, letters⟩ <;> cases h
  · intro h
    induction h with
    | nil => rfl
    | @cons s k later letters hs _ ih =>
      obtain ⟨hletter, hupper⟩ := List.forall_mem_cons.1 hupper
      obtain ⟨c, rfl⟩ := hs.exists_char
      rw [upperCase_char_cons, upper_of_isCased hletter hs, ih hupper
        fun entry hentry hinfix => hsequences entry hentry (List.infix_cons hinfix)]
      rfl

/-- **A name is spelled letter by letter,** each letter in upper case or in lower case, or as one of
the two letters beside those of ASCII. -/
theorem upperCase_eq_lit_iff {name : String} (h : (name, level) ∈ names) (text : Text) :
    Settings.upperCase text = lit name ↔ List.Forall₂ IsCased text name.toList :=
  upperCase_eq_iff (isUpper_of_mem_names h) (not_infix_of_mem_names h)

end Level

/-! ## Levels that are asked for -/

/-- **A level is read from its names,** and from nothing else. -/
theorem Settings.readLevel_eq_ok_iff {value : Text} {level : Int} :
    readLevel (some value) = .ok level ↔
      ∃ name, (name, level) ∈ Level.names ∧ upperCase value = lit name := by
  have hname : ∀ name : String, upperCase value = lit name ↔
      (upperCase value).chars? = some name.toList := fun name => Text.chars?_eq_some_iff.symm
  simp only [readLevel, hname, ← Level.ofName?_eq_some_iff]
  constructor
  · intro h
    split at h
    · rename_i level' hread
      obtain ⟨letters, hletters, hlevel⟩ := Option.bind_eq_some_iff.1 hread
      obtain rfl := Except.ok.inj h
      exact ⟨String.ofList letters, hlevel, by rw [hletters, String.toList_ofList]⟩
    · cases h
  · rintro ⟨name, hlevel, hletters⟩
    rw [hletters, Option.bind_some, String.ofList_toList, hlevel]

end Launcher
