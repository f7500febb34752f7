import Launcher.Text.Pieces

/-!
# Lists cut at separators

The pieces of a list hold no separator, and the list is its pieces with a separator behind each but
the last. Its beginnings end before a separator, and the last of them is the list.

## Main definitions

* `Launcher.cuts` — the beginnings before separators, by the indices of these.

## Main results

* `Launcher.pieces_append_cons` — a separator ends the pieces before it.
* `Launcher.pieces_flatMap_append` — pieces that are written down with separators are found again.
* `Launcher.exists_append_of_mem_beginnings` and `Launcher.beginnings_eq_cuts` — what the beginnings
  of a list are.
* `Launcher.flatMap_pieces`, `Launcher.not_mem_of_mem_pieces`, `Launcher.length_pieces` — what the
  pieces of any list are.
-/

namespace Launcher

variable {α : Type} [DecidableEq α] {sep : α}

/-! ## Cutting off one piece -/

/-- A list is free of the separator, or it is so up to the first one. -/
@[elab_as_elim]
theorem sep_induction {P : List α → Prop} (sep : α) (free : ∀ p, sep ∉ p → P p)
    (cut : ∀ p l, sep ∉ p → P l → P (p ++ sep :: l)) (l : List α) : P l :=
  if h : sep ∈ l then by
    obtain ⟨p, rest, hl, hp⟩ := List.eq_append_cons_of_mem h
    have hlength : rest.length < l.length := by
      rw [hl, List.length_append, List.length_cons]
      omega
    rw [hl]
    exact cut p rest hp (sep_induction sep free cut rest)
  else free l h
termination_by l.length

/-- Elements that are no separators go into the current piece. -/
theorem pieces_go_append (done : List (List α)) (l : List α) :
    ∀ {p : List α} (piece : List α), sep ∉ p →
      pieces.go sep done piece (p ++ l) = pieces.go sep done (p.reverse ++ piece) l
  | [], _, _ => rfl
  | a :: p, piece, h => by
    have ha : a ≠ sep := fun e => h (e ▸ List.mem_cons_self)
    have hp : sep ∉ p := fun hm => h (List.mem_cons_of_mem a hm)
    rw [List.cons_append, pieces.go, if_neg ha, pieces_go_append done l (a :: piece) hp]
    simp

/-- The pieces found before stand in front. -/
theorem pieces_go_done (done : List (List α)) (l : List α) :
    ∀ piece, pieces.go sep done piece l = done.reverse ++ pieces.go sep [] piece l := by
  induction l generalizing done with
  | nil => intro piece; simp [pieces.go]
  | cons a l ih =>
    intro piece
    simp only [pieces.go]
    split
    · rw [ih (piece.reverse :: done), ih [piece.reverse]]
      simp
    · exact ih done (a :: piece)

/-- A list without separators is one piece. -/
theorem pieces_of_not_mem {p : List α} (h : sep ∉ p) : pieces sep p = [p] := by
  have hgo := pieces_go_append [] [] [] h
  rw [List.append_nil] at hgo
  rw [pieces, hgo, pieces.go]
  simp

/-- The first separator ends the first piece. -/
theorem pieces_append_cons_of_not_mem {p : List α} (l : List α) (h : sep ∉ p) :
    pieces sep (p ++ sep :: l) = p :: pieces sep l := by
  rw [pieces, pieces_go_append [] _ [] h, pieces.go, if_pos rfl, pieces_go_done]
  simp [pieces]

/-! ## All pieces -/

/-- **A separator ends the pieces before it.** -/
theorem pieces_append_cons (l₁ l₂ : List α) :
    pieces sep (l₁ ++ sep :: l₂) = pieces sep l₁ ++ pieces sep l₂ := by
  induction l₁ using sep_induction sep with
  | free p hp =>
    rw [pieces_append_cons_of_not_mem l₂ hp, pieces_of_not_mem hp, List.singleton_append]
  | cut p l hp ih =>
    rw [List.append_assoc, List.cons_append, pieces_append_cons_of_not_mem _ hp,
      pieces_append_cons_of_not_mem _ hp, ih, List.cons_append]

/-- No piece holds a separator. -/
theorem not_mem_of_mem_pieces {l p : List α} (h : p ∈ pieces sep l) : sep ∉ p := by
  induction l using sep_induction sep with
  | free q hq =>
    rw [pieces_of_not_mem hq, List.mem_singleton] at h
    exact h ▸ hq
  | cut q l hq ih =>
    rw [pieces_append_cons_of_not_mem l hq, List.mem_cons] at h
    rcases h with rfl | h
    · exact hq
    · exact ih h

/-- There is one piece more than there are separators. -/
theorem length_pieces (l : List α) : (pieces sep l).length = l.count sep + 1 := by
  induction l using sep_induction sep with
  | free p hp => rw [pieces_of_not_mem hp, List.count_eq_zero_of_not_mem hp, List.length_singleton]
  | cut p l hp ih =>
    rw [pieces_append_cons_of_not_mem l hp, List.length_cons, ih, List.count_append,
      List.count_eq_zero_of_not_mem hp, List.count_cons_self]
    omega

/-- The pieces of a list, each with a separator behind it, are the list and one separator more. -/
theorem flatMap_pieces (l : List α) : (pieces sep l).flatMap (· ++ [sep]) = l ++ [sep] := by
  induction l using sep_induction sep with
  | free p hp => rw [pieces_of_not_mem hp, List.flatMap_singleton]
  | cut p l hp ih => rw [pieces_append_cons_of_not_mem l hp, List.flatMap_cons, ih]; simp

/-- **Pieces that are written down with a separator behind each are found again**, in front of those
of what follows. -/
theorem pieces_flatMap_append {ps : List (List α)} (h : ∀ p ∈ ps, sep ∉ p) (l : List α) :
    pieces sep (ps.flatMap (· ++ [sep]) ++ l) = ps ++ pieces sep l := by
  induction ps with
  | nil => rfl
  | cons p ps ih =>
    obtain ⟨hp, hps⟩ := List.forall_mem_cons.1 h
    rw [List.flatMap_cons, List.append_assoc, List.append_assoc, List.singleton_append,
      pieces_append_cons_of_not_mem _ hp, ih hps, List.cons_append]

/-! ## Beginnings -/

/-- Elements that are no separators end no beginning. -/
theorem beginnings_go_append (l : List α) :
    ∀ {p : List α} (passed : List α), sep ∉ p →
      beginnings.go sep passed (p ++ l) = beginnings.go sep (p.reverse ++ passed) l
  | [], _, _ => rfl
  | a :: p, passed, h => by
    have ha : a ≠ sep := fun e => h (e ▸ List.mem_cons_self)
    have hp : sep ∉ p := fun hm => h (List.mem_cons_of_mem a hm)
    rw [List.cons_append, beginnings.go, if_neg ha, beginnings_go_append l (a :: passed) hp]
    simp

/-- What the beginnings of a list go on with: one more separator, or nothing. -/
theorem exists_append_of_mem_beginnings_go {passed p : List α} {l : List α}
    (h : p ∈ beginnings.go sep passed l) :
    ∃ front rest, p = passed.reverse ++ front ∧ l = front ++ rest ∧
      (rest = [] ∨ rest.head? = some sep) := by
  induction l generalizing passed with
  | nil =>
    obtain rfl := List.mem_singleton.1 h
    exact ⟨[], [], by simp, rfl, Or.inl rfl⟩
  | cons a l ih =>
    have hlater : p ∈ beginnings.go sep (a :: passed) l →
        ∃ front rest, p = passed.reverse ++ front ∧ a :: l = front ++ rest ∧
          (rest = [] ∨ rest.head? = some sep) := by
      intro hmem
      obtain ⟨front, rest, hp, hl, hrest⟩ := ih hmem
      exact ⟨a :: front, rest, by simpa using hp, by rw [hl, List.cons_append], hrest⟩
    rw [beginnings.go] at h
    split at h
    · rename_i ha
      rcases List.mem_cons.1 h with hp | hmem
      · exact ⟨[], a :: l, by simpa using hp, rfl, Or.inr (congrArg some ha)⟩
      · exact hlater hmem
    · exact hlater h

/-- **A beginning of a list ends where a separator follows, or with the list,** and is as little
empty as the list. -/
theorem exists_append_of_mem_beginnings {p l : List α} (h : p ∈ beginnings sep l) :
    p.head? = l.head? ∧ ∃ rest, l = p ++ rest ∧ (rest = [] ∨ rest.head? = some sep) := by
  cases l with
  | nil =>
    obtain rfl := List.mem_singleton.1 h
    exact ⟨rfl, [], rfl, Or.inl rfl⟩
  | cons a l =>
    obtain ⟨front, rest, rfl, rfl, hrest⟩ := exists_append_of_mem_beginnings_go h
    exact ⟨rfl, rest, rfl, hrest⟩

/-- The last beginning of a list is the list. -/
theorem exists_beginnings_eq_append (sep : α) (l : List α) :
    ∃ shorter, beginnings sep l = shorter ++ [l] := by
  have hgo : ∀ (l passed : List α), ∃ shorter,
      beginnings.go sep passed l = shorter ++ [passed.reverse ++ l] := by
    intro l
    induction l with
    | nil => exact fun passed => ⟨[], by simp [beginnings.go]⟩
    | cons a l ih =>
      intro passed
      obtain ⟨shorter, hshorter⟩ := ih (a :: passed)
      rw [beginnings.go, hshorter]
      split
      · exact ⟨passed.reverse :: shorter, by simp⟩
      · exact ⟨shorter, by simp⟩
  cases l with
  | nil => exact ⟨[], rfl⟩
  | cons a l => exact hgo l [a]

/-- The beginnings of `l` that end just before a separator at an index from one on, shortest
first. -/
def cuts (sep : α) (l : List α) : List (List α) :=
  ((List.range l.length).filter fun i => 0 < i ∧ l[i]? = some sep).map l.take

/-- Read on after some elements, a list is cut at the indices of its separators. -/
theorem beginnings_go_eq_map_take (passed l : List α) :
    beginnings.go sep passed l =
      ((List.range l.length).filter fun i => l[i]? = some sep).map (passed.reverse ++ l.take ·) ++
        [passed.reverse ++ l] := by
  induction l generalizing passed with
  | nil => simp [beginnings.go]
  | cons a l ih =>
    have hlater : ((List.range (a :: l).length).filter fun i => (a :: l)[i]? = some sep) =
        (if a = sep then [0] else []) ++
          ((List.range l.length).filter fun i => l[i]? = some sep).map Nat.succ := by
      rw [List.length_cons, List.range_succ_eq_map, List.filter_cons, List.filter_map]
      by_cases ha : a = sep
      · simp [ha, Function.comp_def]
      · simp [ha, Function.comp_def]
    rw [beginnings.go, ih, hlater]
    by_cases ha : a = sep
    · simp [ha, Function.comp_def]
    · simp [ha, Function.comp_def]

/-- **The beginnings of a list are its cuts and the list.** -/
theorem beginnings_eq_cuts (sep : α) (l : List α) : beginnings sep l = cuts sep l ++ [l] := by
  cases l with
  | nil => rfl
  | cons a l =>
    have hlater : ((List.range (a :: l).length).filter fun i => 0 < i ∧ (a :: l)[i]? = some sep) =
        ((List.range l.length).filter fun i => l[i]? = some sep).map Nat.succ := by
      rw [List.length_cons, List.range_succ_eq_map, List.filter_cons, List.filter_map]
      simp [Function.comp_def]
    rw [beginnings, beginnings_go_eq_map_take, cuts, hlater, List.map_map]
    simp [Function.comp_def]

end Launcher
