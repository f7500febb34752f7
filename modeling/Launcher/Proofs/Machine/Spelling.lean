import Mathlib.Data.List.Basic
import Launcher.Machine.Path
import Launcher.Proofs.Text.Decoding
import Launcher.Proofs.Text.Pieces

/-!
# Texts and bytes as paths

A text and its bytes are the same path for the system, and what is done to their spelling is the
same: the byte of a slash is part of no other symbol, so a text is cut where its bytes are.

## Main results

* `Launcher.beginnings_encode` — the beginnings of the bytes are the bytes of the beginnings.
* `Launcher.Path.map_toBytes_chain` — the same for the directories on the way to a path.
* `Launcher.isSettled_encode` and `Launcher.behind_encode` — the same for absolute paths.
* `Launcher.Text.eq_of_encode_eq` — two beginnings of a text are told apart by their bytes.
-/

namespace Launcher

/-! ## The separator -/

/-- **The byte of a slash is part of no other symbol.** -/
theorem slashByte_mem_encode_iff (a : Symbol) : slashByte ∈ a.encode ↔ a = slash :=
  Symbol.ascii_mem_encode_iff (c := '/') (by decide) a

/-- A symbol begins with the byte of a slash only if it is the slash. -/
theorem head?_encode_eq_slashByte_iff (a : Symbol) :
    a.encode.head? = some slashByte ↔ a = slash := by
  constructor
  · exact fun h => (slashByte_mem_encode_iff a).1 (List.mem_of_mem_head? h)
  · rintro rfl
    rfl

/-- A symbol ends in the byte of a slash only if it is the slash. -/
theorem getLast?_encode_eq_slashByte_iff (a : Symbol) :
    a.encode.getLast? = some slashByte ↔ a = slash := by
  constructor
  · exact fun h => (slashByte_mem_encode_iff a).1 (List.mem_of_getLast? h)
  · rintro rfl
    rfl

/-! ## Absolute paths -/

/-- A text needs a directory in front if its bytes do. -/
theorem isSettled_encode (t : Text) : isSettled slashByte t.encode = isSettled slash t := by
  cases t with
  | nil => rfl
  | cons a t =>
    have hhead : (Text.encode (a :: t)).head? = a.encode.head? := by
      rw [Text.encode_cons]
      exact List.head?_append_of_ne_nil _ a.encode_ne_nil
    have hempty : (Text.encode (a :: t)).isEmpty = false := by
      simp [a.encode_ne_nil]
    rw [isSettled, isSettled, hempty, hhead, Bool.eq_iff_iff]
    simp [head?_encode_eq_slashByte_iff]

/-- The bytes of a text end in the byte of a slash if the text ends in a slash. -/
theorem getLast?_encode_eq_iff (t : Text) :
    t.encode.getLast? = some slashByte ↔ t.getLast? = some slash := by
  rcases List.eq_nil_or_concat t with rfl | ⟨front, a, rfl⟩
  · simp
  · have hlast : (Text.encode (front ++ [a])).getLast? = a.encode.getLast? := by
      rw [Text.encode_append, Text.encode_cons, Text.encode_nil, List.append_nil]
      exact List.getLast?_append_of_ne_nil _ a.encode_ne_nil
    rw [List.concat_eq_append, hlast, getLast?_encode_eq_slashByte_iff, List.getLast?_concat,
      Option.some.injEq]

/-- A path behind a directory has the bytes of both. -/
theorem behind_encode (directory t : Text) :
    Text.encode (behind slash directory t) = behind slashByte directory.encode t.encode := by
  have hslash : Text.encode [slash] = [slashByte] := rfl
  unfold behind
  rw [Text.encode_append, Text.encode_append]
  by_cases h : directory.getLast? = some slash
  · rw [if_pos h, if_pos ((getLast?_encode_eq_iff directory).2 h), Text.encode_nil]
  · rw [if_neg h, if_neg fun hbytes => h ((getLast?_encode_eq_iff directory).1 hbytes), hslash]

/-! ## Beginnings -/

/-- Two beginnings of a text are the same if their bytes are. -/
theorem Text.eq_of_encode_eq {p q t : Text} (hp : p <+: t) (hq : q <+: t)
    (h : p.encode = q.encode) : p = q := by
  have hextend : ∀ {p q : Text}, p <+: q → p.encode = q.encode → p = q := by
    rintro p _ ⟨rest, rfl⟩ h
    rw [Text.encode_append, List.self_eq_append_right] at h
    cases rest with
    | nil => exact (List.append_nil p).symm
    | cons a rest =>
      rw [Text.encode_cons] at h
      exact absurd (List.append_eq_nil_iff.1 h).1 a.encode_ne_nil
  rcases List.prefix_or_prefix_of_prefix hp hq with hpq | hqp
  · exact hextend hpq h
  · exact (hextend hqp h.symm).symm

/-- Reading on in the bytes of a text goes the way of reading on in the text. -/
theorem beginnings_go_encode (t passed : Text) :
    beginnings.go slashByte (Text.encode passed.reverse).reverse t.encode =
      (beginnings.go slash passed t).map Text.encode := by
  induction t generalizing passed with
  | nil => simp [beginnings.go]
  | cons a t ih =>
    have hpassed : a.encode.reverse ++ (Text.encode passed.reverse).reverse =
        (Text.encode (a :: passed).reverse).reverse := by
      simp
    rw [Text.encode_cons, beginnings.go]
    by_cases ha : a = slash
    · subst ha
      have hbyte : slash.encode = [slashByte] := rfl
      rw [if_pos rfl, List.map_cons, ← ih, ← hpassed, hbyte, List.singleton_append, beginnings.go,
        if_pos rfl, List.reverse_reverse]
      rfl
    · rw [if_neg ha, ← ih, ← hpassed]
      exact beginnings_go_append _ _ fun hmem => ha ((slashByte_mem_encode_iff a).1 hmem)

/-- **The beginnings of the bytes of a text are the bytes of its beginnings.** -/
theorem beginnings_encode (t : Text) :
    beginnings slashByte t.encode = (beginnings slash t).map Text.encode := by
  cases t with
  | nil => rfl
  | cons a t =>
    obtain ⟨lead, later, hbytes⟩ := List.exists_cons_of_ne_nil a.encode_ne_nil
    have hlater : slashByte ∉ later := by
      intro hmem
      obtain rfl := (slashByte_mem_encode_iff a).1 (hbytes ▸ List.mem_cons_of_mem _ hmem)
      cases hbytes
      cases hmem
    have hpassed : later.reverse ++ [lead] = (Text.encode [a]).reverse := by
      rw [Text.encode_cons, Text.encode_nil, List.append_nil, hbytes, List.reverse_cons]
    rw [Text.encode_cons, hbytes, List.cons_append, beginnings, beginnings_go_append _ _ hlater,
      hpassed]
    exact beginnings_go_encode t [a]

namespace Path

variable {path start : Path}

/-- **The bytes of the directories on the way to a path are the beginnings of its bytes.** -/
theorem map_toBytes_chain (path : Path) :
    path.chain.map toBytes = beginnings slashByte path.toBytes := by
  cases path with
  | text t =>
    show ((beginnings slash t).map text).map toBytes = beginnings slashByte t.encode
    rw [beginnings_encode, List.map_map]
    rfl
  | bytes b =>
    show ((beginnings slashByte b).map bytes).map toBytes = beginnings slashByte b
    rw [List.map_map]
    exact List.map_id _

/-- A directory on the way to a path is spelled by a beginning of its bytes. -/
theorem toBytes_mem_beginnings (h : start ∈ path.chain) :
    start.toBytes ∈ beginnings slashByte path.toBytes :=
  map_toBytes_chain path ▸ List.mem_map_of_mem h

end Path

end Launcher
