import Launcher.Proofs.WholeFile.Reading

/-!
# Files that cannot be read, or not be closed

A file that cannot be opened, or of which a read fails, is read as nothing: that is a value, and no
failure. It is different for a file that cannot be closed. It has been read by then, or it has not;
either way the failed call is a failure of the reading.

## Main definitions

* `Launcher.WholeFile.Unreadable` — among calls, opening or reading a file has failed.
* `Launcher.WholeFile.Unclosed` — among calls, closing a file has failed.
* `Launcher.WholeFile.ComesTo` — what comes of reading a file, by the calls that it makes.

## Main results

* `Launcher.WholeFile.ReadsOn.toOption_eq_none_iff` — nothing is read if a read has failed.
* `Launcher.WholeFile.exists_comesTo` — reading comes to a value unless the file is not closed.
-/

namespace Launcher.WholeFile

open Launcher.Action

variable {strikes : Nat → Option Strike} {k : Nat} {reader : Reader} {answers : List Answer}
  {read : Except OsError Bytes} {calls : List (Call × Answer)} {path : Path} {w : World}

/-- What is read is no error if no read has failed. -/
theorem ReadsOn.exists_error_mem (h : ReadsOn strikes k reader answers read) {e' : OsError}
    (hread : read = .error e') : ∃ e, e ≠ .interrupted ∧ .error e ∈ answers := by
  induction h generalizing e' with
  | interrupted hstrike rest ih =>
    obtain ⟨e, hne, hmem⟩ := ih hread
    exact ⟨e, hne, List.mem_cons_of_mem _ hmem⟩
  | failed hstrike hne => exact ⟨_, hne, List.mem_cons_self⟩
  | directory hmost => exact ⟨.isDirectory, by decide, List.mem_cons_self⟩
  | ended hmost hnone => cases hread
  | @chunk k n unread answers read hmost hsome rest ih =>
    rcases read with e | content
    · obtain ⟨e, hne, hmem⟩ := ih rfl
      exact ⟨e, hne, List.mem_cons_of_mem _ hmem⟩
    · cases hread

/-- **What is read is nothing if a read has failed,** for any reason but an interruption, and only
then. -/
theorem ReadsOn.toOption_eq_none_iff (h : ReadsOn strikes k reader answers read) :
    read.toOption = none ↔ ∃ e, e ≠ .interrupted ∧ .error e ∈ answers := by
  constructor
  · intro hnone
    rcases read with e | content
    · exact h.exists_error_mem rfl
    · cases hnone
  · rintro ⟨e, hne, hmem⟩
    obtain ⟨e', rfl⟩ := h.exists_eq_error hmem hne
    rfl

/-! ## What the calls come to -/

/-- Among the calls, a file could not be opened, or a read of it has failed for any reason but an
interruption. -/
def Unreadable (calls : List (Call × Answer)) : Prop :=
  (∃ path e, (.openToRead path, .error e) ∈ calls) ∨
    ∃ size e, e ≠ .interrupted ∧ (.read size, .error e) ∈ calls

/-- Among the calls, a file could not be closed. -/
def Unclosed (calls : List (Call × Answer)) : Prop := ∃ e, (.close, .error e) ∈ calls

/-- **What comes of reading a file,** by the calls that it makes. Unless the file could not be
closed it is a value: nothing if the file could not be opened or read, and else a content. A file
that could not be closed makes the reading fail, whatever has been read. -/
structure ComesTo (calls : List (Call × Answer)) (result : Except Stop (Option Bytes)) : Prop where
  value : ¬Unclosed calls → ∃ content?, result = .ok content? ∧ (content? = none ↔ Unreadable calls)
  unclosed : Unclosed calls → ∃ e, result = .error (.failed (.system e))

/-- A file that could not be opened. -/
theorem comesTo_of_not_opened (path : Path) (e : Errno) :
    ComesTo [(.openToRead path, .error e)] (.ok none) where
  value _ := ⟨none, rfl, by simp [Unreadable]⟩
  unclosed := by simp [Unclosed]

/-- A file that has been opened is unreadable if a read has failed. -/
theorem unreadable_opened_iff {closed : Answer} :
    Unreadable ((.openToRead path, .ok) ::
        (answers.map (Call.read chunkSize, ·) ++ [(.close, closed)])) ↔
      ∃ e, e ≠ .interrupted ∧ .error e ∈ answers := by
  constructor
  · rintro (⟨path, e, hmem⟩ | ⟨size, e, hne, hmem⟩)
    · simp at hmem
    · simp only [List.mem_cons, List.mem_append, List.mem_map] at hmem
      obtain hopened | ⟨answer, hanswer, hread⟩ | hclose | hnone := hmem
      · cases hopened
      · obtain ⟨-, rfl⟩ := Prod.ext_iff.1 hread
        exact ⟨e, hne, hanswer⟩
      · cases hclose
      · cases hnone
  · rintro ⟨e, hne, hmem⟩
    have hread := List.mem_map_of_mem (f := (Call.read chunkSize, ·)) hmem
    exact Or.inr ⟨chunkSize, e, hne, List.mem_cons_of_mem _ (List.mem_append_left _ hread)⟩

/-- A file that has been opened, read and closed, or not closed. -/
theorem comesTo_of_opened (path : Path) (hreads : ReadsOn strikes k reader answers read)
    {closed : Answer} {result : Except Stop (Option Bytes)}
    (hclosed : ClosedAs read.toOption closed result) :
    ComesTo ((.openToRead path, .ok) ::
      (answers.map (Call.read chunkSize, ·) ++ [(.close, closed)])) result := by
  cases hclosed with
  | closed =>
    constructor
    case value =>
      intro _
      exact ⟨read.toOption, rfl, hreads.toOption_eq_none_iff.trans unreadable_opened_iff.symm⟩
    case unclosed => simp [Unclosed]
  | notClosed e =>
    constructor
    case value =>
      intro hnot
      exact absurd ⟨e, by simp⟩ hnot
    case unclosed => exact fun _ => ⟨_, rfl⟩

/-- **Reading a file comes to a value unless the file cannot be closed,** whatever faults are
planned, if interruptions do not go on for ever. -/
theorem exists_comesTo (hzero : 0 ∉ path.toBytes)
    (hceases : Fault.Ceases w.faults (.read chunkSize) (.fail .interrupted)) :
    ∃ result w' calls, exec (read? path) w = (result, w') ∧ w.Makes calls w' ∧
      ComesTo calls result := by
  rw [read?_eq]
  rcases exec_openToRead_cases path w with
    ⟨failure, hopen⟩ | ⟨e, hopen⟩ | ⟨reader, -, -, hopen⟩
  · obtain ⟨_, _, hreturns⟩ := returns_openToRead hzero w
    cases hopen.symm.trans hreturns
  · obtain ⟨log, hlog⟩ := exists_exec_log Level.debug
      (lit "Cannot open " ++ path.quoted ++ lit ": " ++ (OsError.of e (some path)).render)
      (w.afterCall (.openToRead path) (.error e))
    exact ⟨.ok none, _, [(.openToRead path, .error e)],
      (exec_bind_of_ok hopen).trans (exec_bind_of_ok hlog), rfl, comesTo_of_not_opened path e⟩
  · obtain ⟨answers, read, hreads⟩ := exists_readsOn _ reader hceases (Nat.lt_succ_self _)
    obtain ⟨closed, result, w', hread, hmakes, hclosed⟩ :=
      exists_exec_readOpened (w := w.afterCall (.openToRead path) .ok) path hreads
    exact ⟨result, w', _, (exec_bind_of_ok hopen).trans hread,
      (World.makes_afterCall rfl _ w).trans hmakes, comesTo_of_opened path hreads hclosed⟩

end Launcher.WholeFile
